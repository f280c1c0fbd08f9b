import AppLifecycle.Proofs.History

/-! When a backup of the context is held. The backup belongs to the keeper, the phase to the
lifecycle; what ties them is the queue at the latest return to the foreground, since a
request to quit that waits there keeps the backup from being used up. -/
namespace AppLifecycle

variable {γ σ α τ : Type}

/-- The latest return to the foreground found a request to quit in the queue. -/
def QuitAtReturn (queue : EventQueue) (trace : List Entry) : Prop :=
  ∃ past later, trace = past ++ .milestone .ended :: later ∧ .milestone .ended ∉ later ∧
    (queue.after past).has .quit = true

/-- Where an entry stands for the last time is unique. -/
private theorem last_entry_unique {entry : Entry} {past later before after : List Entry}
    (same : past ++ entry :: later = before ++ entry :: after) (last : entry ∉ later)
    (final : entry ∉ after) : past = before := by
  rcases List.append_eq_append_iff.mp same with ⟨rest, rfl, later_eq⟩ | ⟨rest, rfl, after_eq⟩
  · cases rest with
    | nil => simp
    | cons first rest =>
      obtain ⟨-, rfl⟩ := List.cons.inj later_eq
      simp at last
  · cases rest with
    | nil => simp
    | cons first rest =>
      obtain ⟨-, rfl⟩ := List.cons.inj after_eq
      simp at final

/-- An entry that does not stand in the second part of a list stands in the first. -/
theorem split_of_append {entry : Entry} {first second past later : List Entry}
    (split : first ++ second = past ++ entry :: later) (absent : entry ∉ second) :
    ∃ rest, first = past ++ entry :: rest ∧ later = rest ++ second := by
  rcases List.append_eq_append_iff.mp split with ⟨rest, rfl, rfl⟩ | ⟨rest, rfl, rest_eq⟩
  · simp at absent
  · cases rest with
    | nil =>
      obtain rfl : entry :: later = second := rest_eq
      simp at absent
    | cons first rest =>
      obtain ⟨rfl, rfl⟩ := List.cons.inj rest_eq
      exact ⟨rest, rfl, rfl⟩

namespace QuitAtReturn

variable {queue : EventQueue} {past later entries : List Entry}

/-- At a return, what counts is the queue right there. -/
theorem at_return (last : .milestone .ended ∉ later) :
    QuitAtReturn queue (past ++ .milestone .ended :: later) ↔
      (queue.after past).has .quit = true := by
  constructor
  · rintro ⟨before, after, same, final, queued⟩
    rwa [last_entry_unique same last final]
  · exact fun queued => ⟨past, later, rfl, last, queued⟩

/-- Between returns nothing changes. -/
theorem between (silent : .milestone .ended ∉ entries) :
    QuitAtReturn queue (past ++ entries) ↔ QuitAtReturn queue past := by
  constructor
  · rintro ⟨before, after, same, final, queued⟩
    obtain ⟨rest, rfl, rfl⟩ := split_of_append same silent
    exact ⟨before, rest, rfl, fun member => final (List.mem_append_left _ member), queued⟩
  · rintro ⟨before, after, rfl, final, queued⟩
    refine ⟨before, after ++ entries, by simp, ?_, queued⟩
    simpa using ⟨final, silent⟩

theorem of_turns {trace : List Entry} :
    QuitAtReturn queue (trace.filter Entry.isTurn) ↔ QuitAtReturn queue trace := by
  constructor
  · rintro ⟨past, later, split, last, queued⟩
    obtain ⟨before, rest, rfl, rfl, rest_eq⟩ := List.filter_eq_append_iff.mp split
    obtain ⟨silent, after, rfl, quiet, -, rfl⟩ := List.filter_eq_cons_iff.mp rest_eq
    refine ⟨before ++ silent, after, by simp, fun member => last ?_, ?_⟩
    · exact List.mem_filter.mpr ⟨member, rfl⟩
    · rw [EventQueue.after_turns] at queued
      rw [EventQueue.after_append, ← EventQueue.after_turns _ silent,
        List.filter_eq_nil_iff.mpr quiet]
      exact queued
  · rintro ⟨past, later, rfl, last, queued⟩
    refine ⟨past.filter Entry.isTurn, later.filter Entry.isTurn, ?_, ?_, ?_⟩
    · simp [List.filter_cons, Entry.isTurn]
    · exact fun member => last (List.mem_filter.mp member).1
    · rwa [EventQueue.after_turns]

end QuitAtReturn

/-- The backup, the phase and the returns agree. -/
structure Kept (queue : EventQueue) (trace : List Entry) (now : Standing) : Prop where
  own : now.external = false
  queued : now.events = queue.after trace
  paused_of_due : now.due = true → now.phase = .paused
  held_iff : now.held = true ↔
    (now.phase = .paused ∧ now.due = false) ∨ QuitAtReturn queue trace

namespace Kept

variable {queue : EventQueue} {past entries : List Entry} {now next : Standing}

/-- Signals and events alone change nothing about it. -/
theorem idle (kept : Kept queue past now) {signals : HostSignals} {events : EventQueue}
    (queued : events = queue.after (past ++ entries)) (silent : .milestone .ended ∉ entries) :
    Kept queue (past ++ entries) { now with signals := signals, events := events } :=
  ⟨kept.own, queued, kept.paused_of_due,
    kept.held_iff.trans (or_congr_right (QuitAtReturn.between silent).symm)⟩

theorem announce (kept : Kept queue past now) (running : now.phase = .running)
    (queued : now.announce.events = queue.after (past ++ announcing)) :
    Kept queue (past ++ announcing) now.announce := by
  have settled : now.due = false := by
    cases due : now.due with
    | false => rfl
    | true =>
      have paused := kept.paused_of_due due
      rw [running] at paused
      cases paused
  refine ⟨kept.own, queued, ?_, ?_⟩
  · simp [Standing.announce, settled]
  · rw [QuitAtReturn.between (by simp [announcing, Event.backgroundGroup])]
    simpa [Standing.announce, running] using kept.held_iff

theorem commit (kept : Kept queue past now) (pausing : now.phase = .pausing)
    (queued : now.commit.events = queue.after (past ++ [.milestone .committed])) :
    Kept queue (past ++ [.milestone .committed]) now.commit := by
  refine ⟨kept.own, queued, fun _ => rfl, ?_⟩
  rw [QuitAtReturn.between (by simp)]
  simpa [Standing.commit, pausing] using kept.held_iff

theorem carryOut (kept : Kept queue past now) (paused : now.phase = .paused)
    (queued : now.carryOut.events = queue.after (past ++ [.milestone .carriedOut])) :
    Kept queue (past ++ [.milestone .carriedOut]) now.carryOut :=
  ⟨kept.own, queued, fun _ => paused, by simp [Standing.carryOut, kept.own, paused]⟩

/-- The backup is there when the pause ends. It stays exactly if the app is about to quit. -/
theorem comeBack (kept : Kept queue past now) (reset : Bool) (paused : now.phase = .paused)
    (settled : now.due = false)
    (queued : (now.comeBack reset).events = queue.after (past ++ endingEntries reset)) :
    Kept queue (past ++ endingEntries reset) (now.comeBack reset) := by
  have held : now.held = true := kept.held_iff.mpr (.inl ⟨paused, settled⟩)
  have there : (queue.after (past ++ [.took .resume])).has .quit = now.events.has .quit := by
    rw [EventQueue.after_append, kept.queued]
    rfl
  have later : .milestone .ended ∉ (endingEntries reset).drop 2 := by
    cases reset <;> simp [endingEntries, Event.foregroundGroup]
  have split : past ++ endingEntries reset =
      past ++ [.took .resume] ++ .milestone .ended :: (endingEntries reset).drop 2 := by
    simp [endingEntries]
  refine ⟨kept.own, queued, by simp [Standing.comeBack, settled], ?_⟩
  rw [split, QuitAtReturn.at_return later, there]
  simp [Standing.comeBack, Standing.restores, held, kept.own]

/-- Every turn keeps the backup, the phase and the returns in agreement. -/
theorem turn {allowed : Move γ σ α τ → Prop} (kept : Kept queue past now)
    (turn : Turn allowed now entries next) : Kept queue (past ++ entries) next := by
  have queued : next.events = queue.after (past ++ entries) := by
    rw [EventQueue.after_append, ← kept.queued]
    exact Turns.events_eq_after (.single turn)
  cases turn with
  | raised kind times ok => exact kept.idle queued (by simp)
  | spent kind ok => exact kept.idle queued (by simp)
  | pushed event times ok some => exact kept.idle queued (by simp)
  | removed event rest oldest => exact kept.idle queued (by simp)
  | announced running raised => exact kept.announce running queued
  | committed pausing few => exact kept.commit pausing queued
  | carriedOut paused due => exact kept.carryOut paused queued
  | ended reset paused settled raised restored => exact kept.comeBack reset paused settled queued

end Kept

variable [Graphics.Layer γ] [Window.Layer σ] [TextInput τ]

/-- A backup is held exactly in the background, once the pause is carried out, and after a
return to the foreground that found a request to quit in the queue. Only in the background
anything is left to be carried out. -/
theorem backup_is_held_exactly_in_background_or_when_quitting (config : Config)
    (keeper : Keeper γ σ) (outputs : List (Audio.Output α)) (audio : α) (textInput : Option τ)
    (run : Run γ σ α τ) (own : config.contextExternal = false)
    (unsaved : keeper.snapshot = {}) :
    let outcome := (Lifecycle.play run).run (Lifecycle.fresh config keeper outputs audio textInput)
    let lifecycle := outcome.state
    (lifecycle.keeper.snapshot.held = true ↔
      (lifecycle.phase = .paused ∧ lifecycle.carryOutDue = false) ∨
        ∃ past later, outcome.trace = past ++ .milestone .ended :: later ∧
          .milestone .ended ∉ later ∧ (keeper.events.after past).has .quit = true) ∧
      (lifecycle.carryOutDue = true → lifecycle.phase = .paused) := by
  intro outcome lifecycle
  let start := Lifecycle.fresh config keeper outputs audio textInput
  have before : Kept keeper.events [] start.standing := by
    refine ⟨own, rfl, by simp [start, Lifecycle.standing, Lifecycle.fresh], ?_⟩
    simp [start, Lifecycle.standing, Lifecycle.fresh, unsaved, QuitAtReturn]
  have turns : Turning (fun _ => True) (Lifecycle.play run) start :=
    Lifecycle.play_turns run start fun _ _ => trivial
  have kept := turns.invariant before Kept.turn
  exact ⟨kept.held_iff.trans (or_congr_right QuitAtReturn.of_turns), kept.paused_of_due⟩

/-- The app asks to quit while it is in the background. -/
def Rehearsal.quitInBackground : RehearsedRun where
  steps := [.around (.notify .pause 1), .suspending {}, .around .drain,
    .suspending { whileSuspended := [.push .quit 1] }]

/-- A request to quit leaves a backup behind in the foreground. -/
theorem backup_outlives_quit :
    (Rehearsal.rehearse Rehearsal.quitInBackground).state.phase = .running ∧
      (Rehearsal.rehearse Rehearsal.quitInBackground).state.keeper.snapshot.held = true ∧
      ∃ past later, (Rehearsal.rehearse Rehearsal.quitInBackground).trace =
          past ++ .milestone .ended :: later ∧
        .milestone .ended ∉ later ∧ (Rehearsal.opening.events.after past).has .quit = true := by
  obtain ⟨held_iff, -⟩ := backup_is_held_exactly_in_background_or_when_quitting {}
    Rehearsal.opening [Rehearsal.Scripts.output .plain "speaker" 0] [{}] (some {})
    Rehearsal.quitInBackground rfl rfl
  refine ⟨by decide, by decide, (held_iff.mp (by decide)).resolve_left ?_⟩
  rintro ⟨paused, -⟩
  exact absurd paused (by decide)

end AppLifecycle
