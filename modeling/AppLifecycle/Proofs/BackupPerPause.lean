import AppLifecycle.Proofs.Backup
import AppLifecycle.Proofs.StageDealings

/-! How many backups a run makes. Every pause that is carried out would save the context that
is current there, but a backup that is still held is not replaced; and one is still held
exactly if the latest return to the foreground found a request to quit. -/
namespace AppLifecycle

open Traced

variable {γ σ α τ : Type}

namespace Trace

/-- The context that a call found to be current. -/
def foundCurrent : Graphics.Call → Option (Option Graphics.Context)
  | .currentContext context => some context
  | _ => none

/-- The contexts that were saved, oldest first. -/
def savedContexts (trace : List Entry) : List (Option Graphics.Context) :=
  (graphicsCalls trace).filterMap foundCurrent

@[simp] theorem savedContexts_append (before after : List Entry) :
    savedContexts (before ++ after) = savedContexts before ++ savedContexts after := by
  simp [savedContexts]

/-- Nothing is saved where nothing is asked but the swap interval. -/
theorem savedContexts_of_unasked {trace : List Entry}
    (unasked : ∀ call ∈ graphicsCalls trace, foundCurrent call = none) : savedContexts trace = [] :=
  List.filterMap_eq_nil_iff.mpr unasked

end Trace

open Trace

/-- A pause was carried out at a moment of some kind. -/
def CarriedOutWhere (moment : List Entry → Prop) (trace : List Entry) : Prop :=
  ∃ past later, trace = past ++ .milestone .carriedOut :: later ∧ moment past

namespace CarriedOutWhere

variable {moment : List Entry → Prop} {past entries work : List Entry}

theorem between (absent : .milestone .carriedOut ∉ entries) :
    CarriedOutWhere moment (past ++ entries) ↔ CarriedOutWhere moment past := by
  constructor
  · rintro ⟨before, later, split, held⟩
    obtain ⟨rest, rfl, -⟩ := split_of_append split absent
    exact ⟨before, rest, rfl, held⟩
  · rintro ⟨before, later, rfl, held⟩
    exact ⟨before, later ++ entries, by simp, held⟩

theorem at_carriedOut (absent : .milestone .carriedOut ∉ work) :
    CarriedOutWhere moment (past ++ .milestone .carriedOut :: work) ↔
      CarriedOutWhere moment past ∨ moment past := by
  rw [List.append_cons, between absent]
  constructor
  · rintro ⟨before, later, split, held⟩
    rcases List.eq_nil_or_concat later with rfl | ⟨later, last, rfl⟩
    · obtain rfl := List.append_inj_left' split rfl
      exact .inr held
    · have ending : past ++ [.milestone .carriedOut] =
          (before ++ .milestone .carriedOut :: later) ++ [last] := by simpa using split
      exact .inl ⟨before, later, List.append_inj_left' ending rfl, held⟩
  · rintro (⟨before, later, rfl, held⟩ | held)
    · exact ⟨before, later ++ [.milestone .carriedOut], by simp, held⟩
    · exact ⟨past, [], rfl, held⟩

end CarriedOutWhere

/-- There are at most as many backups as pauses that were carried out, and fewer exactly if one
was carried out with the app about to quit at the latest return. -/
structure Counted (queue : EventQueue) (trace : List Entry) : Prop where
  few : (savedContexts trace).length ≤ (milestones trace).count .carriedOut
  all_iff : (savedContexts trace).length = (milestones trace).count .carriedOut ↔
    ¬ CarriedOutWhere (QuitAtReturn queue) trace

namespace Counted

variable {queue : EventQueue} {past entries work : List Entry}

theorem idle (counted : Counted queue past) (unasked : savedContexts entries = [])
    (silent : .carriedOut ∉ milestones entries) : Counted queue (past ++ entries) := by
  have absent : .milestone .carriedOut ∉ entries := fun member =>
    silent (mem_milestones.mpr member)
  constructor
  · simpa [unasked, List.count_eq_zero.mpr silent] using counted.few
  · rw [CarriedOutWhere.between absent, ← counted.all_iff]
    simp [unasked, List.count_eq_zero.mpr silent]

/-- Another pause is carried out, with a backup unless the app was about to quit. -/
theorem carriedOut (counted : Counted queue past) (still : milestones work = [])
    (saves : (savedContexts work).length = 1 ∧ ¬ QuitAtReturn queue past ∨
      savedContexts work = [] ∧ QuitAtReturn queue past) :
    Counted queue (past ++ .milestone .carriedOut :: work) := by
  have absent : .milestone .carriedOut ∉ work := fun member => by
    simpa [still] using mem_milestones.mpr member
  have one : savedContexts (.milestone .carriedOut :: work) = savedContexts work := rfl
  obtain ⟨few, all_iff⟩ := counted
  rcases saves with ⟨made, staying⟩ | ⟨none, quitting⟩
  · constructor
    · simp [one, made, still, few]
    · rw [CarriedOutWhere.at_carriedOut absent, or_iff_left staying, ← all_iff]
      simp [one, made, still]
  · constructor
    · simp [one, none, still, Nat.le_succ_of_le few]
    · rw [CarriedOutWhere.at_carriedOut absent]
      simp [one, none, still, quitting, Nat.ne_of_lt (Nat.lt_succ_of_le few)]

end Counted

/-- The backup that is held is of the context that was saved last. -/
def SavedLast (trace : List Entry) (now : Bearing) : Prop :=
  now.snapshot.held = true → (savedContexts trace).getLast? = some now.snapshot.context

section Dealing

variable {modes : LoopMode → Prop} {now next : Bearing} {past entries work : List Entry}

theorem Aside.savedContexts (aside : Aside entries) : Trace.savedContexts entries = [] :=
  savedContexts_of_unasked (by simp [aside.rendering])

theorem Looking.savedContexts (looking : Looking now entries next) :
    Trace.savedContexts entries = [] := by
  refine savedContexts_of_unasked fun call member => ?_
  obtain ⟨answer, rfl⟩ := looking.rendering call member
  rfl

theorem Ending.savedContexts (ending : Ending modes now work next) :
    Trace.savedContexts (.took .resume :: .milestone .ended :: work) = [] := by
  have silent : Trace.savedContexts work = [] := by
    refine savedContexts_of_unasked fun call member => ?_
    have order := ending.rendering.orders member
    cases call <;> first | rfl | cases order
  exact silent

theorem SavedLast.step (kept : SavedLast past now) (own : now.config.contextExternal = false)
    (dealing : Dealing modes now entries next) : SavedLast (past ++ entries) next := by
  intro held
  rw [savedContexts_append]
  cases dealing with
  | aside aside => simpa [aside.savedContexts] using kept held
  | looked looking =>
    rw [looking.next_eq] at held ⊢
    simpa [looking.savedContexts] using kept held
  | @carriedOut work next working =>
    have saves : savedContexts (.milestone .carriedOut :: work) =
      (graphicsCalls work).filterMap foundCurrent := rfl
    rcases working.rendering.made_or_left own with
      ⟨-, context, answer, calls, snapshot⟩ | ⟨before, calls, snapshot⟩
    · rw [saves, calls, snapshot]
      exact List.getLast?_concat
    · rw [saves, calls, snapshot]
      simpa using kept before
  | ended ending =>
    rcases ending.rendering.attached_or_skipped with ⟨used, -⟩ | ⟨-, snapshot⟩
    · simp [used] at held
    · rw [snapshot] at held ⊢
      simpa [ending.savedContexts] using kept held

theorem Dealings.savedLast {start finish : Bearing} {trace : List Entry}
    (dealings : Dealings modes start trace finish) (own : start.config.contextExternal = false)
    (unsaved : start.snapshot.held = false) : SavedLast trace finish := by
  induction dealings with
  | rest => simp [SavedLast, unsaved]
  | next before last ih =>
    have config := congrArg Config.contextExternal (Dealings.setUp before).1
    exact ih.step (config.trans own) last

end Dealing

section Course

variable [Graphics.Layer γ] [Window.Layer σ] [TextInput τ] {permitted : Stage γ σ α τ → Prop}
  {start now : Lifecycle γ σ α τ} {trace past later : List Entry}

/-- A lifecycle that owns its context and to which nothing has happened yet. -/
structure Unsaved (start : Lifecycle γ σ α τ) : Prop where
  own : start.config.contextExternal = false
  running : start.phase = .running
  settled : start.carryOutDue = false
  unheld : start.keeper.snapshot.held = false

theorem Course.kept (course : Course permitted start trace now) (unsaved : Unsaved start) :
    Kept start.keeper.events (trace.filter Entry.isTurn) now.standing := by
  have before : Kept start.keeper.events [] start.standing := by
    refine ⟨unsaved.own, rfl, by simp [Lifecycle.standing, unsaved.settled], ?_⟩
    simp [Lifecycle.standing, unsaved.unheld, unsaved.running, QuitAtReturn]
  have turns : Turns (fun _ => True) start.standing (trace.filter Entry.isTurn) now.standing :=
    course.turns fun _ _ _ _ => trivial
  exact turns.invariant before Kept.turn

/-- When a pause is carried out, a backup is still held exactly if the app was about to quit at
the latest return. -/
theorem Course.held_iff_of_due (course : Course permitted start past now)
    (unsaved : Unsaved start) (due : now.carryOutDue = true) :
    now.keeper.snapshot.held = true ↔ QuitAtReturn start.keeper.events past := by
  have held_iff := (course.kept unsaved).held_iff
  rw [QuitAtReturn.of_turns] at held_iff
  simpa [Lifecycle.standing, due] using held_iff

/-- A pause that is carried out saves the context that is current, unless the app was about to
quit at the latest return. -/
theorem Course.backup_at_carriedOut (course : Course permitted start trace now)
    (unsaved : Unsaved start) (split : trace = past ++ .milestone .carriedOut :: later) :
    (¬ QuitAtReturn start.keeper.events past → ∃ context answer,
      graphicsCalls (chapter later) = [.currentContext context, .makeCurrent none answer]) ∧
    (QuitAtReturn start.keeper.events past → graphicsCalls (chapter later) = []) := by
  obtain ⟨before, after, work, rest, first, working, chapter_eq, quiet⟩ :=
    Course.chapter_of_carriedOut any_mode course split
  have held_iff := Course.held_iff_of_due first unsaved working.due
  have own : before.bearing.config.contextExternal = false :=
    (congrArg Config.contextExternal (Course.config_eq first)).trans unsaved.own
  rw [chapter_eq, graphicsCalls_append, quiet.rendering, List.append_nil, ← held_iff]
  rcases working.rendering.made_or_left own with
    ⟨unheld, context, answer, calls, -⟩ | ⟨held, calls, -⟩
  · exact ⟨fun _ => ⟨context, answer, calls⟩,
      fun held => absurd held (Bool.eq_false_iff.mp unheld)⟩
  · exact ⟨fun unheld => absurd held unheld, fun _ => calls⟩

/-- A return that finds no request to quit attaches the context that was saved last. -/
theorem Course.attach_at_ended (course : Course permitted start trace now)
    (unsaved : Unsaved start) (split : trace = past ++ .milestone .ended :: later)
    (staying : (start.keeper.events.after past).has .quit = false) :
    ∃ context answer rest, (savedContexts past).getLast? = some context ∧
      graphicsCalls (chapter later) = .makeCurrent context answer :: rest := by
  obtain ⟨earlier, head, work, rest, before, after, first, link, -, rfl, rfl⟩ :=
    course.split split
  obtain ⟨rfl, ending⟩ := (link.dealing any_mode).at_ended rfl
  have held : before.keeper.snapshot.held = true :=
    (Course.kept first unsaved).held_iff.mpr (.inl ⟨ending.paused, ending.settled⟩)
  have own : start.bearing.config.contextExternal = false := unsaved.own
  have saved := (Course.dealings any_mode first).savedLast own unsaved.unheld held
  have used : ¬ after.standing.held = true := by
    have held_iff := (Course.kept (first.next link) unsaved).held_iff
    have awake : after.standing.phase = .running := congrArg Bearing.phase ending.next_eq
    have last : .milestone .ended ∉ work := fun member => by
      simpa [milestones_of_still ending.still] using mem_milestones.mpr member
    rw [QuitAtReturn.of_turns, ← List.append_assoc, QuitAtReturn.at_return last, staying,
      awake] at held_iff
    simpa using held_iff
  rcases ending.rendering.attached_or_skipped with ⟨-, answer, others, calls⟩ | ⟨-, kept⟩
  · refine ⟨before.keeper.snapshot.context, answer, others ++ graphicsCalls (chapter rest), ?_, ?_⟩
    · rw [savedContexts_append]
      exact (List.append_nil _).symm ▸ saved
    · rw [chapter_append_of_silent (milestones_of_still ending.still), graphicsCalls_append, calls]
      rfl
  · have still : after.keeper.snapshot = before.keeper.snapshot := kept
    have again : after.standing.held = true := (congrArg Snapshot.held still).trans held
    exact absurd again used

/-- There are as many backups as pauses that were carried out when the app was not about to quit
at the latest return. -/
theorem Course.counted (course : Course permitted start trace now) (unsaved : Unsaved start) :
    Counted start.keeper.events trace := by
  induction course with
  | rest =>
    exact ⟨Nat.le_refl 0, by simp [savedContexts, graphicsCalls, milestones, CarriedOutWhere]⟩
  | @next past entries before after first link ih =>
    have own : before.bearing.config.contextExternal = false :=
      (congrArg Config.contextExternal (Course.config_eq first)).trans unsaved.own
    generalize finish : after.bearing = next
    have dealing := link.dealing any_mode
    rw [finish] at dealing
    cases dealing with
    | aside aside => exact ih.idle aside.savedContexts (by simp [aside.milestones])
    | looked looking =>
      refine ih.idle looking.savedContexts ?_
      rw [looking.milestones]
      split <;> simp
    | ended ending => exact ih.idle ending.savedContexts (by simp [ending.milestones])
    | @carriedOut work _ working =>
      have held_iff := Course.held_iff_of_due first unsaved working.due
      have saves : savedContexts work = (graphicsCalls work).filterMap foundCurrent := rfl
      refine ih.carriedOut (milestones_of_still working.still) ?_
      rw [← held_iff, saves]
      rcases working.rendering.made_or_left own with
        ⟨unheld, context, answer, calls, -⟩ | ⟨held, calls, -⟩
      · exact .inl ⟨by rw [calls]; rfl, Bool.eq_false_iff.mp unheld⟩
      · exact .inr ⟨by rw [calls]; rfl, held⟩

end Course

variable [Graphics.Layer γ] [Window.Layer σ] [TextInput τ]

/-- A pause that is carried out is backed up once, with the context that is current there, unless
the latest return to the foreground found a request to quit in the queue: then nothing is
detached and the older backup stays. So there are as many backups as pauses that were
carried out exactly if that never happened, and a return attaches the context that was
saved last, whichever pause it was saved in. -/
theorem pause_is_backed_up_once_unless_quitting_at_the_latest_return (config : Config)
    (keeper : Keeper γ σ) (outputs : List (Audio.Output α)) (audio : α) (textInput : Option τ)
    (run : Run γ σ α τ) (own : config.contextExternal = false) (unsaved : keeper.snapshot = {}) :
    let outcome := (Lifecycle.play run).run (Lifecycle.fresh config keeper outputs audio textInput)
    let snapshot := outcome.state.keeper.snapshot
    (∀ past later, outcome.trace = past ++ .milestone .carriedOut :: later →
      (¬ QuitAtReturn keeper.events past → ∃ context answer,
        graphicsCalls (chapter later) = [.currentContext context, .makeCurrent none answer]) ∧
      (QuitAtReturn keeper.events past → graphicsCalls (chapter later) = [])) ∧
    (∀ past later, outcome.trace = past ++ .milestone .ended :: later →
      (keeper.events.after past).has .quit = false →
      ∃ context answer rest, (savedContexts past).getLast? = some context ∧
        graphicsCalls (chapter later) = .makeCurrent context answer :: rest) ∧
    ((savedContexts outcome.trace).length = (milestones outcome.trace).count .carriedOut ↔
      ∀ past later, outcome.trace = past ++ .milestone .carriedOut :: later →
        ¬ QuitAtReturn keeper.events past) ∧
    (snapshot.held = true → (savedContexts outcome.trace).getLast? = some snapshot.context) := by
  intro outcome snapshot
  let start := Lifecycle.fresh config keeper outputs audio textInput
  have course : Course run.Has start outcome.trace outcome.state := Lifecycle.unfolds_play run
  have fresh : Unsaved start := ⟨own, rfl, rfl, congrArg Snapshot.held unsaved⟩
  refine ⟨fun past later split => Course.backup_at_carriedOut course fresh split,
    fun past later split staying => Course.attach_at_ended course fresh split staying, ?_, ?_⟩
  · refine (Course.counted course fresh).all_iff.trans ?_
    simp only [CarriedOutWhere, not_exists, not_and]
    rfl
  · exact (Course.dealings any_mode course).savedLast own fresh.unheld

/-- The app asks to quit while it is in the background and changes its mind, makes another
context current and is sent to the background again. -/
def Rehearsal.quitTakenBack : RehearsedRun where
  steps := [.around (.notify .pause 1), .ticking {}, .around .drain, .ticking {}, .ticking {},
    .around (.push .quit 1), .around (.notify .resume 1), .ticking {}, .around .drain,
    .around (.adjust (fun graphics => { graphics with current := some ⟨77⟩ }) id id id),
    .around (.notify .pause 1), .ticking {}, .around .drain, .ticking {}, .ticking {}]

/-- The second pause is carried out with the new context still attached, and with the backup of
the first one. -/
theorem pause_after_quit_taken_back_is_not_backed_up :
    (Rehearsal.rehearse Rehearsal.quitTakenBack).state.keeper.graphics.current = some ⟨77⟩ ∧
      (Rehearsal.rehearse Rehearsal.quitTakenBack).state.keeper.snapshot.context = some ⟨42⟩ ∧
      ∃ past later, (Rehearsal.rehearse Rehearsal.quitTakenBack).trace =
          past ++ .milestone .carriedOut :: later ∧
        QuitAtReturn Rehearsal.opening.events past ∧ graphicsCalls (chapter later) = [] := by
  obtain ⟨backedUp, -, all_iff, -⟩ := pause_is_backed_up_once_unless_quitting_at_the_latest_return
    {} Rehearsal.opening [Rehearsal.Scripts.output .plain "speaker" 0] [{}] (some {})
    Rehearsal.quitTakenBack rfl rfl
  have fewer : ¬ (savedContexts (Rehearsal.rehearse Rehearsal.quitTakenBack).trace).length =
      (milestones (Rehearsal.rehearse Rehearsal.quitTakenBack).trace).count .carriedOut := by
    decide
  refine ⟨by decide, by decide, Classical.byContradiction fun none => fewer (all_iff.mpr ?_)⟩
  intro past later split quitting
  exact none ⟨past, later, split, quitting, (backedUp past later split).2 quitting⟩

end AppLifecycle
