import Mathlib.Computability.Language
import AppLifecycle.Proofs.History

/-! The words that the app hears. Requests to quit apart, the events of a run form one
background cycle after another, and the phase says whether the last one is still open. -/
namespace AppLifecycle

open Computability

variable {γ σ α τ : Type}

namespace Event

/-- The words of a full cycle: into the background and back, perhaps with a reset. -/
def cycle : Language Event :=
  {backgroundGroup} * {foregroundGroup} * {[], [renderDeviceReset]}

/-- Whether an event tells the app that it has crossed to the other side. -/
def isCrossing : Event → Bool
  | didEnterBackground | didEnterForeground => true
  | _ => false

theorem mem_cycle {word : List Event} :
    word ∈ cycle ↔ ∃ reset, word = backgroundGroup ++ Standing.farewell reset := by
  constructor
  · rintro ⟨there, ⟨background, rfl, foreground, rfl, rfl⟩, last, rfl | rfl, rfl⟩
    · exact ⟨false, rfl⟩
    · exact ⟨true, rfl⟩
  · rintro ⟨reset, rfl⟩
    have split : backgroundGroup ++ Standing.farewell reset =
        backgroundGroup ++ foregroundGroup ++ if reset then [renderDeviceReset] else [] := by
      simp [Standing.farewell]
    rw [split]
    refine Language.append_mem_mul (Language.append_mem_mul rfl rfl) ?_
    cases reset with
    | false => exact .inl rfl
    | true => exact .inr rfl

theorem append_mem_cycles {past last : List Event} (closed : past ∈ cycle∗)
    (full : last ∈ cycle) : past ++ last ∈ cycle∗ := by
  obtain ⟨cycles, rfl, each⟩ := Language.mem_kstar.mp closed
  refine Language.mem_kstar.mpr ⟨cycles ++ [last], by simp, fun word member => ?_⟩
  rcases List.mem_append.mp member with earlier | latest
  · exact each word earlier
  · rwa [List.mem_singleton.mp latest]

theorem crossings_backgroundGroup : backgroundGroup.filter isCrossing = [didEnterBackground] := rfl

/-- In closed cycles every crossing to the background is followed by one back. -/
theorem crossings_of_cycles {word : List Event} (closed : word ∈ cycle∗) :
    ∃ times, word.filter isCrossing =
      (List.replicate times [didEnterBackground, didEnterForeground]).flatten := by
  obtain ⟨cycles, rfl, each⟩ := Language.mem_kstar.mp closed
  clear closed
  induction cycles with
  | nil => exact ⟨0, rfl⟩
  | cons first rest ih =>
    obtain ⟨times, crossings⟩ := ih fun word member => each word (List.mem_cons_of_mem _ member)
    obtain ⟨reset, rfl⟩ := mem_cycle.mp (each first List.mem_cons_self)
    refine ⟨times + 1, ?_⟩
    rw [List.flatten_cons, List.filter_append, crossings, List.replicate_succ, List.flatten_cons]
    cases reset <;> rfl

/-- A word with its last cycle open is no word of closed cycles. -/
theorem open_of_cycles {word : List Event} (closed : word ∈ cycle∗) :
    word ∉ cycle∗ * {backgroundGroup} := by
  rintro ⟨past, closedPast, last, rfl, rfl⟩
  obtain ⟨times, crossings⟩ := crossings_of_cycles closed
  obtain ⟨timesPast, crossingsPast⟩ := crossings_of_cycles closedPast
  rw [List.filter_append, crossingsPast, crossings_backgroundGroup] at crossings
  have lengths := congrArg List.length crossings
  simp only [List.length_append, List.length_flatten, List.map_replicate, List.sum_replicate_nat,
    List.length_cons, List.length_nil] at lengths
  omega

/-- Crossings that come in pairs, and perhaps one more, alternate. -/
private theorem paired_alternates {tail : List Event}
    (short : tail = [] ∨ tail = [didEnterBackground]) {times index : Nat} {event : Event}
    (at_index : ((List.replicate times [didEnterBackground, didEnterForeground]).flatten ++
      tail)[index]? = some event) :
    event = if index % 2 = 0 then didEnterBackground else didEnterForeground := by
  induction times generalizing index with
  | zero =>
    rcases short with rfl | rfl
    · simp at at_index
    · cases index with
      | zero => simpa using at_index.symm
      | succ index => simp at at_index
  | succ times ih =>
    rw [List.replicate_succ, List.flatten_cons] at at_index
    match index with
    | 0 => simpa using at_index.symm
    | 1 => simpa using at_index.symm
    | index + 2 =>
      rw [Nat.add_mod_right]
      exact ih (by simpa using at_index)

/-- In cycles of which only the last may be open, the crossings alternate, the first one being
to the background. -/
theorem crossings_alternate {word : List Event}
    (cycles : word ∈ cycle∗ * {[], backgroundGroup}) {index : Nat} {event : Event}
    (at_index : (word.filter isCrossing)[index]? = some event) :
    event = if index % 2 = 0 then didEnterBackground else didEnterForeground := by
  obtain ⟨past, closed, last, kind, rfl⟩ := cycles
  obtain ⟨times, crossings⟩ := crossings_of_cycles closed
  have short : last.filter isCrossing = [] ∨ last.filter isCrossing = [didEnterBackground] := by
    rcases kind with rfl | rfl
    · exact .inl rfl
    · exact .inr rfl
  rw [List.filter_append, crossings] at at_index
  exact paired_alternates short at_index

end Event

/-- The word so far is closed in the foreground and open in the background. -/
structure Told (trace : List Entry) (now : Standing) : Prop where
  running : now.phase = .running →
    (Trace.arrivals trace).filter (· ≠ .quit) ∈ Event.cycle∗
  background : now.phase ≠ .running →
    (Trace.arrivals trace).filter (· ≠ .quit) ∈ Event.cycle∗ * {Event.backgroundGroup}

namespace Told

variable {past entries : List Entry} {now next : Standing}

/-- Nothing is told while the lifecycle stays on its side, except requests to quit. -/
theorem idle (told : Told past now)
    (silent : (Trace.arrivals entries).filter (· ≠ .quit) = [])
    (side : next.phase = .running ↔ now.phase = .running) : Told (past ++ entries) next := by
  have same : (Trace.arrivals (past ++ entries)).filter (· ≠ .quit) =
      (Trace.arrivals past).filter (· ≠ .quit) := by
    rw [Trace.arrivals_append, List.filter_append, silent, List.append_nil]
  constructor
  · intro running
    rw [same]
    exact told.running (side.mp running)
  · intro away
    rw [same]
    exact told.background fun running => away (side.mpr running)

theorem announce (told : Told past now) (running : now.phase = .running) :
    Told (past ++ announcing) now.announce := by
  constructor
  · intro here
    cases here
  · intro _
    rw [Trace.arrivals_append, List.filter_append, Trace.arrivals_announcing]
    exact Language.append_mem_mul (told.running running) rfl

theorem comeBack (told : Told past now) (paused : now.phase = .paused) (reset : Bool) :
    Told (past ++ endingEntries reset) (now.comeBack reset) := by
  constructor
  · intro _
    obtain ⟨cycles, closed, last, rfl, word⟩ := told.background (by simp [paused])
    have farewell : (Standing.farewell reset).filter (· ≠ .quit) = Standing.farewell reset := by
      cases reset <;> rfl
    rw [Trace.arrivals_append, List.filter_append, Trace.arrivals_endingEntries, farewell, ← word,
      List.append_assoc]
    exact Event.append_mem_cycles closed (Event.mem_cycle.mpr ⟨reset, rfl⟩)
  · intro away
    exact absurd rfl away

theorem turn {allowed : Move γ σ α τ → Prop} (told : Told past now)
    (quitOnly : ∀ move, allowed move → ∀ event ∈ move.pushes, event = .quit)
    (turn : Turn allowed now entries next) : Told (past ++ entries) next := by
  cases turn with
  | raised kind times ok => exact told.idle rfl .rfl
  | spent kind ok => exact told.idle rfl .rfl
  | pushed event times ok some =>
    obtain rfl : event = .quit := quitOnly _ ok event (by simp [Move.pushes, some.ne'])
    exact told.idle rfl .rfl
  | removed event rest oldest => exact told.idle rfl .rfl
  | announced running raised => exact told.announce running
  | committed pausing few => exact told.idle rfl (by simp [Standing.commit, pausing])
  | carriedOut paused due => exact told.idle rfl .rfl
  | ended reset paused settled raised restored => exact told.comeBack paused reset

theorem of_turns {trace : List Entry} (told : Told (trace.filter Entry.isTurn) now) :
    Told trace now := by
  obtain ⟨running, background⟩ := told
  rw [Trace.arrivals_turns] at running background
  exact ⟨running, background⟩

theorem cycles {trace : List Entry} (told : Told trace now) :
    (Trace.arrivals trace).filter (· ≠ .quit) ∈ Event.cycle∗ * {[], Event.backgroundGroup} := by
  by_cases running : now.phase = .running
  · rw [← List.append_nil (List.filter _ _)]
    exact Language.append_mem_mul (told.running running) (.inl rfl)
  · obtain ⟨past, closed, last, opened, word⟩ := told.background running
    rw [← word]
    exact Language.append_mem_mul closed (.inr opened)

theorem open_iff {trace : List Entry} (told : Told trace now) :
    (Trace.arrivals trace).filter (· ≠ .quit) ∈ Event.cycle∗ * {Event.backgroundGroup} ↔
      now.phase ≠ .running :=
  ⟨fun opened running => Event.open_of_cycles (told.running running) opened, told.background⟩

end Told

variable [Graphics.Layer γ] [Window.Layer σ] [TextInput τ]

/-- The events of a run are cycles through the background, the last of which may be open, if
the app itself pushes requests to quit only. It is open exactly in the background, and the
crossings to either side alternate. -/
theorem events_form_background_cycles (config : Config) (keeper : Keeper γ σ)
    (outputs : List (Audio.Output α)) (audio : α) (textInput : Option τ) (run : Run γ σ α τ)
    (empty : keeper.events = .empty)
    (quitOnly : ∀ move ∈ run.moves, ∀ event ∈ move.pushes, event = .quit) :
    let outcome := (Lifecycle.play run).run (Lifecycle.fresh config keeper outputs audio textInput)
    let lifecycle := outcome.state
    let word := (Trace.removals outcome.trace ++ lifecycle.keeper.events.toList).filter (· ≠ .quit)
    word ∈ Event.cycle∗ * {[], Event.backgroundGroup} ∧
      (word ∈ Event.cycle∗ * {Event.backgroundGroup} ↔
        lifecycle.phase = .pausing ∨ lifecycle.phase = .paused) ∧
      ∀ index event, (word.filter Event.isCrossing)[index]? = some event →
        event = if index % 2 = 0 then .didEnterBackground else .didEnterForeground := by
  intro outcome lifecycle word
  let start := Lifecycle.fresh config keeper outputs audio textInput
  have turns := Lifecycle.play_turns run start quitOnly
  obtain ⟨left, queue, kept⟩ := turns.removals_append_queued empty
  have word_eq : word = (Trace.arrivals outcome.trace).filter (· ≠ .quit) := by
    have told : Trace.removals outcome.trace ++ left = Trace.arrivals outcome.trace := by
      simpa [outcome, start] using kept
    have here : lifecycle.keeper.events = .storing left := queue
    simp only [word, here, EventQueue.toList, told]
  have before : Told [] start.standing :=
    ⟨fun _ => Language.nil_mem_kstar _, fun away => absurd rfl away⟩
  have told : Told outcome.trace lifecycle.standing :=
    (turns.invariant before fun told turn => told.turn (fun _ only => only) turn).of_turns
  rw [word_eq]
  exact ⟨told.cycles, told.open_iff.trans (Phase.ne_running_iff _),
    fun index event => Event.crossings_alternate told.cycles⟩

/-- A full cycle, a request to quit and the beginning of another cycle. -/
def Rehearsal.secondPause : RehearsedRun where
  steps := [.around (.notify .pause 1), .ticking {}, .around .drain, .suspending {},
    .around (.push .quit 1), .around (.notify .pause 1), .ticking {}]

/-- The second pause leaves a cycle open. -/
theorem second_pause_opens_a_cycle :
    Rehearsal.opening.events = .empty ∧
      (∀ move ∈ Rehearsal.secondPause.moves, ∀ event ∈ move.pushes, event = .quit) ∧
      (Trace.removals (Rehearsal.rehearse Rehearsal.secondPause).trace ++
        (Rehearsal.rehearse Rehearsal.secondPause).state.keeper.events.toList).filter
          (· ≠ .quit) ∈ Event.cycle∗ * {Event.backgroundGroup} := by
  have quitOnly : ∀ move ∈ Rehearsal.secondPause.moves, ∀ event ∈ move.pushes, event = .quit := by
    decide
  obtain ⟨-, opened, -⟩ := events_form_background_cycles {} Rehearsal.opening
    [Rehearsal.Scripts.output .plain "speaker" 0] [{}] (some {}) Rehearsal.secondPause rfl quitOnly
  exact ⟨rfl, quitOnly, opened.mpr (.inl (by decide))⟩

end AppLifecycle
