import AppLifecycle.Proofs.SignalAccounts

/-! When a pause is final. The lifecycle compares the background events that are still queued
with the pauses that are still raised, so a pause that the app has not seen yet is final
exactly while enough further pauses wait. -/
namespace AppLifecycle

open Traced

variable {γ σ α τ : Type}

/-- The app has removed the background event that was pushed last. -/
def Trace.BackgroundSeen (trace : List Entry) : Prop :=
  ∀ earlier later, Trace.arrivals trace = earlier ++ .didEnterBackground :: later →
    .didEnterBackground ∉ later → earlier.length < (Trace.removals trace).length

/-- How many background events were pushed and not removed. -/
def Trace.unseen (trace : List Entry) : Nat :=
  (Trace.arrivals trace).count .didEnterBackground -
    (Trace.removals trace).count .didEnterBackground

/-- How many pauses were raised and not used up. -/
def Trace.waiting (trace : List Entry) : Nat :=
  (Trace.raises trace).count .pause - (Trace.takes trace).count .pause

/-- In a queue the event that came last is there exactly if any such event is. -/
private theorem seen_iff_not_queued {arrivals removals queued : List Event} {event : Event}
    (kept : removals ++ queued = arrivals) :
    (∀ earlier later, arrivals = earlier ++ event :: later → event ∉ later →
      earlier.length < removals.length) ↔ event ∉ queued := by
  subst kept
  constructor
  · intro seen member
    obtain ⟨earlier, later, split, last⟩ := List.eq_append_cons_of_mem (List.mem_reverse.mpr member)
    have there : queued = later.reverse ++ event :: earlier.reverse := by
      rw [← List.reverse_reverse queued, split]
      simp
    have bound := seen (removals ++ later.reverse) earlier.reverse (by simp [there]) (by simpa)
    rw [List.length_append] at bound
    omega
  · intro absent earlier later split last
    rcases List.append_eq_append_iff.mp split with ⟨rest, rfl, queued_eq⟩ | ⟨rest, rfl, rest_eq⟩
    · simp [queued_eq] at absent
    · cases rest with
      | nil =>
        obtain rfl : event :: later = queued := rest_eq
        simp at absent
      | cons first rest => simp

section Standing

variable {allowed : Move γ σ α τ → Prop} {start now next finish : Standing}
  {entries trace past later : List Entry}

/-- A final pause leaves at most as many background events unseen as pauses wait. -/
def Covered (now : Standing) : Prop :=
  now.phase = .paused → now.events.count .didEnterBackground ≤ now.signals.pause.count

/-- As long as only the lifecycle pushes events and uses signals up, a pause that is covered
stays so: the app removes events, and the host raises more pauses. -/
theorem Turn.covered (turn : Turn allowed now entries next)
    (apart : ∀ move, allowed move → move.pushes = [] ∧ move.takes = false)
    (covered : Covered now) : Covered next := by
  cases turn with
  | raised kind times ok =>
    intro paused
    change _ ≤ ((now.signals.raise kind).get .pause).count
    rw [HostSignals.count_raise]
    exact Nat.le_add_right_of_le (covered paused)
  | spent kind ok => exact absurd (apart _ ok).2 (by simp [Move.takes])
  | pushed event times ok some =>
    exact absurd (apart _ ok).1 (by simp [Move.pushes, Nat.ne_of_gt some])
  | removed event rest oldest =>
    intro paused
    have before := covered paused
    rw [oldest] at before
    exact Nat.le_trans List.count_le_count_cons before
  | announced running raised =>
    intro paused
    cases paused
  | committed pausing few => exact fun _ => few
  | carriedOut paused due => exact covered
  | ended reset paused settled raised restored =>
    intro paused
    cases paused

/-- A pause is made final, and carried out, only while it is covered. -/
theorem Turn.covered_at_milestone (turn : Turn allowed now entries next) (covered : Covered now)
    {head tail : List Entry} {milestone : Milestone}
    (split : entries = head ++ .milestone milestone :: tail) (going : milestone ≠ .ended) :
    head = [] ∧ now.events.count .didEnterBackground ≤ now.signals.pause.count := by
  have member : .milestone milestone ∈ entries := by simp [split]
  have first (only : entries = [.milestone milestone]) : head = [] := by
    rw [only] at split
    cases head with
    | nil => rfl
    | cons entry head => simp at split
  cases turn with
  | committed pausing few =>
    obtain rfl : milestone = .committed := by simpa using member
    exact ⟨first rfl, few⟩
  | carriedOut paused due =>
    obtain rfl : milestone = .carriedOut := by simpa using member
    exact ⟨first rfl, covered paused⟩
  | ended reset paused settled raised restored =>
    cases reset <;> simp [endingEntries, Event.foregroundGroup, going] at member
  | announced running raised => simp [announcing, Event.backgroundGroup] at member
  | _ => simp at member

/-- In a queue that was empty the unseen events are those that are queued. -/
theorem Turns.unseen_eq (turns : Turns allowed start trace finish)
    (empty : start.events = .empty) :
    Trace.unseen trace = finish.events.count .didEnterBackground ∧
      (Trace.BackgroundSeen trace ↔ Trace.unseen trace = 0) := by
  obtain ⟨left, storing, kept⟩ := turns.removals_append_queued empty
  rw [List.nil_append] at kept
  have unseen : Trace.unseen trace = left.count .didEnterBackground := by
    simp [Trace.unseen, ← kept]
  constructor
  · rw [unseen, storing]
    rfl
  · rw [unseen, List.count_eq_zero]
    exact seen_iff_not_queued kept

theorem Balanced.waiting_eq (balanced : Balanced trace now) :
    Trace.waiting trace = now.signals.pause.count := by
  have raised : _ = now.signals.pause.count + _ := balanced.raised .pause
  simp [Trace.waiting, raised]

/-- Where a pause is made final or carried out, at most as many background events are unseen
as pauses wait. -/
theorem Turns.unseen_le_waiting (turns : Turns allowed start trace finish)
    (apart : ∀ move, allowed move → move.pushes = [] ∧ move.takes = false)
    (empty : start.events = .empty) (running : start.phase = .running)
    (silent : start.signals = {}) {milestone : Milestone}
    (split : trace = past ++ .milestone milestone :: later) (going : milestone ≠ .ended) :
    Trace.unseen past ≤ Trace.waiting past ∧
      (Trace.BackgroundSeen past ↔ Trace.unseen past = 0) := by
  obtain ⟨before, head, tail, now, next, earlier, turn, rfl⟩ := turns.around split
  have covered : Covered now := by
    refine earlier.invariant (fun paused => ?_) fun covered turn => turn.covered apart covered
    simp [running] at paused
  obtain ⟨rfl, few⟩ := turn.covered_at_milestone covered rfl going
  obtain ⟨unseen, seen⟩ := Turns.unseen_eq earlier empty
  have balanced := Balanced.of_fresh (fun move ok => (apart move ok).2) running silent earlier
  rw [List.append_nil]
  refine ⟨?_, seen⟩
  rw [unseen, balanced.waiting_eq]
  exact few

end Standing

namespace Lifecycle

/-- Only the counts decide whether a pause is final. -/
theorem settlePause_state (announced : Bool) (now : Lifecycle γ σ α τ) :
    ((settlePause announced).run now).state.keeper = now.keeper ∧
      (((settlePause announced).run now).state.phase = .paused ↔
        now.keeper.events.count .didEnterBackground ≤ now.signals.pause.count) := by
  by_cases unseen : now.signals.pause.count < now.keeper.events.count .didEnterBackground
  · cases announced <;> simp [settlePause, run_bind, unseen]
  · simp [settlePause, run_bind, unseen, Nat.le_of_not_lt unseen]

variable [Graphics.Layer γ] {start : Lifecycle γ σ α τ} (host : HostActivity γ σ α τ)

/-- A look at a pause that is pending makes it final if enough pauses wait. -/
theorem look_of_pausing (pausing : start.phase = .pausing) :
    ((lookForPause host).run start).state.keeper = start.keeper ∧
      (((lookForPause host).run start).state.phase = .paused ↔
        start.keeper.events.count .didEnterBackground ≤
          start.signals.pause.count + host.beforeCount.count .pause) := by
  obtain ⟨state, -⟩ := notifyAll_turns host.beforeCount start
  simp only [lookForPause, run_bind, run_read, pausing, state]
  refine ⟨(settlePause_state false _).1, (settlePause_state false _).2.trans ?_⟩
  have posted := HostSignals.count_raises host.beforeCount start.signals .pause
  exact ⟨fun few => posted ▸ few, fun few => posted.symm ▸ few⟩

/-- A look that finds no pause leaves the lifecycle running. -/
theorem look_of_none (running : start.phase = .running)
    (none : start.signals.pause.count + host.beforeTake.count .pause = 0) :
    ((lookForPause host).run start).state.phase = .running := by
  obtain ⟨state, -⟩ := notifyAll_turns host.beforeTake start
  have gone : ((host.beforeTake.foldl HostSignals.raise start.signals).get .pause).count = 0 :=
    (HostSignals.count_raises host.beforeTake start.signals .pause).trans none
  simp only [lookForPause, run_bind, run_read, running, state]
  rw [run_take_of_none gone]
  rfl

/-- A look that takes a pause announces it, and makes it final at once if enough further
pauses wait. -/
theorem look_of_running (running : start.phase = .running)
    (raised : 0 < start.signals.pause.count + host.beforeTake.count .pause) :
    ((lookForPause host).run start).state.keeper.events =
        start.keeper.events.pushAll Event.backgroundGroup ∧
      (((lookForPause host).run start).state.phase = .paused ↔
        (start.keeper.events.pushAll Event.backgroundGroup).count .didEnterBackground <
          start.signals.pause.count + host.beforeTake.count .pause +
            host.beforeCount.count .pause) := by
  obtain ⟨state, -⟩ := notifyAll_turns host.beforeTake start
  have waits := HostSignals.count_raises host.beforeTake start.signals .pause
  generalize host.beforeTake.foldl HostSignals.raise start.signals = signals at state waits
  have there : 0 < (signals.get .pause).count := waits ▸ raised
  simp only [lookForPause, run_bind, run_read, running, state, run_take, there, decide_true,
    whenever_true]
  generalize taken_eq : ({ start with signals := signals.spend .pause, phase := .running } :
    Lifecycle γ σ α τ) = taken
  obtain ⟨postedState, -⟩ := announcement_turns host.beforeCount taken
  generalize (notifyAll host.beforeCount).run _ = posted at postedState ⊢
  obtain ⟨keeper, final⟩ := settlePause_state true posted.state
  have events : posted.state.keeper.events =
      start.keeper.events.pushAll Event.backgroundGroup := calc
    _ = taken.keeper.events.pushAll Event.backgroundGroup := congrArg Standing.events postedState
    _ = _ := by rw [← taken_eq]
  have waiting : posted.state.signals.pause.count =
      start.signals.pause.count + host.beforeTake.count .pause - 1 +
        host.beforeCount.count .pause := calc
    _ = ((host.beforeCount.foldl HostSignals.raise taken.signals).get .pause).count :=
      congrArg (fun standing => standing.signals.pause.count) postedState
    _ = ((signals.spend .pause).get .pause).count + host.beforeCount.count .pause := by
      rw [HostSignals.count_raises, ← taken_eq]
    _ = _ := by
      rw [HostSignals.count_spend, waits]
      rfl
  refine ⟨(congrArg Keeper.events keeper).trans events, final.trans ?_⟩
  rw [events, waiting]
  omega

/-- The pause is final, although its background event is still queued. -/
def FinalUnseen (lifecycle : Lifecycle γ σ α τ) : Prop :=
  lifecycle.phase = .paused ∧ lifecycle.keeper.events.has .didEnterBackground = true

theorem finalUnseen_look_of_pausing (pausing : start.phase = .pausing) :
    ((lookForPause host).run start).state.FinalUnseen ↔
      0 < start.keeper.events.count .didEnterBackground ∧
        start.keeper.events.count .didEnterBackground ≤
          start.signals.pause.count + host.beforeCount.count .pause := by
  obtain ⟨kept, final⟩ := look_of_pausing host pausing
  rw [FinalUnseen, final, kept, EventQueue.has, decide_eq_true_iff]
  exact And.comm

theorem finalUnseen_look_of_running (running : start.phase = .running) {queued : List Event}
    (storing : start.keeper.events = .storing queued) :
    ((lookForPause host).run start).state.FinalUnseen ↔
      0 < start.signals.pause.count + host.beforeTake.count .pause ∧
        start.keeper.events.count .didEnterBackground + 1 <
          start.signals.pause.count + host.beforeTake.count .pause +
            host.beforeCount.count .pause := by
  by_cases raised : 0 < start.signals.pause.count + host.beforeTake.count .pause
  · obtain ⟨kept, final⟩ := look_of_running host running raised
    have one_more : (start.keeper.events.pushAll Event.backgroundGroup).count .didEnterBackground =
        start.keeper.events.count .didEnterBackground + 1 := by
      rw [storing, EventQueue.pushAll_storing]
      exact List.count_append
    rw [FinalUnseen, final, kept, EventQueue.has, decide_eq_true_iff, one_more]
    omega
  · have still := look_of_none host running (Nat.eq_zero_of_not_pos raised)
    simp [FinalUnseen, still, raised]

end Lifecycle

namespace Trace

variable (trace : List Entry)

@[simp] theorem unseen_turns : unseen (trace.filter Entry.isTurn) = unseen trace := by
  simp [unseen]

@[simp] theorem waiting_turns : waiting (trace.filter Entry.isTurn) = waiting trace := by
  simp [waiting]

@[simp] theorem backgroundSeen_turns :
    BackgroundSeen (trace.filter Entry.isTurn) ↔ BackgroundSeen trace := by
  simp [BackgroundSeen]

end Trace

variable [Graphics.Layer γ] [Window.Layer σ] [TextInput τ]

/-- A pause is made final, and carried out, before the app has seen it exactly while enough
pauses wait for every background event that is still queued. Conversely a look makes a
pause final unseen whenever that many pauses wait. -/
theorem pause_is_final_unseen_exactly_while_enough_pauses_wait (config : Config)
    (keeper : Keeper γ σ) (outputs : List (Audio.Output α)) (audio : α) (textInput : Option τ)
    (run : Run γ σ α τ) (empty : keeper.events = .empty)
    (apart : ∀ move ∈ run.moves, move.pushes = [] ∧ move.takes = false) :
    let outcome := (Lifecycle.play run).run (Lifecycle.fresh config keeper outputs audio textInput)
    let lifecycle := outcome.state
    let unseen := Trace.unseen outcome.trace
    let waiting := Trace.waiting outcome.trace
    (∀ past later milestone, outcome.trace = past ++ .milestone milestone :: later →
      milestone ≠ .ended → Trace.unseen past ≤ Trace.waiting past ∧
        (¬ Trace.BackgroundSeen past ↔
          0 < Trace.unseen past ∧ Trace.unseen past ≤ Trace.waiting past)) ∧
      (∀ host, lifecycle.phase = .pausing →
        (((Lifecycle.lookForPause host).run lifecycle).state.FinalUnseen ↔
          0 < unseen ∧ unseen ≤ waiting + host.beforeCount.count .pause)) ∧
      ∀ host, lifecycle.phase = .running →
        (((Lifecycle.lookForPause host).run lifecycle).state.FinalUnseen ↔
          0 < waiting + host.beforeTake.count .pause ∧
            unseen + 1 < waiting + host.beforeTake.count .pause +
              host.beforeCount.count .pause) := by
  intro outcome lifecycle unseen waiting
  let start := Lifecycle.fresh config keeper outputs audio textInput
  have turns := Lifecycle.play_turns run start apart
  have unseen_eq : unseen = lifecycle.keeper.events.count .didEnterBackground :=
    (Trace.unseen_turns outcome.trace).symm.trans (turns.unseen_eq empty).1
  have waiting_eq : waiting = lifecycle.signals.pause.count := by
    have balanced := Balanced.of_fresh (fun _ kept => kept.2) rfl rfl turns
    exact (Trace.waiting_turns outcome.trace).symm.trans balanced.waiting_eq
  refine ⟨fun past later milestone split going => ?_, fun host pausing => ?_,
    fun host running => ?_⟩
  · have turned : outcome.trace.filter Entry.isTurn = past.filter Entry.isTurn ++
        .milestone milestone :: later.filter Entry.isTurn := by
      simp [split, List.filter_cons, Entry.isTurn]
    have bound := turns.unseen_le_waiting (fun _ kept => kept) empty rfl rfl turned going
    simp only [Trace.unseen_turns, Trace.waiting_turns, Trace.backgroundSeen_turns] at bound
    obtain ⟨few, seen⟩ := bound
    refine ⟨few, ?_⟩
    rw [seen, and_iff_left few]
    exact Nat.pos_iff_ne_zero.symm
  · rw [unseen_eq, waiting_eq]
    exact Lifecycle.finalUnseen_look_of_pausing host pausing
  · obtain ⟨queued, storing, -⟩ := turns.removals_append_queued empty
    rw [unseen_eq, waiting_eq]
    exact Lifecycle.finalUnseen_look_of_running host running storing

/-- The app does not look at its queue while two pauses are raised together. -/
def Rehearsal.unseenPause : RehearsedRun where
  steps := [.around (.notify .pause 2)]

/-- The first of two pauses is final before the app has seen it. -/
theorem first_of_two_pauses_is_final_unseen :
    Rehearsal.opening.events = .empty ∧
      (∀ move ∈ Rehearsal.unseenPause.moves, move.pushes = [] ∧ move.takes = false) ∧
      ((Lifecycle.lookForPause {}).run
        (Rehearsal.rehearse Rehearsal.unseenPause).state).state.FinalUnseen := by
  have apart : ∀ move ∈ Rehearsal.unseenPause.moves, move.pushes = [] ∧ move.takes = false := by
    decide
  obtain ⟨-, -, running⟩ := pause_is_final_unseen_exactly_while_enough_pauses_wait {}
    Rehearsal.opening [Rehearsal.Scripts.output .plain "speaker" 0] [{}] (some {})
    Rehearsal.unseenPause rfl apart
  exact ⟨rfl, apart, (running {} (by decide)).mpr (by decide)⟩

end AppLifecycle
