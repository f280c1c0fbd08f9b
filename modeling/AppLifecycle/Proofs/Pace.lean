import AppLifecycle.Proofs.Deafness
import AppLifecycle.Proofs.TwoPhases

/-! Suspending and ticking rounds keep pace. If a resume is raised already, a suspending round
does not wait, and what is left of the difference is that it goes on to the end of a pause
where a ticking round stops once the pause is final. So a suspending round that makes a pause
final does what two ticking rounds do, and any other what one does. -/
namespace AppLifecycle

open Traced

variable {γ σ α τ : Type}

namespace Lifecycle

variable {host : HostActivity γ σ α τ} {here there : Lifecycle γ σ α τ}

/-- Where there is nothing of a wait, resumes are raised but not used up. -/
private theorem resumes_of_turning {action : Traced (Lifecycle γ σ α τ) Unit}
    (turning : Turning (fun move : Move γ σ α τ => move.takes = false) action here)
    (unwaiting : ∀ entry ∈ (action.run here).trace, entry.isOfWait = false) :
    (action.run here).state.signals.resume.count =
      here.signals.resume.count + (Trace.raises (action.run here).trace).count .resume := by
  have turns : Turns _ here.standing _ (action.run here).state.standing := turning
  have balance := turns.counts_balance (fun _ untouched => untouched) .resume
  have untaken : (Trace.takes (action.run here).trace).count .resume = 0 := by
    refine List.count_eq_zero.mpr fun taken => ?_
    obtain ⟨entry, member, seen⟩ := List.mem_filterMap.mp taken
    cases entry with
    | took signal =>
      cases seen
      cases unwaiting _ member
    | _ => cases seen
  rw [Trace.takes_turns, Trace.raises_turns, untaken] at balance
  exact balance

variable [Graphics.Layer γ]

theorem resumes_lookForPause (host : HostActivity γ σ α τ) (awake : here.phase ≠ .paused) :
    ((lookForPause host).run here).state.signals.resume.count = here.signals.resume.count +
      (Trace.raises ((lookForPause host).run here).trace).count .resume := by
  -- What the host does while the loop is suspended has no part in a look.
  have looks : lookForPause host = lookForPause { host with whileSuspended := [] } := rfl
  refine resumes_of_turning ?_ fun _ => not_waiting_lookForPause
  rw [looks]
  refine turning_lookForPause (fun move member => ?_) awake
  simp only [HostActivity.moves, List.append_nil, List.mem_map] at member
  obtain ⟨kind, -, rfl⟩ := member
  rfl

theorem resumes_le_carryOutDuePause (quiets : Bool) (paused : here.phase = .paused) :
    here.signals.resume.count ≤
      ((carryOutDuePause quiets).run here).state.signals.resume.count := by
  cases due : here.carryOutDue with
  | true =>
    rw [run_carryOutDuePause quiets due, resumes_of_turning (turning_carryOutPause paused due)
      fun _ => not_waiting_carryOutPause quiets]
    exact Nat.le_add_right _ _
  | false => simp [carryOutDuePause, run_bind, due]

section Rounds

variable [Window.Layer σ] [TextInput τ]

/-- If a resume is raised already, a wait is over at once. -/
theorem run_waitOn_of_raised (paused : here.phase = .paused)
    (raised : 0 < here.signals.resume.count) :
    (waitOn host).run here = ⟨((tickOn true host).run here).value,
      ((tickOn true host).run here).state,
      .notice .waitingForResume :: ((tickOn true host).run here).trace⟩ := by
  obtain ⟨state, -⟩ := notifyAll_turns host.beforeResume here
  have waits := HostSignals.count_raises host.beforeResume here.signals .resume
  generalize host.beforeResume.foldl HostSignals.raise here.signals = signals at state waits
  have left : 0 < (signals.get .resume).count := by
    rw [waits]
    exact Nat.add_pos_left raised _
  have some : (signals.resume.count == 0) = false := by
    simpa using Nat.ne_of_gt (show 0 < signals.resume.count from left)
  simp [waitOn, comeBack, awaitResume, tickOn, run_bind, paused, state, some, run_take, left]

theorem deaf_tickOn (quiets : Bool) : Deaf (tickOn quiets host) := by
  refine steady_bind (deaf_notifyAll _) fun _ => steady_bind (deaf_take _) fun _ => ?_
  exact steady_bind (steady_whenever (deaf_endPause quiets)) fun _ => deaf_lastOfRound

theorem deaf_advanceTicking : Deaf (advanceTicking host) := by
  intro here there equal free freeThere
  by_cases paused : here.phase = .paused
  · have pausedThere := equal.phase.trans paused
    rw [run_advanceTicking_of_paused paused] at free ⊢
    rw [run_advanceTicking_of_paused pausedThere, equal.config] at freeThere ⊢
    have ticks : Deaf (do
        carryOutDuePause here.config.pauseAudio
        tickOn here.config.pauseAudio host) :=
      steady_bind (deaf_carryOutDuePause _) fun _ => deaf_tickOn _
    exact ticks here there equal free freeThere
  · have awakeThere : there.phase ≠ .paused := by
      rw [equal.phase]
      exact paused
    rw [run_advanceTicking_of_awake paused] at free ⊢
    rw [run_advanceTicking_of_awake awakeThere] at freeThere ⊢
    have looks : Deaf (do
        lookForPause host
        let _ ← recoverAudio
        read Lifecycle.phase) := steady_bind (deaf_lookForPause host) fun _ => deaf_lastOfRound
    exact looks here there equal free freeThere

/-- From a final pause on, a round that waits does what one does that does not. -/
theorem alike_onward (equal : EqualButAudio here there) (paused : here.phase = .paused)
    (raised : 0 < here.signals.resume.count)
    (free : Trace.Free Entry.isStall ((do
      carryOutDuePause true
      waitOn host).run here).trace)
    (freeThere : Trace.Free Entry.isStall ((do
      carryOutDuePause true
      tickOn true host).run there).trace) :
    Alike EqualButAudio Entry.deed?
      ((do
        carryOutDuePause true
        waitOn host).run here)
      ((do
        carryOutDuePause true
        tickOn true host).run there) := by
  rw [run_bind, Trace.free_append] at free freeThere
  have carried := deaf_carryOutDuePause true here there equal free.1 freeThere.1
  have still : ((carryOutDuePause true).run here).state.phase = .paused := by
    have done := footing_carryOutDuePause true here
    simp only [footing, Prod.mk.injEq] at done
    exact done.2.1.trans paused
  have left : 0 < ((carryOutDuePause true).run here).state.signals.resume.count :=
    Nat.lt_of_lt_of_le raised (resumes_le_carryOutDuePause true paused)
  have waited : (waitOn host).run _ = _ := run_waitOn_of_raised still left
  apply carried.bind
  rw [waited] at free ⊢
  have onward := deaf_tickOn true _ _ carried.state
    (fun entry member => free.2 entry (List.mem_cons_of_mem _ member)) freeThere.2
  exact ⟨onward.value, onward.state, onward.trace⟩

omit [Graphics.Layer γ] [Window.Layer σ] [TextInput τ] in
private theorem quiets_of_equal (equal : EqualButAudio here there)
    (quiets : here.config.pauseAudio = true) : there.config.pauseAudio = true := by
  rw [equal.config]
  exact quiets

/-- In the background a ticking round that silences audio does the work of a suspending one. -/
theorem run_advanceTicking_of_quiets (paused : here.phase = .paused)
    (quiets : here.config.pauseAudio = true) : (advanceTicking host).run here = (do
      carryOutDuePause true
      tickOn true host).run here := by
  rw [run_advanceTicking_of_paused paused, quiets]

/-- The recovery between two ticking rounds finds nothing, so the second goes on from the final
pause that the first left. -/
theorem alike_after_recovery (equal : EqualButAudio here there) (paused : here.phase = .paused)
    (quiets : here.config.pauseAudio = true) (raised : 0 < here.signals.resume.count)
    (free : Trace.Free Entry.isStall ((do
      carryOutDuePause true
      waitOn host).run here).trace)
    (freeThere : Trace.Free Entry.isStall ((do
      let _ ← recoverAudio
      advanceTicking host).run there).trace) :
    Alike EqualButAudio Entry.deed?
      ((do
        carryOutDuePause true
        waitOn host).run here)
      ((do
        let _ ← recoverAudio
        advanceTicking host).run there) := by
  rw [run_bind, Trace.free_append] at freeThere
  obtain ⟨same, idle⟩ := recoverAudio_of_free freeThere.1
  have recovered := equal.trans same
  have ticks : (advanceTicking host).run _ = _ :=
    run_advanceTicking_of_quiets (recovered.phase.trans paused) (quiets_of_equal recovered quiets)
  rw [ticks] at freeThere
  have onward := alike_onward recovered paused raised free freeThere.2
  rw [run_bind recoverAudio, ticks]
  refine ⟨onward.value, onward.state, ?_⟩
  rw [List.filterMap_append, idle]
  exact onward.trace

section Pace

variable (equal : EqualButAudio here there) (quiets : here.config.pauseAudio = true)
  (raised : 0 < here.signals.resume.count)
  (free : Trace.Free Entry.isStall ((advanceSuspending host).run here).trace)

include equal quiets raised free

/-- A suspending round that makes no pause final does what a ticking one does. -/
theorem alike_of_uncommitted
    (uncommitted : .milestone .committed ∉ ((advanceSuspending host).run here).trace)
    (freeThere : Trace.Free Entry.isStall ((advanceTicking host).run there).trace) :
    Alike EqualButAudio Entry.deed? ((advanceSuspending host).run here)
      ((advanceTicking host).run there) := by
  by_cases paused : here.phase = .paused
  · have pausedThere := equal.phase.trans paused
    rw [run_advanceSuspending_of_paused paused] at free ⊢
    rw [run_advanceTicking_of_quiets pausedThere (quiets_of_equal equal quiets)] at freeThere ⊢
    exact alike_onward equal paused raised free freeThere
  · have unfinal : ((lookForPause host).run here).state.phase ≠ .paused := by
      intro final
      exact uncommitted (committed_advanceSuspending_iff.mpr ⟨paused, final⟩)
    have same : (advanceSuspending host).run here = (advanceTicking host).run here := by
      rw [run_advanceSuspending_of_unfinal paused unfinal, run_advanceTicking_of_awake paused]
    rw [same] at free ⊢
    exact deaf_advanceTicking here there equal free freeThere

/-- A suspending round that makes a pause final does what two ticking ones do: its look is the
first, the rest is the second. -/
theorem alike_of_committed
    (committed : .milestone .committed ∈ ((advanceSuspending host).run here).trace)
    (freeThere : Trace.Free Entry.isStall ((do
      let _ ← advanceTicking host
      advanceTicking host).run there).trace) :
    Alike EqualButAudio Entry.deed? ((advanceSuspending host).run here)
      ((do
        let _ ← advanceTicking host
        advanceTicking host).run there) := by
  obtain ⟨awake, final⟩ := committed_advanceSuspending_iff.mp committed
  have awakeThere : there.phase ≠ .paused := by
    rw [equal.phase]
    exact awake
  have ticks : (do
      let _ ← advanceTicking host
      advanceTicking host).run there = (do
        lookForPause host
        let _ ← recoverAudio
        advanceTicking host).run there := by
    rw [run_bind, run_advanceTicking_of_awake awakeThere]
    simp [run_bind]
  rw [run_advanceSuspending_of_final awake final] at free ⊢
  rw [ticks] at freeThere ⊢
  rw [run_bind, Trace.free_append] at free freeThere
  have looked := deaf_lookForPause host here there equal free.1 freeThere.1
  have left : 0 < ((lookForPause host).run here).state.signals.resume.count := by
    rw [resumes_lookForPause host awake]
    exact Nat.add_pos_left raised _
  have setUp : ((lookForPause host).run here).state.config = here.config :=
    congrArg Bearing.config (looking_lookForPause host awake).next_eq
  have still : ((lookForPause host).run here).state.config.pauseAudio = true := by
    rw [setUp]
    exact quiets
  exact looked.bind (alike_after_recovery looked.state final still left free.2 freeThere.2)

end Pace

/-- How many ticking rounds do what a suspending round does that need not wait. -/
def ticksFor (host : HostActivity γ σ α τ) (lifecycle : Lifecycle γ σ α τ) : Nat :=
  if .committed ∈ Trace.milestones ((advanceSuspending host).run lifecycle).trace then 2 else 1

/-- A step with ticking rounds instead of a suspending one. -/
def unsuspend (lifecycle : Lifecycle γ σ α τ) : Step γ σ α τ → List (Step γ σ α τ)
  | .suspending host => List.replicate (ticksFor host lifecycle) (.ticking host)
  | step => [step]

/-- Steps with ticking rounds instead of suspending ones. -/
def unsuspended : Lifecycle γ σ α τ → List (Step γ σ α τ) → List (Step γ σ α τ)
  | _, [] => []
  | lifecycle, step :: rest =>
    lifecycle.unsuspend step ++ unsuspended ((go step).run lifecycle).state rest

/-- A resume is raised wherever a suspending round begins. -/
def ResumeRaised : Lifecycle γ σ α τ → List (Step γ σ α τ) → Prop
  | _, [] => True
  | lifecycle, step :: rest =>
    (step.mode? = some .suspending → 0 < lifecycle.signals.resume.count) ∧
      ResumeRaised ((go step).run lifecycle).state rest

instance decidableResumeRaised : (start : Lifecycle γ σ α τ) → (steps : List (Step γ σ α τ)) →
    Decidable (ResumeRaised start steps)
  | _, [] => isTrue trivial
  | start, step :: rest =>
    have := decidableResumeRaised ((go step).run start).state rest
    inferInstanceAs (Decidable ((step.mode? = some .suspending → 0 < start.signals.resume.count) ∧
      ResumeRaised ((go step).run start).state rest))

theorem ticking_of_unsuspended {start : Lifecycle γ σ α τ} {steps : List (Step γ σ α τ)}
    {step : Step γ σ α τ} (member : step ∈ unsuspended start steps) :
    step.mode? ≠ some .suspending := by
  induction steps generalizing start with
  | nil => cases member
  | cons first rest ih =>
    rcases List.mem_append.mp member with here | later
    · cases first with
      | suspending host =>
        obtain ⟨-, rfl⟩ := List.mem_replicate.mp here
        simp [Step.mode?]
      | around move =>
        obtain rfl := List.mem_singleton.mp here
        simp [Step.mode?]
      | ticking host =>
        obtain rfl := List.mem_singleton.mp here
        simp [Step.mode?]
    · exact ih later

theorem play_cons (step : Step γ σ α τ) (rest : List (Step γ σ α τ)) :
    play { steps := step :: rest } = (do
      go step
      play { steps := rest }) := by
  simp [play, forAll]

theorem play_single (step : Step γ σ α τ) : play { steps := [step] } = go step := by
  simp [play, forAll]

theorem play_append (first second : List (Step γ σ α τ)) :
    play { steps := first ++ second } = (do
      play { steps := first }
      play { steps := second }) := by
  induction first with
  | nil => simp [play, forAll]
  | cons step rest ih => rw [List.cons_append, play_cons, ih, play_cons, bind_assoc]

theorem config_go (step : Step γ σ α τ) (start : Lifecycle γ σ α τ) :
    ((go step).run start).state.config = start.config := by
  have course : Course (fun _ => True) start ((go step).run start).trace
      ((go step).run start).state := unfolds_go fun _ _ => trivial
  exact Course.config_eq course

/-- One step keeps pace with what stands for it. -/
theorem alike_unsuspend {step : Step γ σ α τ} (equal : EqualButAudio here there)
    (quiets : here.config.pauseAudio = true)
    (raised : step.mode? = some .suspending → 0 < here.signals.resume.count)
    (free : Trace.Free Entry.isStall ((go step).run here).trace)
    (freeThere :
      Trace.Free Entry.isStall ((play { steps := here.unsuspend step }).run there).trace) :
    Alike EqualButAudio Entry.deed? ((go step).run here)
      ((play { steps := here.unsuspend step }).run there) := by
  have kept (deaf : Deaf (go step)) (same : here.unsuspend step = [step]) :
      Alike EqualButAudio Entry.deed? ((go step).run here)
        ((play { steps := here.unsuspend step }).run there) := by
    rw [same, play_single] at freeThere ⊢
    exact deaf here there equal free freeThere
  cases step with
  | around move => exact kept (steady_bind (deaf_perform move) fun _ => steady_pure ()) rfl
  | ticking host => exact kept (steady_bind deaf_advanceTicking fun _ => steady_pure ()) rfl
  | suspending host =>
    have suspended : Trace.Free Entry.isStall ((advanceSuspending host).run here).trace := by
      simpa [go, run_bind] using free
    by_cases committed : .milestone .committed ∈ ((advanceSuspending host).run here).trace
    · have two : ticksFor host here = 2 := if_pos (Trace.mem_milestones.mpr committed)
      have ticks : play { steps := here.unsuspend (.suspending host) } = (do
          let _ ← (do
            let _ ← advanceTicking host
            advanceTicking host)
          pure ()) := by
        simp [unsuspend, two, List.replicate_succ, play, forAll, go]
      rw [ticks] at freeThere ⊢
      have twice := alike_of_committed equal quiets (raised rfl) suspended committed
        (by simpa [run_bind] using freeThere)
      exact twice.discard
    · have one : ticksFor host here = 1 := if_neg fun told =>
        committed (Trace.mem_milestones.mp told)
      have ticks : play { steps := here.unsuspend (.suspending host) } = go (.ticking host) := by
        simp [unsuspend, one, play_single]
      rw [ticks] at freeThere ⊢
      have once := alike_of_uncommitted equal quiets (raised rfl) suspended committed
        (by simpa [go, run_bind] using freeThere)
      exact once.discard

/-- Steps keep pace with what stands for them. -/
theorem alike_unsuspended {steps : List (Step γ σ α τ)} (equal : EqualButAudio here there)
    (quiets : here.config.pauseAudio = true) (raised : ResumeRaised here steps)
    (free : Trace.Free Entry.isStall ((play { steps }).run here).trace)
    (freeThere :
      Trace.Free Entry.isStall ((play { steps := unsuspended here steps }).run there).trace) :
    Alike EqualButAudio Entry.deed? ((play { steps }).run here)
      ((play { steps := unsuspended here steps }).run there) := by
  induction steps generalizing here there with
  | nil => exact ⟨rfl, equal, rfl⟩
  | cons step rest ih =>
    rw [play_cons] at free ⊢
    rw [unsuspended, play_append] at freeThere ⊢
    rw [run_bind, Trace.free_append] at free freeThere
    have stepped := alike_unsuspend equal quiets raised.1 free.1 freeThere.1
    have still : ((go step).run here).state.config.pauseAudio = true := by
      rw [config_go]
      exact quiets
    exact stepped.bind (ih stepped.state still raised.2 free.2 freeThere.2)

end Rounds

end Lifecycle

variable [Graphics.Layer γ] [Window.Layer σ] [TextInput τ]

/-- While a resume is raised and no output stalls, the two kinds of round keep pace. A suspending
round does what one ticking round does, or what two do if it makes a pause final: the answer
is the same, and so are all that is done, in its order, and what the lifecycle becomes, the
state of the outputs apart. So steps with suspending rounds do what steps without any do. -/
theorem suspending_and_ticking_rounds_keep_pace (start : Lifecycle γ σ α τ)
    (quiets : start.config.pauseAudio = true) :
    (∀ host, 0 < start.signals.resume.count →
      let suspending := (Lifecycle.advanceSuspending host).run start
      let once := (Lifecycle.advanceTicking host).run start
      let twice := (do
        let _ ← Lifecycle.advanceTicking host
        Lifecycle.advanceTicking host).run start
      let commits := start.phase ≠ .paused ∧
        ((Lifecycle.lookForPause host).run start).state.phase = .paused
      Trace.Free Entry.isStall suspending.trace →
        (¬commits → Trace.Free Entry.isStall once.trace →
          Alike Lifecycle.EqualButAudio Entry.deed? suspending once) ∧
        (commits → Trace.Free Entry.isStall twice.trace →
          Alike Lifecycle.EqualButAudio Entry.deed? suspending twice)) ∧
    ∀ steps, Lifecycle.ResumeRaised start steps →
      let ticking := Lifecycle.unsuspended start steps
      (∀ step ∈ ticking, step.mode? ≠ some .suspending) ∧
      (Trace.Free Entry.isStall ((Lifecycle.play { steps }).run start).trace →
        Trace.Free Entry.isStall ((Lifecycle.play { steps := ticking }).run start).trace →
        Alike Lifecycle.EqualButAudio Entry.deed? ((Lifecycle.play { steps }).run start)
          ((Lifecycle.play { steps := ticking }).run start)) := by
  have same : Lifecycle.EqualButAudio start start := .refl start
  constructor
  · intro host raised suspending once twice commits free
    have committed : .milestone .committed ∈ suspending.trace ↔ commits :=
      Lifecycle.committed_advanceSuspending_iff
    constructor
    · intro uncommitted freeOnce
      have silent : .milestone .committed ∉ suspending.trace := mt committed.mp uncommitted
      exact Lifecycle.alike_of_uncommitted same quiets raised free silent freeOnce
    · intro final freeTwice
      exact Lifecycle.alike_of_committed same quiets raised free (committed.mpr final) freeTwice
  · intro steps raised ticking
    constructor
    · intro step member
      exact Lifecycle.ticking_of_unsuspended member
    · intro free freeTicking
      exact Lifecycle.alike_unsuspended same quiets raised free freeTicking

/-- A lifecycle with an output that never finds that it stalled. -/
def Rehearsal.sound : Rehearsal.RehearsedLifecycle :=
  .fresh {} opening [Scripts.output .probing "recording" 0] [{ stalls := List.replicate 4 false }]
    (some {})

/-- The resume comes with the pause, and the app sees the pause between two rounds. -/
def Rehearsal.hurriedReturn : RehearsedRun where
  steps := [.around (.notify .pause 1), .around (.notify .resume 1), .suspending {}, .around .drain,
    .suspending {}]

/-- The first of the two suspending rounds only announces the pause, the second makes it final
and ends it. -/
theorem hurried_return_keeps_pace :
    let start := Rehearsal.sound
    let steps := Rehearsal.hurriedReturn.steps
    let ticking := Lifecycle.unsuspended start steps
    let seen := ((Lifecycle.play { steps := steps.take 4 }).run start).state
    Alike Lifecycle.EqualButAudio Entry.deed? ((Lifecycle.advanceSuspending {}).run seen)
        ((do
          let _ ← Lifecycle.advanceTicking {}
          Lifecycle.advanceTicking {}).run seen) ∧
      ticking.map Step.mode? = [none, none, some .ticking, none, some .ticking, some .ticking] ∧
      Alike Lifecycle.EqualButAudio Entry.deed? ((Lifecycle.play { steps }).run start)
        ((Lifecycle.play { steps := ticking }).run start) := by
  intro start steps ticking seen
  obtain ⟨rounds, -⟩ := suspending_and_ticking_rounds_keep_pace seen (by decide)
  obtain ⟨-, final⟩ := rounds {} (by decide) (by decide)
  obtain ⟨-, runs⟩ := suspending_and_ticking_rounds_keep_pace start rfl
  obtain ⟨-, alike⟩ := runs steps (by decide)
  exact ⟨final (by decide) (by decide), by decide, alike (by decide) (by decide)⟩

end AppLifecycle
