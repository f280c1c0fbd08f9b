import AppLifecycle.Proofs.Moves
import AppLifecycle.Proofs.SignalCounts
import AppLifecycle.Proofs.Stage

/-! Rounds are courses of stages. What has to be seen is that each stage happens only where
it can: a pause is carried out at most once and before any resume is taken, and a round
that waits has a resume to take when it goes on. The moves of others do not get in the
way, because only the lifecycle itself changes its configuration, its phase and whether
a pause still has to be carried out. -/
namespace AppLifecycle

open Traced

variable {γ σ α τ : Type}

namespace Lifecycle

/-- What only the lifecycle itself changes. -/
def footing (lifecycle : Lifecycle γ σ α τ) : Config × Phase × Bool :=
  (lifecycle.config, lifecycle.phase, lifecycle.carryOutDue)

private theorem footing_apart :
    ApartFromMoves (footing : Lifecycle γ σ α τ → Config × Phase × Bool) (fun _ => false) :=
  ⟨fun _ _ => rfl, fun _ _ => rfl, fun _ _ _ _ _ => rfl, fun _ => rfl, fun _ => rfl, fun _ => rfl,
    fun _ => rfl⟩

theorem keeps_footing_notifyAll (kinds : List SignalKind) :
    Keeps footing (notifyAll kinds : Traced (Lifecycle γ σ α τ) Unit) :=
  spares_notifyAll footing_apart kinds

theorem keeps_footing_perform (move : Move γ σ α τ) : Keeps footing (perform move) :=
  spares_perform footing_apart move

theorem keeps_footing_take (kind : SignalKind) :
    Keeps footing (take kind : Traced (Lifecycle γ σ α τ) Bool) :=
  spares_take (fun _ _ => rfl) rfl

theorem keeps_footing_suspend (host : HostActivity γ σ α τ) : Keeps footing (suspend host) :=
  spares_suspend footing_apart host rfl fun _ => rfl

/-- Carrying out a pause leaves the phase as it is, and nothing to carry out. -/
theorem footing_carryOutDuePause [Graphics.Layer γ] (pauseAudio : Bool)
    (lifecycle : Lifecycle γ σ α τ) :
    ((carryOutDuePause pauseAudio).run lifecycle).state.footing =
      (lifecycle.config, lifecycle.phase, false) := by
  have still : Keeps (fun lifecycle : Lifecycle γ σ α τ => (lifecycle.config, lifecycle.phase))
      (carryOutDuePause pauseAudio) := by
    refine spares_bind (spares_read _) fun due => spares_whenever ?_
    refine spares_bind (spares_tell rfl) fun _ => spares_bind (spares_read _) fun external => ?_
    refine spares_bind (spares_whenever ?_) fun _ => spares_bind (spares_whenever ?_) fun _ => ?_
    · exact spares_bind (keeps_within fun _ _ => rfl) fun _ => spares_pure ()
    · exact spares_bind (spares_read _) fun _ => keeps_within fun _ _ => rfl
    · exact spares_update fun _ => rfl
  have done : ((carryOutDuePause pauseAudio).run lifecycle).state.carryOutDue = false := by
    unfold carryOutDuePause
    rw [run_bind]
    cases due : lifecycle.carryOutDue with
    | false => simp [due]
    | true => simp [due, carryOutPause, run_bind]
  obtain ⟨config, phase⟩ := Prod.mk.inj (still lifecycle).1
  simp [footing, config, phase, done]

theorem resume_raised_after_suspend (host : HostActivity γ σ α τ)
    (lifecycle : Lifecycle γ σ α τ) :
    0 < ((suspend host).run lifecycle).state.signals.resume.count := by
  simp only [suspend, run_bind, run_tell, run_read]
  generalize ((forAll perform host.whileSuspended).run lifecycle).state = released
  cases none : released.signals.resume.count == 0 with
  | false => simpa [Nat.pos_iff_ne_zero] using none
  | true =>
    simp [notifyAll, forAll, run_bind, onSignals, HostSignals.notify, HostSignals.on,
      HostSignals.get, HostSignals.set]

/-- A wait, up to the moment at which a resume is there to be taken. -/
def untilResume (host : HostActivity γ σ α τ) : Traced (Lifecycle γ σ α τ) Unit := do
  notifyAll host.beforeResume
  let raised ← read fun lifecycle => lifecycle.signals.resume.count
  whenever (raised == 0) (suspend host)

theorem awaitResume_eq (host : HostActivity γ σ α τ) :
    awaitResume host = (do
      untilResume host
      let _ ← take .resume
      pure ()) := by
  simp [awaitResume, untilResume]

theorem keeps_footing_untilResume (host : HostActivity γ σ α τ) :
    Keeps footing (untilResume host) :=
  spares_bind (keeps_footing_notifyAll _) fun _ => spares_bind (spares_read _) fun _ =>
    spares_whenever (keeps_footing_suspend host)

theorem resume_raised_after_untilResume (host : HostActivity γ σ α τ)
    (lifecycle : Lifecycle γ σ α τ) :
    0 < ((untilResume host).run lifecycle).state.signals.resume.count := by
  simp only [untilResume, run_bind, run_read]
  generalize ((notifyAll host.beforeResume).run lifecycle).state = raised
  cases none : raised.signals.resume.count == 0 with
  | true => exact resume_raised_after_suspend host raised
  | false => simpa [Nat.pos_iff_ne_zero] using none

section Unfolding

variable [Graphics.Layer γ] [Window.Layer σ] [TextInput τ] {permitted : Stage γ σ α τ → Prop}
  {step : Step γ σ α τ} {host : HostActivity γ σ α τ} {start : Lifecycle γ σ α τ}

theorem unfolds_perform {move : Move γ σ α τ} (ok : permitted (.move move)) :
    Unfolds permitted (perform move) start := by
  have single : Unfolds permitted (Stage.move move).act start := unfolds_stage _ ok trivial
  simpa [Unfolds, Stage.act, run_bind] using single

theorem unfolds_notifyAll (kinds : List SignalKind)
    (ok : ∀ kind ∈ kinds, permitted (.move (.notify kind 1))) :
    Unfolds permitted (notifyAll kinds) start := by
  refine unfolds_discard (unfolds_forAll kinds fun kind member start => ?_)
  have single : Unfolds permitted (perform (.notify kind 1)) start :=
    unfolds_perform (ok kind member)
  simpa [Unfolds, perform, notifyAll, forAll, run_bind] using single

theorem unfolds_carryOutDuePause (mode : LoopMode) {pauseAudio : Bool}
    (ok : permitted (.carryOut mode)) (quiets : pauseAudio = start.config.quietsAudio mode)
    (paused : start.phase = .paused) : Unfolds permitted (carryOutDuePause pauseAudio) start := by
  refine unfolds_read (unfolds_whenever fun due => ?_)
  subst quiets
  exact unfolds_stage (.carryOut mode) ok ⟨paused, due⟩

/-- A resume that is taken ends the pause in one stage. -/
theorem unfolds_take_endPause (mode : LoopMode) {resumeAudio : Bool}
    (ok : permitted (.comeBack mode)) (quiets : resumeAudio = start.config.quietsAudio mode)
    (paused : start.phase = .paused) (settled : start.carryOutDue = false)
    (raised : 0 < start.signals.resume.count) :
    Unfolds permitted (do
      let _ ← take .resume
      endPause resumeAudio) start := by
  have single := unfolds_stage (.comeBack mode) ok ⟨paused, settled, raised⟩
  have config := congrArg Prod.fst ((keeps_footing_take (γ := γ) (σ := σ) (α := α) (τ := τ)
    .resume) start).1
  simp only [footing] at config
  subst quiets
  simpa [Unfolds, Stage.act, run_bind, config] using single

theorem unfolds_suspend (ok : ∀ stage, (Step.suspending host).Has stage → permitted stage) :
    Unfolds permitted (suspend host) start := by
  have moves : ∀ move ∈ host.whileSuspended, permitted (.move move) := fun move member =>
    ok _ (Step.has_move (by simp [Step.moves, HostActivity.moves, member]))
  have resume : permitted (.move (.notify .resume 1)) :=
    ok _ (Step.has_move (by simp [Step.moves]))
  refine unfolds_bind (unfolds_remark (ok _ (Step.has_remark _ _)) rfl) ?_
  refine unfolds_bind (unfolds_forAll _ fun move member start => ?_) (unfolds_read ?_)
  · exact unfolds_perform (moves move member)
  · refine unfolds_bind (unfolds_whenever fun _ => unfolds_notifyAll _ (by simpa using resume)) ?_
    exact unfolds_remark (ok _ (Step.has_remark _ _)) rfl

/-- A suspending round up to the wait; a pause that it leaves behind is carried out. -/
theorem unfolds_settleDown (ok : ∀ stage, (Step.suspending host).Has stage → permitted stage) :
    Unfolds permitted (settleDown host) start := by
  have look : permitted (.look host) := ok _ (Step.has_look (by simp +contextual [Step.moves]))
  have carryOut : permitted (.carryOut .suspending) := ok _ (Step.has_carryOut rfl)
  refine unfolds_read (unfolds_bind (unfolds_whenever fun awake => ?_) (unfolds_read ?_))
  · exact unfolds_stage (.look host) look (by simpa [Stage.Ready] using awake)
  · refine unfolds_whenever fun paused => unfolds_bind ?_ ?_
    · exact unfolds_carryOutDuePause .suspending carryOut rfl (by simpa using paused)
    · exact unfolds_remark (ok _ (Step.has_remark _ _)) rfl

omit [Window.Layer σ] [TextInput τ] in
theorem settled_after_settleDown
    (paused : ((settleDown host).run start).state.phase = .paused) :
    ((settleDown host).run start).state.carryOutDue = false := by
  revert paused
  simp only [settleDown, run_bind, run_read]
  generalize ((whenever (start.phase != .paused) (lookForPause host)).run start).state = seen
  cases here : seen.phase == .paused with
  | false => simpa using fun paused => absurd paused (by simpa using here)
  | true =>
    have settled := footing_carryOutDuePause true seen
    simp only [footing, Prod.mk.injEq] at settled
    simp [run_bind, settled]

theorem unfolds_untilResume (ok : ∀ stage, (Step.suspending host).Has stage → permitted stage) :
    Unfolds permitted (untilResume host) start := by
  refine unfolds_bind (unfolds_notifyAll _ fun kind member => ?_) (unfolds_read ?_)
  · exact ok _ (Step.has_move (by simp [Step.moves, HostActivity.moves, member]))
  · exact unfolds_whenever fun _ => unfolds_suspend ok

/-- A suspending round from the wait on. -/
theorem unfolds_comeBack (ok : ∀ stage, (Step.suspending host).Has stage → permitted stage)
    (settled : start.phase = .paused → start.carryOutDue = false) :
    Unfolds permitted (comeBack host) start := by
  refine unfolds_read (unfolds_whenever fun here => ?_)
  have paused : start.phase = .paused := by simpa using here
  have returns : (do
      awaitResume host
      endPause true : Traced (Lifecycle γ σ α τ) Unit) = (do
        untilResume host
        let _ ← take .resume
        endPause true) := by
    simp [awaitResume_eq]
  rw [returns]
  refine unfolds_bind (unfolds_untilResume ok) ?_
  have counted := resume_raised_after_untilResume host start
  have still := (keeps_footing_untilResume host start).1
  generalize ((untilResume host).run start).state = released at counted still ⊢
  simp only [Lifecycle.footing, Prod.mk.injEq] at still
  obtain ⟨-, phase, due⟩ := still
  exact unfolds_take_endPause .suspending (ok _ (Step.has_comeBack rfl)) rfl
    (phase.trans paused) (due.trans (settled paused)) counted

theorem unfolds_recoverAudio (ok : permitted .recover) : Unfolds permitted recoverAudio start := by
  have single : Unfolds permitted Stage.recover.act start := unfolds_stage _ ok trivial
  simpa [Unfolds, Stage.act, run_bind] using single

theorem unfolds_advanceSuspending
    (ok : ∀ stage, (Step.suspending host).Has stage → permitted stage) :
    Unfolds permitted (advanceSuspending host) start := by
  refine unfolds_bind (unfolds_settleDown ok) ?_
  refine unfolds_bind (unfolds_comeBack ok settled_after_settleDown) ?_
  exact unfolds_bind (unfolds_recoverAudio (ok _ (Step.has_recover _))) Chain.rest

theorem unfolds_standBy (ok : ∀ stage, (Step.suspending host).Has stage → permitted stage) :
    Unfolds permitted (standBy host) start := by
  have moves : ∀ move ∈ host.moves, permitted (.move move) :=
    fun move member => ok _ (Step.has_move (by simp [Step.moves, member]))
  refine unfolds_bind (unfolds_settleDown ok) (unfolds_read (unfolds_whenever fun _ => ?_))
  refine unfolds_bind (unfolds_notifyAll _ fun kind member => ?_) ?_
  · exact moves _ (by simp [HostActivity.moves, member])
  · refine unfolds_read (unfolds_whenever fun _ => ?_)
    refine unfolds_bind (unfolds_remark (ok _ (Step.has_remark _ _)) rfl) ?_
    refine unfolds_discard (unfolds_forAll _ fun move member start => ?_)
    exact unfolds_perform (moves move (by simp [HostActivity.moves, member]))

theorem unfolds_tickPaused (ok : ∀ stage, (Step.ticking host).Has stage → permitted stage)
    (paused : start.phase = .paused) : Unfolds permitted (tickPaused host) start := by
  have raises : ∀ kind ∈ host.beforeResume, permitted (.move (.notify kind 1)) :=
    fun kind member => ok _ (Step.has_move (by simp [Step.moves, HostActivity.moves, member]))
  refine unfolds_read (unfolds_bind ?_ (unfolds_bind (unfolds_notifyAll _ raises) ?_))
  · exact unfolds_carryOutDuePause .ticking (ok _ (Step.has_carryOut rfl)) rfl paused
  · have settled := footing_carryOutDuePause start.config.pauseAudio start
    generalize ((carryOutDuePause start.config.pauseAudio).run start).state = done at settled ⊢
    have still := ((keeps_footing_notifyAll host.beforeResume) done).1.trans settled
    generalize ((notifyAll host.beforeResume).run done).state = raised at still ⊢
    simp only [footing, Prod.mk.injEq] at still
    obtain ⟨config, phase, due⟩ := still
    by_cases resumed : 0 < (raised.signals.get .resume).count
    · have ends : Unfolds permitted (do
          let _ ← take .resume
          endPause start.config.pauseAudio) raised :=
        unfolds_take_endPause .ticking (ok _ (Step.has_comeBack rfl))
          (congrArg Config.pauseAudio config).symm (phase.trans paused) due resumed
      unfold Unfolds at ends ⊢
      simpa [run_bind, run_take, resumed] using ends
    · have idle := run_take_of_none (Nat.eq_zero_of_not_pos resumed)
      unfold Unfolds
      simpa [run_bind, idle] using Chain.rest

theorem unfolds_advanceTicking (ok : ∀ stage, (Step.ticking host).Has stage → permitted stage) :
    Unfolds permitted (advanceTicking host) start := by
  have ending {state : Lifecycle γ σ α τ} : Unfolds permitted (do
      let _ ← recoverAudio
      read Lifecycle.phase) state :=
    unfolds_bind (unfolds_recoverAudio (ok _ (Step.has_recover _))) Chain.rest
  have look : permitted (.look host) := ok _ (Step.has_look (by simp [Step.moves]))
  refine unfolds_read ?_
  have looks (awake : start.phase ≠ .paused) : Unfolds permitted (lookForPause host) start :=
    unfolds_stage (.look host) look awake
  cases here : start.phase with
  | paused => exact unfolds_bind (unfolds_tickPaused ok here) ending
  | running => exact unfolds_bind (looks (by simp [here])) ending
  | pausing => exact unfolds_bind (looks (by simp [here])) ending

theorem unfolds_go (ok : ∀ stage, step.Has stage → permitted stage) :
    Unfolds permitted (go step) start := by
  cases step with
  | around move =>
    have moves : permitted (.move move) := ok _ (Step.has_move (by simp [Step.moves]))
    exact unfolds_discard (unfolds_perform moves)
  | suspending host => exact unfolds_discard (unfolds_advanceSuspending ok)
  | ticking host => exact unfolds_discard (unfolds_advanceTicking ok)

/-- Every run is a course of stages, each of which belongs to one of its steps. -/
theorem unfolds_play (run : Run γ σ α τ) : Unfolds run.Has (play run) start := by
  obtain ⟨steps, unfinished⟩ := run
  refine unfolds_bind (unfolds_forAll _ fun step member start => ?_) ?_
  · exact unfolds_go fun stage has => ⟨step, by simp [Run.allSteps, member], has⟩
  · cases unfinished with
    | none => exact unfolds_pure ()
    | some host =>
      exact unfolds_standBy fun stage has => ⟨.suspending host, by simp [Run.allSteps], has⟩

end Unfolding

end Lifecycle

end AppLifecycle
