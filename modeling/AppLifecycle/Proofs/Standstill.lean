import AppLifecycle.Proofs.TickProgress

/-! Ticks that come to nothing. Every ticking round that gets a lifecycle any further uses up some
of a measure of what the raised pauses can still set off, and what it pushes itself adds nothing
to that. So ticks alone come to a standstill, whatever else is raised or queued, and from
there on a round looks after the audio outputs and does nothing else. -/
namespace AppLifecycle

open Traced Trace

variable {γ σ α τ : Type}

/-- The entries of a round that comes to nothing: what the host raised, calls on the outputs and
notices. -/
def Entry.isIdle : Entry → Bool
  | .audio _ _ | .raised _ | .notice _ => true
  | _ => false

/-- What the host raises in a ticking round before the only look taken at its signals. -/
def HostActivity.raisedIn (host : HostActivity γ σ α τ) : Phase → List SignalKind
  | .running => host.beforeTake
  | .pausing => host.beforeCount
  | .paused => host.beforeResume

@[simp] theorem HostActivity.raisedIn_of_none (phase : Phase) :
    ({} : HostActivity γ σ α τ).raisedIn phase = [] := by
  cases phase <;> rfl

/-- Nothing changed but the signals that were raised and the audio outputs themselves, and
nothing was asked of anyone but of outputs whose playback may have stalled. -/
structure Uneventful (raised : List SignalKind) (now : Lifecycle γ σ α τ) (trace : List Entry)
    (next : Lifecycle γ σ α τ) : Prop where
  kept : next = { now with
    audio := next.audio, signals := raised.foldl HostSignals.raise now.signals }
  only : ∀ entry ∈ trace, entry.isIdle = true
  recoveries : ∀ position, Audio.Recoveries (audioCalls position trace)

namespace Standing

/-- The standing once signals are raised. -/
def hearing (now : Standing) (raised : List SignalKind) : Standing :=
  { now with signals := raised.foldl HostSignals.raise now.signals }

/-- A standing in which there is nothing to do for a ticking round. -/
def Standstill (now : Standing) : Prop :=
  match now.phase with
  | .running => now.signals.pause.count = 0
  | .pausing => now.signals.pause.count < now.events.count .didEnterBackground
  | .paused => now.due = false ∧ now.signals.resume.count = 0

/-- How many changes of phase and commitment the raised pauses can still set off, if every pause
is ended. -/
def stepsLeft (now : Standing) : Nat :=
  4 * now.signals.pause.count +
    match now.phase with
    | .running => 0
    | .pausing => 3
    | .paused => if now.due then 2 else 1

theorem stepsLeft_le (now : Standing) : now.stepsLeft ≤ 4 * now.signals.pause.count + 3 := by
  unfold stepsLeft
  split
  · omega
  · omega
  · split <;> omega

/-- Where no step is left there is nothing to do. -/
theorem standstill_of_none {now : Standing} (none : now.stepsLeft = 0) : now.Standstill := by
  unfold stepsLeft at none
  unfold Standstill
  cases here : now.phase with
  | running =>
    simp only [here] at none ⊢
    omega
  | pausing => simp [here] at none
  | paused =>
    simp only [here] at none
    split at none <;> omega

end Standing

section Measure

variable {now next start finish : Standing} {entries trace : List Entry}

/-- With no moves around it, a turn uses up some of the steps left or is no step. -/
theorem Turn.stepsLeft (turn : Turn (fun _ : Move γ σ α τ => False) now entries next) :
    next.stepsLeft < now.stepsLeft ∨
      next.phase = now.phase ∧ next.due = now.due ∧ next.stepsLeft = now.stepsLeft := by
  cases turn with
  | raised kind times ok => cases ok
  | spent kind ok => cases ok
  | pushed event times ok some => cases ok
  | removed event rest oldest => exact .inr ⟨rfl, rfl, rfl⟩
  | announced running raised =>
    have one : (now.signals.spend .pause).pause.count = now.signals.pause.count - 1 :=
      HostSignals.count_spend now.signals .pause .pause
    left
    simp only [Standing.stepsLeft, running, Standing.announce, one]
    omega
  | committed pausing few =>
    left
    simp only [Standing.stepsLeft, pausing, Standing.commit, if_pos]
    omega
  | carriedOut paused due =>
    left
    simp [Standing.stepsLeft, paused, due, Standing.carryOut]
  | ended reset paused settled raised restored =>
    have pauses : (now.signals.spend .resume).pause.count = now.signals.pause.count :=
      HostSignals.count_spend now.signals .resume .pause
    left
    simp [Standing.stepsLeft, paused, settled, Standing.comeBack, pauses]

theorem Turns.stepsLeft (turns : Turns (fun _ : Move γ σ α τ => False) start trace finish) :
    finish.stepsLeft < start.stepsLeft ∨
      finish.phase = start.phase ∧ finish.due = start.due ∧
        finish.stepsLeft = start.stepsLeft := by
  induction turns with
  | rest => exact .inr ⟨rfl, rfl, rfl⟩
  | next before last ih =>
    rcases ih with fewer | ⟨phase, due, same⟩
    · rcases last.stepsLeft with fewerYet | ⟨-, -, unchanged⟩
      · exact .inl (Nat.lt_trans fewerYet fewer)
      · exact .inl (unchanged ▸ fewer)
    · rw [← phase, ← due, ← same]
      exact last.stepsLeft

end Measure

namespace Lifecycle

theorem uneventful_idleRound (raised : List SignalKind) (now : Lifecycle γ σ α τ) :
    Uneventful raised now ((idleRound raised).run now).trace
      ((idleRound raised).run now).state := by
  refine ⟨?_, fun entry member => ?_, fun position => ?_⟩
  · simp only [idleRound, run_bind, run_read, (notifyAll_turns raised now).1]
    rfl
  · have idle : Spares (fun _ : Lifecycle γ σ α τ => ()) (fun entry => !entry.isIdle)
        (idleRound raised) := by
      refine spares_bind ?_ fun _ => spares_bind ?_ fun _ => spares_read _
      · exact spares_raising raised (fun _ _ => rfl) (fun _ => rfl) fun _ => rfl
      · exact spares_recoverAudio (fun _ _ => rfl) (fun _ _ => rfl) fun _ => rfl
    simpa using List.filter_eq_nil_iff.mp (idle now).2 entry member
  · have raising := Aside.of_spared (spares_notifyAll apart_from_dealing raised now).2
    have recovered := (aside_recoverAudio ((notifyAll raised).run now).state).2
    simpa [idleRound, run_bind] using (raising.toQuiet.append recovered.toQuiet).outputs position

variable [Graphics.Layer γ] [Window.Layer σ] [TextInput τ] {host : HostActivity γ σ α τ}
  {now : Lifecycle γ σ α τ}

omit [Window.Layer σ] [TextInput τ] in
theorem run_carryOutDuePause_of_settled (quiets : Bool) (settled : now.carryOutDue = false) :
    (carryOutDuePause quiets).run now = ⟨(), now, []⟩ := by
  simp [carryOutDuePause, run_bind, settled]

/-- A round that finds a standstill comes to nothing. -/
theorem run_tick_of_standstill
    (still : (now.standing.hearing (host.raisedIn now.phase)).Standstill) :
    (advanceTicking host).run now = (idleRound (host.raisedIn now.phase)).run now := by
  have counted (kind : SignalKind) :=
    HostSignals.count_raises (host.raisedIn now.phase) now.signals kind
  cases here : now.phase with
  | running =>
    simp only [Standing.Standstill, Standing.hearing, standing, here] at still counted
    have awake : now.phase ≠ .paused := by simp [here]
    have none : ¬ host.findsPause now := fun found =>
      Nat.ne_of_gt found.2 ((counted .pause).symm.trans still)
    have look := run_lookForPause_of_none (by simp [here]) none
    rw [run_advanceTicking_of_awake awake, run_bind, look]
    rfl
  | pausing =>
    simp only [Standing.Standstill, Standing.hearing, standing, here] at still counted
    have awake : now.phase ≠ .paused := by simp [here]
    have look := run_lookForPause_of_pending here
      (Nat.lt_of_le_of_lt (Nat.le_of_eq (counted .pause).symm) still)
    rw [run_advanceTicking_of_awake awake, run_bind, look]
    rfl
  | paused =>
    simp only [Standing.Standstill, Standing.hearing, standing, here] at still counted
    rw [run_advanceTicking_of_paused here, run_bind, run_carryOutDuePause_of_settled _ still.1]
    exact run_tickOn_of_none _ ((counted .resume).symm.trans still.2)

/-- A round that leaves phase and commitment as they are found a standstill. -/
theorem standstill_of_unchanged
    (phase : ((advanceTicking host).run now).state.phase = now.phase)
    (due : ((advanceTicking host).run now).state.carryOutDue = now.carryOutDue) :
    (now.standing.hearing (host.raisedIn now.phase)).Standstill := by
  have counted (kind : SignalKind) :=
    HostSignals.count_raises (host.raisedIn now.phase) now.signals kind
  cases here : now.phase with
  | running =>
    simp only [Standing.Standstill, Standing.hearing, standing, here] at counted ⊢
    refine (counted .pause).trans (Nat.eq_zero_of_not_pos fun raised => ?_)
    exact tick_of_found here ⟨by simp [here], raised⟩ (phase.trans here)
  | pausing =>
    simp only [Standing.Standstill, Standing.hearing, standing, here] at counted ⊢
    refine Nat.lt_of_le_of_lt (Nat.le_of_eq (counted .pause)) (Nat.lt_of_not_le fun few => ?_)
    have final := (look_of_pausing host here).2.mpr few
    have awake : now.phase ≠ .paused := by simp [here]
    have same := congrArg Standing.phase (standing_tick_of_awake host awake)
    cases (same.trans final).symm.trans (phase.trans here)
  | paused =>
    simp only [Standing.Standstill, Standing.hearing, standing, here] at counted ⊢
    have settled : now.carryOutDue = false := by
      have background : ((advanceTicking host).run now).state.phase = .running ∨ _ :=
        tick_of_paused here
      rcases background with running | ⟨-, settled, -⟩
      · cases running.symm.trans (phase.trans here)
      · exact due.symm.trans settled
    refine ⟨settled, (counted .resume).trans (Nat.eq_zero_of_not_pos fun raised => ?_)⟩
    have returned := phase_tickOn_of_raised now.config.pauseAudio raised
    rw [run_advanceTicking_of_paused here, run_bind, run_carryOutDuePause_of_settled _ settled]
      at phase
    cases returned.symm.trans (phase.trans here)

section Alone

/-- A round in which nothing is raised finds a standstill, or uses up some of the steps left. -/
theorem standstill_or_further (now : Lifecycle γ σ α τ) :
    now.standing.Standstill ∨
      ((advanceTicking {}).run now).state.standing.stepsLeft < now.standing.stepsLeft := by
  have turns : Turning (fun _ => False) (play { steps := [.ticking {}] }) now :=
    play_turns { steps := [.ticking {}] } now fun move member => by
      simp [Run.moves, Run.allSteps, Step.moves, HostActivity.moves] at member
  rw [play_single] at turns
  rcases turns.stepsLeft with fewer | ⟨phase, due, -⟩
  · exact .inr fewer
  · have still := standstill_of_unchanged phase due
    rw [HostActivity.raisedIn_of_none] at still
    exact .inl still

theorem run_tick_of_standstill_alone (still : now.standing.Standstill) :
    (advanceTicking {}).run now = (idleRound []).run now := by
  rw [run_tick_of_standstill (by rwa [HostActivity.raisedIn_of_none]),
    HostActivity.raisedIn_of_none]

/-- Ticks alone have come to a standstill, or have used up a step each. -/
theorem standstill_or_further_after (ticks : Nat) (now : Lifecycle γ σ α τ) :
    let settled := ((play { steps := .replicate ticks (.ticking {}) }).run now).state
    settled.standing.Standstill ∨
      settled.standing.stepsLeft + ticks ≤ now.standing.stepsLeft := by
  induction ticks with
  | zero => exact .inr (Nat.le_refl _)
  | succ ticks ih =>
    rw [List.replicate_succ', play_append, play_single, run_bind]
    generalize ((play { steps := .replicate ticks (.ticking {}) }).run now).state = settled at ih ⊢
    intro next
    have reached : next = ((advanceTicking {}).run settled).state := rfl
    have stays (still : settled.standing.Standstill) : next.standing.Standstill := by
      rw [reached, run_tick_of_standstill_alone still, standing_idleRound]
      exact still
    rcases ih with still | fewer
    · exact .inl (stays still)
    · rcases standstill_or_further settled with still | further
      · exact .inl (stays still)
      · right
        rw [reached]
        omega

end Alone

end Lifecycle

variable [Graphics.Layer γ] [Window.Layer σ] [TextInput τ]

/-- A ticking round that leaves the phase as it is, and a final pause as due as it was, changes
nothing else and calls nobody but outputs whose playback may have stalled. With nothing but ticks
in which nothing is raised, each raised pause accounts for four rounds that are not like that,
and a pause under way for three; every round after those is. -/
theorem ticks_come_to_a_standstill (now : Lifecycle γ σ α τ) :
    (∀ host : HostActivity γ σ α τ,
      let outcome := (Lifecycle.advanceTicking host).run now
      outcome.state.phase = now.phase → outcome.state.carryOutDue = now.carryOutDue →
        Uneventful (host.raisedIn now.phase) now outcome.trace outcome.state) ∧
    ∀ ticks : Nat, 4 * now.signals.pause.count + 3 ≤ ticks →
      let settled :=
        ((Lifecycle.play { steps := .replicate ticks (.ticking {}) }).run now).state
      let outcome := (Lifecycle.advanceTicking {}).run settled
      Uneventful [] settled outcome.trace outcome.state := by
  constructor
  · intro host outcome phase due
    have still := Lifecycle.standstill_of_unchanged phase due
    simp only [outcome, Lifecycle.run_tick_of_standstill still]
    exact Lifecycle.uneventful_idleRound _ now
  · intro ticks enough settled outcome
    have still : settled.standing.Standstill := by
      rcases Lifecycle.standstill_or_further_after ticks now with still | fewer
      · exact still
      · have most : now.standing.stepsLeft ≤ 4 * now.signals.pause.count + 3 :=
          now.standing.stepsLeft_le
        have left : settled.standing.stepsLeft + ticks ≤ now.standing.stepsLeft := fewer
        have none : settled.standing.stepsLeft = 0 := by omega
        exact Standing.standstill_of_none none
    simp only [outcome, Lifecycle.run_tick_of_standstill_alone still]
    exact Lifecycle.uneventful_idleRound [] settled

/-- Of two pauses and one resume, the second pause is left pending, and a resume then changes
nothing. -/
theorem two_pauses_come_to_a_standstill :
    let reached := (Rehearsal.rehearse Rehearsal.crowdedSignals).state
    let settled :=
      ((Lifecycle.play { steps := .replicate 11 (.ticking {}) }).run reached).state
    let last := (Lifecycle.advanceTicking {}).run settled
    let resumed := (Lifecycle.advanceTicking { beforeCount := [.resume] }).run settled
    reached.signals.pause.count = 2 ∧ settled.phase = .pausing ∧
      Uneventful [] settled last.trace last.state ∧
      Uneventful [.resume] settled resumed.trace resumed.state := by
  intro reached settled last resumed
  have pausing : settled.phase = .pausing := by decide
  have same : resumed.state.phase = settled.phase := by decide
  have due : resumed.state.carryOutDue = settled.carryOutDue := by decide
  refine ⟨rfl, pausing, (ticks_come_to_a_standstill reached).2 11 (by decide), ?_⟩
  have resumes := (ticks_come_to_a_standstill settled).1 { beforeCount := [.resume] } same due
  rwa [pausing] at resumes

end AppLifecycle
