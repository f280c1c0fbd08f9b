import AppLifecycle.Proofs.KeeperTasks
import AppLifecycle.Proofs.PauseFinality
import AppLifecycle.Proofs.Suspension

/-! A pause that stays pending. It does as long as more background events are queued than pauses
are raised, and only the app, by taking such an event, or the host, by raising another pause,
changes that. Until then rounds of either kind come to nothing, however often they are gone
through, and the first round that finds few enough events makes the pause final. -/
namespace AppLifecycle

open Traced Trace

variable {γ σ α τ : Type}

/-- Whether a move leaves a pending pause pending, background events that the app takes
apart. -/
def Move.leavesPending : Move γ σ α τ → Bool
  | .notify .pause _ | .take _ => false
  | _ => true

/-- What does not happen while a pause stays pending: nothing is asked of the collaborators but
whether playback stalled, the app is told nothing, no signal is used up, and there is no
suspension. -/
def Entry.isUntimely : Entry → Bool
  | .graphics _ | .window _ | .textInput _ | .pushed .lifecycle _ | .pushed .keeper _ => true
  | .took _ | .milestone _ | .suspended | .released _ => true
  | _ => false

/-- A round of a kind. -/
def Step.round (mode : LoopMode) (host : HostActivity γ σ α τ) : Step γ σ α τ :=
  match mode with
  | .suspending => .suspending host
  | .ticking => .ticking host

/-- More background events are queued than pauses are raised. -/
def Standing.Pending (now : Standing) : Prop :=
  now.phase = .pausing ∧ now.signals.pause.count < now.events.count .didEnterBackground

/-- What a lifecycle goes by and what its keeper remembers. -/
def Lifecycle.bookkeeping (lifecycle : Lifecycle γ σ α τ) :
    (Config × Phase × Bool) × Snapshot × Geometry × Int32 :=
  (lifecycle.footing, lifecycle.keeper.snapshot, lifecycle.keeper.geometry,
    lifecycle.keeper.swapInterval)

section Turning

variable {now next start finish : Standing} {entries trace : List Entry}

theorem EventQueue.count_le_push (queue : EventQueue) (event other : Event) :
    queue.count event ≤ (queue.push other).count event := by
  cases queue with
  | discarding => exact Nat.le_refl _
  | storing events => exact (List.sublist_append_left events [other]).count_le event

/-- A pause stays pending while the app takes no background event. -/
theorem Turn.pending (turn : Turn (fun move : Move γ σ α τ => move.leavesPending = true) now
      entries next)
    (pending : now.Pending) (unseen : .didEnterBackground ∉ removals entries) :
    next.Pending ∧ next.signals.pause = now.signals.pause ∧
      next.signals.resume.count = now.signals.resume.count + (raises entries).count .resume := by
  obtain ⟨pausing, few⟩ := pending
  cases turn with
  | raised kind times ok =>
    cases kind with
    | pause => cases ok
    | resume => exact ⟨⟨pausing, few⟩, rfl, rfl⟩
  | spent kind ok => cases ok
  | pushed event times ok some =>
    exact ⟨⟨pausing, Nat.lt_of_lt_of_le few (now.events.count_le_push _ event)⟩, rfl, rfl⟩
  | removed event rest oldest =>
    have other : event ≠ .didEnterBackground := by
      rintro rfl
      exact unseen (List.mem_singleton.mpr rfl)
    have kept : now.events.count .didEnterBackground = rest.count .didEnterBackground := by
      rw [oldest]
      exact List.count_cons_of_ne other
    exact ⟨⟨pausing, Nat.lt_of_lt_of_eq few kept⟩, rfl, rfl⟩
  | announced running raised => cases pausing.symm.trans running
  | committed pausing enough => exact absurd few (Nat.not_lt.mpr enough)
  | carriedOut paused due => cases pausing.symm.trans paused
  | ended reset paused settled raised restored => cases pausing.symm.trans paused

theorem Turns.pending (turns : Turns (fun move : Move γ σ α τ => move.leavesPending = true) start
      trace finish)
    (pending : start.Pending) (unseen : .didEnterBackground ∉ Trace.removals trace) :
    finish.Pending ∧ finish.signals.pause = start.signals.pause ∧
      finish.signals.resume.count =
        start.signals.resume.count + (Trace.raises trace).count .resume := by
  induction turns with
  | rest => exact ⟨pending, rfl, rfl⟩
  | next before last ih =>
    rw [removals_append, List.mem_append, not_or] at unseen
    obtain ⟨still, pauses, resumes⟩ := ih unseen.1
    obtain ⟨stillAfter, pausesAfter, resumesAfter⟩ := last.pending still unseen.2
    refine ⟨stillAfter, pausesAfter.trans pauses, ?_⟩
    rw [resumesAfter, resumes, raises_append, List.count_append, Nat.add_assoc]

end Turning

namespace Lifecycle

variable {start now : Lifecycle γ σ α τ}

/-- A pause that is left pending is so because of the counts. -/
theorem pending_settlePause (announced : Bool)
    (left : ((settlePause announced).run now).state.phase = .pausing) :
    ((settlePause announced).run now).state.standing.Pending := by
  by_cases unseen : now.signals.pause.count < now.keeper.events.count .didEnterBackground
  · cases announced <;> simp [settlePause, run_bind, unseen, Standing.Pending, standing]
  · simp [settlePause, run_bind, unseen] at left

theorem run_settlePause_of_pending (pending : now.standing.Pending) :
    (settlePause false).run now = ⟨(), now, []⟩ := by
  obtain ⟨pausing, unseen⟩ := pending
  have fewer : now.signals.pause.count < now.keeper.events.count .didEnterBackground := unseen
  have same : ({ now with phase := .pausing } : Lifecycle γ σ α τ) = now := by
    rw [← show now.phase = .pausing from pausing]
  simp [settlePause, run_bind, fewer, same]

/-- The end of a pause leads to the foreground. -/
theorem phase_endPause [Graphics.Layer γ] [Window.Layer σ] [TextInput τ] (quiets : Bool)
    (now : Lifecycle γ σ α τ) : ((endPause quiets).run now).state.phase = .running := by
  have returns : Keeps (Lifecycle.phase : Lifecycle γ σ α τ → Phase) (do
      tell (.milestone .ended)
      announce Event.foregroundGroup
      whenever quiets (onAudio Audio.takeUpAll)
      restoreContext
      wakeTextInput
      note .enteredForeground) := by
    refine spares_bind (spares_tell rfl) fun _ => ?_
    refine spares_bind (spares_announce (fun _ _ => rfl) (fun _ _ => rfl) fun _ => rfl) fun _ => ?_
    refine spares_bind (spares_whenever ?_) fun _ => ?_
    · exact spares_bind (spares_read _) fun _ => keeps_within fun _ _ => rfl
    refine spares_bind ?_ fun _ => spares_bind ?_ fun _ => spares_note rfl
    · exact spares_restoreContext_of_restore (keeps_within fun _ _ => rfl) fun _ => rfl
    · exact spares_wakeTextInput (fun _ _ => rfl) fun _ => rfl
  exact (returns { now with phase := .running }).1

section Look

variable [Graphics.Layer γ] {host : HostActivity γ σ α τ}

/-- A look that leaves a pause pending found it so by the counts. -/
theorem pending_lookForPause (left : ((lookForPause host).run start).state.phase = .pausing) :
    ((lookForPause host).run start).state.standing.Pending := by
  by_cases found : host.findsPause start
  · rw [run_lookForPause_of_found found] at left ⊢
    exact pending_settlePause true left
  by_cases pausing : start.phase = .pausing
  · rw [run_lookForPause_of_pausing pausing] at left ⊢
    exact pending_settlePause false left
  · rw [run_lookForPause_of_none pausing found, (notifyAll_turns host.beforeTake start).1] at left
    exact absurd left pausing

/-- A look at a pause that stays pending comes to nothing. -/
theorem run_lookForPause_of_pending (pausing : start.phase = .pausing)
    (unseen : start.signals.pause.count + host.beforeCount.count .pause <
      start.keeper.events.count .didEnterBackground) :
    (lookForPause host).run start = (notifyAll host.beforeCount).run start := by
  have counted := HostSignals.count_raises host.beforeCount start.signals .pause
  have still : ((notifyAll host.beforeCount).run start).state.standing.Pending := by
    rw [(notifyAll_turns host.beforeCount start).1]
    exact ⟨pausing, Nat.lt_of_le_of_lt (Nat.le_of_eq counted) unseen⟩
  rw [run_lookForPause_of_pausing pausing, run_bind, run_settlePause_of_pending still,
    List.append_nil]

end Look

section Rounds

/-- A round that comes to nothing, in which the host raises signals. -/
def idleRound (raised : List SignalKind) : Traced (Lifecycle γ σ α τ) Phase := do
  notifyAll raised
  let _ ← recoverAudio
  read Lifecycle.phase

variable [Graphics.Layer γ] [Window.Layer σ] [TextInput τ] {host : HostActivity γ σ α τ}
  {mode : LoopMode}

omit [Graphics.Layer γ] [Window.Layer σ] [TextInput τ] in
theorem standing_recoverAudio (now : Lifecycle γ σ α τ) :
    (recoverAudio.run now).state.standing = now.standing := (spares_standing_recoverAudio now).1

omit [Graphics.Layer γ] [Window.Layer σ] [TextInput τ] in
theorem standing_idleRound (raised : List SignalKind) (now : Lifecycle γ σ α τ) :
    ((idleRound raised).run now).state.standing =
      { now.standing with signals := raised.foldl HostSignals.raise now.signals } := by
  simp only [idleRound, run_bind, run_read, (notifyAll_turns raised now).1]
  exact standing_recoverAudio _

/-- A ticking round in the background that finds no resume comes to nothing. -/
theorem run_tickOn_of_none (quiets : Bool)
    (none : start.signals.resume.count + host.beforeResume.count .resume = 0) :
    (tickOn quiets host).run start = (idleRound host.beforeResume).run start := by
  have counted := HostSignals.count_raises host.beforeResume start.signals .resume
  rw [← show _ = start.signals.resume.count + _ from counted] at none
  simp only [tickOn, idleRound, run_bind, (notifyAll_turns host.beforeResume start).1]
  rw [run_take_of_none none]
  rfl

/-- A ticking round in the background that finds a resume leads to the foreground. -/
theorem phase_tickOn_of_raised (quiets : Bool)
    (raised : 0 < start.signals.resume.count + host.beforeResume.count .resume) :
    ((tickOn quiets host).run start).state.phase = .running := by
  have counted := HostSignals.count_raises host.beforeResume start.signals .resume
  rw [← show _ = start.signals.resume.count + _ from counted] at raised
  simp only [tickOn, run_bind, run_read, (notifyAll_turns host.beforeResume start).1, run_take,
    raised, decide_true, whenever_true]
  exact (congrArg Standing.phase (standing_recoverAudio _)).trans (phase_endPause quiets _)

/-- A ticking round in the background stays there or leads to the foreground. -/
theorem phase_tickOn (host : HostActivity γ σ α τ) (quiets : Bool) (now : Lifecycle γ σ α τ) :
    ((tickOn quiets host).run now).state.phase = .running ∨
      ((tickOn quiets host).run now).state.phase = now.phase := by
  rcases Nat.eq_zero_or_pos (now.signals.resume.count + host.beforeResume.count .resume) with
    none | raised
  · right
    rw [run_tickOn_of_none quiets none]
    exact congrArg Standing.phase (standing_idleRound host.beforeResume now)
  · exact .inl (phase_tickOn_of_raised quiets raised)

omit [Window.Layer σ] [TextInput τ] in
theorem phase_settleDown_of_paused (paused : start.phase = .paused) :
    ((settleDown host).run start).state.phase = .paused := by
  have carried := footing_carryOutDuePause true start
  simp only [footing, Prod.mk.injEq] at carried
  simp [settleDown, run_bind, paused, carried]

/-- A round that neither finds a final pause nor makes one final is a look and the recovery of
stalled playback, whichever kind it is. -/
theorem run_go_of_unfinal (awake : start.phase ≠ .paused)
    (unfinal : ((lookForPause host).run start).state.phase ≠ .paused) :
    (go (.round mode host)).run start = (do
      lookForPause host
      let _ ← recoverAudio
      pure ()).run start := by
  cases mode with
  | ticking => simp [Step.round, go, run_bind, run_advanceTicking_of_awake awake]
  | suspending =>
    simp [Step.round, go, run_bind, run_advanceSuspending_of_unfinal awake unfinal]

/-- A round that finds a final pause, or makes one final, leaves none pending. -/
theorem unfinal_of_left (left : ((go (.round mode host)).run start).state.phase = .pausing) :
    start.phase ≠ .paused ∧ ((lookForPause host).run start).state.phase ≠ .paused := by
  have recovered (ended : Lifecycle γ σ α τ) : (recoverAudio.run ended).state.phase = ended.phase :=
    congrArg Standing.phase (standing_recoverAudio ended)
  cases mode with
  | ticking =>
    have left : ((advanceTicking host).run start).state.phase = .pausing := left
    have awake : start.phase ≠ .paused := by
      intro paused
      have carried := footing_carryOutDuePause start.config.pauseAudio start
      simp only [footing, Prod.mk.injEq] at carried
      rw [run_advanceTicking_of_paused paused, run_bind] at left
      rcases phase_tickOn host start.config.pauseAudio
        ((carryOutDuePause start.config.pauseAudio).run start).state with running | same
      · cases running.symm.trans left
      · cases (carried.2.1.trans paused).symm.trans (same.symm.trans left)
    refine ⟨awake, fun final => ?_⟩
    rw [run_advanceTicking_of_awake awake] at left
    cases final.symm.trans ((recovered _).symm.trans left)
  | suspending =>
    have unwaiting : ((settleDown host).run start).state.phase ≠ .paused := by
      intro waits
      obtain ⟨-, running, -⟩ := waits_once waits
      cases running.symm.trans left
    have awake : start.phase ≠ .paused := fun paused =>
      unwaiting (phase_settleDown_of_paused paused)
    exact ⟨awake, mt (phase_settleDown awake).mpr unwaiting⟩

/-- A round that leaves a pause pending leaves more background events queued than pauses
raised. -/
theorem pending_go (left : ((go (.round mode host)).run start).state.phase = .pausing) :
    ((go (.round mode host)).run start).state.standing.Pending := by
  obtain ⟨awake, unfinal⟩ := unfinal_of_left left
  rw [run_go_of_unfinal awake unfinal] at left ⊢
  have same : ((do
      lookForPause host
      let _ ← recoverAudio
      pure ()).run start).state.standing = ((lookForPause host).run start).state.standing :=
    standing_recoverAudio _
  rw [same]
  exact pending_lookForPause ((congrArg Standing.phase same).symm.trans left)

end Rounds

section Stability

private theorem apart_from_bookkeeping :
    ApartFromMoves (bookkeeping : Lifecycle γ σ α τ → _) Entry.isUntimely :=
  ⟨fun _ _ => rfl, fun _ _ => rfl, fun _ _ _ _ _ => rfl, fun _ => rfl, fun _ => rfl, fun _ => rfl,
    fun _ => rfl⟩

/-- What comes to nothing: at most stalled playback is recovered, moves apart, and nothing is
remembered that was not before. -/
structure Idle (start : Lifecycle γ σ α τ) (entries : List Entry) (now : Lifecycle γ σ α τ) :
    Prop where
  kept : now.bookkeeping = start.bookkeeping
  only : entries.filter Entry.isUntimely = []
  quiet : Quiet entries

theorem Idle.trans {middle finish : Lifecycle γ σ α τ} {first second : List Entry}
    (before : Idle start first middle) (after : Idle middle second finish) :
    Idle start (first ++ second) finish := by
  refine ⟨after.kept.trans before.kept, ?_, before.quiet.append after.quiet⟩
  rw [List.filter_append, before.only, after.only]
  rfl

theorem idle_of_moves {β : Type} {action : Traced (Lifecycle γ σ α τ) β}
    (kept : Spares bookkeeping Entry.isUntimely action)
    (apart : Spares bearing Entry.isDealing action) :
    Idle start (action.run start).trace (action.run start).state :=
  ⟨(kept start).1, (kept start).2, (Aside.of_spared (apart start).2).toQuiet⟩

theorem idle_recovery : Idle start (recoverAudio.run start).trace (recoverAudio.run start).state := by
  have recovers : Spares (bookkeeping : Lifecycle γ σ α τ → _) Entry.isUntimely recoverAudio :=
    spares_recoverAudio (fun _ _ => rfl) (fun _ _ => rfl) fun _ => rfl
  exact ⟨(recovers start).1, (recovers start).2, (aside_recoverAudio start).2.toQuiet⟩

variable [Graphics.Layer γ] [Window.Layer σ] [TextInput τ]

/-- No step gets a pending pause any further. -/
theorem idle_go {step : Step γ σ α τ} (pending : start.standing.Pending)
    (patient : ∀ move ∈ step.moves, move.leavesPending = true) :
    Idle start ((go step).run start).trace ((go step).run start).state := by
  have rounds (mode : LoopMode) (host : HostActivity γ σ α τ)
      (patient : ∀ move ∈ host.moves, move.leavesPending = true) :
      Idle start ((go (.round mode host)).run start).trace
        ((go (.round mode host)).run start).state := by
    have none : host.beforeCount.count .pause = 0 := by
      refine List.count_eq_zero.mpr fun member => ?_
      have allowed := patient (.notify .pause 1) (by simp [HostActivity.moves, member])
      cases allowed
    have look : (lookForPause host).run start = _ :=
      run_lookForPause_of_pending pending.1 (by rw [none]; exact pending.2)
    have looked : Idle start ((notifyAll host.beforeCount).run start).trace
        ((notifyAll host.beforeCount).run start).state :=
      idle_of_moves (spares_notifyAll apart_from_bookkeeping _)
        (spares_notifyAll apart_from_dealing _)
    have pausing := congrArg (fun kept => kept.1.2.1) looked.kept
    have awake : start.phase ≠ .paused := fun paused => by cases pending.1.symm.trans paused
    have unfinal : ((lookForPause host).run start).state.phase ≠ .paused := by
      rw [look]
      exact fun paused => awake (pausing.symm.trans paused)
    rw [run_go_of_unfinal awake unfinal, run_bind, look]
    simpa [run_bind] using looked.trans idle_recovery
  cases step with
  | around move =>
    have moved : Idle start ((perform move).run start).trace ((perform move).run start).state :=
      idle_of_moves (spares_perform apart_from_bookkeeping move)
        (spares_perform apart_from_dealing move)
    simpa [go, run_bind] using moved
  | ticking host => exact rounds .ticking host patient
  | suspending host =>
    exact rounds .suspending host fun move member => patient move (List.mem_append_left _ member)

theorem pending_after {steps : List (Step γ σ α τ)} (pending : start.standing.Pending)
    (patient : ∀ step ∈ steps, ∀ move ∈ step.moves, move.leavesPending = true)
    (unseen : .didEnterBackground ∉ removals ((play { steps }).run start).trace) :
    let outcome := (play { steps }).run start
    outcome.state.standing.Pending ∧ outcome.state.signals.pause = start.signals.pause ∧
      outcome.state.signals.resume.count =
        start.signals.resume.count + (raises outcome.trace).count .resume := by
  intro outcome
  have turns : Turning (fun move : Move γ σ α τ => move.leavesPending = true) (play { steps })
      start := by
    refine play_turns { steps } start fun move member => ?_
    obtain ⟨step, among, moves⟩ := List.mem_flatMap.mp member
    exact patient step (by simpa [Run.allSteps] using among) move moves
  have turned := turns.pending pending (by rwa [removals_turns])
  rwa [raises_turns] at turned

/-- However many steps are gone through, a pending pause gets no further. -/
theorem idle_play {steps : List (Step γ σ α τ)} (pending : start.standing.Pending)
    (patient : ∀ step ∈ steps, ∀ move ∈ step.moves, move.leavesPending = true)
    (unseen : .didEnterBackground ∉ removals ((play { steps }).run start).trace) :
    Idle start ((play { steps }).run start).trace ((play { steps }).run start).state := by
  induction steps generalizing start with
  | nil => exact ⟨rfl, rfl, ⟨rfl, fun _ => .none⟩⟩
  | cons step rest ih =>
    rw [play_cons, run_bind, removals_append, List.mem_append, not_or] at unseen
    rw [play_cons, run_bind]
    have here := patient step List.mem_cons_self
    have first := idle_go pending here
    have still : ((go step).run start).state.standing.Pending := by
      rw [← play_single] at unseen ⊢
      exact (pending_after pending (by simpa using here) unseen.1).1
    exact first.trans (ih still (fun later member => patient later (List.mem_cons_of_mem _ member))
      unseen.2)

end Stability

section Finality

variable [Graphics.Layer γ] {host : HostActivity γ σ α τ}

/-- To look at a pending pause again is not to announce it again. -/
theorem silent_lookForPause (pausing : start.phase = .pausing) :
    announcements ((lookForPause host).run start).trace = [] := by
  have looks : Spares (fun _ : Lifecycle γ σ α τ => ()) Entry.isAnnouncement (do
      notifyAll host.beforeCount
      settlePause false) :=
    spares_bind (spares_notifyAll apart_from_announcement _) fun _ =>
      spares_settlePause false (fun _ _ _ => rfl) rfl fun _ => rfl
  rw [run_lookForPause_of_pausing pausing]
  exact announcements_of_spared (looks start).2

theorem silent_settleDown (pausing : start.phase = .pausing)
    (final : ((lookForPause host).run start).state.phase = .paused) :
    announcements ((settleDown host).run start).trace = [] := by
  have carried := (carryOutPause_turns true ((lookForPause host).run start).state).2
  have silent := congrArg announcements carried
  rw [announcements_turns] at silent
  have awake : start.phase ≠ .paused := fun paused => by cases pausing.symm.trans paused
  rw [run_settleDown_of_final awake final, run_bind, run_bind]
  simp only [announcements_append, silent_lookForPause pausing, silent]
  rfl

variable [Window.Layer σ] [TextInput τ]

/-- A round that finds few enough events queued makes the pending pause final, and tells the app
nothing before its return. -/
theorem final_of_few (pausing : start.phase = .pausing)
    (few : start.keeper.events.count .didEnterBackground ≤
      start.signals.pause.count + host.beforeCount.count .pause) :
    let ticking := (advanceTicking host).run start
    let suspending := (advanceSuspending host).run start
    (.committed ∈ milestones ticking.trace ∧ ticking.state.phase = .paused ∧
        announcements ticking.trace = []) ∧
      .committed ∈ milestones suspending.trace ∧ suspending.state.phase = .running ∧
        announcements suspending.trace = Event.foregroundGroup := by
  intro ticking suspending
  have awake : start.phase ≠ .paused := fun paused => by cases pausing.symm.trans paused
  have final := (look_of_pausing host pausing).2.mpr few
  constructor
  · obtain ⟨same, -, silent⟩ := idle_recoverAudio ((lookForPause host).run start).state
    have round : ticking = _ := run_advanceTicking_of_awake awake
    simp only [run_bind, run_read, List.append_nil] at round
    rw [round, mem_milestones]
    refine ⟨List.mem_append_left _ (committed_lookForPause awake final), ?_, ?_⟩
    · exact (congrArg Bearing.phase same).trans final
    · rw [announcements_append, silent_lookForPause pausing, silent]
      rfl
  · obtain ⟨-, running, -, -, back, split, waiting⟩ :=
      waits_once ((phase_settleDown awake).mpr final)
    refine ⟨mem_milestones.mpr (committed_advanceSuspending_iff.mpr ⟨awake, final⟩), running, ?_⟩
    rw [split, announcements_append, silent_settleDown pausing final, waiting.announces]
    rfl

end Finality

end Lifecycle

variable [Graphics.Layer γ] [Window.Layer σ] [TextInput τ]

/-- A pause that a round leaves pending stays so through rounds of either kind, resumes and pushed
events, as long as the app takes no background event; the lifecycle does nothing meanwhile
but recover stalled playback. Whenever a pause is pending, the first round that finds at most
as many background events queued as pauses raised makes it final, and does not announce it
again. -/
theorem pause_stays_pending_until_few_enough_events_are_queued (start : Lifecycle γ σ α τ) :
    (∀ mode host steps,
      let left := ((Lifecycle.go (.round mode host)).run start).state
      let outcome := (Lifecycle.play { steps }).run left
      left.phase = .pausing →
      (∀ step ∈ steps, ∀ move ∈ step.moves, move.leavesPending = true) →
      .didEnterBackground ∉ removals outcome.trace →
        outcome.state.phase = .pausing ∧
        (∀ entry ∈ outcome.trace, entry.isUntimely = false) ∧
        (∀ position, Audio.Recoveries (audioCalls position outcome.trace)) ∧
        outcome.state.bookkeeping = left.bookkeeping ∧
        outcome.state.signals.pause = left.signals.pause ∧
        outcome.state.signals.resume.count =
          left.signals.resume.count + (raises outcome.trace).count .resume) ∧
    (∀ host, start.phase = .pausing →
      start.keeper.events.count .didEnterBackground ≤
        start.signals.pause.count + host.beforeCount.count .pause →
      let ticking := (Lifecycle.advanceTicking host).run start
      let suspending := (Lifecycle.advanceSuspending host).run start
      (.committed ∈ milestones ticking.trace ∧ ticking.state.phase = .paused ∧
          announcements ticking.trace = []) ∧
        .committed ∈ milestones suspending.trace ∧ suspending.state.phase = .running ∧
          announcements suspending.trace = Event.foregroundGroup) := by
  constructor
  · intro mode host steps left outcome pausing patient unseen
    have pending := Lifecycle.pending_go pausing
    obtain ⟨still, pauses, resumes⟩ := Lifecycle.pending_after pending patient unseen
    obtain ⟨kept, only, quiet⟩ := Lifecycle.idle_play pending patient unseen
    refine ⟨still.1, fun entry member => ?_, quiet.outputs, kept, pauses, resumes⟩
    simpa using List.filter_eq_nil_iff.mp only entry member
  · intro host pausing few
    exact Lifecycle.final_of_few pausing few

/-- A lifecycle whose host has raised a pause. -/
def Rehearsal.pauseRaised : RehearsedLifecycle :=
  (rehearse { steps := [.around (.notify .pause 1)] }).state

/-- The app takes the first event of the announcement only, and the host gives up too early. -/
def Rehearsal.lookingElsewhere : RehearsedRun where
  steps := [.around .poll, .around (.notify .resume 1), .suspending {}, .around (.push .quit 1)]

/-- A pause stays pending although a resume is raised, and is final once the app has looked. -/
theorem early_resume_leaves_a_pause_pending :
    let left := ((Lifecycle.go (.round .ticking {})).run Rehearsal.pauseRaised).state
    let outcome := (Lifecycle.play { steps := Rehearsal.lookingElsewhere.steps }).run left
    let seen := ((Lifecycle.perform .drain).run left).state
    left.phase = .pausing ∧ outcome.state.phase = .pausing ∧
      outcome.state.signals.pause = left.signals.pause ∧ seen.phase = .pausing ∧
      .committed ∈ milestones ((Lifecycle.advanceTicking {}).run seen).trace := by
  intro left outcome seen
  have pausing : left.phase = .pausing := by decide
  have still : seen.phase = .pausing := by decide
  obtain ⟨stable, -⟩ :=
    pause_stays_pending_until_few_enough_events_are_queued Rehearsal.pauseRaised
  obtain ⟨pending, -, -, -, pauses, -⟩ :=
    stable .ticking {} Rehearsal.lookingElsewhere.steps pausing (by decide) (by decide)
  obtain ⟨-, final⟩ := pause_stays_pending_until_few_enough_events_are_queued seen
  obtain ⟨⟨committed, -⟩, -⟩ := final {} still (by decide)
  exact ⟨pausing, pending, pauses, still, committed⟩

end AppLifecycle
