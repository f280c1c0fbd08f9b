import AppLifecycle.Proofs.Abreast
import AppLifecycle.Proofs.KeeperTasks
import AppLifecycle.Proofs.Mail
import AppLifecycle.Proofs.Steering

/-! Rendering never derails the lifecycle. Two lifecycles that agree but for rendering, and go
through the same script, in which the app takes its events all at once, stay in step: all that
rendering adds is resets in the mail, and resets steer nothing. -/
namespace AppLifecycle

open Traced

variable {γ σ δ ω α τ : Type}

/-- Two lifecycles whose queues held the same events at first are in step: they agree on what they
go by and have done the same, rendering apart, and but for resets the app has seen the same
and the same is queued. -/
structure InStep (queued : List Event) (here : Outcome (Lifecycle γ σ α τ) Unit)
    (there : Outcome (Lifecycle δ ω α τ) Unit) : Prop where
  steering : here.state.steering = there.state.steering
  doings : here.trace.filter Entry.isSteering = there.trace.filter Entry.isSteering
  delivered : Delivered queued here.trace here.state.keeper.events
  deliveredThere : Delivered queued there.trace there.state.keeper.events
  seen : Trace.withoutResets (Trace.seen queued here.trace) =
    Trace.withoutResets (Trace.seen queued there.trace)
  inbox : Trace.withoutResets (Trace.inbox queued here.trace) =
    Trace.withoutResets (Trace.inbox queued there.trace)

/-- Lifecycles in step have the same number of any event queued that is no reset. -/
theorem InStep.count_eq {queued : List Event} {here : Outcome (Lifecycle γ σ α τ) Unit}
    {there : Outcome (Lifecycle δ ω α τ) Unit} (inStep : InStep queued here there) {event : Event}
    (other : event ≠ .renderDeviceReset) :
    here.state.keeper.events.count event = there.state.keeper.events.count event := by
  rw [inStep.delivered.inbox, inStep.deliveredThere.inbox]
  simp only [EventQueue.count, EventQueue.toList]
  rw [← Trace.count_withoutResets other, inStep.inbox, Trace.count_withoutResets other]

namespace Lifecycle

section Abreast

variable {queued : List Event} {β : Type}

/-- Actions that do the same but for rendering, and post the same but for resets, keep lifecycles
in step. -/
theorem abreast_of_steered {first : Traced (Lifecycle γ σ α τ) β}
    {second : Traced (Lifecycle δ ω α τ) β} {known : List (Origin × Event)}
    (steered : Steered first second) (posts : Posts known first) (postsThere : Posts known second) :
    Abreast (InStep queued) Eq first second := by
  intro here there met
  obtain ⟨value, steering, doings⟩ := steered here.state there.state met.steering
  obtain ⟨letters, kept, events, entries⟩ := posts here.state
  obtain ⟨others, keptThere, eventsThere, entriesThere⟩ := postsThere there.state
  have removed := Trace.removals_of_posting entries
  have removedThere := Trace.removals_of_posting entriesThere
  have pushed := Trace.pushes_of_posting entries
  have pushedThere := Trace.pushes_of_posting entriesThere
  -- Nothing is taken, so what is seen stays the same and the letters join the inbox.
  refine ⟨value, steering, ?_, ?_, ?_, ?_, ?_⟩
  · simp only [Outcome.after, List.filter_append, met.doings, doings]
  · have delivered := met.delivered.posted removed
    rwa [pushed, ← events] at delivered
  · have delivered := met.deliveredThere.posted removedThere
    rwa [pushedThere, ← eventsThere] at delivered
  · simp only [Outcome.after]
    rw [met.delivered.seen_of_posted removed, met.deliveredThere.seen_of_posted removedThere,
      met.seen]
  · simp only [Outcome.after]
    rw [met.delivered.inbox_of_posted removed, met.deliveredThere.inbox_of_posted removedThere,
      Trace.withoutResets_append, Trace.withoutResets_append, met.inbox, pushed, pushedThere, kept,
      keptThere]

theorem abreast_of_leavesMail {first : Traced (Lifecycle γ σ α τ) β}
    {second : Traced (Lifecycle δ ω α τ) β} (steered : Steered first second)
    (leaves : LeavesMail first) (leavesThere : LeavesMail second) :
    Abreast (InStep queued) Eq first second :=
  abreast_of_steered steered (posts_of_leavesMail leaves) (posts_of_leavesMail leavesThere)

/-- Either side may do work of its own that steers nothing and leaves the queue alone. -/
theorem abreast_of_spares {first : Traced (Lifecycle γ σ α τ) Unit}
    {second : Traced (Lifecycle δ ω α τ) Unit} (spared : Spares steering Entry.isSteering first)
    (sparedThere : Spares steering Entry.isSteering second) (leaves : LeavesMail first)
    (leavesThere : LeavesMail second) : Abreast (InStep queued) Eq first second :=
  abreast_of_leavesMail (parallel_of_apart (apart_of_spares spared sparedThere)) leaves leavesThere

theorem abreast_steering (reading : Steering α τ → β) :
    Abreast (InStep queued) Eq (read fun now : Lifecycle γ σ α τ => reading now.steering)
      (read fun now : Lifecycle δ ω α τ => reading now.steering) :=
  abreast_of_leavesMail (steered_read reading) (spares_read _) (spares_read _)

theorem abreast_update {change : Lifecycle γ σ α τ → Lifecycle γ σ α τ}
    {counterpart : Lifecycle δ ω α τ → Lifecycle δ ω α τ} (steer : Steering α τ → Steering α τ)
    (here : ∀ now, (change now).steering = steer now.steering ∧
      (change now).keeper.events = now.keeper.events)
    (there : ∀ now, (counterpart now).steering = steer now.steering ∧
      (counterpart now).keeper.events = now.keeper.events) :
    Abreast (InStep queued) Eq (update change) (update counterpart) :=
  abreast_of_leavesMail
    (steered_update steer (fun now => (here now).1) fun now => (there now).1)
    (spares_update fun now => (here now).2) (spares_update fun now => (there now).2)

theorem abreast_tell {entry : Entry} (other : entry.isMail = false) :
    Abreast (InStep queued) Eq (tell entry : Traced (Lifecycle γ σ α τ) Unit)
      (tell entry : Traced (Lifecycle δ ω α τ) Unit) :=
  abreast_of_leavesMail (parallel_tell entry) (spares_tell other) (spares_tell other)

theorem abreast_notifyAll (kinds : List SignalKind) :
    Abreast (InStep queued) Eq (notifyAll kinds : Traced (Lifecycle γ σ α τ) Unit)
      (notifyAll kinds : Traced (Lifecycle δ ω α τ) Unit) := by
  have leaves {γ σ : Type} :
      LeavesMail (notifyAll kinds : Traced (Lifecycle γ σ α τ) Unit) :=
    spares_raising kinds (fun _ _ => rfl) (fun _ => rfl) fun _ => rfl
  exact abreast_of_leavesMail (parallel_notifyAll steered_onSignals kinds) leaves leaves

theorem abreast_take (kind : SignalKind) :
    Abreast (InStep queued) Eq (take kind : Traced (Lifecycle γ σ α τ) Bool)
      (take kind : Traced (Lifecycle δ ω α τ) Bool) :=
  abreast_of_leavesMail (parallel_take steered_onSignals kind) (spares_take (fun _ _ => rfl) rfl)
    (spares_take (fun _ _ => rfl) rfl)

/-- What both sides push comes into both queues. -/
theorem abreast_send (origin : Origin) (event : Event) :
    Abreast (InStep queued) Eq
      (onEvents (EventQueue.send origin event) : Traced (Lifecycle γ σ α τ) Unit)
      (onEvents (EventQueue.send origin event) : Traced (Lifecycle δ ω α τ) Unit) := by
  have steered : Steered
      (onEvents (EventQueue.send origin event) : Traced (Lifecycle γ σ α τ) Unit)
      (onEvents (EventQueue.send origin event) : Traced (Lifecycle δ ω α τ) Unit) := by
    intro here there same
    refine ⟨rfl, same, ?_⟩
    rw [run_onEvents, run_onEvents]
    cases here.keeper.events <;> cases there.keeper.events <;> rfl
  exact abreast_of_steered steered (posts_send origin event) (posts_send origin event)

theorem abreast_announce (events : List Event) :
    Abreast (InStep queued) Unlike (announce events : Traced (Lifecycle γ σ α τ) Unit)
      (announce events : Traced (Lifecycle δ ω α τ) Unit) := by
  apply abreast_discard
  apply abreast_forAll (rfl : events.map id = events.map id)
  rintro event - _ rfl
  exact (abreast_send .lifecycle event).forget

/-- Draining brings resets to light and nothing else that differs. -/
theorem abreast_drain :
    Abreast (InStep queued) Unlike
      (onEvents EventQueue.receiveAll : Traced (Lifecycle γ σ α τ) (List Event))
      (onEvents EventQueue.receiveAll : Traced (Lifecycle δ ω α τ) (List Event)) := by
  have silent (events : List Event) : (events.map .removed).filter Entry.isSteering = [] := by
    simp [List.filter_eq_nil_iff, Entry.isSteering]
  intro here there met
  have delivered := met.delivered.inbox ▸ met.delivered
  have deliveredThere := met.deliveredThere.inbox ▸ met.deliveredThere
  simp only [Outcome.after, run_drain met.delivered.inbox, run_drain met.deliveredThere.inbox]
  refine ⟨trivial, met.steering, ?_, delivered.drained, deliveredThere.drained, ?_, ?_⟩
  · rw [List.filter_append, List.filter_append, silent, silent, met.doings]
  · rw [delivered.seen_of_drained, deliveredThere.seen_of_drained, Trace.withoutResets_append,
      Trace.withoutResets_append, met.seen, met.inbox]
  · rw [delivered.inbox_of_drained, deliveredThere.inbox_of_drained]

/-- Only how many background events are queued matters to a pending pause. -/
theorem abreast_settlePause (announced : Bool) :
    Abreast (InStep queued) Unlike (settlePause announced : Traced (Lifecycle γ σ α τ) Unit)
      (settlePause announced : Traced (Lifecycle δ ω α τ) Unit) := by
  have counts : Abreast (InStep queued) Eq
      (read fun now : Lifecycle γ σ α τ => now.keeper.events.count .didEnterBackground)
      (read fun now : Lifecycle δ ω α τ => now.keeper.events.count .didEnterBackground) :=
    abreast_read fun _ _ met => met.count_eq (by decide)
  apply abreast_bind counts
  rintro waiting _ rfl
  apply abreast_bind (abreast_steering fun now => now.signals.pause.count)
  rintro signalled _ rfl
  split
  · refine abreast_bind (abreast_whenever rfl (abreast_tell rfl).forget) fun _ _ _ => ?_
    exact Abreast.forget (abreast_update (fun now => { now with phase := .pausing })
      (fun _ => ⟨rfl, rfl⟩) fun _ => ⟨rfl, rfl⟩)
  · refine abreast_bind (abreast_update (fun now => { now with phase := .paused, due := true })
      (fun _ => ⟨rfl, rfl⟩) fun _ => ⟨rfl, rfl⟩) fun _ _ _ => ?_
    exact abreast_bind (abreast_tell rfl) fun _ _ _ => (abreast_tell rfl).forget

/-- A move that is the same in the script keeps both in step, unless the app takes a single event,
which may be a reset for the one and not for the other. -/
theorem abreast_perform {move : Move γ σ α τ} {other : Move δ ω α τ}
    (same : move.unrendered = other.unrendered) (whole : move ≠ .poll) :
    Abreast (InStep queued) Unlike (perform move) (perform other) := by
  cases move with
  | notify kind times =>
    cases other <;> cases same
    exact abreast_bind (abreast_notifyAll _) fun _ _ _ => abreast_pure trivial
  | take kind =>
    cases other <;> cases same
    have takes {γ σ : Type} : LeavesMail
        (onSignals (HostSignals.on kind Signal.tryTake) : Traced (Lifecycle γ σ α τ) Bool) :=
      spares_tryTake kind fun _ _ => rfl
    exact abreast_bind (abreast_of_leavesMail (steered_onSignals _) takes takes) fun _ _ _ =>
      abreast_pure trivial
  | push event times =>
    cases other <;> cases same
    exact abreast_bind (abreast_repeated (abreast_send .app event).forget times) fun _ _ _ =>
      abreast_pure trivial
  | poll => exact absurd rfl whole
  | drain =>
    cases other <;> cases same
    exact abreast_bind abreast_drain fun _ _ _ => abreast_pure trivial
  | adjust graphics window audio textInput =>
    cases other <;> cases same
    exact abreast_bind (abreast_update (fun now => { now with
      audio := audio now.audio
      textInput := now.textInput.map textInput }) (fun _ => ⟨rfl, rfl⟩) fun _ => ⟨rfl, rfl⟩)
      fun _ _ _ => abreast_pure trivial

section Waiting

variable {host : HostActivity γ σ α τ} {other : HostActivity δ ω α τ}
  (same : host.unrendered = other.unrendered) (whole : .poll ∉ host.whileSuspended)

include same whole

theorem abreast_moves :
    Abreast (InStep queued) Unlike (forAll perform host.whileSuspended)
      (forAll perform other.whileSuspended) := by
  refine abreast_forAll (congrArg HostActivity.whileSuspended same) fun move member other looks => ?_
  exact abreast_perform looks (ne_of_mem_of_not_mem member whole)

theorem abreast_suspend : Abreast (InStep queued) Unlike (suspend host) (suspend other) := by
  refine abreast_bind (abreast_tell rfl) fun _ _ _ => ?_
  refine abreast_bind (abreast_moves same whole) fun replies others _ => ?_
  apply abreast_bind (abreast_steering fun now => now.signals.resume.count)
  rintro raised _ rfl
  refine abreast_bind (abreast_whenever rfl (abreast_notifyAll _).forget) fun _ _ _ => ?_
  -- The replies tell of resets, so they differ, but nothing depends on them.
  have told {γ σ : Type} (replies : List Reply) : Spares steering Entry.isSteering
      (tell (.released replies) : Traced (Lifecycle γ σ α τ) Unit) := spares_tell rfl
  exact (abreast_of_spares (told replies) (told others) (spares_tell rfl) (spares_tell rfl)).forget

theorem abreast_awaitResume :
    Abreast (InStep queued) Unlike (awaitResume host) (awaitResume other) := by
  have raises : host.beforeResume = other.beforeResume :=
    congrArg HostActivity.beforeResume same
  unfold awaitResume
  rw [raises]
  refine abreast_bind (abreast_notifyAll _) fun _ _ _ => ?_
  apply abreast_bind (abreast_steering fun now => now.signals.resume.count)
  rintro raised _ rfl
  refine abreast_bind (abreast_whenever rfl (abreast_suspend same whole)) fun _ _ _ => ?_
  exact abreast_discard (abreast_take .resume)

end Waiting

theorem abreast_recoverAudio :
    Abreast (InStep queued) Eq (recoverAudio : Traced (Lifecycle γ σ α τ) Nat)
      (recoverAudio : Traced (Lifecycle δ ω α τ) Nat) := by
  have leaves {γ σ : Type} : LeavesMail (recoverAudio : Traced (Lifecycle γ σ α τ) Nat) :=
    spares_recoverAudio (fun _ _ => rfl) (fun _ _ => rfl) fun _ => rfl
  exact abreast_of_leavesMail (steered_onAudio _) leaves leaves

section Rendering

variable [Graphics.Layer γ] [Graphics.Layer δ] {host : HostActivity γ σ α τ}
  {other : HostActivity δ ω α τ}

theorem abreast_takeUp (posts : List SignalKind) :
    Abreast (InStep queued) Unlike (takeUp posts : Traced (Lifecycle γ σ α τ) Unit)
      (takeUp posts : Traced (Lifecycle δ ω α τ) Unit) := by
  have remembers {γ σ : Type} [Graphics.Layer γ] : LeavesMail
      (onKeeper Keeper.rememberSwapInterval : Traced (Lifecycle γ σ α τ) Unit) :=
    spares_onKeeper (fun _ _ same => same) (Keeper.spares_rememberSwapInterval (fun _ _ => rfl)
      (fun _ _ => rfl) (fun _ => rfl) fun _ => rfl)
  refine abreast_bind (abreast_of_spares spares_steering_rememberSwapInterval
    spares_steering_rememberSwapInterval remembers remembers) fun _ _ _ => ?_
  refine abreast_bind (abreast_announce _) fun _ _ _ => ?_
  exact abreast_bind (abreast_notifyAll _) fun _ _ _ => abreast_settlePause true

theorem abreast_lookForPause (same : host.unrendered = other.unrendered) :
    Abreast (InStep queued) Unlike (lookForPause host) (lookForPause other) := by
  have beforeTake : host.beforeTake = other.beforeTake := congrArg HostActivity.beforeTake same
  have beforeCount : host.beforeCount = other.beforeCount := congrArg HostActivity.beforeCount same
  unfold lookForPause
  rw [beforeTake, beforeCount]
  apply abreast_bind (abreast_steering Steering.phase)
  rintro phase _ rfl
  have looks : Abreast (InStep queued) Unlike (do
      notifyAll other.beforeTake
      let taken ← take .pause
      whenever taken (takeUp other.beforeCount) : Traced (Lifecycle γ σ α τ) Unit) (do
      notifyAll other.beforeTake
      let taken ← take .pause
      whenever taken (takeUp other.beforeCount) : Traced (Lifecycle δ ω α τ) Unit) := by
    refine abreast_bind (abreast_notifyAll _) fun _ _ _ => ?_
    exact abreast_bind (abreast_take .pause) fun _ _ taken => abreast_whenever taken
      (abreast_takeUp _)
  cases phase with
  | pausing => exact abreast_bind (abreast_notifyAll _) fun _ _ _ => abreast_settlePause false
  | running => exact looks
  | paused => exact looks

theorem abreast_carryOutDuePause (quiets : Bool) :
    Abreast (InStep queued) Eq (carryOutDuePause quiets : Traced (Lifecycle γ σ α τ) Unit)
      (carryOutDuePause quiets : Traced (Lifecycle δ ω α τ) Unit) := by
  have leaves {γ σ : Type} [Graphics.Layer γ] :
      LeavesMail (carryOutDuePause quiets : Traced (Lifecycle γ σ α τ) Unit) := by
    refine spares_bind (spares_read _) fun due => spares_whenever ?_
    refine spares_carryOutPause_of_save quiets (fun _ _ _ => rfl) ?_ rfl (fun _ _ => rfl) fun _ => rfl
    exact spares_onKeeper (fun _ _ same => same) (Keeper.spares_save
      ⟨fun _ _ => rfl, fun _ _ => rfl, fun _ => rfl⟩ (fun _ _ _ => rfl) fun _ => rfl)
  exact abreast_of_leavesMail (steered_carryOutDuePause quiets) leaves leaves

theorem abreast_settleDown (same : host.unrendered = other.unrendered) :
    Abreast (InStep queued) Unlike (settleDown host) (settleDown other) := by
  apply abreast_bind (abreast_steering Steering.phase)
  rintro before _ rfl
  refine abreast_bind (abreast_whenever rfl (abreast_lookForPause same)) fun _ _ _ => ?_
  apply abreast_bind (abreast_steering Steering.phase)
  rintro after _ rfl
  apply abreast_whenever rfl
  exact abreast_bind (abreast_carryOutDuePause true) fun _ _ _ => (abreast_tell rfl).forget

theorem abreast_standBy (same : host.unrendered = other.unrendered)
    (whole : .poll ∉ host.whileSuspended) :
    Abreast (InStep queued) Unlike (standBy host) (standBy other) := by
  have raises : host.beforeResume = other.beforeResume :=
    congrArg HostActivity.beforeResume same
  unfold standBy
  rw [raises]
  refine abreast_bind (abreast_settleDown same) fun _ _ _ => ?_
  apply abreast_bind (abreast_steering Steering.phase)
  rintro phase _ rfl
  apply abreast_whenever rfl
  refine abreast_bind (abreast_notifyAll _) fun _ _ _ => ?_
  apply abreast_bind (abreast_steering fun now => now.signals.resume.count)
  rintro raised _ rfl
  apply abreast_whenever rfl
  exact abreast_bind (abreast_tell rfl) fun _ _ _ => abreast_discard (abreast_moves same whole)

variable [Window.Layer σ] [Window.Layer ω] [TextInput τ]

theorem abreast_endPause (resumes : Bool) :
    Abreast (InStep queued) Unlike (endPause resumes : Traced (Lifecycle γ σ α τ) Unit)
      (endPause resumes : Traced (Lifecycle δ ω α τ) Unit) := by
  have takesUp {γ σ : Type} :
      LeavesMail (onAudio Audio.takeUpAll : Traced (Lifecycle γ σ α τ) Unit) :=
    spares_onAudio (fun _ _ => rfl) fun outputs =>
      Audio.spares_takeUpAll (fun _ _ => rfl) (fun _ => rfl) outputs
  have wakes {γ σ : Type} : LeavesMail (wakeTextInput : Traced (Lifecycle γ σ α τ) Unit) :=
    spares_wakeTextInput (fun _ _ => rfl) fun _ => rfl
  refine abreast_bind (abreast_update (fun now => { now with phase := .running })
    (fun _ => ⟨rfl, rfl⟩) fun _ => ⟨rfl, rfl⟩) fun _ _ _ => ?_
  refine abreast_bind (abreast_tell rfl) fun _ _ _ => ?_
  refine abreast_bind (abreast_announce _) fun _ _ _ => ?_
  refine abreast_bind (abreast_whenever rfl
    (abreast_of_leavesMail (steered_onAudio _) takesUp takesUp).forget) fun _ _ _ => ?_
  refine abreast_bind (abreast_of_steered steered_restoreContext posts_restoreContext
    posts_restoreContext) fun _ _ _ => ?_
  refine abreast_bind (abreast_of_leavesMail steered_wakeTextInput wakes wakes) fun _ _ _ => ?_
  exact (abreast_tell rfl).forget

theorem abreast_comeBack (same : host.unrendered = other.unrendered)
    (whole : .poll ∉ host.whileSuspended) :
    Abreast (InStep queued) Unlike (comeBack host) (comeBack other) := by
  apply abreast_bind (abreast_steering Steering.phase)
  rintro phase _ rfl
  apply abreast_whenever rfl
  exact abreast_bind (abreast_awaitResume same whole) fun _ _ _ => abreast_endPause true

theorem abreast_advanceSuspending (same : host.unrendered = other.unrendered)
    (whole : .poll ∉ host.whileSuspended) :
    Abreast (InStep queued) Eq (advanceSuspending host) (advanceSuspending other) := by
  refine abreast_bind (abreast_settleDown same) fun _ _ _ => ?_
  refine abreast_bind (abreast_comeBack same whole) fun _ _ _ => ?_
  exact abreast_bind abreast_recoverAudio fun _ _ _ => abreast_steering Steering.phase

theorem abreast_tickPaused (same : host.unrendered = other.unrendered) :
    Abreast (InStep queued) Unlike (tickPaused host) (tickPaused other) := by
  have raises : host.beforeResume = other.beforeResume :=
    congrArg HostActivity.beforeResume same
  unfold tickPaused
  rw [raises]
  apply abreast_bind (abreast_steering Steering.pauseAudio)
  rintro pauseAudio _ rfl
  refine abreast_bind (abreast_carryOutDuePause pauseAudio) fun _ _ _ => ?_
  refine abreast_bind (abreast_notifyAll _) fun _ _ _ => ?_
  exact abreast_bind (abreast_take .resume) fun _ _ resumed => abreast_whenever resumed
    (abreast_endPause pauseAudio)

theorem abreast_advanceTicking (same : host.unrendered = other.unrendered) :
    Abreast (InStep queued) Eq (advanceTicking host) (advanceTicking other) := by
  have ending : Abreast (InStep queued) Eq (do
      let _ ← recoverAudio
      read Lifecycle.phase : Traced (Lifecycle γ σ α τ) Phase) (do
      let _ ← recoverAudio
      read Lifecycle.phase : Traced (Lifecycle δ ω α τ) Phase) :=
    abreast_bind abreast_recoverAudio fun _ _ _ => abreast_steering Steering.phase
  apply abreast_bind (abreast_steering Steering.phase)
  rintro phase _ rfl
  cases phase with
  | paused => exact abreast_bind (abreast_tickPaused same) fun _ _ _ => ending
  | running => exact abreast_bind (abreast_lookForPause same) fun _ _ _ => ending
  | pausing => exact abreast_bind (abreast_lookForPause same) fun _ _ _ => ending

theorem abreast_go {step : Step γ σ α τ} {counterpart : Step δ ω α τ}
    (same : step.unrendered = counterpart.unrendered) (whole : .poll ∉ step.moves) :
    Abreast (InStep queued) Unlike (go step) (go counterpart) := by
  cases step with
  | around move =>
    cases counterpart with
    | around other =>
      have moved : move ≠ .poll := fun poll => whole (by simp [Step.moves, poll])
      exact abreast_discard (abreast_perform (Step.around.inj same) moved)
    | _ => cases same
  | suspending host =>
    cases counterpart with
    | suspending other =>
      have moved : .poll ∉ host.whileSuspended := fun poll => whole (by
        simp [Step.moves, HostActivity.moves, poll])
      exact abreast_discard (abreast_advanceSuspending (Step.suspending.inj same) moved)
    | _ => cases same
  | ticking host =>
    cases counterpart with
    | ticking other => exact abreast_discard (abreast_advanceTicking (Step.ticking.inj same))
    | _ => cases same

theorem abreast_play {run : Run γ σ α τ} {counterpart : Run δ ω α τ}
    (same : run.unrendered = counterpart.unrendered) (whole : .poll ∉ run.moves) :
    Abreast (InStep queued) Unlike (play run) (play counterpart) := by
  obtain ⟨steps, unfinished⟩ := run
  obtain ⟨otherSteps, otherUnfinished⟩ := counterpart
  obtain ⟨finished, last⟩ := Run.mk.inj same
  have goes : Abreast (InStep queued) Unlike (forAll go steps) (forAll go otherSteps) := by
    refine abreast_forAll finished fun step member other looks => abreast_go looks fun poll => ?_
    refine whole (List.mem_flatMap.mpr ⟨step, ?_, poll⟩)
    exact List.mem_append_left _ member
  refine abreast_bind goes fun _ _ _ => ?_
  cases unfinished with
  | none =>
    cases otherUnfinished with
    | none => exact abreast_pure trivial
    | some other => cases last
  | some host =>
    cases otherUnfinished with
    | none => cases last
    | some other =>
      refine abreast_standBy (Option.some.inj last) fun poll => whole ?_
      simp [Run.moves, Run.allSteps, Step.moves, HostActivity.moves, poll]

end Rendering

end Abreast

end Lifecycle

variable [Graphics.Layer γ] [Graphics.Layer δ] [Window.Layer σ] [Window.Layer ω] [TextInput τ]

/-- Two lifecycles that agree but for rendering, with queues that hold the same, stay in step
through the same script, whatever their rendering layers and windows answer and whoever owns the
context, as long as the app takes its events all at once. After every step and in the middle
of every wait they are in the same phase with the same counts raised, they have waited at the
same places and made the same calls on audio outputs and on the text input, and what the app has
seen and what is still queued is the same but for resets that a keeper announced. -/
theorem rendering_never_derails_the_lifecycle (first : Lifecycle γ σ α τ)
    (second : Lifecycle δ ω α τ) (run : Run γ σ α τ) (counterpart : Run δ ω α τ)
    (queued : List Event) (agree : first.SteersAs second)
    (holds : first.keeper.events = .storing queued)
    (holdsThere : second.keeper.events = .storing queued)
    (script : run.unrendered = counterpart.unrendered) (whole : .poll ∉ run.moves) :
    InStep queued ((Lifecycle.play run).run first) ((Lifecycle.play counterpart).run second) ∧
      ∀ count, InStep queued ((Lifecycle.play { steps := run.steps.take count }).run first)
        ((Lifecycle.play { steps := counterpart.steps.take count }).run second) := by
  have beginning : InStep queued ⟨(), first, []⟩ ⟨(), second, []⟩ := by
    refine ⟨agree, rfl, ?_, ?_, rfl, rfl⟩
    · rw [holds]
      exact Delivered.nil queued
    · rw [holdsThere]
      exact Delivered.nil queued
  refine ⟨(Lifecycle.abreast_play script whole _ _ beginning).2, fun count => ?_⟩
  have steps : run.steps.map (Step.mapMoves Move.unrendered) =
      counterpart.steps.map (Step.mapMoves Move.unrendered) := congrArg Run.steps script
  have cut : Run.unrendered { steps := run.steps.take count } =
      Run.unrendered { steps := counterpart.steps.take count } := by
    simp [Run.unrendered, Run.mapMoves, List.map_take, steps]
  have wholeCut : .poll ∉ Run.moves { steps := run.steps.take count } := by
    intro poll
    obtain ⟨step, member, moves⟩ := List.mem_flatMap.mp poll
    simp only [Run.allSteps, Option.toList_none, List.map_nil, List.append_nil] at member
    refine whole (List.mem_flatMap.mpr ⟨step, ?_, moves⟩)
    exact List.mem_append_left _ (List.mem_of_mem_take member)
  exact (Lifecycle.abreast_play cut wholeCut _ _ beginning).2

namespace Rehearsal

/-- The app asks itself for a reset while it is in the background. -/
def rebuilding : RehearsedRun where
  steps := [.around (.notify .pause 1), .suspending {}, .around .drain,
    .suspending { whileSuspended := [.push .renderDeviceReset 1, .notify .resume 1] },
    .around .drain]

/-- Loses its context in the background. -/
def owner : RehearsedLifecycle :=
  Lifecycle.fresh {} opening [Scripts.output .probing "speaker" 0] [{ stalls := [true] }]
    (some { active := true })

/-- Draws into a context of its embedder. -/
def guest : RehearsedLifecycle :=
  Lifecycle.fresh { contextExternal := true } { opening with graphics := {} }
    [Scripts.output .probing "speaker" 0] [{ stalls := [true] }] (some { active := true })

end Rehearsal

open Rehearsal in
/-- Only the owner is told of a reset by its keeper. The reset that the app asked for reaches
both. -/
theorem lost_context_makes_no_difference :
    let own := (Lifecycle.play rebuilding).run owner
    let foreign := (Lifecycle.play rebuilding).run guest
    ((Trace.seen [] own.trace).count (.keeper, .renderDeviceReset) = 1 ∧
      (Trace.seen [] foreign.trace).count (.keeper, .renderDeviceReset) = 0 ∧
      (Trace.seen [] foreign.trace).count (.app, .renderDeviceReset) = 1) ∧
    InStep [] own foreign := by
  intro own foreign
  have whole : .poll ∉ rebuilding.moves := by
    simp [rebuilding, Run.moves, Run.allSteps, Step.moves, HostActivity.moves]
  obtain ⟨inStep, -⟩ := rendering_never_derails_the_lifecycle owner guest rebuilding rebuilding []
    rfl rfl rfl rfl whole
  exact ⟨by decide, inStep⟩

end AppLifecycle
