import AppLifecycle.Proofs.Alarms
import AppLifecycle.Proofs.Run
import AppLifecycle.Proofs.SignalCounts

/-! No failure is swallowed. A round answers with a phase only, so what a collaborator refused
or an output lost shows in the notices alone. Every operation tells of the calls that fail in
it, nested attempts included, and warns of nothing else. -/
namespace AppLifecycle

open Traced

variable {γ σ α τ β δ : Type} {outputs : List (Audio.Output α)}

/-- To push an event is nothing to warn of. -/
theorem EventQueue.reports_send {kept : EventQueue → Prop} (origin : Origin) (event : Event)
    (keeps : ∀ queue, kept queue → kept (queue.push event)) :
    Reports outputs kept (EventQueue.send origin event) := by
  apply reports_bind (reports_tell rfl)
  intro _
  apply reports_bind (reports_read _)
  intro storing
  apply reports_bind (reports_whenever (reports_note rfl))
  intro _
  exact reports_update keeps

namespace Audio

theorem reports_silenceOne (purpose : Purpose) {position : Nat} {output : Output α}
    (here : outputs[position]? = some output) :
    Reports outputs (fun _ => True) (silenceOne purpose position output) := by
  apply reports_ask_bind fun _ holds => holds
  intro answer
  cases answer with
  | ok _ => exact admits_of_harmless rfl (reports_pure ())
  | error error => exact admits_note (.silence here purpose error)

theorem reports_takeUpOne (purpose : Purpose) {position : Nat} {output : Output α}
    (here : outputs[position]? = some output) :
    Reports outputs (fun _ => True) (takeUpOne purpose position output) := by
  apply reports_ask_bind fun _ holds => holds
  intro answer
  cases answer with
  | ok _ => exact admits_of_harmless rfl (reports_pure ())
  | error error => exact admits_note (.takeUp here purpose error)

/-- A stall is told of before the output is cycled. -/
theorem reports_recoverOne {position : Nat} {output : Output α}
    (here : outputs[position]? = some output) :
    Reports outputs (fun _ => True) (recoverOne position output) := by
  apply reports_ask_bind fun _ holds => holds
  intro stalled
  cases stalled with
  | false => exact admits_of_harmless rfl (reports_bind (reports_pure ()) fun _ => reports_pure _)
  | true =>
    apply admits_bind (admits_bind (admits_note (.stall here)) fun _ => ?_)
    · intro _
      exact reports_pure _
    · apply reports_bind (reports_silenceOne .recovery here)
      intro _
      exact reports_takeUpOne .recovery here

/-- The outputs are acted on in their own places. -/
theorem reports_eachFrom {action : Nat → Output α → Traced α β}
    (reports : ∀ position output, outputs[position]? = some output →
      Reports outputs (fun _ => True) (action position output))
    (first : Nat) (rest : List (Output α)) (place : outputs.drop first = rest) :
    Reports outputs (fun _ => True) (eachFrom action first rest) := by
  induction rest generalizing first with
  | nil => exact reports_pure []
  | cons output rest ih =>
    have here : outputs[first]? = some output := by
      rw [← List.head?_drop, place]
      rfl
    have later : outputs.drop (first + 1) = rest := by
      rw [← List.tail_drop, place]
      rfl
    apply reports_bind (reports first output here)
    intro _
    exact reports_bind (ih (first + 1) later) fun _ => reports_pure _

theorem reports_silenceAll : Reports outputs (fun _ => True) (silenceAll outputs) := by
  apply reports_bind (reports_eachFrom (fun _ _ here => reports_silenceOne _ here) 0 outputs rfl)
  intro _
  exact reports_note rfl

theorem reports_takeUpAll : Reports outputs (fun _ => True) (takeUpAll outputs) := by
  apply reports_bind (reports_eachFrom (fun _ _ here => reports_takeUpOne _ here) 0 outputs rfl)
  intro _
  exact reports_note rfl

theorem reports_recoverStalled : Reports outputs (fun _ => True) (recoverStalled outputs) := by
  apply reports_bind (reports_eachFrom (fun _ _ here => reports_recoverOne here) 0 outputs rfl)
  intro _
  exact reports_pure _

end Audio

theorem TextInput.reports_wake [TextInput τ] :
    Reports outputs (fun _ => True) (TextInput.wake (τ := τ)) := by
  apply reports_bind (reports_ask (fun _ holds => holds) fun _ => rfl)
  intro active
  exact reports_whenever (reports_command (fun _ holds => holds) rfl)

namespace Keeper

/-- Any keeper will do. -/
abbrev Any (_ : Keeper γ σ) : Prop := True

theorem reports_askGraphics {call : γ → β × γ} {record : β → Graphics.Call}
    (harmless : ∀ answer, Entry.isAlarm (.graphics (record answer)) = false) :
    Reports outputs (Any : Keeper γ σ → Prop) (askGraphics call record) :=
  reports_within (fun _ _ holds => holds) (reports_ask (fun _ holds => holds) harmless)

/-- A call on the rendering layer may fail if what follows tells of it. -/
theorem reports_askGraphics_bind {call : γ → β × γ} {record : β → Graphics.Call}
    {next : β → Traced (Keeper γ σ) δ}
    (admits : ∀ answer, Admits outputs Any (.graphics (record answer)) (next answer)) :
    Reports outputs Any (askGraphics call record >>= next) := by
  intro keeper holds
  exact admits (call keeper.graphics).1 { keeper with graphics := (call keeper.graphics).2 } holds

theorem reports_askWindow (call : σ → β × σ) (record : β → Window.Call) :
    Reports outputs (Any : Keeper γ σ → Prop) (askWindow call record) :=
  reports_within (fun _ _ holds => holds) (reports_ask (fun _ holds => holds) fun _ => rfl)

theorem reports_tellWindow (call : σ → σ) (record : Window.Call) :
    Reports outputs (Any : Keeper γ σ → Prop) (tellWindow call record) :=
  reports_within (fun _ _ holds => holds) (reports_command (fun _ holds => holds) rfl)

theorem reports_guarded {action : Traced (Keeper γ σ) β} (reports : Reports outputs Any action) :
    Reports outputs Any (guarded action) := by
  refine reports_bind (reports_update fun _ holds => holds) fun _ => ?_
  apply reports_bind reports
  intro answer
  exact reports_bind (reports_update fun _ holds => holds) fun _ => reports_pure answer

variable [Graphics.Layer γ]

theorem reports_rememberSwapInterval :
    Reports outputs Any (rememberSwapInterval : Traced (Keeper γ σ) Unit) := by
  apply reports_bind (reports_askGraphics fun _ => rfl)
  intro interval
  exact reports_bind (reports_update fun _ holds => holds) fun _ => reports_note rfl

/-- An attempt to attach a context tells of a refusal in the words it is given. -/
theorem reports_attach {context : Option Graphics.Context} {refusal : Graphics.Error → Notice}
    (tells : ∀ error,
      Tells outputs (.graphics (.makeCurrent context (.error error))) (refusal error)) :
    Reports outputs Any (attach context refusal : Traced (Keeper γ σ) Bool) := by
  apply reports_askGraphics_bind
  intro answer
  cases answer with
  | ok _ => exact admits_of_harmless rfl (reports_pure true)
  | error error => exact admits_bind (admits_note (tells error)) fun _ => reports_pure false

theorem reports_save : Reports outputs Any (save : Traced (Keeper γ σ) Bool) := by
  apply reports_bind (reports_read _)
  intro held
  split
  · exact reports_bind (reports_note rfl) fun _ => reports_pure false
  · apply reports_bind (reports_guarded ?_) fun _ => reports_pure true
    apply reports_bind (reports_askGraphics fun _ => rfl)
    intro context
    apply reports_bind (reports_attach .detach)
    intro _
    exact reports_bind (reports_update fun _ holds => holds) fun _ => reports_note rfl

theorem reports_recreate : Reports outputs Any (recreate : Traced (Keeper γ σ) Unit) := by
  apply reports_askGraphics_bind
  intro created
  cases created with
  | ok context =>
    apply admits_of_harmless rfl
    exact reports_bind (reports_attach (.attachNew context)) fun _ => reports_pure ()
  | error error => exact admits_note (.create error)

theorem reports_attachSaved : Reports outputs Any (attachSaved : Traced (Keeper γ σ) Bool) := by
  apply reports_bind (reports_read _)
  intro saved
  apply reports_bind (reports_attach (.attachSaved saved))
  intro attached
  apply reports_bind (reports_whenever reports_recreate)
  intro _
  apply reports_askGraphics_bind
  intro status
  cases status with
  | badAlloc => exact admits_bind (admits_note (.status _ (.inl rfl))) fun _ => reports_pure _
  | badMatch => exact admits_bind (admits_note (.status _ (.inr rfl))) fun _ => reports_pure _
  -- Any other status passes for success, and nothing is said of it.
  | _ => exact admits_of_harmless rfl (reports_bind (reports_pure ()) fun _ => reports_pure _)

/-- A wanted interval that is refused and the refusal to give it up are told of each on its
own. -/
theorem reports_reinstateSwapInterval :
    Reports outputs Any (reinstateSwapInterval : Traced (Keeper γ σ) Int32) := by
  apply reports_bind (reports_read _)
  intro wanted
  apply reports_askGraphics_bind
  intro first
  cases first with
  | ok _ => exact admits_of_harmless rfl (reports_pure wanted)
  | error error =>
    apply admits_bind (admits_note (.interval wanted error))
    intro _
    apply reports_askGraphics_bind
    intro second
    cases second with
    | ok _ => exact admits_of_harmless rfl (reports_pure 0)
    | error error => exact admits_bind (admits_note (.vsync error)) fun _ => reports_pure 0

variable [Window.Layer σ]

omit [Graphics.Layer γ] in
theorem reports_updateWindow :
    Reports outputs Any (updateWindow : Traced (Keeper γ σ) (Option Resolution)) := by
  have derives : Reports outputs Any (deriveGeometry : Traced (Keeper γ σ) Geometry) :=
    reports_bind (reports_askWindow _ _) fun _ => reports_bind (reports_askWindow _ _) fun _ =>
      reports_bind (reports_askWindow _ _) fun _ => reports_pure _
  have passes : Reports outputs Any (passFormat : Traced (Keeper γ σ) Unit) := by
    apply reports_bind (reports_askWindow _ _)
    intro format
    split
    · exact reports_tellWindow _ _
    · exact reports_pure ()
  apply reports_bind derives
  intro next
  apply reports_bind passes
  intro _
  apply reports_bind (reports_read _)
  intro changed
  split
  · apply reports_bind (reports_tellWindow _ _)
    intro _
    apply reports_bind (reports_tellWindow _ _)
    intro _
    refine reports_bind (reports_update fun _ holds => holds) fun _ => ?_
    exact reports_bind (reports_note rfl) fun _ => reports_pure _
  · exact reports_bind (reports_note rfl) fun _ => reports_pure none

theorem reports_restore :
    Reports outputs Any (restore : Traced (Keeper γ σ) (Option Restored)) := by
  apply reports_bind (reports_read _)
  intro held
  split
  · apply reports_guarded
    apply reports_bind reports_attachSaved
    intro deviceReset
    have sends : Reports outputs (Any : Keeper γ σ → Prop)
        (onEvents (EventQueue.send .keeper .renderDeviceReset)) :=
      reports_within (fun _ _ holds => holds) (EventQueue.reports_send _ _ fun _ holds => holds)
    apply reports_bind (reports_whenever sends)
    intro _
    apply reports_bind reports_updateWindow
    intro resolution
    apply reports_bind reports_reinstateSwapInterval
    intro swapInterval
    refine reports_bind (reports_update fun _ holds => holds) fun _ => ?_
    exact reports_bind (reports_note rfl) fun _ => reports_pure _
  · exact reports_bind (reports_note rfl) fun _ => reports_pure none

end Keeper

/-- Signals are raised and used up without a warning. -/
theorem HostSignals.reports_notify (kind : SignalKind) :
    Reports outputs (fun _ => True) (HostSignals.notify kind) := by
  apply reports_bind (reports_tell rfl)
  intro _
  apply reports_within fun _ _ holds => holds
  refine reports_bind (reports_update fun _ holds => holds) fun _ => ?_
  exact reports_bind (reports_read _) fun _ => reports_note rfl

namespace Lifecycle

/-- These are the audio outputs of the lifecycle. -/
def Registers (outputs : List (Audio.Output α)) (lifecycle : Lifecycle γ σ α τ) : Prop :=
  lifecycle.outputs = outputs

theorem reports_onKeeper {action : Traced (Keeper γ σ) β}
    (reports : Reports outputs Keeper.Any action) :
    Reports outputs (Registers outputs : Lifecycle γ σ α τ → Prop) (onKeeper action) :=
  reports_within (fun _ _ holds => holds) reports

theorem reports_onSignals {action : Traced HostSignals β}
    (reports : Reports outputs (fun _ => True) action) :
    Reports outputs (Registers outputs : Lifecycle γ σ α τ → Prop) (onSignals action) :=
  reports_within (fun _ _ holds => holds) reports

theorem reports_onEvents {action : Traced EventQueue β}
    (reports : Reports outputs (fun _ => True) action) :
    Reports outputs (Registers outputs : Lifecycle γ σ α τ → Prop) (onEvents action) :=
  reports_onKeeper (reports_within (fun _ _ holds => holds) reports)

/-- The outputs that are acted on are those that are registered. -/
theorem reports_onAudio {action : List (Audio.Output α) → Traced α β}
    (reports : Reports outputs (fun _ => True) (action outputs)) :
    Reports outputs (Registers outputs : Lifecycle γ σ α τ → Prop) (onAudio action) := by
  intro lifecycle registers
  have same : action lifecycle.outputs = action outputs := by rw [registers]
  obtain ⟨-, reported⟩ := reports lifecycle.audio trivial
  refine ⟨registers, ?_⟩
  simpa [onAudio, run_bind, same] using reported

theorem reports_wakeTextInput [TextInput τ] :
    Reports outputs (Registers outputs) (wakeTextInput : Traced (Lifecycle γ σ α τ) Unit) := by
  intro lifecycle registers
  cases here : lifecycle.textInput with
  | none =>
    simp only [wakeTextInput, run, here]
    exact ⟨registers, .none⟩
  | some textInput =>
    simp only [wakeTextInput, run, here]
    exact ⟨registers, (TextInput.reports_wake textInput trivial).2⟩

theorem reports_announce (events : List Event) :
    Reports outputs (Registers outputs) (announce events : Traced (Lifecycle γ σ α τ) Unit) := by
  apply reports_bind (reports_forAll events fun event _ => ?_) fun _ => reports_pure ()
  exact reports_onEvents (EventQueue.reports_send _ _ fun _ holds => holds)

theorem reports_tryTake (kind : SignalKind) :
    Reports outputs (Registers outputs : Lifecycle γ σ α τ → Prop)
      (onSignals (HostSignals.on kind Signal.tryTake)) := by
  apply reports_onSignals
  intro signals _
  rw [HostSignals.run_on_tryTake]
  exact ⟨trivial, .none⟩

theorem reports_take (kind : SignalKind) :
    Reports outputs (Registers outputs) (take kind : Traced (Lifecycle γ σ α τ) Bool) := by
  apply reports_bind (reports_tryTake kind)
  intro raised
  exact reports_bind (reports_whenever (reports_tell rfl)) fun _ => reports_pure _

theorem reports_notifyAll (kinds : List SignalKind) :
    Reports outputs (Registers outputs) (notifyAll kinds : Traced (Lifecycle γ σ α τ) Unit) := by
  apply reports_bind (reports_forAll kinds fun kind _ => ?_) fun _ => reports_pure ()
  exact reports_onSignals (HostSignals.reports_notify kind)

/-- Nothing that happens around a lifecycle is a failure of its collaborators. -/
theorem reports_perform (move : Move γ σ α τ) :
    Reports outputs (Registers outputs) (perform move) := by
  cases move with
  | notify kind times => exact reports_bind (reports_notifyAll _) fun _ => reports_pure _
  | take kind => exact reports_bind (reports_tryTake kind) fun _ => reports_pure _
  | push event times =>
    have sends : Reports outputs (Registers outputs : Lifecycle γ σ α τ → Prop)
        (onEvents (EventQueue.send .app event)) :=
      reports_onEvents (EventQueue.reports_send _ _ fun _ holds => holds)
    exact reports_bind (reports_repeated sends times) fun _ => reports_pure _
  | poll =>
    apply reports_bind (reports_onEvents fun _ _ => ⟨trivial, .of_removed _⟩)
    exact fun _ => reports_pure _
  | drain =>
    apply reports_bind (reports_onEvents fun _ _ => ⟨trivial, .of_removed _⟩)
    exact fun _ => reports_pure _
  | adjust graphics window audio textInput =>
    exact reports_bind (reports_update fun _ holds => holds) fun _ => reports_pure _

theorem reports_suspend (host : HostActivity γ σ α τ) :
    Reports outputs (Registers outputs) (suspend host) := by
  apply reports_bind (reports_tell rfl)
  intro _
  apply reports_bind (reports_forAll _ fun move _ => reports_perform move)
  intro replies
  apply reports_bind (reports_read _)
  intro raised
  exact reports_bind (reports_whenever (reports_notifyAll _)) fun _ => reports_tell rfl

theorem reports_awaitResume (host : HostActivity γ σ α τ) :
    Reports outputs (Registers outputs) (awaitResume host) := by
  apply reports_bind (reports_notifyAll _)
  intro _
  apply reports_bind (reports_read _)
  intro raised
  apply reports_bind (reports_whenever (reports_suspend host))
  intro _
  exact reports_bind (reports_take .resume) fun _ => reports_pure ()

theorem reports_settlePause (announced : Bool) :
    Reports outputs (Registers outputs)
      (settlePause announced : Traced (Lifecycle γ σ α τ) Unit) := by
  apply reports_bind (reports_read _)
  intro queued
  apply reports_bind (reports_read _)
  intro signalled
  split
  · apply reports_bind (reports_whenever (reports_note rfl))
    intro _
    exact reports_update fun _ holds => holds
  · refine reports_bind (reports_update fun _ holds => holds) fun _ => ?_
    exact reports_bind (reports_tell rfl) fun _ => reports_note rfl

theorem reports_recoverAudio :
    Reports outputs (Registers outputs) (recoverAudio : Traced (Lifecycle γ σ α τ) Nat) :=
  reports_onAudio Audio.reports_recoverStalled

variable [Graphics.Layer γ]

theorem reports_carryOutDuePause (pauseAudio : Bool) :
    Reports outputs (Registers outputs)
      (carryOutDuePause pauseAudio : Traced (Lifecycle γ σ α τ) Unit) := by
  apply reports_bind (reports_read _)
  intro due
  apply reports_whenever
  apply reports_bind (reports_tell rfl)
  intro _
  apply reports_bind (reports_read _)
  intro external
  apply reports_bind (reports_whenever
    (reports_bind (reports_onKeeper Keeper.reports_save) fun _ => reports_pure ()))
  intro _
  apply reports_bind (reports_whenever (reports_onAudio Audio.reports_silenceAll))
  intro _
  exact reports_update fun _ holds => holds

theorem reports_lookForPause (host : HostActivity γ σ α τ) :
    Reports outputs (Registers outputs) (lookForPause host) := by
  apply reports_bind (reports_read _)
  intro phase
  split
  · exact reports_bind (reports_notifyAll _) fun _ => reports_settlePause false
  · apply reports_bind (reports_notifyAll _)
    intro _
    apply reports_bind (reports_take .pause)
    intro taken
    apply reports_whenever
    apply reports_bind (reports_onKeeper Keeper.reports_rememberSwapInterval)
    intro _
    apply reports_bind (reports_announce _)
    intro _
    exact reports_bind (reports_notifyAll _) fun _ => reports_settlePause true

theorem reports_settleDown (host : HostActivity γ σ α τ) :
    Reports outputs (Registers outputs) (settleDown host) := by
  apply reports_bind (reports_read _)
  intro phase
  apply reports_bind (reports_whenever (reports_lookForPause host))
  intro _
  apply reports_bind (reports_read _)
  intro now
  exact reports_whenever (reports_bind (reports_carryOutDuePause true) fun _ => reports_note rfl)

theorem reports_standBy (host : HostActivity γ σ α τ) :
    Reports outputs (Registers outputs) (standBy host) := by
  apply reports_bind (reports_settleDown host)
  intro _
  apply reports_bind (reports_read _)
  intro phase
  apply reports_whenever
  apply reports_bind (reports_notifyAll _)
  intro _
  apply reports_bind (reports_read _)
  intro raised
  apply reports_whenever
  apply reports_bind (reports_tell rfl)
  intro _
  exact reports_bind (reports_forAll _ fun move _ => reports_perform move) fun _ => reports_pure ()

variable [Window.Layer σ] [TextInput τ]

theorem reports_endPause (resumeAudio : Bool) :
    Reports outputs (Registers outputs)
      (endPause resumeAudio : Traced (Lifecycle γ σ α τ) Unit) := by
  have restores : Reports outputs (Registers outputs)
      (restoreContext : Traced (Lifecycle γ σ α τ) Unit) := by
    apply reports_bind (reports_read _)
    intro external
    apply reports_bind (reports_read _)
    intro quitting
    split
    · exact reports_note rfl
    · split
      · exact reports_note rfl
      · exact reports_bind (reports_onKeeper Keeper.reports_restore) fun _ => reports_pure ()
  refine reports_bind (reports_update fun _ holds => holds) fun _ => ?_
  apply reports_bind (reports_tell rfl)
  intro _
  apply reports_bind (reports_announce _)
  intro _
  apply reports_bind (reports_whenever (reports_onAudio Audio.reports_takeUpAll))
  intro _
  apply reports_bind restores
  intro _
  exact reports_bind reports_wakeTextInput fun _ => reports_note rfl

/-- Whatever a step does, it tells of every failure. -/
theorem reports_go (step : Step γ σ α τ) : Reports outputs (Registers outputs) (go step) := by
  have recovers : Reports outputs (Registers outputs) (do
      let _ ← recoverAudio
      read Lifecycle.phase : Traced (Lifecycle γ σ α τ) Phase) :=
    reports_bind reports_recoverAudio fun _ => reports_read _
  cases step with
  | around move => exact reports_bind (reports_perform move) fun _ => reports_pure ()
  | suspending host =>
    refine reports_bind (reports_bind (reports_settleDown host) fun _ =>
      reports_bind (reports_bind (reports_read _) fun phase => ?_) fun _ => recovers) fun _ =>
        reports_pure ()
    apply reports_whenever
    exact reports_bind (reports_awaitResume host) fun _ => reports_endPause true
  | ticking host =>
    refine reports_bind (reports_bind (reports_read _) fun phase => ?_) fun _ => reports_pure ()
    split
    · refine reports_bind (reports_bind (reports_read _) fun pauseAudio => ?_) fun _ => recovers
      apply reports_bind (reports_carryOutDuePause pauseAudio)
      intro _
      apply reports_bind (reports_notifyAll _)
      intro _
      apply reports_bind (reports_take .resume)
      intro resumed
      exact reports_whenever (reports_endPause pauseAudio)
    · exact reports_bind (reports_lookForPause host) fun _ => recovers

theorem reports_play (run : Run γ σ α τ) : Reports outputs (Registers outputs) (play run) := by
  obtain ⟨steps, unfinished⟩ := run
  apply reports_bind (reports_forAll steps fun step _ => reports_go step)
  intro _
  cases unfinished with
  | none => exact reports_pure ()
  | some host => exact reports_standBy host

end Lifecycle

/-- The warnings of a trace tell of its failures, one by one and in order, and those that tell
of a refusal do it in its words. -/
def Trace.TellsFailures (outputs : List (Audio.Output α)) (trace : List Entry) : Prop :=
  List.Forall₂ (fun entry notice => Tells outputs entry notice ∧
      ∀ words, entry.refusal? = some words → ("error", .text words) ∈ notice.fields)
    (trace.filter Entry.isFailure) (noticesFrom .warn trace)

theorem Reported.tellsFailures {trace : List Entry} (reported : Reported outputs trace) :
    Trace.TellsFailures outputs trace :=
  reported.forall₂.imp fun _ _ tells => ⟨tells, fun _ => tells.words⟩

/-- No failure is swallowed and no warning comes from nowhere. Over a whole run and in whatever
comes next, a round of either kind or one that has not come back, the warnings are those of the
failures, in their order; and a warning of a refusal has its words. -/
theorem warnings_tell_of_the_failures [Graphics.Layer γ] [Window.Layer σ] [TextInput τ]
    (start : Lifecycle γ σ α τ) (run : Run γ σ α τ) :
    let outcome := (Lifecycle.play run).run start
    Trace.TellsFailures start.outputs outcome.trace ∧
      (∀ step, Trace.TellsFailures start.outputs ((Lifecycle.go step).run outcome.state).trace) ∧
      ∀ host, Trace.TellsFailures start.outputs
        ((Lifecycle.standBy host).run outcome.state).trace := by
  intro outcome
  have reports : Reports start.outputs (Lifecycle.Registers start.outputs) (Lifecycle.play run) :=
    Lifecycle.reports_play run
  obtain ⟨registers, reported⟩ := reports start rfl
  refine ⟨reported.tellsFailures, fun step => ?_, fun host => ?_⟩
  · exact (Lifecycle.reports_go step _ registers).2.tellsFailures
  · exact (Lifecycle.reports_standBy host _ registers).2.tellsFailures

/-- A context that is lost in the background and an interval that is refused twice. -/
example : Trace.noticesFrom .warn (Rehearsal.rehearse
    { steps := [.around (.adjust ({ · with unsupported := [0] }) id id id),
        .around (.notify .pause 1), .suspending {}, .around .drain, .suspending {}] }).trace =
      [.savedContextInvalid (.makeCurrent "context 42 lost"),
        .swapIntervalRefused (.swapInterval 0) 0, .disableVsyncFailed (.swapInterval 0)] := by
  decide

end AppLifecycle
