import AppLifecycle.Proofs.KeeperTasks
import AppLifecycle.Proofs.Parallel

/-! Audio and text input make no difference. Two lifecycles may have different outputs, in any
number and order, that answer anything, treat audio differently in the background, and have
a text input or none. As long as they agree on the rest and go through the same script, they
stay in agreement, and all that they do is the same but for audio and text input. -/
namespace AppLifecycle

open Traced

variable {γ σ α τ δ ω : Type}

/-- A lifecycle without its audio and its text input. -/
structure Shared (γ σ : Type) where
  mode : LoopMode
  external : Bool
  keeper : Keeper γ σ
  signals : HostSignals
  phase : Phase
  due : Bool

def Lifecycle.shared (lifecycle : Lifecycle γ σ α τ) : Shared γ σ where
  mode := lifecycle.config.mode
  external := lifecycle.config.contextExternal
  keeper := lifecycle.keeper
  signals := lifecycle.signals
  phase := lifecycle.phase
  due := lifecycle.carryOutDue

/-- The entries that have nothing to do with audio, text input or people. -/
def Entry.isShared : Entry → Bool
  | .audio _ _ | .textInput _ | .notice _ => false
  | _ => true

/-- A move without what it does to audio and text input. -/
def Move.muted : Move γ σ α τ → Move γ σ Unit Unit
  | .notify kind times => .notify kind times
  | .take kind => .take kind
  | .push event times => .push event times
  | .poll => .poll
  | .drain => .drain
  | .adjust graphics window _ _ => .adjust graphics window id id

def HostActivity.muted (host : HostActivity γ σ α τ) : HostActivity γ σ Unit Unit where
  beforeTake := host.beforeTake
  beforeCount := host.beforeCount
  beforeResume := host.beforeResume
  whileSuspended := host.whileSuspended.map Move.muted

def Step.muted : Step γ σ α τ → Step γ σ Unit Unit
  | .around move => .around move.muted
  | .suspending host => .suspending host.muted
  | .ticking host => .ticking host.muted

/-- The script of a run, without what happens to audio and text input. -/
def Run.muted (run : Run γ σ α τ) : Run γ σ Unit Unit where
  steps := run.steps.map Step.muted
  unfinished := run.unfinished.map HostActivity.muted

namespace Lifecycle

/-- Two lifecycles agree on all but audio and text input. -/
def AgreesWith (first : Lifecycle γ σ α τ) (second : Lifecycle γ σ δ ω) : Prop :=
  first.shared = second.shared

/-- Two actions do the same but for audio and text input. -/
abbrev Unheard {β : Type} (first : Traced (Lifecycle γ σ α τ) β)
    (second : Traced (Lifecycle γ σ δ ω) β) : Prop :=
  Parallel AgreesWith Entry.isShared first second

theorem unheard_read {β : Type} (reading : Shared γ σ → β) :
    Unheard (read fun now : Lifecycle γ σ α τ => reading now.shared)
      (read fun now : Lifecycle γ σ δ ω => reading now.shared) :=
  parallel_read fun _ _ same => congrArg reading same

theorem unheard_update {change : Lifecycle γ σ α τ → Lifecycle γ σ α τ}
    {counterpart : Lifecycle γ σ δ ω → Lifecycle γ σ δ ω} (shared : Shared γ σ → Shared γ σ)
    (here : ∀ now, (change now).shared = shared now.shared)
    (there : ∀ now, (counterpart now).shared = shared now.shared) :
    Unheard (update change) (update counterpart) :=
  parallel_update fun first second same =>
    (here first).trans ((congrArg shared same).trans (there second).symm)

theorem unheard_onKeeper {β : Type} (action : Traced (Keeper γ σ) β) :
    Unheard (onKeeper action : Traced (Lifecycle γ σ α τ) β)
      (onKeeper action : Traced (Lifecycle γ σ δ ω) β) :=
  parallel_within (fun _ _ same => congrArg Shared.keeper same)
    (fun keeper _ _ same => congrArg (fun shared : Shared γ σ => { shared with keeper }) same)
    action

theorem unheard_onSignals {β : Type} (action : Traced HostSignals β) :
    Unheard (onSignals action : Traced (Lifecycle γ σ α τ) β)
      (onSignals action : Traced (Lifecycle γ σ δ ω) β) :=
  parallel_within (fun _ _ same => congrArg Shared.signals same)
    (fun signals _ _ same => congrArg (fun shared : Shared γ σ => { shared with signals }) same)
    action

theorem unheard_notifyAll (kinds : List SignalKind) :
    Unheard (notifyAll kinds : Traced (Lifecycle γ σ α τ) Unit)
      (notifyAll kinds : Traced (Lifecycle γ σ δ ω) Unit) :=
  parallel_notifyAll unheard_onSignals kinds

theorem unheard_take (kind : SignalKind) :
    Unheard (take kind : Traced (Lifecycle γ σ α τ) Bool)
      (take kind : Traced (Lifecycle γ σ δ ω) Bool) :=
  parallel_take unheard_onSignals kind

theorem unheard_announce (events : List Event) :
    Unheard (announce events : Traced (Lifecycle γ σ α τ) Unit)
      (announce events : Traced (Lifecycle γ σ δ ω) Unit) := by
  apply parallel_bind _ fun _ => parallel_pure ()
  exact parallel_each (fun event => unheard_onKeeper _) events

theorem unheard_settlePause (announced : Bool) :
    Unheard (settlePause announced : Traced (Lifecycle γ σ α τ) Unit)
      (settlePause announced : Traced (Lifecycle γ σ δ ω) Unit) := by
  refine parallel_bind (unheard_read fun now => now.keeper.events.count .didEnterBackground)
    fun queued => ?_
  refine parallel_bind (unheard_read fun now => now.signals.pause.count) fun signalled => ?_
  split
  · refine parallel_bind (parallel_whenever (parallel_note _)) fun _ => ?_
    exact unheard_update (fun now => { now with phase := .pausing }) (fun _ => rfl) fun _ => rfl
  · refine parallel_bind (unheard_update (fun now => { now with phase := .paused, due := true })
      (fun _ => rfl) fun _ => rfl) fun _ => ?_
    exact parallel_bind (parallel_tell _) fun _ => parallel_note _

/-- A move that is the same in the script is the same for both. -/
theorem unheard_perform {move : Move γ σ α τ} {other : Move γ σ δ ω}
    (same : move.muted = other.muted) : Unheard (perform move) (perform other) := by
  cases move with
  | notify kind times =>
    cases other <;> cases same
    exact parallel_bind (unheard_notifyAll _) fun _ => parallel_pure _
  | take kind =>
    cases other <;> cases same
    exact parallel_bind (unheard_onSignals _) fun _ => parallel_pure _
  | push event times =>
    cases other <;> cases same
    exact parallel_bind (parallel_repeated (unheard_onKeeper _) times) fun _ => parallel_pure _
  | poll =>
    cases other <;> cases same
    exact parallel_bind (unheard_onKeeper _) fun _ => parallel_pure _
  | drain =>
    cases other <;> cases same
    exact parallel_bind (unheard_onKeeper _) fun _ => parallel_pure _
  | adjust graphics window audio textInput =>
    cases other <;> cases same
    exact parallel_bind (unheard_update (fun now => { now with keeper := { now.keeper with
      graphics := graphics now.keeper.graphics
      window := window now.keeper.window } }) (fun _ => rfl) fun _ => rfl) fun _ => parallel_pure _

theorem unheard_suspend {host : HostActivity γ σ α τ} {other : HostActivity γ σ δ ω}
    (same : host.muted = other.muted) : Unheard (suspend host) (suspend other) := by
  have moves := congrArg HostActivity.whileSuspended same
  refine parallel_bind (parallel_tell _) fun _ => ?_
  refine parallel_bind (parallel_forAll moves fun _ _ => unheard_perform) fun replies => ?_
  refine parallel_bind (unheard_read fun now => now.signals.resume.count) fun raised => ?_
  exact parallel_bind (parallel_whenever (unheard_notifyAll _)) fun _ => parallel_tell _

theorem unheard_awaitResume {host : HostActivity γ σ α τ} {other : HostActivity γ σ δ ω}
    (same : host.muted = other.muted) : Unheard (awaitResume host) (awaitResume other) := by
  have raises : host.beforeResume = other.beforeResume := congrArg HostActivity.beforeResume same
  unfold awaitResume
  rw [raises]
  refine parallel_bind (unheard_notifyAll _) fun _ => ?_
  refine parallel_bind (unheard_read fun now => now.signals.resume.count) fun raised => ?_
  refine parallel_bind (parallel_whenever (unheard_suspend same)) fun _ => ?_
  exact parallel_bind (unheard_take .resume) fun _ => parallel_pure ()

/-- What is done to outputs on either side is not seen, nor whether anything is done. -/
theorem apart_onAudio {action : List (Audio.Output α) → Traced α Unit}
    {counterpart : List (Audio.Output δ) → Traced δ Unit} (wanted wantedThere : Bool)
    (spared : ∀ outputs, Spares (fun _ => ()) Entry.isShared (action outputs))
    (sparedThere : ∀ outputs, Spares (fun _ => ()) Entry.isShared (counterpart outputs)) :
    Apart AgreesWith Entry.isShared
      (whenever wanted (onAudio action) : Traced (Lifecycle γ σ α τ) Unit)
      (whenever wantedThere (onAudio counterpart) : Traced (Lifecycle γ σ δ ω) Unit) :=
  apart_of_spares (spares_whenever (spares_onAudio (fun _ _ => rfl) spared))
    (spares_whenever (spares_onAudio (fun _ _ => rfl) sparedThere))

theorem apart_recoverAudio :
    Apart AgreesWith Entry.isShared (recoverAudio : Traced (Lifecycle γ σ α τ) Nat)
      (recoverAudio : Traced (Lifecycle γ σ δ ω) Nat) := by
  have spared {α τ : Type} :
      Spares shared Entry.isShared (recoverAudio : Traced (Lifecycle γ σ α τ) Nat) :=
    spares_recoverAudio (fun _ _ => rfl) (fun _ _ => rfl) fun _ => rfl
  exact apart_of_spares spared spared

theorem apart_wakeTextInput [TextInput τ] [TextInput ω] :
    Apart AgreesWith Entry.isShared (wakeTextInput : Traced (Lifecycle γ σ α τ) Unit)
      (wakeTextInput : Traced (Lifecycle γ σ δ ω) Unit) := by
  have spared {α τ : Type} [TextInput τ] :
      Spares shared Entry.isShared (wakeTextInput : Traced (Lifecycle γ σ α τ) Unit) :=
    spares_wakeTextInput (fun _ _ => rfl) fun _ => rfl
  exact apart_of_spares spared spared

section Rendering

variable [Graphics.Layer γ] {host : HostActivity γ σ α τ} {other : HostActivity γ σ δ ω}

theorem unheard_lookForPause (same : host.muted = other.muted) :
    Unheard (lookForPause host) (lookForPause other) := by
  have beforeTake : host.beforeTake = other.beforeTake := congrArg HostActivity.beforeTake same
  have beforeCount : host.beforeCount = other.beforeCount := congrArg HostActivity.beforeCount same
  unfold lookForPause
  rw [beforeTake, beforeCount]
  refine parallel_bind (unheard_read Shared.phase) fun phase => ?_
  have takesUp (posts : List SignalKind) :
      Unheard (takeUp posts : Traced (Lifecycle γ σ α τ) Unit)
        (takeUp posts : Traced (Lifecycle γ σ δ ω) Unit) := by
    refine parallel_bind (unheard_onKeeper _) fun _ => ?_
    refine parallel_bind (unheard_announce _) fun _ => ?_
    exact parallel_bind (unheard_notifyAll _) fun _ => unheard_settlePause true
  have looks : Unheard (do
      notifyAll other.beforeTake
      let taken ← take .pause
      whenever taken (takeUp other.beforeCount) : Traced (Lifecycle γ σ α τ) Unit) (do
      notifyAll other.beforeTake
      let taken ← take .pause
      whenever taken (takeUp other.beforeCount) : Traced (Lifecycle γ σ δ ω) Unit) := by
    refine parallel_bind (unheard_notifyAll _) fun _ => ?_
    exact parallel_bind (unheard_take .pause) fun taken => parallel_whenever (takesUp _)
  cases phase with
  | pausing => exact parallel_bind (unheard_notifyAll _) fun _ => unheard_settlePause false
  | running => exact looks
  | paused => exact looks

theorem unheard_carryOutDuePause (quiets quietsThere : Bool) :
    Unheard (carryOutDuePause quiets : Traced (Lifecycle γ σ α τ) Unit)
      (carryOutDuePause quietsThere : Traced (Lifecycle γ σ δ ω) Unit) := by
  refine parallel_bind (unheard_read Shared.due) fun due => parallel_whenever ?_
  refine parallel_bind (parallel_tell _) fun _ => ?_
  refine parallel_bind (unheard_read Shared.external) fun external => ?_
  refine parallel_bind (parallel_whenever ?_) fun _ => ?_
  · exact parallel_bind (unheard_onKeeper _) fun _ => parallel_pure ()
  · refine parallel_after (apart_onAudio quiets quietsThere ?_ ?_) fun _ _ => ?_
    · exact fun outputs => Audio.spares_silenceAll (fun _ _ => rfl) (fun _ => rfl) outputs
    · exact fun outputs => Audio.spares_silenceAll (fun _ _ => rfl) (fun _ => rfl) outputs
    · exact unheard_update (fun now => { now with due := false }) (fun _ => rfl) fun _ => rfl

theorem unheard_settleDown (same : host.muted = other.muted) :
    Unheard (settleDown host) (settleDown other) := by
  refine parallel_bind (unheard_read Shared.phase) fun phase => ?_
  refine parallel_bind (parallel_whenever (unheard_lookForPause same)) fun _ => ?_
  refine parallel_bind (unheard_read Shared.phase) fun phase => parallel_whenever ?_
  exact parallel_bind (unheard_carryOutDuePause true true) fun _ => parallel_note _

theorem unheard_standBy (same : host.muted = other.muted) :
    Unheard (standBy host) (standBy other) := by
  have raises : host.beforeResume = other.beforeResume := congrArg HostActivity.beforeResume same
  have moves := congrArg HostActivity.whileSuspended same
  unfold standBy
  rw [raises]
  refine parallel_bind (unheard_settleDown same) fun _ => ?_
  refine parallel_bind (unheard_read Shared.phase) fun phase => parallel_whenever ?_
  refine parallel_bind (unheard_notifyAll _) fun _ => ?_
  refine parallel_bind (unheard_read fun now => now.signals.resume.count) fun raised => ?_
  refine parallel_whenever (parallel_bind (parallel_tell _) fun _ => ?_)
  exact parallel_bind (parallel_forAll moves fun _ _ => unheard_perform) fun _ => parallel_pure ()

variable [Window.Layer σ]

theorem unheard_restoreContext :
    Unheard (restoreContext : Traced (Lifecycle γ σ α τ) Unit)
      (restoreContext : Traced (Lifecycle γ σ δ ω) Unit) := by
  refine parallel_bind (unheard_read Shared.external) fun external => ?_
  refine parallel_bind (unheard_read fun now => now.keeper.events.has .quit) fun quitting => ?_
  split
  · exact parallel_note _
  · split
    · exact parallel_note _
    · exact parallel_bind (unheard_onKeeper _) fun _ => parallel_pure ()

variable [TextInput τ] [TextInput ω]

theorem unheard_endPause (quiets quietsThere : Bool) :
    Unheard (endPause quiets : Traced (Lifecycle γ σ α τ) Unit)
      (endPause quietsThere : Traced (Lifecycle γ σ δ ω) Unit) := by
  refine parallel_bind (unheard_update (fun now => { now with phase := .running }) (fun _ => rfl)
    fun _ => rfl) fun _ => parallel_bind (parallel_tell _) fun _ => ?_
  refine parallel_bind (unheard_announce _) fun _ => ?_
  refine parallel_after (apart_onAudio quiets quietsThere ?_ ?_) fun _ _ => ?_
  · exact fun outputs => Audio.spares_takeUpAll (fun _ _ => rfl) (fun _ => rfl) outputs
  · exact fun outputs => Audio.spares_takeUpAll (fun _ _ => rfl) (fun _ => rfl) outputs
  · refine parallel_bind unheard_restoreContext fun _ => ?_
    exact parallel_after apart_wakeTextInput fun _ _ => parallel_note _

theorem unheard_advanceSuspending (same : host.muted = other.muted) :
    Unheard (advanceSuspending host) (advanceSuspending other) := by
  refine parallel_bind (unheard_settleDown same) fun _ => parallel_bind ?_ fun _ => ?_
  · refine parallel_bind (unheard_read Shared.phase) fun phase => parallel_whenever ?_
    exact parallel_bind (unheard_awaitResume same) fun _ => unheard_endPause true true
  · exact parallel_after apart_recoverAudio fun _ _ => unheard_read Shared.phase

/-- Whether audio is treated in the background at all makes no difference. -/
theorem unheard_tickPaused (same : host.muted = other.muted) :
    Unheard (tickPaused host) (tickPaused other) := by
  have raises : host.beforeResume = other.beforeResume := congrArg HostActivity.beforeResume same
  have asks {α τ : Type} : Spares shared Entry.isShared
      (read fun lifecycle : Lifecycle γ σ α τ => lifecycle.config.pauseAudio) := spares_read _
  unfold tickPaused
  rw [raises]
  refine parallel_after (apart_of_spares asks asks) fun quiets quietsThere => ?_
  refine parallel_bind (unheard_carryOutDuePause quiets quietsThere) fun _ => ?_
  refine parallel_bind (unheard_notifyAll _) fun _ => ?_
  refine parallel_bind (unheard_take .resume) fun resumed => parallel_whenever ?_
  exact unheard_endPause quiets quietsThere

theorem unheard_advanceTicking (same : host.muted = other.muted) :
    Unheard (advanceTicking host) (advanceTicking other) := by
  have ending : Unheard (do
      let _ ← recoverAudio
      read Lifecycle.phase : Traced (Lifecycle γ σ α τ) Phase) (do
      let _ ← recoverAudio
      read Lifecycle.phase : Traced (Lifecycle γ σ δ ω) Phase) :=
    parallel_after apart_recoverAudio fun _ _ => unheard_read Shared.phase
  refine parallel_bind (unheard_read Shared.phase) fun phase => ?_
  cases phase with
  | paused => exact parallel_bind (unheard_tickPaused same) fun _ => ending
  | running => exact parallel_bind (unheard_lookForPause same) fun _ => ending
  | pausing => exact parallel_bind (unheard_lookForPause same) fun _ => ending

theorem unheard_go {step : Step γ σ α τ} {counterpart : Step γ σ δ ω}
    (same : step.muted = counterpart.muted) : Unheard (go step) (go counterpart) := by
  cases step with
  | around move =>
    cases counterpart with
    | around other =>
      have moves : Unheard (perform move) (perform other) := unheard_perform (Step.around.inj same)
      exact parallel_bind moves fun _ => parallel_pure ()
    | _ => cases same
  | suspending host =>
    cases counterpart with
    | suspending other =>
      have rounds := unheard_advanceSuspending (Step.suspending.inj same)
      exact parallel_bind rounds fun _ => parallel_pure ()
    | _ => cases same
  | ticking host =>
    cases counterpart with
    | ticking other =>
      have rounds := unheard_advanceTicking (Step.ticking.inj same)
      exact parallel_bind rounds fun _ => parallel_pure ()
    | _ => cases same

theorem unheard_play {run : Run γ σ α τ} {counterpart : Run γ σ δ ω}
    (same : run.muted = counterpart.muted) : Unheard (play run) (play counterpart) := by
  obtain ⟨steps, unfinished⟩ := run
  obtain ⟨otherSteps, otherUnfinished⟩ := counterpart
  obtain ⟨finished, last⟩ := Run.mk.inj same
  refine parallel_bind (parallel_forAll finished fun _ _ => unheard_go) fun _ => ?_
  cases unfinished with
  | none =>
    cases otherUnfinished with
    | none => exact parallel_pure ()
    | some other => cases last
  | some host =>
    cases otherUnfinished with
    | none => cases last
    | some other => exact unheard_standBy (Option.some.inj last)

end Rendering

end Lifecycle

variable [Graphics.Layer γ] [Window.Layer σ] [TextInput τ] [TextInput ω]

/-- Two lifecycles that agree but for audio and text input, and go through the same script, agree
after every step of it, and have done the same but for calls on audio outputs and on the text
input: they took the same signals, waited at the same places, pushed the same events and made
the same calls on the rendering layer and the window. -/
theorem audio_and_text_input_never_influence_the_lifecycle (first : Lifecycle γ σ α τ)
    (second : Lifecycle γ σ δ ω) (run : Run γ σ α τ) (counterpart : Run γ σ δ ω)
    (agree : first.AgreesWith second) (script : run.muted = counterpart.muted) :
    let outcome := (Lifecycle.play run).run first
    let other := (Lifecycle.play counterpart).run second
    (outcome.state.AgreesWith other.state ∧
      outcome.trace.filter Entry.isShared = other.trace.filter Entry.isShared) ∧
    ∀ count,
      let earlier := (Lifecycle.play { steps := run.steps.take count }).run first
      let otherEarlier := (Lifecycle.play { steps := counterpart.steps.take count }).run second
      earlier.state.AgreesWith otherEarlier.state ∧
        earlier.trace.filter Entry.isShared = otherEarlier.trace.filter Entry.isShared := by
  intro outcome other
  have steps : run.steps.map Step.muted = counterpart.steps.map Step.muted :=
    congrArg Run.steps script
  have whole := Lifecycle.unheard_play script first second agree
  refine ⟨⟨whole.state, whole.trace⟩, fun count => ?_⟩
  have cut : Run.muted { steps := run.steps.take count } =
      Run.muted { steps := counterpart.steps.take count } := by
    simp [Run.muted, List.map_take, steps]
  have part := Lifecycle.unheard_play cut first second agree
  exact ⟨part.state, part.trace⟩

namespace Rehearsal

/-- A pause in rounds that suspend and another one in rounds that tick. -/
def bothWays : Run ScriptedGraphics ScriptedWindow α τ where
  steps := [.around (.notify .pause 1), .suspending {}, .around .drain,
    .suspending { whileSuspended := [.push .windowRestored 1, .notify .resume 1] },
    .around .drain, .around (.notify .pause 1), .ticking {}, .around .drain, .ticking {},
    .ticking {}, .around (.notify .resume 1), .ticking {}]

/-- Has an output that stalls and refuses to be silenced, and text being entered. -/
def noisy : RehearsedLifecycle :=
  Lifecycle.fresh {} opening [Scripts.output .probing "speaker" 0]
    [{ failPause := some .stream, stalls := [true, false, true] }] (some { active := true })

/-- Has neither outputs nor a text input, and would not silence any. -/
def silent : Lifecycle ScriptedGraphics ScriptedWindow Unit ScriptedText :=
  Lifecycle.fresh { pauseAudio := false } opening [] () none

end Rehearsal

open Rehearsal in
/-- The one has much to do with its output that the other has not, and nothing else differs. -/
theorem noise_makes_no_difference :
    let loud := (Lifecycle.play bothWays).run noisy
    let quiet := (Lifecycle.play bothWays).run silent
    (Trace.audioCalls 0 loud.trace).length = 14 ∧ (Trace.audioCalls 0 quiet.trace).length = 0 ∧
      loud.state.AgreesWith quiet.state ∧
      loud.trace.filter Entry.isShared = quiet.trace.filter Entry.isShared := by
  intro loud quiet
  obtain ⟨agree, -⟩ := audio_and_text_input_never_influence_the_lifecycle noisy silent
    bothWays bothWays rfl rfl
  exact ⟨by decide, by decide, agree⟩

end AppLifecycle
