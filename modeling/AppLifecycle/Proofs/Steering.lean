import AppLifecycle.Proofs.Operations
import AppLifecycle.Proofs.Parallel
import AppLifecycle.Proofs.Run

/-! What a lifecycle goes by. Two lifecycles may have different rendering layers and windows, which
refuse and report whatever they like, and the context may belong to either of them or to its
embedder. Of all that, nothing enters into what a lifecycle goes by, and all that work on
rendering leaves there for others to see is a reset. -/
namespace AppLifecycle

open Traced

variable {γ σ δ ω α τ : Type}

/-- What a lifecycle goes by, its mail apart. -/
structure Steering (α τ : Type) where
  mode : LoopMode
  pauseAudio : Bool
  outputs : List (Audio.Output α)
  audio : α
  textInput : Option τ
  signals : HostSignals
  phase : Phase
  due : Bool

def Lifecycle.steering (lifecycle : Lifecycle γ σ α τ) : Steering α τ where
  mode := lifecycle.config.mode
  pauseAudio := lifecycle.config.pauseAudio
  outputs := lifecycle.outputs
  audio := lifecycle.audio
  textInput := lifecycle.textInput
  signals := lifecycle.signals
  phase := lifecycle.phase
  due := lifecycle.carryOutDue

/-- The entries that have nothing to do with rendering, with what the app has read or with
people. -/
def Entry.isSteering : Entry → Bool
  | .graphics _ | .window _ | .removed _ | .released _ | .notice _ => false
  | .pushed origin event => (origin, event) != (.keeper, .renderDeviceReset)
  | _ => true

/-- A move without what it does to the rendering layer and the window. -/
def Move.unrendered : Move γ σ α τ → Move Unit Unit α τ
  | .notify kind times => .notify kind times
  | .take kind => .take kind
  | .push event times => .push event times
  | .poll => .poll
  | .drain => .drain
  | .adjust _ _ audio textInput => .adjust id id audio textInput

def HostActivity.unrendered (host : HostActivity γ σ α τ) : HostActivity Unit Unit α τ :=
  host.mapMoves Move.unrendered

def Step.unrendered (step : Step γ σ α τ) : Step Unit Unit α τ := step.mapMoves Move.unrendered

/-- The script of a run, without what happens to the rendering layer and the window. -/
def Run.unrendered (run : Run γ σ α τ) : Run Unit Unit α τ := run.mapMoves Move.unrendered

namespace Lifecycle

/-- Two lifecycles agree on what they go by. -/
def SteersAs (first : Lifecycle γ σ α τ) (second : Lifecycle δ ω α τ) : Prop :=
  first.steering = second.steering

/-- Two actions do the same but for rendering, from wherever lifecycles agree on what they go by. -/
abbrev Steered {β : Type} (first : Traced (Lifecycle γ σ α τ) β)
    (second : Traced (Lifecycle δ ω α τ) β) : Prop :=
  Parallel SteersAs Entry.isSteering first second

section Steered

theorem steered_read {β : Type} (reading : Steering α τ → β) :
    Steered (read fun now : Lifecycle γ σ α τ => reading now.steering)
      (read fun now : Lifecycle δ ω α τ => reading now.steering) :=
  parallel_read fun _ _ same => congrArg reading same

theorem steered_update {change : Lifecycle γ σ α τ → Lifecycle γ σ α τ}
    {counterpart : Lifecycle δ ω α τ → Lifecycle δ ω α τ} (steer : Steering α τ → Steering α τ)
    (here : ∀ now, (change now).steering = steer now.steering)
    (there : ∀ now, (counterpart now).steering = steer now.steering) :
    Steered (update change) (update counterpart) :=
  parallel_update fun first second same =>
    (here first).trans ((congrArg steer same).trans (there second).symm)

theorem steered_onSignals {β : Type} (action : Traced HostSignals β) :
    Steered (onSignals action : Traced (Lifecycle γ σ α τ) β)
      (onSignals action : Traced (Lifecycle δ ω α τ) β) :=
  parallel_within (fun _ _ same => congrArg Steering.signals same)
    (fun signals _ _ same => congrArg (fun now : Steering α τ => { now with signals }) same) action

theorem steered_onAudio {β : Type} (action : List (Audio.Output α) → Traced α β) :
    Steered (onAudio action : Traced (Lifecycle γ σ α τ) β)
      (onAudio action : Traced (Lifecycle δ ω α τ) β) := by
  refine parallel_bind (steered_read Steering.outputs) fun outputs => ?_
  exact parallel_within (fun _ _ same => congrArg Steering.audio same)
    (fun audio _ _ same => congrArg (fun now : Steering α τ => { now with audio }) same) _

theorem steered_wakeTextInput [TextInput τ] :
    Steered (wakeTextInput : Traced (Lifecycle γ σ α τ) Unit)
      (wakeTextInput : Traced (Lifecycle δ ω α τ) Unit) := by
  intro here there same
  have inputs : here.textInput = there.textInput := congrArg Steering.textInput same
  cases input : there.textInput with
  | none =>
    simp only [wakeTextInput, run, input, inputs]
    exact ⟨rfl, same, rfl⟩
  | some text =>
    have woken := congrArg (fun now : Steering α τ =>
      { now with textInput := some (TextInput.wake text).state }) same
    simp only [wakeTextInput, run, input, inputs]
    exact ⟨rfl, woken, rfl⟩

end Steered

section Carrying

variable [Graphics.Layer γ] [Graphics.Layer δ]

theorem spares_steering_rememberSwapInterval :
    Spares steering Entry.isSteering
      (onKeeper Keeper.rememberSwapInterval : Traced (Lifecycle γ σ α τ) Unit) :=
  spares_within (fun _ _ => rfl) (Keeper.spares_rememberSwapInterval (fun _ _ => rfl)
    (fun _ _ => rfl) (fun _ => rfl) fun _ => rfl)

/-- A backup is rendering and nothing else. -/
theorem spares_steering_save :
    Spares steering Entry.isSteering (onKeeper Keeper.save : Traced (Lifecycle γ σ α τ) Bool) :=
  spares_within (fun _ _ => rfl) (Keeper.spares_save
    ⟨fun _ _ => rfl, fun _ _ => rfl, fun _ => rfl⟩ (fun _ _ _ => rfl) fun _ => rfl)

/-- Whether the context is saved, and how that goes, makes no difference. -/
theorem steered_carryOutDuePause (quiets : Bool) :
    Steered (carryOutDuePause quiets : Traced (Lifecycle γ σ α τ) Unit)
      (carryOutDuePause quiets : Traced (Lifecycle δ ω α τ) Unit) := by
  refine parallel_bind (steered_read Steering.due) fun due => parallel_whenever ?_
  refine parallel_bind (parallel_tell _) fun _ => ?_
  refine parallel_after (apart_of_spares (spares_read _) (spares_read _)) fun own ownThere => ?_
  refine parallel_after (apart_of_spares ?_ ?_) fun _ _ => ?_
  · exact spares_whenever (spares_bind spares_steering_save fun _ => spares_pure ())
  · exact spares_whenever (spares_bind spares_steering_save fun _ => spares_pure ())
  · refine parallel_bind (parallel_whenever (steered_onAudio _)) fun _ => ?_
    exact steered_update (fun now => { now with due := false }) (fun _ => rfl) fun _ => rfl

end Carrying

section Returning

variable [Graphics.Layer γ] [Graphics.Layer δ] [Window.Layer σ] [Window.Layer ω]

/-- A restore is rendering and at most a reset. -/
theorem spares_steering_restoreContext :
    Spares steering Entry.isSteering (restoreContext : Traced (Lifecycle γ σ α τ) Unit) := by
  refine spares_restoreContext_of_restore ?_ fun _ => rfl
  exact spares_within (fun _ _ => rfl) (Keeper.spares_restore
    ⟨fun _ _ => rfl, fun _ _ => rfl, fun _ => rfl⟩ ⟨fun _ _ => rfl, fun _ => rfl, fun _ => rfl⟩
    (fun _ _ _ _ _ => rfl) (fun _ _ => rfl) rfl)

/-- Whether rendering comes back, and how that goes, makes no difference. -/
theorem steered_restoreContext :
    Steered (restoreContext : Traced (Lifecycle γ σ α τ) Unit)
      (restoreContext : Traced (Lifecycle δ ω α τ) Unit) :=
  parallel_of_apart (apart_of_spares spares_steering_restoreContext spares_steering_restoreContext)

end Returning

end Lifecycle

end AppLifecycle
