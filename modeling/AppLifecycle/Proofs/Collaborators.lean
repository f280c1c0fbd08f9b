import AppLifecycle.Proofs.Frame

/-! What the work on collaborators leaves alone. Audio, the rendering layer, the window and
the text input are only called and spoken of; that spares every view that does not look
at them and every kind of entry that is neither a call on them nor a notice, whatever
they answer. -/
namespace AppLifecycle

open Traced

variable {γ σ α τ ε : Type} {kind : Entry → Bool}

namespace Audio

variable {view : α → ε} {β : Type}

theorem spares_eachFrom {action : Nat → Output α → Traced α β}
    (spared : ∀ position output, Spares view kind (action position output)) (position : Nat)
    (outputs : List (Output α)) : Spares view kind (eachFrom action position outputs) := by
  induction outputs generalizing position with
  | nil => exact spares_pure []
  | cons output rest ih =>
    exact spares_bind (spared position output) fun _ =>
      spares_bind (ih (position + 1)) fun _ => spares_pure _

variable (calls : ∀ position call, kind (.audio position call) = false)
  (notices : ∀ notice, kind (.notice notice) = false)

include calls notices

theorem spares_silenceOne (purpose : Purpose) (position : Nat) (output : Output α) :
    Spares (fun _ => ()) kind (silenceOne purpose position output) := by
  refine spares_bind (spares_ask (fun _ => rfl) fun _ => calls _ _) fun answer => ?_
  cases answer with
  | ok _ => exact spares_pure ()
  | error error => exact spares_note (notices _)

theorem spares_takeUpOne (purpose : Purpose) (position : Nat) (output : Output α) :
    Spares (fun _ => ()) kind (takeUpOne purpose position output) := by
  refine spares_bind (spares_ask (fun _ => rfl) fun _ => calls _ _) fun answer => ?_
  cases answer with
  | ok _ => exact spares_pure ()
  | error error => exact spares_note (notices _)

theorem spares_recoverOne (position : Nat) (output : Output α) :
    Spares (fun _ => ()) kind (recoverOne position output) := by
  refine spares_bind (spares_ask (fun _ => rfl) fun _ => calls _ _) fun stalled => ?_
  refine spares_bind (spares_whenever ?_) fun _ => spares_pure _
  exact spares_bind (spares_note (notices _)) fun _ =>
    spares_bind (spares_silenceOne calls notices _ _ _) fun _ =>
      spares_takeUpOne calls notices _ _ _

theorem spares_silenceAll (outputs : List (Output α)) :
    Spares (fun _ => ()) kind (silenceAll outputs) :=
  spares_bind (spares_eachFrom (spares_silenceOne calls notices .fanOut) 0 outputs) fun _ =>
    spares_note (notices _)

theorem spares_takeUpAll (outputs : List (Output α)) :
    Spares (fun _ => ()) kind (takeUpAll outputs) :=
  spares_bind (spares_eachFrom (spares_takeUpOne calls notices .fanOut) 0 outputs) fun _ =>
    spares_note (notices _)

theorem spares_recoverStalled (outputs : List (Output α)) :
    Spares (fun _ => ()) kind (recoverStalled outputs) :=
  spares_bind (spares_eachFrom (spares_recoverOne calls notices) 0 outputs) fun _ => spares_pure _

end Audio

theorem TextInput.spares_wake [TextInput τ] (calls : ∀ call, kind (.textInput call) = false) :
    Spares (fun _ => ()) kind (TextInput.wake (τ := τ)) :=
  spares_bind (spares_ask (fun _ => rfl) fun _ => calls _) fun _ =>
    spares_whenever (spares_command (fun _ => rfl) (calls _))

/-- Whether a call only asks what is in effect. -/
def Graphics.Call.asks : Graphics.Call → Bool
  | .currentContext _ | .swapInterval _ => true
  | _ => false

/-- Whether a call has to do with attaching a context. -/
def Graphics.Call.attaches : Graphics.Call → Bool
  | .makeCurrent _ _ | .createContext _ | .lastStatus _ => true
  | _ => false

namespace Keeper

variable {β : Type} {view : Keeper γ σ → ε}

/-- Neither the view nor the kind has to do with attaching a context. The kind may have to do with
what else the rendering layer is asked. -/
structure ApartFromGraphics (view : Keeper γ σ → ε) (kind : Entry → Bool) : Prop where
  blind : ∀ graphics keeper, view { keeper with graphics } = view keeper
  calls : ∀ call : Graphics.Call, call.attaches = true → kind (.graphics call) = false
  notices : ∀ notice, kind (.notice notice) = false

/-- Neither the view nor the kind has to do with the window. -/
structure ApartFromWindow (view : Keeper γ σ → ε) (kind : Entry → Bool) : Prop where
  blind : ∀ window keeper, view { keeper with window } = view keeper
  calls : ∀ call, kind (.window call) = false
  notices : ∀ notice, kind (.notice notice) = false

theorem spares_askGraphics (apart : ApartFromGraphics view kind) (call : γ → β × γ)
    {record : β → Graphics.Call} (other : ∀ answer, kind (.graphics (record answer)) = false) :
    Spares view kind (askGraphics call record) :=
  spares_within apart.blind (spares_ask (fun _ => rfl) other)

theorem spares_askWindow (apart : ApartFromWindow view kind) (call : σ → β × σ)
    (record : β → Window.Call) : Spares view kind (askWindow call record) :=
  spares_within apart.blind (spares_ask (fun _ => rfl) fun _ => apart.calls _)

theorem spares_tellWindow (apart : ApartFromWindow view kind) (call : σ → σ)
    (record : Window.Call) : Spares view kind (tellWindow call record) :=
  spares_within apart.blind (spares_command (fun _ => rfl) (apart.calls _))

theorem spares_rememberSwapInterval [Graphics.Layer γ]
    (blind : ∀ graphics keeper, view { keeper with graphics } = view keeper)
    (forgetful : ∀ swapInterval keeper, view { keeper with swapInterval } = view keeper)
    (asked : ∀ answer, kind (.graphics (.swapInterval answer)) = false)
    (notices : ∀ notice, kind (.notice notice) = false) :
    Spares view kind rememberSwapInterval :=
  spares_bind (spares_within blind (spares_ask (fun _ => rfl) asked)) fun _ =>
    spares_bind (spares_update (forgetful _)) fun _ => spares_note (notices _)

section Rendering

variable [Graphics.Layer γ] (apart : ApartFromGraphics view kind)

include apart

theorem spares_attach (context : Option Graphics.Context) (refusal : Graphics.Error → Notice) :
    Spares view kind (attach context refusal) := by
  refine spares_bind (spares_askGraphics apart _ fun _ => apart.calls _ rfl) fun answer => ?_
  cases answer with
  | ok _ => exact spares_pure true
  | error error => exact spares_bind (spares_note (apart.notices _)) fun _ => spares_pure false

theorem spares_recreate : Spares view kind recreate := by
  refine spares_bind (spares_askGraphics apart _ fun _ => apart.calls _ rfl) fun created => ?_
  cases created with
  | ok context => exact spares_bind (spares_attach apart _ _) fun _ => spares_pure ()
  | error error => exact spares_note (apart.notices _)

theorem spares_attachSaved : Spares view kind attachSaved := by
  refine spares_bind (spares_read _) fun saved => ?_
  refine spares_bind (spares_attach apart _ _) fun attached => ?_
  refine spares_bind (spares_whenever (spares_recreate apart)) fun _ => ?_
  refine spares_bind (spares_askGraphics apart _ fun _ => apart.calls _ rfl) fun status => ?_
  exact spares_bind (spares_whenever (spares_note (apart.notices _))) fun _ => spares_pure _

theorem spares_reinstateSwapInterval
    (sets : ∀ interval answer, kind (.graphics (.setSwapInterval interval answer)) = false) :
    Spares view kind reinstateSwapInterval := by
  refine spares_bind (spares_read _) fun wanted => ?_
  refine spares_bind (spares_askGraphics apart _ fun _ => sets _ _) fun first => ?_
  cases first with
  | ok _ => exact spares_pure wanted
  | error error =>
    refine spares_bind (spares_note (apart.notices _)) fun _ => ?_
    refine spares_bind (spares_askGraphics apart _ fun _ => sets _ _) fun second => ?_
    cases second with
    | ok _ => exact spares_pure 0
    | error error => exact spares_bind (spares_note (apart.notices _)) fun _ => spares_pure 0

end Rendering

section Windowing

variable [Window.Layer σ] (apart : ApartFromWindow view kind)

include apart

theorem spares_deriveGeometry : Spares view kind deriveGeometry :=
  spares_bind (spares_askWindow apart _ _) fun _ =>
    spares_bind (spares_askWindow apart _ _) fun _ =>
      spares_bind (spares_askWindow apart _ _) fun _ => spares_pure _

theorem spares_passFormat : Spares view kind passFormat := by
  refine spares_bind (spares_askWindow apart _ _) fun format => ?_
  split
  · exact spares_tellWindow apart _ _
  · exact spares_pure ()

/-- Beside the window itself, only the remembered geometry changes. -/
theorem spares_updateWindow
    (unremembered : ∀ geometry keeper, view { keeper with geometry } = view keeper) :
    Spares view kind updateWindow := by
  refine spares_bind (spares_deriveGeometry apart) fun next => ?_
  refine spares_bind (spares_passFormat apart) fun _ => ?_
  refine spares_bind (spares_read _) fun changed => ?_
  cases changed with
  | true =>
    refine spares_bind (spares_tellWindow apart _ _) fun _ => ?_
    refine spares_bind (spares_tellWindow apart _ _) fun _ => ?_
    refine spares_bind (spares_update (unremembered next)) fun _ => ?_
    exact spares_bind (spares_note (apart.notices _)) fun _ => spares_pure _
  | false => exact spares_bind (spares_note (apart.notices _)) fun _ => spares_pure none

end Windowing

theorem spares_guarded {action : Traced (Keeper γ σ) β}
    (blind : ∀ lock keeper, view { keeper with lock } = view keeper)
    (spared : Spares view kind action) : Spares view kind (guarded action) :=
  spares_bind (spares_update fun now => blind _ now) fun _ => spares_bind spared fun _ =>
    spares_bind (spares_update fun now => blind _ now) fun _ => spares_pure _

section Backup

variable [Graphics.Layer γ] (apart : ApartFromGraphics view kind)

include apart

/-- Beside the rendering layer, only what is held changes. -/
theorem spares_save
    (blind : ∀ lock snapshot keeper, view { keeper with lock, snapshot } = view keeper)
    (current : ∀ answer, kind (.graphics (.currentContext answer)) = false) :
    Spares view kind save := by
  refine spares_bind (spares_read _) fun held => ?_
  split
  · exact spares_bind (spares_note (apart.notices _)) fun _ => spares_pure false
  · refine spares_bind (spares_guarded (fun lock now => blind lock now.snapshot now) ?_) fun _ =>
      spares_pure true
    refine spares_bind (spares_askGraphics apart _ current) fun context => ?_
    refine spares_bind (spares_attach apart _ _) fun _ => ?_
    exact spares_bind (spares_update fun now => blind now.lock _ now) fun _ =>
      spares_note (apart.notices _)

omit [Graphics.Layer γ] apart in
/-- To tell the app of a reset changes the queue only. -/
theorem spares_tellOfReset {reset : Bool}
    (blind : ∀ events keeper, view { keeper with events } = view keeper)
    (pushed : kind (.pushed .keeper .renderDeviceReset) = false)
    (notices : ∀ notice, kind (.notice notice) = false) :
    Spares view kind (whenever reset (onEvents (EventQueue.send .keeper .renderDeviceReset))) := by
  refine spares_whenever (spares_within blind ?_)
  refine spares_bind (spares_tell pushed) fun _ => spares_bind (spares_read _) fun _ => ?_
  exact spares_bind (spares_whenever (spares_note (notices _))) fun _ =>
    spares_update fun _ => rfl

/-- Beside the collaborators, what is held and the remembered geometry change. -/
theorem spares_restore [Window.Layer σ] (outside : ApartFromWindow view kind)
    (blind : ∀ events lock snapshot geometry keeper,
      view { keeper with events, lock, snapshot, geometry } = view keeper)
    (sets : ∀ interval answer, kind (.graphics (.setSwapInterval interval answer)) = false)
    (reset : kind (.pushed .keeper .renderDeviceReset) = false) : Spares view kind restore := by
  refine spares_bind (spares_read _) fun held => ?_
  split
  · refine spares_guarded (fun lock now => blind now.events lock now.snapshot now.geometry now)
      (spares_bind (spares_attachSaved apart) fun lost => ?_)
    refine spares_bind (spares_tellOfReset
      (fun events now => blind events now.lock now.snapshot now.geometry now) reset
      apart.notices) fun _ => ?_
    refine spares_bind (spares_updateWindow outside
      fun geometry now => blind now.events now.lock now.snapshot geometry now) fun _ => ?_
    refine spares_bind (spares_reinstateSwapInterval apart sets) fun _ => ?_
    refine spares_bind (spares_update
      fun now => blind now.events now.lock {} now.geometry now) fun _ => ?_
    exact spares_bind (spares_note (apart.notices _)) fun _ => spares_pure _
  · exact spares_bind (spares_note (apart.notices _)) fun _ => spares_pure none

end Backup

end Keeper

namespace Lifecycle

variable {view : Lifecycle γ σ α τ → ε}

/-- What a view sees of the keeper may be less than the keeper. -/
theorem spares_onKeeper {β δ : Type} {part : Keeper γ σ → δ} {action : Traced (Keeper γ σ) β}
    (sees : ∀ keeper lifecycle, part keeper = part lifecycle.keeper →
      view { lifecycle with keeper } = view lifecycle)
    (spared : Spares part kind action) : Spares view kind (onKeeper action) :=
  fun lifecycle => ⟨sees _ _ (spared lifecycle.keeper).1, (spared lifecycle.keeper).2⟩

theorem spares_onAudio {β : Type} {action : List (Audio.Output α) → Traced α β}
    (deaf : ∀ audio lifecycle, view { lifecycle with audio } = view lifecycle)
    (spared : ∀ outputs, Spares (fun _ => ()) kind (action outputs)) :
    Spares view kind (onAudio action) :=
  spares_bind (spares_read _) fun outputs => spares_within deaf (spared outputs)

theorem spares_wakeTextInput [TextInput τ]
    (blind : ∀ textInput lifecycle, view { lifecycle with textInput } = view lifecycle)
    (calls : ∀ call, kind (.textInput call) = false) : Spares view kind wakeTextInput := by
  intro lifecycle
  cases here : lifecycle.textInput with
  | none => simp [wakeTextInput, run, here]
  | some textInput =>
    have omitted := (TextInput.spares_wake calls textInput).2
    simp only [wakeTextInput, run, here]
    exact ⟨blind _ lifecycle, omitted⟩

end Lifecycle

end AppLifecycle
