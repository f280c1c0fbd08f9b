import AppLifecycle.Proofs.Collaborators
import AppLifecycle.Proofs.Moves

/-! What the operations of the lifecycle leave alone. Each of them is put together from moves,
work on collaborators and entries of its own, so a kind of entry that is none of these is
spared by the whole. -/
namespace AppLifecycle

open Traced

variable {γ σ α τ ε : Type} {view : Lifecycle γ σ α τ → ε} {kind : Entry → Bool}

/-- The kind has nothing to do with what is done to collaborators and to the queue. -/
structure ApartFromWork (kind : Entry → Bool) : Prop where
  rendering : ∀ call, kind (.graphics call) = false
  window : ∀ call, kind (.window call) = false
  outputs : ∀ position call, kind (.audio position call) = false
  textInput : ∀ call, kind (.textInput call) = false
  pushed : ∀ origin event, kind (.pushed origin event) = false
  notices : ∀ notice, kind (.notice notice) = false

namespace Lifecycle

theorem spares_settlePause (announced : Bool)
    (blind : ∀ phase carryOutDue lifecycle,
      view { lifecycle with phase, carryOutDue } = view lifecycle)
    (told : kind (.milestone .committed) = false)
    (notices : ∀ notice, kind (.notice notice) = false) :
    Spares view kind (settlePause announced) := by
  refine spares_bind (spares_read _) fun queued => spares_bind (spares_read _) fun signalled => ?_
  split
  · refine spares_bind (spares_whenever (spares_note (notices _))) fun _ => ?_
    exact spares_update fun now => blind _ now.carryOutDue now
  · refine spares_bind (spares_update fun now => blind _ _ now) fun _ => ?_
    exact spares_bind (spares_tell told) fun _ => spares_note (notices _)

theorem spares_recoverAudio
    (deaf : ∀ audio lifecycle, view { lifecycle with audio } = view lifecycle)
    (outputs : ∀ position call, kind (.audio position call) = false)
    (notices : ∀ notice, kind (.notice notice) = false) :
    Spares view kind (recoverAudio : Traced (Lifecycle γ σ α τ) Nat) :=
  spares_onAudio deaf fun registered => Audio.spares_recoverStalled outputs notices registered

theorem spares_awaitResume {host : HostActivity γ σ α τ} (apart : ApartFromMoves view kind)
    (suspended : kind .suspended = false) (released : ∀ replies, kind (.released replies) = false)
    (taken : kind (.took .resume) = false) : Spares view kind (awaitResume host) := by
  refine spares_bind (spares_notifyAll apart _) fun _ => spares_bind (spares_read _) fun _ => ?_
  refine spares_bind (spares_whenever (spares_suspend apart host suspended released)) fun _ => ?_
  exact spares_bind (spares_take apart.signals taken) fun _ => spares_pure ()

section Rendering

variable [Graphics.Layer γ]

theorem spares_lookForPause {host : HostActivity γ σ α τ} (apart : ApartFromMoves view kind)
    (blind : ∀ phase carryOutDue lifecycle,
      view { lifecycle with phase, carryOutDue } = view lifecycle)
    (forgetful : ∀ graphics swapInterval lifecycle,
      view { lifecycle with keeper := { lifecycle.keeper with graphics, swapInterval } } =
        view lifecycle)
    (asked : ∀ answer, kind (.graphics (.swapInterval answer)) = false)
    (taken : kind (.took .pause) = false)
    (pushed : ∀ event, kind (.pushed .lifecycle event) = false)
    (told : kind (.milestone .committed) = false) : Spares view kind (lookForPause host) := by
  have remembers : Spares view kind (onKeeper Keeper.rememberSwapInterval) := by
    have silent : Spares (fun _ : Keeper γ σ => ()) kind Keeper.rememberSwapInterval :=
      Keeper.spares_rememberSwapInterval (fun _ _ => rfl) (fun _ _ => rfl) asked apart.notices
    exact fun lifecycle => ⟨forgetful _ _ lifecycle, (silent lifecycle.keeper).2⟩
  refine spares_bind (spares_read _) fun phase => ?_
  split
  · refine spares_bind (spares_notifyAll apart _) fun _ => ?_
    exact spares_settlePause false blind told apart.notices
  · refine spares_bind (spares_notifyAll apart _) fun _ => ?_
    refine spares_bind (spares_take apart.signals taken) fun _ => ?_
    refine spares_whenever (spares_bind remembers fun _ => ?_)
    have announces := spares_announce apart.events fun event (_ : event ∈ Event.backgroundGroup) =>
      pushed event
    refine spares_bind (announces apart.notices) fun _ => ?_
    refine spares_bind (spares_notifyAll apart _) fun _ => ?_
    exact spares_settlePause true blind told apart.notices

/-- What a backup spares is spared where a pause is carried out, outputs and the rest apart. -/
theorem spares_carryOutPause_of_save (quiets : Bool)
    (blind : ∀ audio carryOutDue lifecycle,
      view { lifecycle with audio, carryOutDue } = view lifecycle)
    (saves : Spares view kind (onKeeper Keeper.save))
    (told : kind (.milestone .carriedOut) = false)
    (outputs : ∀ position call, kind (.audio position call) = false)
    (notices : ∀ notice, kind (.notice notice) = false) :
    Spares view kind (carryOutPause quiets) := by
  refine spares_bind (spares_tell told) fun _ => spares_bind (spares_read _) fun external => ?_
  refine spares_bind (spares_whenever ?_) fun _ => spares_bind (spares_whenever ?_) fun _ => ?_
  · exact spares_bind saves fun _ => spares_pure ()
  · exact spares_onAudio (fun audio now => blind audio now.carryOutDue now) fun registered =>
      Audio.spares_silenceAll outputs notices registered
  · exact spares_update fun now => blind now.audio false now

section Returning

variable [Window.Layer σ] (restores : Spares view kind (onKeeper Keeper.restore))
  (notices : ∀ notice, kind (.notice notice) = false)

include restores notices

theorem spares_restoreContext_of_restore : Spares view kind restoreContext := by
  refine spares_bind (spares_read _) fun external => spares_bind (spares_read _) fun quitting => ?_
  split
  · exact spares_note (notices _)
  · split
    · exact spares_note (notices _)
    · exact spares_bind restores fun _ => spares_pure ()

/-- What a restore spares is spared where a pause ends, outputs and the rest apart. -/
theorem spares_endPause_of_restore [TextInput τ] (quiets : Bool)
    (blind : ∀ phase audio textInput lifecycle,
      view { lifecycle with phase, audio, textInput } = view lifecycle)
    (announces : Spares view kind (announce Event.foregroundGroup))
    (told : kind (.milestone .ended) = false)
    (outputs : ∀ position call, kind (.audio position call) = false)
    (textInput : ∀ call, kind (.textInput call) = false) :
    Spares view kind (endPause quiets) := by
  refine spares_bind (spares_update fun now => blind _ now.audio now.textInput now) fun _ => ?_
  refine spares_bind (spares_tell told) fun _ => spares_bind announces fun _ => ?_
  refine spares_bind (spares_whenever ?_) fun _ => ?_
  · exact spares_onAudio (fun audio now => blind now.phase audio now.textInput now)
      fun registered => Audio.spares_takeUpAll outputs notices registered
  · refine spares_bind (spares_restoreContext_of_restore restores notices) fun _ => ?_
    have wakes := spares_wakeTextInput (fun input now => blind now.phase now.audio input now)
      textInput
    exact spares_bind wakes fun _ => spares_note (notices _)

end Returning

variable (apart : ApartFromWork kind)

include apart

theorem spares_carryOutPause (quiets : Bool) (told : kind (.milestone .carriedOut) = false) :
    Spares (fun _ : Lifecycle γ σ α τ => ()) kind (carryOutPause quiets) := by
  have saves : Spares (fun _ : Keeper γ σ => ()) kind Keeper.save :=
    Keeper.spares_save ⟨fun _ _ => rfl, fun call _ => apart.rendering call, apart.notices⟩
      (fun _ _ _ => rfl) fun _ => apart.rendering _
  exact spares_carryOutPause_of_save quiets (fun _ _ _ => rfl) (spares_within (fun _ _ => rfl) saves)
    told apart.outputs apart.notices

theorem spares_endPause [Window.Layer σ] [TextInput τ] (quiets : Bool)
    (told : kind (.milestone .ended) = false) :
    Spares (fun _ : Lifecycle γ σ α τ => ()) kind (endPause quiets) := by
  have restores : Spares (fun _ : Keeper γ σ => ()) kind Keeper.restore :=
    Keeper.spares_restore ⟨fun _ _ => rfl, fun call _ => apart.rendering call, apart.notices⟩
      ⟨fun _ _ => rfl, apart.window, apart.notices⟩ (fun _ _ _ _ _ => rfl)
      (fun _ _ => apart.rendering _) (apart.pushed _ _)
  have announces : Spares (fun _ : Lifecycle γ σ α τ => ()) kind
      (announce Event.foregroundGroup) :=
    spares_announce (fun _ _ => rfl) (fun event _ => apart.pushed _ event) apart.notices
  exact spares_endPause_of_restore (spares_within (fun _ _ => rfl) restores) apart.notices quiets
    (fun _ _ _ _ => rfl) announces told apart.outputs apart.textInput

end Rendering

end Lifecycle

end AppLifecycle
