import AppLifecycle.Proofs.Frame

/-! What moves leave alone. The host raises signals, the app moves events and the collaborators
change on their own; a view that does not look at any of these is spared by every move, and
so is every kind of entry that moves do not leave. -/
namespace AppLifecycle

open Traced

variable {γ σ α τ ε : Type} {view : Lifecycle γ σ α τ → ε} {kind : Entry → Bool}

/-- Neither the view nor the kind has to do with what moves change. -/
structure ApartFromMoves (view : Lifecycle γ σ α τ → ε) (kind : Entry → Bool) : Prop where
  signals : ∀ signals lifecycle, view { lifecycle with signals } = view lifecycle
  events : ∀ events lifecycle,
    view { lifecycle with keeper := { lifecycle.keeper with events } } = view lifecycle
  adjusted : ∀ graphics window audio textInput lifecycle,
    view { lifecycle with
      keeper := { lifecycle.keeper with graphics, window }
      audio := audio
      textInput := textInput } = view lifecycle
  raised : ∀ signal, kind (.raised signal) = false
  pushed : ∀ event, kind (.pushed .app event) = false
  removed : ∀ event, kind (.removed event) = false
  notices : ∀ notice, kind (.notice notice) = false

theorem EventQueue.spares_send {origin : Origin} {event : Event}
    (pushed : kind (.pushed origin event) = false)
    (notices : ∀ notice, kind (.notice notice) = false) :
    Spares (fun _ => ()) kind (EventQueue.send origin event) :=
  spares_bind (spares_tell pushed) fun _ => spares_bind (spares_read _) fun _ =>
    spares_bind (spares_whenever (spares_note (notices _))) fun _ => spares_update fun _ => rfl

namespace Lifecycle

theorem spares_tryTake (signal : SignalKind)
    (blind : ∀ signals lifecycle, view { lifecycle with signals } = view lifecycle) :
    Spares view kind (onSignals (HostSignals.on signal Signal.tryTake)) := by
  refine spares_within blind (spares_within (fun _ _ => rfl) fun count => ?_)
  simp

theorem spares_take {signal : SignalKind}
    (blind : ∀ signals lifecycle, view { lifecycle with signals } = view lifecycle)
    (told : kind (.took signal) = false) : Spares view kind (take signal) :=
  spares_bind (spares_tryTake signal blind) fun _ =>
    spares_bind (spares_whenever (spares_tell told)) fun _ => spares_pure _

theorem spares_onEvents {β : Type} {action : Traced EventQueue β}
    (blind : ∀ events lifecycle,
      view { lifecycle with keeper := { lifecycle.keeper with events } } = view lifecycle)
    (spared : Spares (fun _ => ()) kind action) : Spares view kind (onEvents action) :=
  fun lifecycle => ⟨blind _ lifecycle, (spared lifecycle.keeper.events).2⟩

theorem spares_announce {events : List Event}
    (blind : ∀ events lifecycle,
      view { lifecycle with keeper := { lifecycle.keeper with events } } = view lifecycle)
    (pushed : ∀ event ∈ events, kind (.pushed .lifecycle event) = false)
    (notices : ∀ notice, kind (.notice notice) = false) : Spares view kind (announce events) := by
  refine spares_bind (spares_forAll events fun event member => ?_) fun _ => spares_pure ()
  exact spares_onEvents blind (EventQueue.spares_send (pushed event member) notices)

/-- To raise signals has to do with the signals only. -/
theorem spares_raising (signals : List SignalKind)
    (blind : ∀ signals lifecycle, view { lifecycle with signals } = view lifecycle)
    (raised : ∀ signal, kind (.raised signal) = false)
    (notices : ∀ notice, kind (.notice notice) = false) :
    Spares view kind (notifyAll signals) := by
  refine spares_bind (spares_forAll signals fun signal _ => ?_) fun _ => spares_pure ()
  refine spares_within blind (spares_bind (spares_tell (raised signal)) fun _ => ?_)
  refine spares_within (fun _ _ => rfl) (spares_bind (spares_update fun _ => rfl) fun _ => ?_)
  exact spares_bind (spares_read _) fun _ => spares_note (notices _)

variable (apart : ApartFromMoves view kind)

include apart

theorem spares_notifyAll (signals : List SignalKind) : Spares view kind (notifyAll signals) :=
  spares_raising signals apart.signals apart.raised apart.notices

theorem spares_perform (move : Move γ σ α τ) : Spares view kind (perform move) := by
  cases move with
  | notify signal times => exact spares_bind (spares_notifyAll apart _) fun _ => spares_pure _
  | take signal =>
    exact spares_bind (spares_tryTake signal apart.signals) fun _ => spares_pure _
  | push event times =>
    have sent := EventQueue.spares_send (apart.pushed event) apart.notices
    have all := spares_repeated (spares_onEvents apart.events sent) times
    exact spares_bind all fun _ => spares_pure _
  | poll =>
    refine spares_bind (spares_onEvents apart.events fun queue => ⟨rfl, ?_⟩) fun _ => spares_pure _
    simp [EventQueue.receive, run, List.filter_map, apart.removed, Function.comp_def]
  | drain =>
    refine spares_bind (spares_onEvents apart.events fun queue => ⟨rfl, ?_⟩) fun _ => spares_pure _
    simp [EventQueue.receiveAll, run, List.filter_map, apart.removed, Function.comp_def]
  | adjust graphics window audio textInput =>
    exact spares_bind (spares_update fun _ => apart.adjusted _ _ _ _ _) fun _ => spares_pure _

theorem spares_suspend (host : HostActivity γ σ α τ) (suspended : kind .suspended = false)
    (released : ∀ replies, kind (.released replies) = false) :
    Spares view kind (suspend host) := by
  refine spares_bind (spares_tell suspended) fun _ => ?_
  refine spares_bind (spares_forAll _ fun move _ => spares_perform apart move) fun _ => ?_
  refine spares_bind (spares_read _) fun _ => ?_
  exact spares_bind (spares_whenever (spares_notifyAll apart _)) fun _ =>
    spares_tell (released _)

end Lifecycle

end AppLifecycle
