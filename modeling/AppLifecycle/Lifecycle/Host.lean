import AppLifecycle.Lifecycle

/-! What happens around the lifecycle. The host raises signals, at any moment; the app
takes events and pushes its own; and the collaborators change on their own. A step of
this kind is a move. While the main loop is suspended only the host can end that, so a
suspension runs the host's moves and then sees to it that a resume is raised. -/
namespace AppLifecycle

/-- A step outside the lifecycle. -/
inductive Move (γ σ α τ : Type) where
  /-- The host raises a signal some number of times. -/
  | notify (kind : SignalKind) (times : Nat)
  /-- Someone other than the lifecycle uses up a count of a signal. -/
  | take (kind : SignalKind)
  /-- The app pushes an event some number of times. -/
  | push (event : Event) (times : Nat)
  /-- The app takes the oldest event. -/
  | poll
  /-- The app takes every event. -/
  | drain
  /-- The collaborators change on their own. -/
  | adjust (graphics : γ → γ) (window : σ → σ) (audio : α → α) (textInput : τ → τ)

/-- What the host does during one round of the main loop. Signals may be raised right
before each look that the lifecycle takes at them. -/
structure HostActivity (γ σ α τ : Type) where
  /-- Raised before the lifecycle looks for a pause to take. -/
  beforeTake : List SignalKind := []
  /-- Raised before the lifecycle counts the pauses still raised. -/
  beforeCount : List SignalKind := []
  /-- Raised before the lifecycle looks for a resume. -/
  beforeResume : List SignalKind := []
  /-- Done while the main loop is suspended. -/
  whileSuspended : List (Move γ σ α τ) := []

namespace Lifecycle

open Traced

variable {γ σ α τ : Type}

/-- Raises signals one after the other. -/
def notifyAll (kinds : List SignalKind) : Traced (Lifecycle γ σ α τ) Unit := do
  let _ ← forAll (fun kind => onSignals (HostSignals.notify kind)) kinds
  pure ()

/-- Does one move. -/
def perform : Move γ σ α τ → Traced (Lifecycle γ σ α τ) Reply
  | .notify kind times => do
    notifyAll (List.replicate times kind)
    pure .done
  | .take kind => do
    let raised ← onSignals (HostSignals.on kind Signal.tryTake)
    pure (.took raised)
  | .push event times => do
    let _ ← repeated (onEvents (EventQueue.send .app event)) times
    pure .done
  | .poll => do
    let event ← onEvents EventQueue.receive
    pure (.polled event)
  | .drain => do
    let events ← onEvents EventQueue.receiveAll
    pure (.drained events)
  | .adjust graphics window audio textInput => do
    update fun lifecycle => { lifecycle with
      keeper := { lifecycle.keeper with
        graphics := graphics lifecycle.keeper.graphics
        window := window lifecycle.keeper.window }
      audio := audio lifecycle.audio
      textInput := lifecycle.textInput.map textInput }
    pure .done

/-- Suspends the main loop: the host does its moves, and raises a resume if none is
raised after them. -/
def suspend (host : HostActivity γ σ α τ) : Traced (Lifecycle γ σ α τ) Unit := do
  tell .suspended
  let replies ← forAll perform host.whileSuspended
  let raised ← read fun lifecycle => lifecycle.signals.resume.count
  whenever (raised == 0) (notifyAll [.resume])
  tell (.released replies)

/-- Waits until a resume is raised and uses it up. Suspends the main loop only if none
is raised yet. -/
def awaitResume (host : HostActivity γ σ α τ) : Traced (Lifecycle γ σ α τ) Unit := do
  notifyAll host.beforeResume
  let raised ← read fun lifecycle => lifecycle.signals.resume.count
  whenever (raised == 0) (suspend host)
  let _ ← take .resume
  pure ()

end Lifecycle

end AppLifecycle
