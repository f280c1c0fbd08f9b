import AppLifecycle.Audio.FanOut
import AppLifecycle.Lifecycle.Config
import AppLifecycle.Keeper
import AppLifecycle.Lifecycle.Phase
import AppLifecycle.Signal

/-! The lifecycle of an app and the parts of a background cycle. A pause is taken from
the host's signal and announced to the app; it is final once the app has seen the
announcement; it is then carried out, which releases the context and silences audio;
and the host's resume ends it. Finality and carrying out are two steps, so that the
context is never detached while the app may still be drawing. -/
namespace AppLifecycle

/-- Where an app stands and what it is made of: a rendering layer and a window, which
belong to the keeper, audio outputs and perhaps a text input. -/
structure Lifecycle (γ σ α τ : Type) where
  config : Config
  keeper : Keeper γ σ
  outputs : List (Audio.Output α)
  audio : α
  textInput : Option τ
  signals : HostSignals := {}
  phase : Phase := .running
  /-- Whether a final pause still has to be carried out. -/
  carryOutDue : Bool := false

/-- Wakes a text input that was in use. -/
def TextInput.wake {τ : Type} [TextInput τ] : Traced τ Unit := do
  let active ← Traced.ask TextInput.isActive fun answer => .textInput (.isActive answer)
  Traced.whenever active (Traced.command TextInput.activate (.textInput .activate))

namespace Lifecycle

open Traced

variable {γ σ α τ : Type}

/-- Acts on the keeper. -/
def onKeeper {β : Type} (action : Traced (Keeper γ σ) β) : Traced (Lifecycle γ σ α τ) β :=
  action.within Lifecycle.keeper fun keeper lifecycle => { lifecycle with keeper }

/-- Acts on the signals. -/
def onSignals {β : Type} (action : Traced HostSignals β) : Traced (Lifecycle γ σ α τ) β :=
  action.within Lifecycle.signals fun signals lifecycle => { lifecycle with signals }

/-- Acts on the queue, which is that of the keeper. -/
def onEvents {β : Type} (action : Traced EventQueue β) : Traced (Lifecycle γ σ α τ) β :=
  onKeeper (Keeper.onEvents action)

/-- Acts on the audio outputs. -/
def onAudio {β : Type} (action : List (Audio.Output α) → Traced α β) :
    Traced (Lifecycle γ σ α τ) β := do
  let outputs ← read Lifecycle.outputs
  (action outputs).within Lifecycle.audio fun audio lifecycle => { lifecycle with audio }

/-- Wakes the text input, if there is one and it was in use. -/
def wakeTextInput [TextInput τ] : Traced (Lifecycle γ σ α τ) Unit := fun lifecycle =>
  match lifecycle.textInput with
  | none => ⟨(), lifecycle, []⟩
  | some textInput =>
    let outcome := TextInput.wake textInput
    ⟨(), { lifecycle with textInput := some outcome.state }, outcome.trace⟩

/-- Tells the app something. -/
def announce (events : List Event) : Traced (Lifecycle γ σ α τ) Unit := do
  let _ ← forAll (fun event => onEvents (EventQueue.send .lifecycle event)) events
  pure ()

/-- Uses up one count of a signal if there is one and says whether there was. -/
def take (kind : SignalKind) : Traced (Lifecycle γ σ α τ) Bool := do
  let raised ← onSignals (HostSignals.on kind Signal.tryTake)
  whenever raised (tell (.took kind))
  pure raised

/-- Leaves the pause pending while more background events are queued than pauses are
still raised, and makes it final otherwise. `announced` says that the pause was
announced just now. -/
def settlePause (announced : Bool) : Traced (Lifecycle γ σ α τ) Unit := do
  let queued ← read fun lifecycle => lifecycle.keeper.events.count .didEnterBackground
  let signalled ← read fun lifecycle => lifecycle.signals.pause.count
  if signalled < queued then
    whenever announced (note (.pausePending queued signalled))
    update fun lifecycle => { lifecycle with phase := .pausing }
  else
    update fun lifecycle => { lifecycle with phase := .paused, carryOutDue := true }
    tell (.milestone .committed)
    note (.enteredBackground queued signalled)

/-- Carries out a final pause: releases the context unless it belongs to the embedder,
and silences audio if asked to. -/
def carryOutPause [Graphics.Layer γ] (pauseAudio : Bool) : Traced (Lifecycle γ σ α τ) Unit := do
  tell (.milestone .carriedOut)
  let external ← read fun lifecycle => lifecycle.config.contextExternal
  whenever (!external) do
    let _ ← onKeeper Keeper.save
    pure ()
  whenever pauseAudio (onAudio Audio.silenceAll)
  update fun lifecycle => { lifecycle with carryOutDue := false }

/-- Carries out a final pause that has not been carried out yet. -/
def carryOutDuePause [Graphics.Layer γ] (pauseAudio : Bool) : Traced (Lifecycle γ σ α τ) Unit := do
  let due ← read Lifecycle.carryOutDue
  whenever due (carryOutPause pauseAudio)

/-- Brings rendering back, unless the context belongs to the embedder or the app is
about to quit. -/
def restoreContext [Graphics.Layer γ] [Window.Layer σ] : Traced (Lifecycle γ σ α τ) Unit := do
  let external ← read fun lifecycle => lifecycle.config.contextExternal
  let quitting ← read fun lifecycle => lifecycle.keeper.events.has .quit
  if external then note .restoreSkippedExternal
  else if quitting then note .restoreSkippedQuit
  else do
    let _ ← onKeeper Keeper.restore
    pure ()

/-- Ends a pause. -/
def endPause [Graphics.Layer γ] [Window.Layer σ] [TextInput τ] (resumeAudio : Bool) :
    Traced (Lifecycle γ σ α τ) Unit := do
  update fun lifecycle => { lifecycle with phase := .running }
  tell (.milestone .ended)
  announce Event.foregroundGroup
  whenever resumeAudio (onAudio Audio.takeUpAll)
  restoreContext
  wakeTextInput
  note .enteredForeground

end Lifecycle

end AppLifecycle
