import AppLifecycle.Event.Delivery

/-! The keeper of the rendering context. Before the app leaves the foreground the
keeper saves the current context and detaches it; when the app is back it attaches the
saved context again, makes a new one if that is refused, derives the window's geometry
anew and sets the swap interval. Nothing here fails: a refusal is told by a notice and
the remaining steps still run. -/
namespace AppLifecycle

/-- The lock that keeps other users of the context out while the keeper works. -/
structure ContextLock where
  /-- Whether the lock was given to the keeper by someone who uses it too. -/
  shared : Bool := false
  held : Bool := false
  /-- Whether a holder once died while it held the lock. The lock still works. -/
  poisoned : Bool := false
  deriving DecidableEq

/-- What a backup saved. -/
structure Snapshot where
  /-- The context that was current. -/
  context : Option Graphics.Context := none
  /-- Whether a backup is held. -/
  held : Bool := false
  deriving DecidableEq

/-- What a restore did. -/
structure Restored where
  /-- Whether the app was told to rebuild its rendering resources. -/
  deviceReset : Bool
  /-- What the window was told, none if its geometry had not changed. -/
  resolution : Option Resolution
  /-- The swap interval after the restore. -/
  swapInterval : Int32
  deriving DecidableEq

/-- The keeper, the collaborators it works with and what it remembers. -/
structure Keeper (γ σ : Type) where
  graphics : γ
  window : σ
  /-- The queue to the app. The lifecycle around the keeper has no other. -/
  events : EventQueue
  lock : ContextLock := {}
  snapshot : Snapshot := {}
  geometry : Geometry := {}
  /-- The swap interval to go back to. -/
  swapInterval : Int32 := 0

namespace Keeper

open Traced

variable {γ σ : Type}

/-- Calls the rendering layer. -/
def askGraphics {β : Type} (call : γ → β × γ) (record : β → Graphics.Call) :
    Traced (Keeper γ σ) β :=
  (ask call fun answer => .graphics (record answer)).within
    Keeper.graphics fun graphics keeper => { keeper with graphics }

/-- Asks the window. -/
def askWindow {β : Type} (call : σ → β × σ) (record : β → Window.Call) :
    Traced (Keeper γ σ) β :=
  (ask call fun answer => .window (record answer)).within
    Keeper.window fun window keeper => { keeper with window }

/-- Tells the window. -/
def tellWindow (call : σ → σ) (record : Window.Call) : Traced (Keeper γ σ) Unit :=
  (command call (.window record)).within
    Keeper.window fun window keeper => { keeper with window }

/-- Acts on the queue. -/
def onEvents {β : Type} (action : Traced EventQueue β) : Traced (Keeper γ σ) β :=
  action.within Keeper.events fun events keeper => { keeper with events }

/-- Runs an action while the lock is held, whether or not the lock is poisoned. -/
def guarded {β : Type} (action : Traced (Keeper γ σ) β) : Traced (Keeper γ σ) β := do
  update fun keeper => { keeper with lock := { keeper.lock with held := true } }
  let answer ← action
  update fun keeper => { keeper with lock := { keeper.lock with held := false } }
  pure answer

/-- Someone else dies while holding the lock. -/
def poisonLock (keeper : Keeper γ σ) : Keeper γ σ :=
  { keeper with lock := { keeper.lock with poisoned := true } }

variable [Graphics.Layer γ] [Window.Layer σ]

/-- Remembers the swap interval in effect. -/
def rememberSwapInterval : Traced (Keeper γ σ) Unit := do
  let interval ← askGraphics Graphics.Layer.swapInterval .swapInterval
  update fun keeper => { keeper with swapInterval := interval }
  note (.swapIntervalCaptured interval)

/-- Makes a context current or detaches, and says whether that worked. A refusal is
told by the given notice. -/
def attach (context : Option Graphics.Context) (refusal : Graphics.Error → Notice) :
    Traced (Keeper γ σ) Bool := do
  match ← askGraphics (Graphics.Layer.makeCurrent context) (.makeCurrent context) with
  | .ok () => pure true
  | .error error => do
    note (refusal error)
    pure false

/-- Saves the current context and detaches it, unless a backup is already held. Says
whether a backup was made. -/
def save : Traced (Keeper γ σ) Bool := do
  if ← read fun keeper => keeper.snapshot.held then
    note .alreadyBackedUp
    pure false
  else
    guarded do
      let context ← askGraphics Graphics.Layer.currentContext .currentContext
      let _ ← attach none .detachFailed
      update fun keeper => { keeper with snapshot := { context, held := true } }
      note (.backedUp context)
    pure true

/-- Makes a new context and attaches it. -/
def recreate : Traced (Keeper γ σ) Unit := do
  match ← askGraphics Graphics.Layer.createContext .createContext with
  | .ok context =>
    let _ ← attach (some context) .newContextNotCurrent
    pure ()
  | .error error => note (.createContextFailed error)

/-- Attaches the saved context, or a new one if that is refused, and says whether
rendering resources have to be rebuilt. -/
def attachSaved : Traced (Keeper γ σ) Bool := do
  let saved ← read fun keeper => keeper.snapshot.context
  let attached ← attach saved .savedContextInvalid
  whenever (!attached) recreate
  let status ← askGraphics Graphics.Layer.lastStatus .lastStatus
  whenever status.needsRebuild (note (.statusAfterRestore status))
  pure (!attached || status.needsRebuild)

/-- Finds out the geometry that the window should have: the size of the live surface
if it has an area, else the window's own size, and the rate of its display. -/
def deriveGeometry : Traced (Keeper γ σ) Geometry := do
  let logical ← askWindow Window.Layer.logicalSize .logicalSize
  let native ← askWindow Window.Layer.nativeSize .nativeSize
  let display ← askWindow Window.Layer.display .display
  let size := (native.filter Window.Size.isVisible).getD logical
  pure (Geometry.ofSurface size.width size.height (Display.refreshRate display))

/-- Hands the surface's pixel format on if it is known. -/
def passFormat : Traced (Keeper γ σ) Unit := do
  let format ← askWindow Window.Layer.nativeFormat .nativeFormat
  match format.filter Window.PixelFormat.isKnown with
  | some known => tellWindow (Window.Layer.setPixelFormat known) (.setPixelFormat known)
  | none => pure ()

/-- Brings the window to the geometry it should have. Tells it only if something
changed since the last time, and answers with what it was told. -/
def updateWindow : Traced (Keeper γ σ) (Option Resolution) := do
  let next ← deriveGeometry
  passFormat
  if ← read fun keeper => keeper.geometry.changesTo next then
    tellWindow (Window.Layer.setResolution next.resolution) (.setResolution next.resolution)
    let size : Window.Size := ⟨next.surfaceWidth, next.surfaceHeight⟩
    tellWindow (Window.Layer.sendResize size) (.sendResize size)
    update fun keeper => { keeper with geometry := next }
    note (.resolutionApplied next.surfaceWidth next.surfaceHeight next.refreshRate)
    pure (some next.resolution)
  else
    note (.geometryUnchanged next.surfaceWidth next.surfaceHeight next.refreshRate)
    pure none

/-- Sets a swap interval. -/
def setSwapInterval (interval : Int32) : Traced (Keeper γ σ) (Except Graphics.Error Unit) :=
  askGraphics (Graphics.Layer.setSwapInterval interval) (.setSwapInterval interval)

/-- Goes back to the remembered swap interval; if that is refused, gives up waiting
for the display. Answers with the interval asked for last. -/
def reinstateSwapInterval : Traced (Keeper γ σ) Int32 := do
  let wanted ← read Keeper.swapInterval
  match ← setSwapInterval wanted with
  | .ok () => pure wanted
  | .error error => do
    note (.swapIntervalRefused error wanted)
    match ← setSwapInterval 0 with
    | .ok () => pure 0
    | .error second => do
      note (.disableVsyncFailed second)
      pure 0

/-- Brings rendering back after a backup; does nothing if none is held. -/
def restore : Traced (Keeper γ σ) (Option Restored) := do
  if ← read fun keeper => keeper.snapshot.held then
    guarded do
      let deviceReset ← attachSaved
      whenever deviceReset (onEvents (EventQueue.send .keeper .renderDeviceReset))
      let resolution ← updateWindow
      let swapInterval ← reinstateSwapInterval
      update fun keeper => { keeper with snapshot := {} }
      note (.restored deviceReset swapInterval)
      pure (some { deviceReset, resolution, swapInterval })
  else
    note .nothingToRestore
    pure none

end Keeper

end AppLifecycle
