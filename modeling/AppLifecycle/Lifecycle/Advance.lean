import AppLifecycle.Lifecycle.Host

/-! How the main loop moves the lifecycle on, once per round. A suspending round takes a
pause, carries it out and suspends the loop until the host's resume. A ticking round
does at most one of these steps and never waits. Both end with a look at the audio
outputs, whatever else they did. -/
namespace AppLifecycle.Lifecycle

open Traced

variable {γ σ α τ : Type} [Graphics.Layer γ] [Window.Layer σ] [TextInput τ]

/-- Takes a pause that the host raised and announces it, or looks again at a pause that
is still pending; either way decides whether the pause is final. -/
def lookForPause (host : HostActivity γ σ α τ) : Traced (Lifecycle γ σ α τ) Unit := do
  match ← read Lifecycle.phase with
  | .pausing => do
    notifyAll host.beforeCount
    settlePause false
  | _ => do
    notifyAll host.beforeTake
    let taken ← take .pause
    whenever taken do
      onKeeper Keeper.rememberSwapInterval
      announce Event.backgroundGroup
      notifyAll host.beforeCount
      settlePause true

/-- Cycles the audio outputs whose playback stalled. -/
def recoverAudio : Traced (Lifecycle γ σ α τ) Nat := onAudio Audio.recoverStalled

/-- A suspending round up to the wait. Leaves the lifecycle paused, with the pause
carried out, exactly if the round is going to wait. -/
def settleDown (host : HostActivity γ σ α τ) : Traced (Lifecycle γ σ α τ) Unit := do
  let phase ← read Lifecycle.phase
  whenever (phase != .paused) (lookForPause host)
  let phase ← read Lifecycle.phase
  whenever (phase == .paused) do
    carryOutDuePause true
    note .waitingForResume

/-- A suspending round from the wait on. -/
def comeBack (host : HostActivity γ σ α τ) : Traced (Lifecycle γ σ α τ) Unit := do
  let phase ← read Lifecycle.phase
  whenever (phase == .paused) do
    awaitResume host
    endPause true

/-- A suspending round: moves the lifecycle on and waits while the app is paused. -/
def advanceSuspending (host : HostActivity γ σ α τ) : Traced (Lifecycle γ σ α τ) Phase := do
  settleDown host
  comeBack host
  let _ ← recoverAudio
  read Lifecycle.phase

/-- A ticking round in the background: carries the pause out if that is still to be
done, and ends it if a resume is raised. -/
def tickPaused (host : HostActivity γ σ α τ) : Traced (Lifecycle γ σ α τ) Unit := do
  let pauseAudio ← read fun lifecycle => lifecycle.config.pauseAudio
  carryOutDuePause pauseAudio
  notifyAll host.beforeResume
  let resumed ← take .resume
  whenever resumed (endPause pauseAudio)

/-- A ticking round: moves the lifecycle on without ever waiting. -/
def advanceTicking (host : HostActivity γ σ α τ) : Traced (Lifecycle γ σ α τ) Phase := do
  match ← read Lifecycle.phase with
  | .paused => tickPaused host
  | _ => lookForPause host
  let _ ← recoverAudio
  read Lifecycle.phase

/-- A round of the kind that the configuration asks for. -/
def advance (host : HostActivity γ σ α τ) : Traced (Lifecycle γ σ α τ) Phase := do
  match ← read fun lifecycle => lifecycle.config.mode with
  | .suspending => advanceSuspending host
  | .ticking => advanceTicking host

end AppLifecycle.Lifecycle
