import AppLifecycle.Event
import AppLifecycle.Graphics
import AppLifecycle.Audio

/-! The notices that the lifecycle leaves for people. Each says one thing that
happened; its level, its words and its fields follow from that. Failures are told
by warnings only, so a warning carries the error it reports. -/
namespace AppLifecycle

/-- How much a notice matters, from the least to the most. -/
inductive Level where
  | trace
  | debug
  | info
  | warn
  deriving DecidableEq

namespace Level

def rank : Level → Nat
  | trace => 0
  | debug => 1
  | info => 2
  | warn => 3

/-- The word in front of a record. -/
def label : Level → String
  | trace => "TRACE"
  | debug => "DEBUG"
  | info => "INFO"
  | warn => "WARN"

end Level

/-- The value of one field of a notice. -/
inductive FieldValue where
  | integer (value : Int)
  | flag (value : Bool)
  | text (value : String)
  deriving DecidableEq

/-- Everything that is worth a notice. -/
inductive Notice where
  | signalRaised (signal : String) (count : Nat)
  | eventQueued (event : Event)
  | outputRegistered (output : String)
  | audioPauseFailed (output : String) (error : Audio.Error)
  | audioResumeFailed (output : String) (error : Audio.Error)
  | audioPaused (outputs : Nat)
  | audioResumed (outputs : Nat)
  | stalledPlayback (output : String)
  | swapIntervalCaptured (interval : Int32)
  | alreadyBackedUp
  | detachFailed (error : Graphics.Error)
  | backedUp (context : Option Graphics.Context)
  | nothingToRestore
  | savedContextInvalid (error : Graphics.Error)
  | newContextNotCurrent (error : Graphics.Error)
  | createContextFailed (error : Graphics.Error)
  | statusAfterRestore (status : Graphics.Status)
  | geometryUnchanged (width height refreshRate : Int32)
  | resolutionApplied (width height refreshRate : Int32)
  | swapIntervalRefused (error : Graphics.Error) (wanted : Int32)
  | disableVsyncFailed (error : Graphics.Error)
  | restored (deviceReset : Bool) (swapInterval : Int32)
  | pausePending (queued signalled : Nat)
  | enteredBackground (queued signalled : Nat)
  | waitingForResume
  | restoreSkippedExternal
  | restoreSkippedQuit
  | enteredForeground
  deriving DecidableEq

namespace Notice

def level : Notice → Level
  | signalRaised .. | eventQueued .. => .trace
  | outputRegistered .. | audioPaused .. | audioResumed .. | swapIntervalCaptured ..
  | alreadyBackedUp | backedUp .. | nothingToRestore | geometryUnchanged .. | restored ..
  | pausePending .. | restoreSkippedExternal | restoreSkippedQuit => .debug
  | resolutionApplied .. | enteredBackground .. | waitingForResume | enteredForeground => .info
  | audioPauseFailed .. | audioResumeFailed .. | stalledPlayback .. | detachFailed ..
  | savedContextInvalid .. | newContextNotCurrent .. | createContextFailed ..
  | statusAfterRestore .. | swapIntervalRefused .. | disableVsyncFailed .. => .warn

/-- The words of the notice. -/
def message : Notice → String
  | signalRaised .. => "signal raised"
  | eventQueued .. => "event queued"
  | outputRegistered .. => "audio backend registered"
  | audioPauseFailed .. => "audio pause failed"
  | audioResumeFailed .. => "audio resume failed"
  | audioPaused .. => "audio paused"
  | audioResumed .. => "audio resumed"
  | stalledPlayback .. => "broken playback detected, cycling backend"
  | swapIntervalCaptured .. => "swap interval captured"
  | alreadyBackedUp => "context already backed up"
  | detachFailed .. => "failed to detach context"
  | backedUp .. => "context backed up"
  | nothingToRestore => "no context backup to restore"
  | savedContextInvalid .. => "saved context is no longer valid, creating a new one"
  | newContextNotCurrent .. => "failed to make new context current"
  | createContextFailed .. => "failed to create context"
  | statusAfterRestore .. => "graphics error after restore"
  | geometryUnchanged .. => "geometry unchanged"
  | resolutionApplied .. => "screen resolution applied"
  | swapIntervalRefused .. => "swap interval restore failed, disabling vsync"
  | disableVsyncFailed .. => "failed to disable vsync"
  | restored .. => "context restored"
  | pausePending .. => "pause pending until background event is drained"
  | enteredBackground .. => "entered background"
  | waitingForResume => "paused, waiting for resume"
  | restoreSkippedExternal => "context is external, skipping restore"
  | restoreSkippedQuit => "quit pending, skipping context restore"
  | enteredForeground => "entered foreground"

/-- A saved context as it is written into a record. -/
def contextText : Option Graphics.Context → String
  | some context => "Some(" ++ toString context.handle ++ ")"
  | none => "None"

private def sizeFields (width height refreshRate : Int32) : List (String × FieldValue) :=
  [("width", .integer width.toInt), ("height", .integer height.toInt),
    ("refresh_rate_hz", .integer refreshRate.toInt)]

private def countFields (queued signalled : Nat) : List (String × FieldValue) :=
  [("queued", .integer queued), ("signalled", .integer signalled)]

/-- The named values that go with the words. -/
def fields : Notice → List (String × FieldValue)
  | signalRaised signal count => [("signal", .text signal), ("count", .integer count)]
  | eventQueued event => [("event", .text event.name)]
  | outputRegistered output | stalledPlayback output => [("backend", .text output)]
  | audioPauseFailed output error | audioResumeFailed output error =>
    [("backend", .text output), ("error", .text error.message)]
  | audioPaused outputs | audioResumed outputs => [("backends", .integer outputs)]
  | swapIntervalCaptured interval => [("interval", .integer interval.toInt)]
  | detachFailed error | savedContextInvalid error | newContextNotCurrent error
  | createContextFailed error | disableVsyncFailed error => [("error", .text error.message)]
  | swapIntervalRefused error wanted =>
    [("error", .text error.message), ("wanted", .integer wanted.toInt)]
  | backedUp context => [("context", .text (contextText context))]
  | statusAfterRestore status => [("code", .text status.tag)]
  | geometryUnchanged width height rate | resolutionApplied width height rate =>
    sizeFields width height rate
  | restored deviceReset swapInterval =>
    [("device_reset", .flag deviceReset), ("swap_interval", .integer swapInterval.toInt)]
  | pausePending queued signalled | enteredBackground queued signalled =>
    countFields queued signalled
  | alreadyBackedUp | nothingToRestore | waitingForResume | restoreSkippedExternal
  | restoreSkippedQuit | enteredForeground => []

end Notice

end AppLifecycle
