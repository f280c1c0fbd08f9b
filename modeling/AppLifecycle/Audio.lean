/-! Audio outputs that can be silenced while the app is in the background. -/
namespace AppLifecycle.Audio

/-- What went wrong in an audio output. -/
inductive Error where
  | pauseFailed (output reason : String)
  | resumeFailed (output reason : String)
  | stream (reason : String)
  | disconnected
  deriving DecidableEq

/-- The words in which a failure is reported. -/
def Error.message : Error → String
  | pauseFailed output reason => "backend " ++ output ++ " failed to pause: " ++ reason
  | resumeFailed output reason => "backend " ++ output ++ " failed to resume: " ++ reason
  | stream reason => "stream error: " ++ reason
  | disconnected => "backend worker is gone"

/-- One audio output. All outputs of a program share the states `α`, so that an
output registered twice is one output still. -/
structure Output (α : Type) where
  name : String
  /-- Silences every open device of the output. -/
  pause : α → Except Error Unit × α
  /-- Takes up again what `pause` silenced. -/
  resume : α → Except Error Unit × α
  /-- Asks whether playback has stalled without saying so. -/
  detectStall : α → Bool × α := fun audio => (false, audio)

/-- The output that accepts every call and does nothing. -/
def Output.null {α : Type} : Output α where
  name := "null"
  pause audio := (.ok (), audio)
  resume audio := (.ok (), audio)

/-- Why an output is called. -/
inductive Purpose where
  /-- All outputs are silenced or taken up again together. -/
  | fanOut
  /-- The output's own playback stalled. -/
  | recovery
  deriving DecidableEq

/-- A call on an audio output and its answer. -/
inductive Call where
  | pause (purpose : Purpose) (answer : Except Error Unit)
  | resume (purpose : Purpose) (answer : Except Error Unit)
  | detectStall (answer : Bool)

end AppLifecycle.Audio
