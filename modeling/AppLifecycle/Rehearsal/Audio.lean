import AppLifecycle.Audio

/-! Audio outputs for rehearsals. All outputs of a rehearsal share one list of scripts,
so that an output registered twice follows one script. -/
namespace AppLifecycle.Rehearsal

/-- The kinds of failure that a script can ask for. -/
inductive AudioFailure where
  | pauseFailed
  | resumeFailed
  | stream
  | disconnected
  deriving DecidableEq

/-- The error of an output for a kind of failure. -/
def AudioFailure.error (output reason : String) : AudioFailure → Audio.Error
  | pauseFailed => .pauseFailed output reason
  | resumeFailed => .resumeFailed output reason
  | stream => .stream reason
  | disconnected => .disconnected

/-- How an output behaves. -/
structure AudioScript where
  failPause : Option AudioFailure := none
  failResume : Option AudioFailure := none
  reason : String := ""
  /-- Whether playback has stalled, at the next question first. -/
  stalls : List Bool := []

/-- The scripts of all outputs, in the order in which the outputs were made. -/
abbrev Scripts := List AudioScript

/-- What can be told about an output by looking at it. -/
inductive OutputKind where
  /-- Knows whether its playback stalled. -/
  | probing
  /-- Never finds that its playback stalled. -/
  | plain
  /-- Does nothing. -/
  | null
  deriving DecidableEq

namespace Scripts

private def outcome (output : String) (script : AudioScript) :
    Option AudioFailure → Except Audio.Error Unit
  | none => .ok ()
  | some failure => .error (failure.error output script.reason)

private def script (scripts : Scripts) (index : Nat) : AudioScript := scripts[index]?.getD {}

/-- Whether playback has stalled at this question. -/
def detectStall (index : Nat) (scripts : Scripts) : Bool × Scripts :=
  match (script scripts index).stalls with
  | [] => (false, scripts)
  | stall :: rest =>
    (stall, scripts.modify index fun script => { script with stalls := rest })

/-- The output that follows the script with the given index. -/
def output (kind : OutputKind) (name : String) (index : Nat) : Audio.Output Scripts :=
  let plain : Audio.Output Scripts :=
    { name
      pause := fun scripts =>
        (outcome name (script scripts index) (script scripts index).failPause, scripts)
      resume := fun scripts =>
        (outcome name (script scripts index) (script scripts index).failResume, scripts) }
  match kind with
  | .probing => { plain with detectStall := detectStall index }
  | .plain => plain
  | .null => .null

end Scripts

end AppLifecycle.Rehearsal
