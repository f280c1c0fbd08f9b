import AppLifecycle.Text.Quoted
import AppLifecycle.Trace.Traced

/-! What is done to all audio outputs together. A failure of one output is told by a
notice and never keeps the others from being called. -/
namespace AppLifecycle.Audio

open Traced

variable {α : Type}

/-- Silences one output. -/
def silenceOne (purpose : Purpose) (position : Nat) (output : Output α) : Traced α Unit := do
  match ← ask output.pause fun answer => .audio position (.pause purpose answer) with
  | .ok () => pure ()
  | .error error => note (.audioPauseFailed output.name error)

/-- Takes one output up again. -/
def takeUpOne (purpose : Purpose) (position : Nat) (output : Output α) : Traced α Unit := do
  match ← ask output.resume fun answer => .audio position (.resume purpose answer) with
  | .ok () => pure ()
  | .error error => note (.audioResumeFailed output.name error)

/-- Asks one output whether it stalled and, if so, silences it and takes it up again.
Says whether that was done. -/
def recoverOne (position : Nat) (output : Output α) : Traced α Bool := do
  let stalled ← ask output.detectStall fun answer => .audio position (.detectStall answer)
  whenever stalled do
    note (.stalledPlayback output.name)
    silenceOne .recovery position output
    takeUpOne .recovery position output
  pure stalled

/-- Acts on every output in the order of registration; the first has the given
position. -/
def eachFrom {β : Type} (action : Nat → Output α → Traced α β) :
    Nat → List (Output α) → Traced α (List β)
  | _, [] => pure []
  | position, output :: rest => do
    let first ← action position output
    let others ← eachFrom action (position + 1) rest
    pure (first :: others)

/-- Silences every output. -/
def silenceAll (outputs : List (Output α)) : Traced α Unit := do
  let _ ← eachFrom (silenceOne .fanOut) 0 outputs
  note (.audioPaused outputs.length)

/-- Takes every output up again. -/
def takeUpAll (outputs : List (Output α)) : Traced α Unit := do
  let _ ← eachFrom (takeUpOne .fanOut) 0 outputs
  note (.audioResumed outputs.length)

/-- Recovers every output whose playback stalled and says how many did. -/
def recoverStalled (outputs : List (Output α)) : Traced α Nat := do
  let stalls ← eachFrom recoverOne 0 outputs
  pure (stalls.count true)

/-- Adds an output behind the others. -/
def register (outputs : List (Output α)) (output : Output α) :
    Traced α (List (Output α)) := do
  note (.outputRegistered output.name)
  pure (outputs ++ [output])

/-- The outputs as they are shown to people. -/
def describe (outputs : List (Output α)) : String :=
  "AudioQuiesceController \x7b backends: [" ++
    ", ".intercalate (outputs.map fun output => Text.quoted output.name) ++ "] \x7d"

end AppLifecycle.Audio
