import AppLifecycle.Lifecycle.Advance
import AppLifecycle.Rehearsal.Audio
import AppLifecycle.Rehearsal.Graphics
import AppLifecycle.Rehearsal.Window

/-! Lifecycles for rehearsals, and the part of a trace that a rehearsal puts on record:
what collaborators are told to do, but not what they are merely asked. -/
namespace AppLifecycle.Rehearsal

/-- An audio output of a rehearsal: what it is and which script it follows. -/
structure Part where
  kind : OutputKind
  name : String
  script : Nat

/-- The output that plays the part. -/
def Part.output (part : Part) : Audio.Output Scripts :=
  Scripts.output part.kind part.name part.script

/-- A lifecycle all of whose collaborators follow scripts. -/
abbrev RehearsedLifecycle := Lifecycle ScriptedGraphics ScriptedWindow Scripts ScriptedText

/-- A step around such a lifecycle. -/
abbrev RehearsedMove := Move ScriptedGraphics ScriptedWindow Scripts ScriptedText

/-- Whether a question to an output of this kind, or an order, is put on record. -/
def OutputKind.records : OutputKind → Audio.Call → Bool
  | .probing, _ => true
  | .plain, .detectStall _ => false
  | .plain, _ => true
  | .null, _ => false

/-- Whether an entry is put on record, the outputs being played by the given parts. -/
def isOnRecord (parts : List Part) : Entry → Bool
  | .graphics (.currentContext _) | .graphics (.swapInterval _) => false
  | .graphics _ => true
  | .window (.nativeSize _) | .window (.logicalSize _) | .window (.nativeFormat _)
  | .window (.display _) => false
  | .window _ => true
  | .audio position call =>
    match parts[position]? with
    | some part => part.kind.records call
    | none => false
  | .textInput .activate => true
  | .textInput (.isActive _) => false
  | .pushed origin _ => origin != .app
  | .released _ => true
  | _ => false

end AppLifecycle.Rehearsal
