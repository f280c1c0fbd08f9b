import AppLifecycle.Display
import AppLifecycle.Json.Record
import AppLifecycle.Json.Write

/-! Displays as JSON. A display without modes may leave their list out. -/
namespace AppLifecycle

open Json

/-- The fields of a mode that have been read so far. -/
structure ModeDraft where
  width : Option Int32 := none
  height : Option Int32 := none
  refreshRate : Option Int32 := none
  deriving DecidableEq

/-- The mode with zero in place of what was not read. -/
def ModeDraft.toMode (draft : ModeDraft) : Display.Mode :=
  ⟨draft.width.getD 0, draft.height.getD 0, draft.refreshRate.getD 0⟩

namespace Display.Mode

/-- The shape of a mode. -/
def shape : Record ModeDraft where
  name := "DisplayMode"
  blank := {}
  fields :=
    [{ name := "width", required := true, isFilled := fun draft => draft.width.isSome
       read := readInt32.map fun value draft => { draft with width := some value } },
     { name := "height", required := true, isFilled := fun draft => draft.height.isSome
       read := readInt32.map fun value draft => { draft with height := some value } },
     { name := "refresh_rate", required := true, isFilled := fun draft => draft.refreshRate.isSome
       read := readInt32.map fun value draft => { draft with refreshRate := some value } }]

def read : Reader Display.Mode := shape.read.map ModeDraft.toMode

def write (mode : Display.Mode) (layout : Layout) : List Char :=
  writeRecord layout
    [("width", writeInt32 mode.width), ("height", writeInt32 mode.height),
      ("refresh_rate", writeInt32 mode.refreshRate)]

end Display.Mode

/-- The fields of a display that have been read so far. -/
structure DisplayDraft where
  currentMode : Option Display.Mode := none
  modes : Option (List Display.Mode) := none
  deriving DecidableEq

/-- The display with a mode of zeros and no list of modes in place of what was not read. -/
def DisplayDraft.toDisplay (draft : DisplayDraft) : Display :=
  ⟨draft.currentMode.getD ⟨0, 0, 0⟩, draft.modes.getD []⟩

namespace Display

/-- The shape of a display. -/
def shape : Record DisplayDraft where
  name := "DisplayInfo"
  blank := {}
  fields :=
    [{ name := "current_mode", required := true, isFilled := fun draft => draft.currentMode.isSome
       read := Display.Mode.read.map fun mode draft => { draft with currentMode := some mode } },
     { name := "modes", required := false, isFilled := fun draft => draft.modes.isSome
       read := (readList Display.Mode.read).map fun modes draft =>
         { draft with modes := some modes } }]

def read : Reader Display := shape.read.map DisplayDraft.toDisplay

/-- Writes a display whose current mode, listed modes and whole have layouts of their own. -/
def writeWith (display : Display) (whole current : Layout) (listed : Display.Mode → Layout) :
    List Char :=
  writeRecord whole
    [("current_mode", display.currentMode.write current),
      ("modes", writeList (display.modes.map fun mode => mode.write (listed mode)))]

def write (display : Display) : List Char :=
  display.writeWith .object .object fun _ => .object

end Display

end AppLifecycle
