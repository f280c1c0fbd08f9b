import AppLifecycle.Json.Display
import AppLifecycle.Json.Geometry
import AppLifecycle.Proofs.JsonIntegers
import AppLifecycle.Proofs.JsonLayouts

/-! Displays and geometries as texts. Each is read back as it was, whichever of the objects in its
text are written as lists of their values instead, and a display without modes also if their list
is left out. -/
namespace AppLifecycle

open Json

namespace Json

theorem readInt32_accepts (value : Int32) : readInt32.Accepts (writeInt32 value) value where
  takes := readInt32_takes value
  starts := by
    obtain ⟨c, more, same, starts⟩ := starts_of_startsNumber (startsNumber_writeInt value.toInt [])
    exact ⟨c, more, (List.append_nil _).symm.trans same, starts⟩

/-- A field that holds an integer of 32 bits takes what is written of one. -/
theorem int32_accepts {δ : Type} (fill : Int32 → δ → δ) (value : Int32) :
    (readInt32.map fill).Accepts (writeInt32 value) (fill value) :=
  (readInt32_accepts value).map fill

end Json

theorem Geometry.accepts_write (geometry : Geometry) (layout : Layout) :
    Geometry.read.Accepts (geometry.write layout) geometry := by
  have filled : Record.Filled shape.fields shape.blank
      [("surface_width", writeInt32 geometry.surfaceWidth),
        ("surface_height", writeInt32 geometry.surfaceHeight),
        ("device_width", writeInt32 geometry.deviceWidth),
        ("device_height", writeInt32 geometry.deviceHeight),
        ("refresh_rate_hz", writeInt32 geometry.refreshRate)]
      ⟨some geometry.surfaceWidth, some geometry.surfaceHeight, some geometry.deviceWidth,
        some geometry.deviceHeight, some geometry.refreshRate⟩ := by
    refine .parts (by decide) rfl (int32_accepts _ _) ?_
    refine .parts (by decide) rfl (int32_accepts _ _) ?_
    refine .parts (by decide) rfl (int32_accepts _ _) ?_
    refine .parts (by decide) rfl (int32_accepts _ _) ?_
    refine .parts (by decide) rfl (int32_accepts _ _) ?_
    exact .rest _ _
  exact (filled.accepts (by decide) rfl layout).map GeometryDraft.toGeometry

namespace Display

theorem Mode.accepts_write (mode : Display.Mode) (layout : Layout) :
    Display.Mode.read.Accepts (mode.write layout) mode := by
  have filled : Record.Filled Mode.shape.fields Mode.shape.blank
      [("width", writeInt32 mode.width), ("height", writeInt32 mode.height),
        ("refresh_rate", writeInt32 mode.refreshRate)]
      ⟨some mode.width, some mode.height, some mode.refreshRate⟩ := by
    refine .parts (by decide) rfl (int32_accepts _ _) ?_
    refine .parts (by decide) rfl (int32_accepts _ _) ?_
    refine .parts (by decide) rfl (int32_accepts _ _) ?_
    exact .rest _ _
  exact (filled.accepts (by decide) rfl layout).map ModeDraft.toMode

/-- The listed modes, each in the layout that goes with its place. -/
def modeTexts (modes : List Display.Mode) (listed : Nat → Layout) : List (List Char) :=
  modes.mapIdx fun place mode => mode.write (listed place)

/-- Writes a display in which every object has a layout of its own. -/
def writeAs (display : Display) (whole current : Layout) (listed : Nat → Layout) : List Char :=
  writeRecord whole
    [("current_mode", display.currentMode.write current),
      ("modes", writeList (modeTexts display.modes listed))]

/-- Writes a display without its list of modes. -/
def writeUnlisted (current : Display.Mode) (whole layout : Layout) : List Char :=
  writeRecord whole [("current_mode", current.write layout)]

theorem write_eq_writeAs (display : Display) :
    display.write = display.writeAs .object .object fun _ => .object := by
  have same : modeTexts display.modes (fun _ => .object) =
      display.modes.map fun mode => mode.write .object :=
    List.ext_getElem (by simp [modeTexts]) (by simp [modeTexts])
  simp only [write, writeWith, writeAs, same]

theorem accepts_modeTexts (modes : List Display.Mode) (listed : Nat → Layout) :
    List.Forall₂ Display.Mode.read.Accepts (modeTexts modes listed) modes := by
  induction modes generalizing listed with
  | nil => exact .nil
  | cons mode modes ih =>
    rw [modeTexts, List.mapIdx_cons]
    exact .cons (mode.accepts_write (listed 0)) (ih fun place => listed (place + 1))

theorem accepts_writeAs (display : Display) (whole current : Layout) (listed : Nat → Layout) :
    Display.read.Accepts (display.writeAs whole current listed) display := by
  have currentMode := display.currentMode.accepts_write current
  have modes := readList_accepts (accepts_modeTexts display.modes listed)
  have filled : Record.Filled shape.fields shape.blank
      [("current_mode", display.currentMode.write current),
        ("modes", writeList (modeTexts display.modes listed))]
      ⟨some display.currentMode, some display.modes⟩ := by
    refine .parts (by decide) rfl (currentMode.map _) ?_
    refine .parts (by decide) rfl (modes.map _) ?_
    exact .rest _ _
  exact (filled.accepts (by decide) rfl whole).map DisplayDraft.toDisplay

theorem accepts_writeUnlisted (current : Display.Mode) (whole layout : Layout) :
    Display.read.Accepts (writeUnlisted current whole layout) ⟨current, []⟩ := by
  have currentMode := current.accepts_write layout
  have filled : Record.Filled shape.fields shape.blank
      [("current_mode", current.write layout)] ⟨some current, none⟩ := by
    refine .parts (by decide) rfl (currentMode.map _) ?_
    exact .rest _ _
  exact (filled.accepts (by decide) rfl whole).map DisplayDraft.toDisplay

end Display

/-- A geometry and a display are read back as they were, with any integers in them and any number
of modes, from the text in which all records are objects and from each in which some of them are
lists instead. A display without modes is also read back from the text that leaves them out. -/
theorem displays_and_geometries_are_read_back :
    (∀ (geometry : Geometry) (layout : Layout),
      readText Geometry.read (geometry.write layout) = .ok geometry) ∧
    (∀ display : Display, readText Display.read display.write = .ok display) ∧
    (∀ (display : Display) (whole current : Layout) (listed : Nat → Layout),
      readText Display.read (display.writeAs whole current listed) = .ok display) ∧
    ∀ (current : Display.Mode) (whole layout : Layout),
      readText Display.read (Display.writeUnlisted current whole layout) = .ok ⟨current, []⟩ := by
  refine ⟨fun geometry layout => (geometry.accepts_write layout).readText, fun display => ?_,
    fun display whole current listed => (display.accepts_writeAs whole current listed).readText,
    fun current whole layout => (Display.accepts_writeUnlisted current whole layout).readText⟩
  rw [display.write_eq_writeAs]
  exact (display.accepts_writeAs .object .object _).readText

example : Display.writeUnlisted ⟨Int32.minValue, 0, -1⟩ .object .list =
    "\x7b\"current_mode\":[-2147483648,0,-1]\x7d".toList := by decide

end AppLifecycle
