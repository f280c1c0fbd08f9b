import AppLifecycle.TextInput
import AppLifecycle.Window

/-! A window and a text input for rehearsals. They answer what they are set to and take
no notice of what they are told. -/
namespace AppLifecycle.Rehearsal

/-- The state of a rehearsed window. -/
structure ScriptedWindow where
  native : Option Window.Size := none
  logical : Window.Size := ⟨0, 0⟩
  format : Option Window.PixelFormat := none
  display : Option Display := none

instance : Window.Layer ScriptedWindow where
  nativeSize window := (window.native, window)
  logicalSize window := (window.logical, window)
  nativeFormat window := (window.format, window)
  display window := (window.display, window)
  setPixelFormat _ window := window
  setResolution _ window := window
  sendResize _ window := window

/-- The state of a rehearsed text input. -/
structure ScriptedText where
  active : Bool := false

instance : TextInput ScriptedText where
  isActive text := (text.active, text)
  activate text := text

end AppLifecycle.Rehearsal
