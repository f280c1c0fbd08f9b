import AppLifecycle.Display
import AppLifecycle.Geometry

/-! The window as the lifecycle sees it: four questions about its size, format and
display, and three things it is told. -/
namespace AppLifecycle.Window

/-- The code of a pixel format as the window reports it. -/
structure PixelFormat where
  code : Int32
  deriving DecidableEq

/-- A code that is not positive means that the format could not be found out. -/
def PixelFormat.isKnown (format : PixelFormat) : Bool := 0 < format.code

/-- A width and a height. -/
structure Size where
  width : Int32
  height : Int32
  deriving DecidableEq

/-- Whether something of this size has an area. -/
def Size.isVisible (size : Size) : Bool := 0 < size.width && 0 < size.height

/-- A window with states `σ`. As with the rendering layer, every call may change
the state and nothing is assumed about the answers. -/
class Layer (σ : Type) where
  /-- The size of the live surface, if one is attached. -/
  nativeSize : σ → Option Size × σ
  /-- The size that the window last had. -/
  logicalSize : σ → Size × σ
  nativeFormat : σ → Option PixelFormat × σ
  /-- The display that the window is on. -/
  display : σ → Option Display × σ
  setPixelFormat : PixelFormat → σ → σ
  setResolution : Resolution → σ → σ
  /-- Tells the window that its size may have changed. -/
  sendResize : Size → σ → σ

/-- A call on the window and its answer. -/
inductive Call where
  | nativeSize (answer : Option Size)
  | logicalSize (answer : Size)
  | nativeFormat (answer : Option PixelFormat)
  | display (answer : Option Display)
  | setPixelFormat (format : PixelFormat)
  | setResolution (resolution : Resolution)
  | sendResize (size : Size)
  deriving DecidableEq

end AppLifecycle.Window
