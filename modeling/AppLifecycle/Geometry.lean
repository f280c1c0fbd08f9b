import AppLifecycle.Decimal.Binary

/-! The size and rate a window is driven at. The memo of what was last applied is
compared by surface size and rate; the device follows the surface. -/
namespace AppLifecycle

/-- What a window is told when its size or rate changes. -/
structure Resolution where
  surfaceWidth : Int32
  surfaceHeight : Int32
  deviceWidth : Int32
  deviceHeight : Int32
  /-- The rate as a single precision number. -/
  refreshRate : Decimal.Binary
  deriving DecidableEq

/-- The geometry last applied to the window; all zero before the first time. -/
structure Geometry where
  surfaceWidth : Int32 := 0
  surfaceHeight : Int32 := 0
  deviceWidth : Int32 := 0
  deviceHeight : Int32 := 0
  refreshRate : Int32 := 0
  deriving DecidableEq, Inhabited

namespace Geometry

/-- A geometry whose device has the size of its surface. -/
def ofSurface (width height refreshRate : Int32) : Geometry :=
  ⟨width, height, width, height, refreshRate⟩

/-- Whether applying `next` would change anything that the window cares about. -/
def changesTo (geometry next : Geometry) : Bool :=
  geometry.surfaceWidth != next.surfaceWidth ||
    geometry.surfaceHeight != next.surfaceHeight ||
    geometry.refreshRate != next.refreshRate

/-- What the window is told to bring the geometry about. -/
def resolution (geometry : Geometry) : Resolution where
  surfaceWidth := geometry.surfaceWidth
  surfaceHeight := geometry.surfaceHeight
  deviceWidth := geometry.deviceWidth
  deviceHeight := geometry.deviceHeight
  refreshRate := Decimal.Binary.ofInt .single geometry.refreshRate.toInt

end Geometry

end AppLifecycle
