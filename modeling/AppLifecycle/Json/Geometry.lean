import AppLifecycle.Json.Record
import AppLifecycle.Json.Write
import AppLifecycle.Window

/-! Geometries, resolutions and pixel formats as JSON. -/
namespace AppLifecycle

open Json

/-- The fields of a geometry that have been read so far. -/
structure GeometryDraft where
  surfaceWidth : Option Int32 := none
  surfaceHeight : Option Int32 := none
  deviceWidth : Option Int32 := none
  deviceHeight : Option Int32 := none
  refreshRate : Option Int32 := none
  deriving DecidableEq

/-- The geometry with zero in place of what was not read. -/
def GeometryDraft.toGeometry (draft : GeometryDraft) : Geometry where
  surfaceWidth := draft.surfaceWidth.getD 0
  surfaceHeight := draft.surfaceHeight.getD 0
  deviceWidth := draft.deviceWidth.getD 0
  deviceHeight := draft.deviceHeight.getD 0
  refreshRate := draft.refreshRate.getD 0

namespace Geometry

/-- The shape of a geometry. -/
def shape : Record GeometryDraft where
  name := "GeometryMemo"
  blank := {}
  fields :=
    [{ name := "surface_width", required := true, isFilled := fun draft => draft.surfaceWidth.isSome
       read := readInt32.map fun value draft => { draft with surfaceWidth := some value } },
     { name := "surface_height", required := true
       isFilled := fun draft => draft.surfaceHeight.isSome
       read := readInt32.map fun value draft => { draft with surfaceHeight := some value } },
     { name := "device_width", required := true, isFilled := fun draft => draft.deviceWidth.isSome
       read := readInt32.map fun value draft => { draft with deviceWidth := some value } },
     { name := "device_height", required := true, isFilled := fun draft => draft.deviceHeight.isSome
       read := readInt32.map fun value draft => { draft with deviceHeight := some value } },
     { name := "refresh_rate_hz", required := true
       isFilled := fun draft => draft.refreshRate.isSome
       read := readInt32.map fun value draft => { draft with refreshRate := some value } }]

def read : Reader Geometry := shape.read.map GeometryDraft.toGeometry

def write (geometry : Geometry) (layout : Layout) : List Char :=
  writeRecord layout
    [("surface_width", writeInt32 geometry.surfaceWidth),
      ("surface_height", writeInt32 geometry.surfaceHeight),
      ("device_width", writeInt32 geometry.deviceWidth),
      ("device_height", writeInt32 geometry.deviceHeight),
      ("refresh_rate_hz", writeInt32 geometry.refreshRate)]

end Geometry

/-- The fields of a resolution that have been read so far. -/
structure ResolutionDraft where
  surfaceWidth : Option Int32 := none
  surfaceHeight : Option Int32 := none
  deviceWidth : Option Int32 := none
  deviceHeight : Option Int32 := none
  refreshRate : Option Decimal.Binary := none
  deriving DecidableEq

/-- The resolution with zero in place of what was not read. -/
def ResolutionDraft.toResolution (draft : ResolutionDraft) : Resolution where
  surfaceWidth := draft.surfaceWidth.getD 0
  surfaceHeight := draft.surfaceHeight.getD 0
  deviceWidth := draft.deviceWidth.getD 0
  deviceHeight := draft.deviceHeight.getD 0
  refreshRate := draft.refreshRate.getD (.ofInt .single 0)

namespace Resolution

/-- The shape of a resolution. -/
def shape : Record ResolutionDraft where
  name := "ScreenResolution"
  blank := {}
  fields :=
    [{ name := "surface_width", required := true, isFilled := fun draft => draft.surfaceWidth.isSome
       read := readInt32.map fun value draft => { draft with surfaceWidth := some value } },
     { name := "surface_height", required := true
       isFilled := fun draft => draft.surfaceHeight.isSome
       read := readInt32.map fun value draft => { draft with surfaceHeight := some value } },
     { name := "device_width", required := true, isFilled := fun draft => draft.deviceWidth.isSome
       read := readInt32.map fun value draft => { draft with deviceWidth := some value } },
     { name := "device_height", required := true, isFilled := fun draft => draft.deviceHeight.isSome
       read := readInt32.map fun value draft => { draft with deviceHeight := some value } },
     { name := "refresh_rate", required := true, isFilled := fun draft => draft.refreshRate.isSome
       read := readSingle.map fun value draft => { draft with refreshRate := some value } }]

def read : Reader Resolution := shape.read.map ResolutionDraft.toResolution

def write (resolution : Resolution) (layout : Layout) : List Char :=
  writeRecord layout
    [("surface_width", writeInt32 resolution.surfaceWidth),
      ("surface_height", writeInt32 resolution.surfaceHeight),
      ("device_width", writeInt32 resolution.deviceWidth),
      ("device_height", writeInt32 resolution.deviceHeight),
      ("refresh_rate", writeSingle resolution.refreshRate)]

end Resolution

namespace Window.PixelFormat

def read : Reader PixelFormat := readInt32.map PixelFormat.mk

def write (format : PixelFormat) : List Char := writeInt32 format.code

end Window.PixelFormat

end AppLifecycle
