import AppLifecycle.Lifecycle.Config
import AppLifecycle.Json.Record
import AppLifecycle.Json.Write

/-! The configuration as JSON. Every field may be left out and then keeps its default. -/
namespace AppLifecycle

open Json

namespace LoopMode

/-- The names of the modes in data. -/
def variants : List (String × LoopMode) := all.map fun mode => (mode.key, mode)

def read : Reader LoopMode := readOneOf variants

def write (mode : LoopMode) : List Char := writeName mode.key

end LoopMode

/-- The fields of a configuration that have been read so far. -/
structure ConfigDraft where
  mode : Option LoopMode := none
  pauseAudio : Option Bool := none
  contextExternal : Option Bool := none
  deriving DecidableEq

/-- The configuration in which everything that was not read has its default. -/
def ConfigDraft.toConfig (draft : ConfigDraft) : Config where
  mode := draft.mode.getD Config.suspending.mode
  pauseAudio := draft.pauseAudio.getD Config.suspending.pauseAudio
  contextExternal := draft.contextExternal.getD Config.suspending.contextExternal

namespace Config

/-- The shape of a configuration. -/
def shape : Record ConfigDraft where
  name := "LifecycleConfig"
  blank := {}
  fields :=
    [{ name := "mode", required := false, isFilled := fun draft => draft.mode.isSome
       read := LoopMode.read.map fun mode draft => { draft with mode := some mode } },
     { name := "pause_audio", required := false, isFilled := fun draft => draft.pauseAudio.isSome
       read := readBoolean.map fun flag draft => { draft with pauseAudio := some flag } },
     { name := "context_external", required := false
       isFilled := fun draft => draft.contextExternal.isSome
       read := readBoolean.map fun flag draft => { draft with contextExternal := some flag } }]

def read : Reader Config := shape.read.map ConfigDraft.toConfig

def write (config : Config) (layout : Layout) : List Char :=
  writeRecord layout
    [("mode", config.mode.write), ("pause_audio", writeBoolean config.pauseAudio),
      ("context_external", writeBoolean config.contextExternal)]

/-- Reads a configuration from a text. -/
def ofJson? (text : String) : Except Fault Config := readText read text.toList

/-- The words in which a refused configuration is reported. -/
def refusal (fault : Fault) (text : String) : String :=
  "invalid lifecycle config: " ++ fault.message text.toList

end Config

end AppLifecycle
