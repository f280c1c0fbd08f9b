import AppLifecycle.Event
import AppLifecycle.Json.Record
import AppLifecycle.Json.Write
import AppLifecycle.Lifecycle.Phase

/-! Events and phases as JSON: their keys. -/
namespace AppLifecycle

open Json

namespace Event

/-- The names of the events in data. -/
def variants : List (String × Event) := all.map fun event => (event.key, event)

def read : Reader Event := readOneOf variants

def write (event : Event) : List Char := writeName event.key

end Event

namespace Phase

/-- The names of the phases in data. -/
def variants : List (String × Phase) := all.map fun phase => (phase.key, phase)

def read : Reader Phase := readOneOf variants

def write (phase : Phase) : List Char := writeName phase.key

end Phase

end AppLifecycle
