/-! How a lifecycle is set up. -/
namespace AppLifecycle

/-- What the main loop does while the app is in the background. -/
inductive LoopMode where
  /-- The loop is suspended until the app returns. -/
  | suspending
  /-- The loop keeps ticking. -/
  | ticking
  deriving DecidableEq, Inhabited

namespace LoopMode

/-- The spelling of the mode in data. -/
def key : LoopMode → String
  | suspending => "blocking"
  | ticking => "non_blocking"

/-- Every mode once, in the order in which they are listed to a reader. -/
def all : List LoopMode := [suspending, ticking]

end LoopMode

/-- The choices of the embedding program. -/
structure Config where
  mode : LoopMode := .suspending
  /-- Whether a loop that keeps ticking silences audio in the background. A
  suspended loop always does. -/
  pauseAudio : Bool := true
  /-- Whether the rendering context belongs to the embedder and is left alone. -/
  contextExternal : Bool := false
  deriving DecidableEq, Inhabited

namespace Config

/-- The set-up for a loop that is suspended in the background. -/
def suspending : Config := {}

/-- The set-up for a loop that keeps ticking in the background. -/
def ticking : Config := { mode := .ticking }

end Config

end AppLifecycle
