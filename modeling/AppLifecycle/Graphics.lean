/-! The rendering layer as the lifecycle sees it: an environment that answers six
questions and may change with every answer. Nothing is assumed about the answers. -/
namespace AppLifecycle.Graphics

/-- Names a rendering context; only the rendering layer knows what is behind it. -/
structure Context where
  handle : UInt64
  deriving DecidableEq

/-- What went wrong in the rendering layer. -/
inductive Error where
  | makeCurrent (reason : String)
  | createContext (reason : String)
  | swapInterval (interval : Int32)
  deriving DecidableEq

/-- The words in which a failure is reported. -/
def Error.message : Error → String
  | makeCurrent reason => "failed to make context current: " ++ reason
  | createContext reason => "failed to create context: " ++ reason
  | swapInterval interval => "swap interval " ++ toString interval.toInt ++ " not supported"

/-- The error state that the last rendering call left behind. -/
inductive Status where
  | success
  /-- An allocation failed. -/
  | badAlloc
  /-- Context and surface do not fit together. -/
  | badMatch
  | contextLost
  | other (code : Int32)
  deriving DecidableEq

namespace Status

/-- Whether resources must be rebuilt even if the context looks usable. -/
def needsRebuild : Status → Bool
  | badAlloc | badMatch => true
  | _ => false

/-- The word under which a status is recorded. -/
def tag : Status → String
  | success => "Success"
  | badAlloc => "BadAlloc"
  | badMatch => "BadMatch"
  | contextLost => "ContextLost"
  | other code => "Other(" ++ toString code.toInt ++ ")"

end Status

/-- A rendering layer with states `γ`: each call answers and moves on to a next
state, so that answers may change at any time. -/
class Layer (γ : Type) where
  /-- The context that is current, if any. -/
  currentContext : γ → Option Context × γ
  /-- Makes a context current, or detaches the current one. -/
  makeCurrent : Option Context → γ → Except Error Unit × γ
  /-- Makes a fresh context for the window. -/
  createContext : γ → Except Error Context × γ
  swapInterval : γ → Int32 × γ
  setSwapInterval : Int32 → γ → Except Error Unit × γ
  /-- The error state left by the last call. -/
  lastStatus : γ → Status × γ

/-- A call on the rendering layer and its answer. -/
inductive Call where
  | currentContext (answer : Option Context)
  | makeCurrent (context : Option Context) (answer : Except Error Unit)
  | createContext (answer : Except Error Context)
  | swapInterval (answer : Int32)
  | setSwapInterval (interval : Int32) (answer : Except Error Unit)
  | lastStatus (answer : Status)

end AppLifecycle.Graphics
