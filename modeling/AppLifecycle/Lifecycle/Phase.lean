/-! Where an app stands between foreground and background. -/
namespace AppLifecycle

/-- The phase of the background cycle. -/
inductive Phase where
  /-- In the foreground, rendering. -/
  | running
  /-- A pause was taken, but the app has not yet seen that it is in the background. -/
  | pausing
  /-- In the background; resources are released or about to be. -/
  | paused
  deriving DecidableEq, Inhabited

namespace Phase

/-- The word shown to people. -/
def label : Phase → String
  | running => "running"
  | pausing => "pausing"
  | paused => "paused"

/-- The spelling of the phase in data. -/
def key : Phase → String
  | running => "running"
  | pausing => "pausing_pending"
  | paused => "paused"

/-- Every phase once, in the order in which they are listed to a reader. -/
def all : List Phase := [running, pausing, paused]

def isPaused : Phase → Bool
  | paused => true
  | _ => false

theorem isPaused_iff (phase : Phase) : phase.isPaused = true ↔ phase = paused := by
  cases phase <;> decide

end Phase

end AppLifecycle
