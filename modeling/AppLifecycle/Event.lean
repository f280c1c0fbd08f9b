/-! The events an app receives while it moves between foreground and background.
An event has two spellings: the name shown to people and written to records, and
the key that stands for it in data. -/
namespace AppLifecycle

/-- What the app is told. -/
inductive Event where
  /-- Backgrounding is about to happen; rendering should stop soon. -/
  | willEnterBackground
  /-- The app is in the background; its context is about to be detached. -/
  | didEnterBackground
  /-- The app is about to return to the foreground. -/
  | willEnterForeground
  /-- The app is in the foreground again. -/
  | didEnterForeground
  | windowMinimized
  | windowRestored
  /-- The rendering context was lost and its resources must be rebuilt. -/
  | renderDeviceReset
  /-- The app was asked to quit. -/
  | quit
  deriving DecidableEq

namespace Event

/-- Every event once, in the order in which they are listed to a reader. -/
def all : List Event :=
  [willEnterBackground, didEnterBackground, willEnterForeground, didEnterForeground,
    windowMinimized, windowRestored, renderDeviceReset, quit]

/-- The name shown to people: the family of the event, a colon and what happened. -/
def name : Event → String
  | willEnterBackground => "app:will_enter_background"
  | didEnterBackground => "app:did_enter_background"
  | willEnterForeground => "app:will_enter_foreground"
  | didEnterForeground => "app:did_enter_foreground"
  | windowMinimized => "window:minimized"
  | windowRestored => "window:restored"
  | renderDeviceReset => "render:device_reset"
  | quit => "app:quit"

/-- The spelling of the event in data. -/
def key : Event → String
  | willEnterBackground => "will_enter_background"
  | didEnterBackground => "did_enter_background"
  | willEnterForeground => "will_enter_foreground"
  | didEnterForeground => "did_enter_foreground"
  | windowMinimized => "window_minimized"
  | windowRestored => "window_restored"
  | renderDeviceReset => "render_device_reset"
  | quit => "quit"

/-- Whether the event marks a transition of the app itself. A request to quit
carries the app's family name but is no transition. -/
def isTransition : Event → Bool
  | willEnterBackground | didEnterBackground | willEnterForeground | didEnterForeground => true
  | _ => false

/-- What the app is told when a pause is taken. -/
def backgroundGroup : List Event := [windowMinimized, willEnterBackground, didEnterBackground]

/-- What the app is told when a pause ends. -/
def foregroundGroup : List Event := [willEnterForeground, didEnterForeground, windowRestored]

theorem mem_all (event : Event) : event ∈ all := by
  cases event <;> decide

end Event

end AppLifecycle
