import AppLifecycle.Trace.Notice
import AppLifecycle.TextInput
import AppLifecycle.Window

/-! The trace of a run: everything the lifecycle does, in one order. A call on a
collaborator stands in it together with the answer, so a statement about a run is a
statement about its trace, and the pushed events, the notices and the calls on each
collaborator are views of the same list. -/
namespace AppLifecycle

/-- Who pushed an event. -/
inductive Origin where
  /-- The lifecycle, for a transition. -/
  | lifecycle
  /-- The keeper of the context, for a reset. -/
  | keeper
  /-- Anyone outside the lifecycle. -/
  | app
  deriving DecidableEq

/-- One of the two signals of a host. -/
inductive SignalKind where
  | pause
  | resume
  deriving DecidableEq

/-- The three turning points of a background cycle. -/
inductive Milestone where
  /-- The pause is final: the app has seen that it is in the background. -/
  | committed
  /-- The pause is carried out: the context is detached, audio silenced. -/
  | carriedOut
  /-- The app is back in the foreground. -/
  | ended
  deriving DecidableEq

/-- What one step of the app or the host answers. -/
inductive Reply where
  | done
  | took (raised : Bool)
  | polled (event : Option Event)
  | drained (events : List Event)
  deriving DecidableEq

/-- One thing that happened. -/
inductive Entry where
  | graphics (call : Graphics.Call)
  | window (call : Window.Call)
  /-- A call on the output registered at a position of the list of outputs. -/
  | audio (position : Nat) (call : Audio.Call)
  | textInput (call : TextInput.Call)
  | pushed (origin : Origin) (event : Event)
  /-- The app removed an event from the queue. -/
  | removed (event : Event)
  | raised (signal : SignalKind)
  /-- The lifecycle used up one count of a signal. -/
  | took (signal : SignalKind)
  | milestone (milestone : Milestone)
  /-- The main loop is suspended until a resume is raised. -/
  | suspended
  /-- The host ended a suspension; its steps until then answered this. -/
  | released (replies : List Reply)
  | notice (notice : Notice)

namespace Trace

/-- The notices, oldest first. -/
def notices (trace : List Entry) : List Notice :=
  trace.filterMap fun
    | .notice notice => some notice
    | _ => none

/-- The notices at the given level or above. -/
def noticesFrom (least : Level) (trace : List Entry) : List Notice :=
  (notices trace).filter fun notice => least.rank ≤ notice.level.rank

/-- The pushed events with their origins, oldest first. -/
def pushes (trace : List Entry) : List (Origin × Event) :=
  trace.filterMap fun
    | .pushed origin event => some (origin, event)
    | _ => none

/-- The events that the app removed, oldest first. -/
def removals (trace : List Entry) : List Event :=
  trace.filterMap fun
    | .removed event => some event
    | _ => none

/-- The replies of the host, one list for every suspension. -/
def suspensions (trace : List Entry) : List (List Reply) :=
  trace.filterMap fun
    | .released replies => some replies
    | _ => none

theorem notices_append (before after : List Entry) :
    notices (before ++ after) = notices before ++ notices after :=
  List.filterMap_append

theorem pushes_append (before after : List Entry) :
    pushes (before ++ after) = pushes before ++ pushes after :=
  List.filterMap_append

theorem removals_append (before after : List Entry) :
    removals (before ++ after) = removals before ++ removals after :=
  List.filterMap_append

end Trace

end AppLifecycle
