import AppLifecycle.Graphics

/-! A rendering layer for rehearsals: what it refuses and which error states it reports
is laid down beforehand, and may be changed between the steps of a run. -/
namespace AppLifecycle.Rehearsal

/-- The state of a rehearsed rendering layer. -/
structure ScriptedGraphics where
  current : Option Graphics.Context := none
  /-- The context that is made next. -/
  next : Graphics.Context := ⟨100⟩
  /-- Contexts that can no longer be made current. -/
  stale : List Graphics.Context := []
  refusesDetach : Bool := false
  refusesCreate : Bool := false
  swapInterval : Int32 := 0
  /-- Swap intervals that are refused. -/
  unsupported : List Int32 := []
  /-- The error states still to be reported, the next one first. -/
  statuses : List Graphics.Status := []

namespace ScriptedGraphics

/-- Makes a context current unless it is stale, and detaches unless that is refused. -/
def makeCurrent (context : Option Graphics.Context) (graphics : ScriptedGraphics) :
    Except Graphics.Error Unit × ScriptedGraphics :=
  match context with
  | some wanted =>
    if wanted ∈ graphics.stale then
      (.error (.makeCurrent ("context " ++ toString wanted.handle ++ " lost")), graphics)
    else (.ok (), { graphics with current := some wanted })
  | none =>
    if graphics.refusesDetach then (.error (.makeCurrent "detach refused"), graphics)
    else (.ok (), { graphics with current := none })

/-- Hands out the next context; handles start again from zero after the last one. -/
def createContext (graphics : ScriptedGraphics) :
    Except Graphics.Error Graphics.Context × ScriptedGraphics :=
  if graphics.refusesCreate then (.error (.createContext "no configs"), graphics)
  else (.ok graphics.next, { graphics with next := ⟨graphics.next.handle + 1⟩ })

/-- Sets the interval unless it is refused. -/
def setSwapInterval (interval : Int32) (graphics : ScriptedGraphics) :
    Except Graphics.Error Unit × ScriptedGraphics :=
  if interval ∈ graphics.unsupported then (.error (.swapInterval interval), graphics)
  else (.ok (), { graphics with swapInterval := interval })

/-- Reports the next error state, and success when none is left. -/
def lastStatus (graphics : ScriptedGraphics) : Graphics.Status × ScriptedGraphics :=
  match graphics.statuses with
  | [] => (.success, graphics)
  | status :: rest => (status, { graphics with statuses := rest })

instance : Graphics.Layer ScriptedGraphics where
  currentContext graphics := (graphics.current, graphics)
  makeCurrent := makeCurrent
  createContext := createContext
  swapInterval graphics := (graphics.swapInterval, graphics)
  setSwapInterval := setSwapInterval
  lastStatus := lastStatus

end ScriptedGraphics

end AppLifecycle.Rehearsal
