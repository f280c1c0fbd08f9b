import AppLifecycle.Event.Queue
import AppLifecycle.Trace.Traced

/-! Events on their way through the queue. Every push and every removal leaves an
entry in the trace, so the trace knows what the app was told and what it has seen. -/
namespace AppLifecycle.EventQueue

open Traced

/-- Pushes an event on behalf of someone. A queue that keeps nothing says nothing. -/
def send (origin : Origin) (event : Event) : Traced EventQueue Unit := do
  tell (.pushed origin event)
  let keeps ← read keeps
  whenever keeps (note (.eventQueued event))
  update fun queue => queue.push event

/-- The app takes the oldest event. -/
def receive : Traced EventQueue (Option Event) := fun queue =>
  let (event, rest) := queue.poll
  ⟨event, rest, event.toList.map .removed⟩

/-- The app takes every event. -/
def receiveAll : Traced EventQueue (List Event) := fun queue =>
  let (events, rest) := queue.drain
  ⟨events, rest, events.map .removed⟩

@[simp] theorem state_send (origin : Origin) (event : Event) (queue : EventQueue) :
    ((send origin event).run queue).state = queue.push event := by
  cases queue <;> rfl

theorem pushes_send (origin : Origin) (event : Event) (queue : EventQueue) :
    Trace.pushes ((send origin event).run queue).trace = [(origin, event)] := by
  cases queue <;> rfl

end AppLifecycle.EventQueue
