import AppLifecycle.Event

/-! The queue between the lifecycle and the app. A storing queue keeps events in
the order they came; a discarding queue is for apps that do not listen. Both are
read through `toList`, and every operation is described by what it does to it. -/
namespace AppLifecycle

/-- A first-in first-out queue of events, or one that keeps nothing. -/
inductive EventQueue where
  | storing (events : List Event)
  | discarding
  deriving DecidableEq

namespace EventQueue

/-- A storing queue that holds nothing yet. -/
def empty : EventQueue := storing []

/-- The queued events, oldest first. -/
def toList : EventQueue → List Event
  | storing events => events
  | discarding => []

/-- Whether pushed events are kept. -/
def keeps : EventQueue → Bool
  | storing _ => true
  | discarding => false

/-- Appends an event at the back. -/
def push (queue : EventQueue) (event : Event) : EventQueue :=
  match queue with
  | storing events => storing (events ++ [event])
  | discarding => discarding

/-- How many queued events equal the given one. -/
def count (queue : EventQueue) (event : Event) : Nat := queue.toList.count event

/-- Whether at least one such event is queued. -/
def has (queue : EventQueue) (event : Event) : Bool := queue.count event > 0

def length (queue : EventQueue) : Nat := queue.toList.length

def isEmpty (queue : EventQueue) : Bool := queue.toList.isEmpty

/-- Removes the oldest event and returns it. -/
def poll : EventQueue → Option Event × EventQueue
  | storing (event :: rest) => (some event, storing rest)
  | queue => (none, queue)

/-- Removes every event and returns them, oldest first. -/
def drain : EventQueue → List Event × EventQueue
  | storing events => (events, storing [])
  | discarding => ([], discarding)

@[simp] theorem toList_push_storing (events : List Event) (event : Event) :
    ((storing events).push event).toList = events ++ [event] := rfl

theorem keeps_push (queue : EventQueue) (event : Event) :
    (queue.push event).keeps = queue.keeps := by
  cases queue <;> rfl

theorem toList_push (queue : EventQueue) (event : Event) (keeps : queue.keeps = true) :
    (queue.push event).toList = queue.toList ++ [event] := by
  cases queue with
  | storing events => rfl
  | discarding => cases keeps

/-- Polling splits the queue: what it returns, followed by what it leaves, is
what was queued. -/
theorem poll_append (queue : EventQueue) :
    queue.poll.1.toList ++ queue.poll.2.toList = queue.toList := by
  cases queue with
  | storing events => cases events <;> rfl
  | discarding => rfl

theorem drain_toList (queue : EventQueue) :
    queue.drain.1 = queue.toList ∧ queue.drain.2.toList = [] := by
  cases queue <;> exact ⟨rfl, rfl⟩

theorem has_iff (queue : EventQueue) (event : Event) :
    queue.has event = true ↔ event ∈ queue.toList := by
  simp [has, count, List.count_pos_iff]

end EventQueue

end AppLifecycle
