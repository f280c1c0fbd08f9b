import AppLifecycle.Proofs.History

/-! Events on their way to the app, with who pushed them. An event alone does not tell a reset
that the keeper announced from one that the app pushed itself, but the trace does: a queue
hands out first what came first, so what the app has taken is the front of all that came,
and what is still queued is the rest. -/
namespace AppLifecycle

open Traced

variable {γ σ α τ : Type}

namespace Trace

variable (queued : List Event) (trace : List Entry)

/-- Everything that came into a queue that held some events at first, with who pushed it. What it
held at first counts as pushed by the app. -/
def mail : List (Origin × Event) := queued.map (Prod.mk .app) ++ pushes trace

/-- What the app has taken of it. -/
def seen : List (Origin × Event) := (mail queued trace).take (removals trace).length

/-- What the app has not taken yet. -/
def inbox : List (Origin × Event) := (mail queued trace).drop (removals trace).length

/-- Mail without the resets that the keeper announced. -/
def withoutResets (mail : List (Origin × Event)) : List (Origin × Event) :=
  mail.filter fun letter => letter != (.keeper, .renderDeviceReset)

theorem mail_append (later : List Entry) :
    mail queued (trace ++ later) = mail queued trace ++ pushes later := by
  rw [mail, pushes_append, ← List.append_assoc]
  rfl

@[simp] theorem pushes_removed (events : List Event) : pushes (events.map .removed) = [] := by
  simp [pushes, List.filterMap_map]

@[simp] theorem removals_removed (events : List Event) :
    removals (events.map .removed) = events :=
  List.filterMap_map.trans List.filterMap_some

theorem withoutResets_append (before after : List (Origin × Event)) :
    withoutResets (before ++ after) = withoutResets before ++ withoutResets after :=
  List.filter_append ..

/-- To leave resets out does not change how often any other event is there. -/
theorem count_withoutResets {event : Event} (other : event ≠ .renderDeviceReset)
    (mail : List (Origin × Event)) :
    ((withoutResets mail).map Prod.snd).count event = (mail.map Prod.snd).count event := by
  induction mail with
  | nil => rfl
  | cons letter rest ih =>
    obtain ⟨origin, first⟩ := letter
    by_cases reset : (origin, first) = (.keeper, .renderDeviceReset)
    · obtain ⟨rfl, rfl⟩ := Prod.mk.inj reset
      simpa [withoutResets, List.count_cons, other.symm] using ih
    · have kept : withoutResets ((origin, first) :: rest) =
          (origin, first) :: withoutResets rest := by
        simp [withoutResets, reset]
      simp [kept, List.count_cons, ih]

end Trace

/-- A queue that held some events at first has handed out the front of its mail and holds the
rest. -/
structure Delivered (queued : List Event) (trace : List Entry) (queue : EventQueue) : Prop where
  seen : Trace.removals trace = (Trace.seen queued trace).map Prod.snd
  inbox : queue = .storing ((Trace.inbox queued trace).map Prod.snd)

namespace Delivered

variable {queued : List Event} {past later : List Entry} {queue : EventQueue}

theorem nil (queued : List Event) : Delivered queued [] (.storing queued) := by
  constructor <;>
    simp [Trace.seen, Trace.inbox, Trace.mail, Trace.removals, Trace.pushes, Function.comp_def]

theorem length_le (delivered : Delivered queued past queue) :
    (Trace.removals past).length ≤ (Trace.mail queued past).length := by
  have taken := congrArg List.length delivered.seen
  simp only [Trace.seen, List.length_map, List.length_take] at taken
  omega

section Posted

variable (delivered : Delivered queued past queue) (removed : Trace.removals later = [])

include delivered removed

/-- New mail is not seen at once. -/
theorem seen_of_posted : Trace.seen queued (past ++ later) = Trace.seen queued past := by
  rw [Trace.seen, Trace.mail_append, Trace.removals_append, removed, List.append_nil,
    List.take_append_of_le_length delivered.length_le]
  rfl

theorem inbox_of_posted :
    Trace.inbox queued (past ++ later) = Trace.inbox queued past ++ Trace.pushes later := by
  rw [Trace.inbox, Trace.mail_append, Trace.removals_append, removed, List.append_nil,
    List.drop_append_of_le_length delivered.length_le]
  rfl

theorem posted :
    Delivered queued (past ++ later) (queue.pushAll ((Trace.pushes later).map Prod.snd)) where
  seen := by
    rw [delivered.seen_of_posted removed, Trace.removals_append, removed, List.append_nil]
    exact delivered.seen
  inbox := by
    rw [delivered.inbox_of_posted removed, delivered.inbox, EventQueue.pushAll_storing,
      List.map_append]

end Posted

section Drained

variable {events : List Event} (delivered : Delivered queued past (.storing events))

include delivered

/-- Once the queue is drained as much is removed as ever came. -/
private theorem length_of_drained :
    (Trace.removals (past ++ events.map .removed)).length = (Trace.mail queued past).length := by
  have left := congrArg List.length (EventQueue.storing.inj delivered.inbox)
  have within := delivered.length_le
  simp only [Trace.inbox, List.length_map, List.length_drop] at left
  rw [Trace.removals_append, Trace.removals_removed, List.length_append, left]
  omega

theorem inbox_of_drained : Trace.inbox queued (past ++ events.map .removed) = [] := by
  rw [Trace.inbox, delivered.length_of_drained, Trace.mail_append, Trace.pushes_removed,
    List.append_nil, List.drop_length]

theorem seen_of_drained :
    Trace.seen queued (past ++ events.map .removed) =
      Trace.seen queued past ++ Trace.inbox queued past := by
  rw [Trace.seen, delivered.length_of_drained, Trace.mail_append, Trace.pushes_removed,
    List.append_nil, List.take_length]
  exact (List.take_append_drop ..).symm

theorem drained : Delivered queued (past ++ events.map .removed) (.storing []) where
  seen := by
    rw [delivered.seen_of_drained, Trace.removals_append, Trace.removals_removed, delivered.seen,
      EventQueue.storing.inj delivered.inbox, List.map_append]
  inbox := by
    rw [delivered.inbox_of_drained]
    rfl

end Drained

end Delivered

/-- The entries that tell of mail. -/
def Entry.isMail : Entry → Bool
  | .pushed _ _ | .removed _ => true
  | _ => false

namespace Trace

/-- The entries of mail that is pushed. -/
def posting (letters : List (Origin × Event)) : List Entry :=
  letters.map fun letter => .pushed letter.1 letter.2

variable {letters : List (Origin × Event)} {trace : List Entry}
  (posts : trace.filter Entry.isMail = posting letters)

include posts

theorem pushes_of_posting : pushes trace = letters := by
  have mailed : pushes (trace.filter Entry.isMail) = pushes trace :=
    filterMap_filter_eq (fun entry other => by cases entry <;> first | rfl | cases other) trace
  rw [← mailed, posts]
  exact List.filterMap_map.trans List.filterMap_some

theorem removals_of_posting : removals trace = [] := by
  have mailed : removals (trace.filter Entry.isMail) = removals trace :=
    filterMap_filter_eq (fun entry other => by cases entry <;> first | rfl | cases other) trace
  rw [← mailed, posts]
  simp [removals, posting]

end Trace

namespace Lifecycle

variable {β : Type}

/-- What an action does to the queue is to push some mail, which is known but for resets. -/
def Posts (known : List (Origin × Event)) (action : Traced (Lifecycle γ σ α τ) β) : Prop :=
  ∀ start, ∃ letters, Trace.withoutResets letters = known ∧
    (action.run start).state.keeper.events =
      start.keeper.events.pushAll (letters.map Prod.snd) ∧
    (action.run start).trace.filter Entry.isMail = Trace.posting letters

/-- The action leaves the queue alone. -/
abbrev LeavesMail (action : Traced (Lifecycle γ σ α τ) β) : Prop :=
  Spares (fun now : Lifecycle γ σ α τ => now.keeper.events) Entry.isMail action

theorem posts_of_leavesMail {action : Traced (Lifecycle γ σ α τ) β} (leaves : LeavesMail action) :
    Posts [] action := fun start => ⟨[], rfl, leaves start⟩

theorem posts_send (origin : Origin) (event : Event) :
    Posts (Trace.withoutResets [(origin, event)])
      (onEvents (EventQueue.send origin event) : Traced (Lifecycle γ σ α τ) Unit) := by
  intro start
  refine ⟨[(origin, event)], rfl, EventQueue.state_send origin event start.keeper.events, ?_⟩
  rw [run_onEvents]
  cases start.keeper.events <;> rfl

/-- To drain a storing queue is to remove what it holds. -/
theorem run_drain {start : Lifecycle γ σ α τ} {events : List Event}
    (storing : start.keeper.events = .storing events) :
    (onEvents EventQueue.receiveAll).run start =
      ⟨events, { start with keeper := { start.keeper with events := .storing [] } },
        events.map .removed⟩ := by
  rw [run_onEvents, storing]
  rfl

/-- All that a return can post is a reset. -/
theorem posts_restoreContext [Graphics.Layer γ] [Window.Layer σ] :
    Posts [] (restoreContext : Traced (Lifecycle γ σ α τ) Unit) := by
  intro start
  obtain ⟨reset, -, standing, turns⟩ := restoreContext_turns start
  have mailed : (restoreContext.run start).trace.filter Entry.isMail =
      ((restoreContext.run start).trace.filter Entry.isTurn).filter Entry.isMail := by
    rw [List.filter_filter]
    refine congrArg (List.filter · _) (funext fun entry => ?_)
    cases entry <;> rfl
  refine ⟨if reset then [(.keeper, .renderDeviceReset)] else [], ?_, ?_, ?_⟩
  · cases reset <;> rfl
  · have events := congrArg Standing.events standing
    cases reset <;> exact events
  · rw [mailed, turns]
    cases reset <;> rfl

end Lifecycle

end AppLifecycle
