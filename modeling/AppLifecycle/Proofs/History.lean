import AppLifecycle.Proofs.StageTurns

/-! What the trace of a run tells about the queue, the signals and the milestones. Every
view of a trace that only turns show in can be read off the turns, so a fact about the
turns up to any moment is a fact about the run up to that moment. -/
namespace AppLifecycle

variable {γ σ α τ : Type}

theorem Phase.ne_running_iff (phase : Phase) :
    phase ≠ .running ↔ phase = .pausing ∨ phase = .paused := by
  cases phase <;> decide

def Entry.isNotice : Entry → Bool
  | .notice _ => true
  | _ => false

namespace Trace

/-- The signals that the host raised, oldest first. -/
def raises (trace : List Entry) : List SignalKind :=
  trace.filterMap fun
    | .raised kind => some kind
    | _ => none

/-- The signals that the lifecycle used up, oldest first. -/
def takes (trace : List Entry) : List SignalKind :=
  trace.filterMap fun
    | .took kind => some kind
    | _ => none

/-- The milestones, oldest first. -/
def milestones (trace : List Entry) : List Milestone :=
  trace.filterMap fun
    | .milestone milestone => some milestone
    | _ => none

/-- The events that the lifecycle itself pushed, oldest first. -/
def announcements (trace : List Entry) : List Event :=
  trace.filterMap fun
    | .pushed .lifecycle event => some event
    | _ => none

/-- The events that anyone pushed, oldest first. -/
def arrivals (trace : List Entry) : List Event := (pushes trace).map Prod.snd

@[simp] theorem raises_append (before after : List Entry) :
    raises (before ++ after) = raises before ++ raises after := List.filterMap_append

@[simp] theorem takes_append (before after : List Entry) :
    takes (before ++ after) = takes before ++ takes after := List.filterMap_append

@[simp] theorem milestones_append (before after : List Entry) :
    milestones (before ++ after) = milestones before ++ milestones after := List.filterMap_append

@[simp] theorem announcements_append (before after : List Entry) :
    announcements (before ++ after) = announcements before ++ announcements after :=
  List.filterMap_append

@[simp] theorem arrivals_append (before after : List Entry) :
    arrivals (before ++ after) = arrivals before ++ arrivals after := by
  simp [arrivals, pushes_append]

/-- A view in which only entries of a kind show is a view of those. -/
theorem filterMap_filter_eq {β : Type} {kind : Entry → Bool} {view : Entry → Option β}
    (blind : ∀ entry, kind entry = false → view entry = none) (trace : List Entry) :
    (trace.filter kind).filterMap view = trace.filterMap view := by
  rw [List.filterMap_filter]
  refine congrArg (List.filterMap · trace) (funext fun entry => ?_)
  cases shown : kind entry with
  | true => rfl
  | false => exact (blind entry shown).symm

@[simp] theorem takes_announcing : takes announcing = [.pause] := rfl

@[simp] theorem raises_announcing : raises announcing = [] := rfl

@[simp] theorem milestones_announcing : milestones announcing = [] := rfl

@[simp] theorem announcements_announcing : announcements announcing = Event.backgroundGroup := rfl

@[simp] theorem arrivals_announcing : arrivals announcing = Event.backgroundGroup := rfl

@[simp] theorem takes_endingEntries (reset : Bool) : takes (endingEntries reset) = [.resume] := by
  cases reset <;> rfl

@[simp] theorem raises_endingEntries (reset : Bool) : raises (endingEntries reset) = [] := by
  cases reset <;> rfl

@[simp] theorem milestones_endingEntries (reset : Bool) :
    milestones (endingEntries reset) = [.ended] := by
  cases reset <;> rfl

@[simp] theorem announcements_endingEntries (reset : Bool) :
    announcements (endingEntries reset) = Event.foregroundGroup := by
  cases reset <;> rfl

@[simp] theorem arrivals_endingEntries (reset : Bool) :
    arrivals (endingEntries reset) = Standing.farewell reset := by
  cases reset <;> rfl

variable (trace : List Entry)

@[simp] theorem raises_turns : raises (trace.filter Entry.isTurn) = raises trace :=
  filterMap_filter_eq (fun entry silent => by cases entry <;> first | rfl | cases silent) trace

@[simp] theorem takes_turns : takes (trace.filter Entry.isTurn) = takes trace :=
  filterMap_filter_eq (fun entry silent => by cases entry <;> first | rfl | cases silent) trace

@[simp] theorem milestones_turns : milestones (trace.filter Entry.isTurn) = milestones trace :=
  filterMap_filter_eq (fun entry silent => by cases entry <;> first | rfl | cases silent) trace

@[simp] theorem announcements_turns :
    announcements (trace.filter Entry.isTurn) = announcements trace :=
  filterMap_filter_eq (fun entry silent => by cases entry <;> first | rfl | cases silent) trace

@[simp] theorem removals_turns : removals (trace.filter Entry.isTurn) = removals trace :=
  filterMap_filter_eq (fun entry silent => by cases entry <;> first | rfl | cases silent) trace

theorem pushes_turns : pushes (trace.filter Entry.isTurn) = pushes trace :=
  filterMap_filter_eq (fun entry silent => by cases entry <;> first | rfl | cases silent) trace

@[simp] theorem arrivals_turns : arrivals (trace.filter Entry.isTurn) = arrivals trace :=
  congrArg (List.map Prod.snd) (pushes_turns trace)

end Trace

namespace EventQueue

/-- The queue once what an entry tells of has happened to it. -/
def record (queue : EventQueue) : Entry → EventQueue
  | .pushed _ event => queue.push event
  | .removed _ => queue.poll.2
  | _ => queue

/-- The queue after everything that a trace tells of. -/
def after (queue : EventQueue) (trace : List Entry) : EventQueue := trace.foldl record queue

theorem after_append (queue : EventQueue) (before later : List Entry) :
    queue.after (before ++ later) = (queue.after before).after later := List.foldl_append

theorem after_turns (queue : EventQueue) (trace : List Entry) :
    queue.after (trace.filter Entry.isTurn) = queue.after trace := by
  unfold after
  rw [List.foldl_filter]
  refine congrArg (List.foldl · queue trace) (funext fun queue => funext fun entry => ?_)
  cases entry <;> rfl

theorem after_pushed (queue : EventQueue) (origin : Origin) (events : List Event) :
    queue.after (events.map (.pushed origin)) = queue.pushAll events := List.foldl_map

theorem pushAll_storing (queued events : List Event) :
    (storing queued).pushAll events = storing (queued ++ events) := by
  induction events generalizing queued with
  | nil => simp [pushAll]
  | cons first rest ih => exact (ih (queued ++ [first])).trans (by simp)

end EventQueue

/-- A turn moves events from the arrivals to the queue and from the queue to the removals. -/
theorem Turn.removals_append_queued {allowed : Move γ σ α τ → Prop} {now next : Standing}
    {entries : List Entry} (turn : Turn allowed now entries next) {queued : List Event}
    (storing : now.events = .storing queued) :
    ∃ left, next.events = .storing left ∧
      Trace.removals entries ++ left = queued ++ Trace.arrivals entries := by
  cases turn with
  | pushed event times ok some => exact ⟨queued ++ [event], by rw [storing]; rfl, rfl⟩
  | removed event rest oldest =>
    obtain rfl := EventQueue.storing.inj (storing.symm.trans oldest)
    exact ⟨rest, rfl, by simp [Trace.removals, Trace.arrivals, Trace.pushes]⟩
  | announced running raised =>
    refine ⟨queued ++ Event.backgroundGroup, ?_, rfl⟩
    rw [Standing.announce, storing, EventQueue.pushAll_storing]
  | ended reset paused settled raised restored =>
    refine ⟨queued ++ Standing.farewell reset, ?_, by cases reset <;> rfl⟩
    rw [Standing.comeBack, storing, EventQueue.pushAll_storing]
  | _ => exact ⟨queued, storing, by simp [Trace.removals, Trace.arrivals, Trace.pushes]⟩

/-- What a turn raises of a signal is used up or added to its count, unless someone else uses it
up. -/
theorem Turn.counts_balance {allowed : Move γ σ α τ → Prop} {now next : Standing}
    {entries : List Entry} (turn : Turn allowed now entries next)
    (untouched : ∀ move, allowed move → move.takes = false) (kind : SignalKind) :
    (next.signals.get kind).count + (Trace.takes entries).count kind =
      (now.signals.get kind).count + (Trace.raises entries).count kind := by
  cases turn with
  | raised other times ok =>
    have raises : Trace.raises [.raised other] = [other] := rfl
    have takes : Trace.takes [.raised other] = [] := rfl
    simp [raises, takes, List.count_singleton]
  | spent other ok => exact absurd (untouched _ ok) (by simp [Move.takes])
  | announced running there =>
    have raised : 0 < (now.signals.get .pause).count := there
    cases kind with
    | pause =>
      simp [Standing.announce]
      omega
    | resume => simp [Standing.announce]
  | ended reset paused settled there restored =>
    have raised : 0 < (now.signals.get .resume).count := there
    cases kind with
    | pause => simp [Standing.comeBack]
    | resume =>
      simp [Standing.comeBack]
      omega
  | _ => rfl

namespace Turns

variable {allowed : Move γ σ α τ → Prop} {start finish : Standing} {trace : List Entry}

/-- The queue is what the trace tells. -/
theorem events_eq_after (turns : Turns allowed start trace finish) :
    finish.events = start.events.after trace := by
  induction turns with
  | rest => rfl
  | next before turn ih =>
    rw [EventQueue.after_append, ← ih]
    cases turn with
    | removed event rest oldest =>
      simp [EventQueue.after, EventQueue.record, oldest, EventQueue.poll]
    | announced running raised =>
      exact (EventQueue.after_pushed _ .lifecycle Event.backgroundGroup).symm
    | ended reset paused settled raised restored => cases reset <;> rfl
    | _ => rfl

/-- Every event that arrived at a storing queue was removed, in the order it came, or is
still queued. -/
theorem removals_append_queued (turns : Turns allowed start trace finish) {queued : List Event}
    (storing : start.events = .storing queued) :
    ∃ left, finish.events = .storing left ∧
      Trace.removals trace ++ left = queued ++ Trace.arrivals trace := by
  induction turns with
  | rest => exact ⟨queued, storing, by simp [Trace.removals, Trace.arrivals, Trace.pushes]⟩
  | @next past entries now next before turn ih =>
    obtain ⟨left, here, kept⟩ := ih
    obtain ⟨after, there, moved⟩ := turn.removals_append_queued here
    refine ⟨after, there, ?_⟩
    calc
      Trace.removals (past ++ entries) ++ after
        = Trace.removals past ++ (Trace.removals entries ++ after) := by
          rw [Trace.removals_append, List.append_assoc]
      _ = (Trace.removals past ++ left) ++ Trace.arrivals entries := by
          rw [moved, List.append_assoc]
      _ = queued ++ Trace.arrivals (past ++ entries) := by
          rw [kept, Trace.arrivals_append, List.append_assoc]

/-- Every count of a signal that was there or was raised is used up or still there. -/
theorem counts_balance (turns : Turns allowed start trace finish)
    (untouched : ∀ move, allowed move → move.takes = false) (kind : SignalKind) :
    (finish.signals.get kind).count + (Trace.takes trace).count kind =
      (start.signals.get kind).count + (Trace.raises trace).count kind := by
  induction turns with
  | rest => rfl
  | next before last ih =>
    have here := last.counts_balance untouched kind
    rw [Trace.takes_append, Trace.raises_append, List.count_append, List.count_append]
    omega

end Turns

end AppLifecycle
