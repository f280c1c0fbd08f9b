import AppLifecycle.Proofs.Calls

/-! What a lifecycle does with its collaborators, and where in a background cycle. Whatever
they answer, there are four ways in which a run deals with them: it gets no further and at
most recovers stalled playback, it looks for a pause, it carries a pause out, or it ends
one. Milestones cut a trace into chapters, and each chapter has its own calls. -/
namespace AppLifecycle

open Traced

variable {γ σ α τ : Type}

/-- What a lifecycle goes by when it deals with its collaborators. -/
structure Bearing where
  config : Config
  /-- How many audio outputs are registered. -/
  outputs : Nat
  phase : Phase
  /-- Whether a final pause still has to be carried out. -/
  due : Bool
  snapshot : Snapshot

def Lifecycle.bearing (lifecycle : Lifecycle γ σ α τ) : Bearing where
  config := lifecycle.config
  outputs := lifecycle.outputs.length
  phase := lifecycle.phase
  due := lifecycle.carryOutDue
  snapshot := lifecycle.keeper.snapshot

/-- The entries in which a background cycle goes on. -/
def Entry.isAdvance : Entry → Bool
  | .milestone _ | .took .resume => true
  | _ => false

def Entry.isMilestone : Entry → Bool
  | .milestone _ => true
  | _ => false

/-- The calls of a backup, and what is saved before and after it. -/
inductive Backup (external : Bool) (saved : Snapshot) : List Graphics.Call → Snapshot → Prop where
  | made (context : Option Graphics.Context) (answer : Except Graphics.Error Unit)
      (own : external = false) (unheld : saved.held = false) :
      Backup external saved [.currentContext context, .makeCurrent none answer]
        { context, held := true }
  | left (needless : external = true ∨ saved.held = true) : Backup external saved [] saved

/-- The calls with which rendering comes back, and what is saved before and after them. -/
inductive Comeback (saved : Snapshot) : List Graphics.Call → Snapshot → Prop where
  | attached (answer : Except Graphics.Error Unit) (rest : List Graphics.Call)
      (held : saved.held = true) (orders : ∀ call ∈ rest, call.asks = false) :
      Comeback saved (.makeCurrent saved.context answer :: rest) {}
  | skipped : Comeback saved [] saved

section Rendering

variable {external : Bool} {saved next : Snapshot} {calls : List Graphics.Call}

/-- A backup that is held is left, and any other is made. -/
theorem Backup.made_or_left (backup : Backup external saved calls next) (own : external = false) :
    (saved.held = false ∧ ∃ context answer,
      calls = [.currentContext context, .makeCurrent none answer] ∧
        next = { context, held := true }) ∨
    (saved.held = true ∧ calls = [] ∧ next = saved) := by
  cases backup with
  | made context answer own unheld => exact .inl ⟨unheld, context, answer, rfl, rfl⟩
  | left needless => exact .inr ⟨needless.resolve_left (by simp [own]), rfl, rfl⟩

theorem Comeback.attached_or_skipped (comeback : Comeback saved calls next) :
    (next = {} ∧ ∃ answer rest, calls = .makeCurrent saved.context answer :: rest) ∨
    (calls = [] ∧ next = saved) := by
  cases comeback with
  | attached answer rest held orders => exact .inl ⟨rfl, answer, rest, rfl⟩
  | skipped => exact .inr ⟨rfl, rfl⟩

/-- Nobody is asked for the current context when rendering comes back. -/
theorem Comeback.orders (comeback : Comeback saved calls next) {call : Graphics.Call}
    (member : call ∈ calls) : call.asks = false := by
  cases comeback with
  | attached answer rest held orders =>
    rcases List.mem_cons.mp member with rfl | later
    · rfl
    · exact orders call later
  | skipped => simp at member

end Rendering

/-- Entries in which rendering is left alone and at most stalled playback is recovered. -/
structure Quiet (entries : List Entry) : Prop where
  rendering : Trace.graphicsCalls entries = []
  outputs : ∀ position, Audio.Recoveries (Trace.audioCalls position entries)

theorem Quiet.append {first second : List Entry} (before : Quiet first) (after : Quiet second) :
    Quiet (first ++ second) := by
  refine ⟨by rw [Trace.graphicsCalls_append, before.rendering, after.rendering]; rfl, ?_⟩
  intro position
  rw [Trace.audioCalls_append]
  exact (before.outputs position).append (after.outputs position)

/-- Quiet entries with which the lifecycle gets no further. -/
structure Aside (entries : List Entry) : Prop extends Quiet entries where
  still : entries.filter Entry.isAdvance = []

/-- Entries of a look for a pause. -/
structure Looking (now : Bearing) (entries : List Entry) (next : Bearing) : Prop where
  awake : now.phase ≠ .paused
  advances : entries.filter Entry.isAdvance =
    if next.phase = .paused then [.milestone .committed] else []
  rendering : ∀ call ∈ Trace.graphicsCalls entries, ∃ answer, call = .swapInterval answer
  outputs : ∀ position, Trace.audioCalls position entries = []
  next_eq : next =
    { now with phase := next.phase, due := now.due || decide (next.phase = .paused) }

/-- The work with which a pause is carried out. -/
structure CarryingOut (modes : LoopMode → Prop) (now : Bearing) (work : List Entry)
    (next : Bearing) : Prop where
  paused : now.phase = .paused
  due : now.due = true
  still : work.filter Entry.isAdvance = []
  rendering : Backup now.config.contextExternal now.snapshot (Trace.graphicsCalls work)
    next.snapshot
  outputs : ∃ mode, modes mode ∧ ∀ position, ∃ answer, Trace.audioCalls position work =
    if now.config.quietsAudio mode ∧ position < now.outputs then [.pause .fanOut answer] else []
  next_eq : next = { now with due := false, snapshot := next.snapshot }

/-- The work with which a pause ends. -/
structure Ending (modes : LoopMode → Prop) (now : Bearing) (work : List Entry)
    (next : Bearing) : Prop where
  paused : now.phase = .paused
  settled : now.due = false
  still : work.filter Entry.isAdvance = []
  rendering : Comeback now.snapshot (Trace.graphicsCalls work) next.snapshot
  outputs : ∃ mode, modes mode ∧ ∀ position, ∃ answer, Trace.audioCalls position work =
    if now.config.quietsAudio mode ∧ position < now.outputs then [.resume .fanOut answer] else []
  next_eq : next = { now with phase := .running, snapshot := next.snapshot }

/-- One way of dealing with the collaborators, in rounds of some kinds. -/
inductive Dealing (modes : LoopMode → Prop) (now : Bearing) : List Entry → Bearing → Prop where
  | aside {entries : List Entry} (aside : Aside entries) : Dealing modes now entries now
  | looked {entries : List Entry} {next : Bearing} (looking : Looking now entries next) :
      Dealing modes now entries next
  | carriedOut {work : List Entry} {next : Bearing} (working : CarryingOut modes now work next) :
      Dealing modes now (.milestone .carriedOut :: work) next
  | ended {work : List Entry} {next : Bearing} (ending : Ending modes now work next) :
      Dealing modes now (.took .resume :: .milestone .ended :: work) next

/-- One dealing after another. -/
abbrev Dealings (modes : LoopMode → Prop) := Chain (Dealing modes)

namespace Trace

/-- A trace up to the next milestone. -/
def chapter (trace : List Entry) : List Entry := trace.takeWhile fun entry => !entry.isMilestone

variable {first second trace past later : List Entry} {milestone : Milestone}

theorem mem_milestones : milestone ∈ milestones trace ↔ .milestone milestone ∈ trace := by
  refine List.mem_filterMap.trans ⟨?_, fun member => ⟨_, member, rfl⟩⟩
  rintro ⟨entry, member, seen⟩
  cases entry <;> simp_all

@[simp] theorem milestones_cons (milestone : Milestone) (trace : List Entry) :
    milestones (.milestone milestone :: trace) = milestone :: milestones trace := rfl

theorem milestones_advances (trace : List Entry) :
    milestones (trace.filter Entry.isAdvance) = milestones trace :=
  filterMap_filter_eq (fun entry silent => by cases entry <;> first | rfl | cases silent) trace

theorem milestones_of_still (still : trace.filter Entry.isAdvance = []) :
    milestones trace = [] := by
  rw [← milestones_advances, still]
  rfl

@[simp] theorem chapter_nil : chapter [] = [] := rfl

@[simp] theorem chapter_cons_milestone (milestone : Milestone) (trace : List Entry) :
    chapter (.milestone milestone :: trace) = [] := rfl

/-- A chapter goes on as long as there is no milestone. -/
theorem chapter_append_of_silent (silent : milestones first = []) (second : List Entry) :
    chapter (first ++ second) = first ++ chapter second := by
  refine List.takeWhile_append_of_pos fun entry member => ?_
  cases entry with
  | milestone milestone => simpa [silent] using mem_milestones.mpr member
  | _ => rfl

theorem chapter_of_silent (silent : milestones trace = []) : chapter trace = trace := by
  simpa using chapter_append_of_silent silent []

/-- The first milestone ends a chapter. -/
theorem chapter_append_of_milestone (some : milestones first ≠ []) (second : List Entry) :
    chapter (first ++ second) = chapter first := by
  induction first with
  | nil => exact absurd rfl some
  | cons entry rest ih =>
    cases entry with
    | milestone milestone => rfl
    | _ => exact congrArg (List.cons _) (ih some)

/-- The milestone that comes last begins the chapter that is still open. -/
theorem split_of_last_milestone (last : (milestones trace).getLast? = some milestone) :
    ∃ past since, trace = past ++ .milestone milestone :: since ∧ milestones since = [] := by
  obtain ⟨earlier, split⟩ := List.getLast?_eq_some_iff.mp last
  obtain ⟨before, rest, rfl, -, rest_eq⟩ := List.filterMap_eq_append_iff.mp split
  obtain ⟨silent, entry, since, rfl, -, seen, open_⟩ := List.filterMap_eq_cons_iff.mp rest_eq
  cases entry with
  | milestone _ =>
    obtain rfl := Option.some.inj seen
    exact ⟨before ++ silent, since, by simp, open_⟩
  | _ => cases seen

/-- A milestone in entries that begin with the only one is that one. -/
theorem eq_of_first_milestone {work head tail : List Entry} {first : Milestone}
    (still : work.filter Entry.isAdvance = [])
    (split : .milestone first :: work = head ++ .milestone milestone :: tail) :
    milestone = first ∧ head = [] ∧ tail = work := by
  cases head with
  | nil =>
    obtain ⟨same, rfl⟩ := List.cons.inj split
    exact ⟨(Entry.milestone.inj same).symm, rfl, rfl⟩
  | cons entry head =>
    obtain ⟨-, rfl⟩ := List.cons.inj split
    simp [List.filter_cons, Entry.isAdvance] at still

end Trace

/-- The part of a background cycle that is behind a lifecycle. -/
def Bearing.cycle (now : Bearing) : List Milestone :=
  if now.phase = .paused then
    if now.due then [.committed] else [.committed, .carriedOut]
  else []

section Milestones

variable {modes : LoopMode → Prop} {now next : Bearing} {entries work : List Entry}

theorem Aside.milestones (aside : Aside entries) : Trace.milestones entries = [] :=
  Trace.milestones_of_still aside.still

theorem Looking.milestones (looking : Looking now entries next) :
    Trace.milestones entries = if next.phase = .paused then [.committed] else [] := by
  rw [← Trace.milestones_advances, looking.advances]
  split <;> rfl

theorem CarryingOut.milestones (working : CarryingOut modes now work next) :
    Trace.milestones (.milestone .carriedOut :: work) = [.carriedOut] :=
  congrArg (List.cons _) (Trace.milestones_of_still working.still)

theorem Ending.milestones (ending : Ending modes now work next) :
    Trace.milestones (.took .resume :: .milestone .ended :: work) = [.ended] :=
  congrArg (List.cons _) (Trace.milestones_of_still ending.still)

end Milestones

namespace Dealing

variable {modes : LoopMode → Prop} {now next : Bearing} {entries head tail : List Entry}

/-- How a lifecycle is set up does not change. -/
theorem setUp (dealing : Dealing modes now entries next) :
    next.config = now.config ∧ next.outputs = now.outputs := by
  cases dealing with
  | aside => exact ⟨rfl, rfl⟩
  | looked looking => rw [looking.next_eq]; exact ⟨rfl, rfl⟩
  | carriedOut working => rw [working.next_eq]; exact ⟨rfl, rfl⟩
  | ended ending => rw [ending.next_eq]; exact ⟨rfl, rfl⟩

theorem at_carriedOut (dealing : Dealing modes now entries next)
    (split : entries = head ++ .milestone .carriedOut :: tail) :
    head = [] ∧ CarryingOut modes now tail next := by
  have member : .carriedOut ∈ Trace.milestones entries := Trace.mem_milestones.mpr (by simp [split])
  cases dealing with
  | aside aside => simp [aside.milestones] at member
  | looked looking =>
    rw [looking.milestones] at member
    split at member <;> simp at member
  | carriedOut working =>
    obtain ⟨-, rfl, rfl⟩ := Trace.eq_of_first_milestone working.still split
    exact ⟨rfl, working⟩
  | ended ending => simp [ending.milestones] at member

theorem at_ended (dealing : Dealing modes now entries next)
    (split : entries = head ++ .milestone .ended :: tail) :
    head = [.took .resume] ∧ Ending modes now tail next := by
  have member : .ended ∈ Trace.milestones entries := Trace.mem_milestones.mpr (by simp [split])
  cases dealing with
  | aside aside => simp [aside.milestones] at member
  | looked looking =>
    rw [looking.milestones] at member
    split at member <;> simp at member
  | carriedOut working => simp [working.milestones] at member
  | ended ending =>
    cases head with
    | nil => simp at split
    | cons first head =>
      obtain ⟨rfl, after⟩ := List.cons.inj split
      obtain ⟨-, rfl, rfl⟩ := Trace.eq_of_first_milestone ending.still after
      exact ⟨rfl, ending⟩

end Dealing

/-- The milestones of a run come round in their order, as far as the phase says. -/
structure Cycled (trace : List Entry) (now : Bearing) : Prop where
  paused_of_due : now.due = true → now.phase = .paused
  milestones : ∃ cycles, Trace.milestones trace =
    (List.replicate cycles [.committed, .carriedOut, .ended]).flatten ++ now.cycle

namespace Cycled

variable {modes : LoopMode → Prop} {now next : Bearing} {past entries trace : List Entry}

theorem step (cycled : Cycled past now) (dealing : Dealing modes now entries next) :
    Cycled (past ++ entries) next := by
  obtain ⟨paused_of_due, cycles, milestones⟩ := cycled
  cases dealing with
  | aside aside =>
    refine ⟨paused_of_due, cycles, ?_⟩
    rw [Trace.milestones_append, aside.milestones, List.append_nil, milestones]
  | looked looking =>
    have fresh : now.due = false :=
      Bool.eq_false_iff.mpr fun due => looking.awake (paused_of_due due)
    have due : next.due = decide (next.phase = .paused) := by
      rw [looking.next_eq]
      simp [fresh]
    refine ⟨by simp [due], cycles, ?_⟩
    rw [Trace.milestones_append, milestones, looking.milestones]
    by_cases paused : next.phase = .paused <;> simp [Bearing.cycle, looking.awake, due, paused]
  | carriedOut working =>
    have settled : next.due = false := by rw [working.next_eq]
    have phase : next.phase = .paused := by rw [working.next_eq]; exact working.paused
    refine ⟨by simp [settled], cycles, ?_⟩
    rw [Trace.milestones_append, milestones, working.milestones]
    simp [Bearing.cycle, working.paused, working.due, phase, settled]
  | ended ending =>
    have settled : next.due = false := by rw [ending.next_eq]; exact ending.settled
    have phase : next.phase = .running := by rw [ending.next_eq]
    refine ⟨by simp [settled], cycles + 1, ?_⟩
    rw [Trace.milestones_append, milestones, ending.milestones]
    simp [Bearing.cycle, ending.paused, ending.settled, phase, List.replicate_succ']

/-- The milestone before the end of a pause is that it was carried out. -/
theorem last (cycled : Cycled trace now) (paused : now.phase = .paused) :
    (Trace.milestones trace).getLast? = some (if now.due then .committed else .carriedOut) := by
  obtain ⟨-, cycles, milestones⟩ := cycled
  rw [milestones]
  cases due : now.due <;> simp [Bearing.cycle, paused, due]

end Cycled

namespace Dealings

variable {modes : LoopMode → Prop} {start finish : Bearing} {trace : List Entry}

theorem setUp (dealings : Dealings modes start trace finish) :
    finish.config = start.config ∧ finish.outputs = start.outputs := by
  induction dealings with
  | rest => exact ⟨rfl, rfl⟩
  | next before last ih =>
    obtain ⟨config, outputs⟩ := last.setUp
    exact ⟨config.trans ih.1, outputs.trans ih.2⟩

theorem cycled (dealings : Dealings modes start trace finish) (awake : start.phase ≠ .paused)
    (settled : start.due = false) : Cycled trace finish := by
  refine dealings.invariant ⟨by simp [settled], 0, ?_⟩ fun cycled dealing => cycled.step dealing
  simp [Bearing.cycle, awake, Trace.milestones]

end Dealings

/-- The chapter that a settled pause opens is quiet so far, and while it is open the pause
goes on. -/
structure Ongoing (trace : List Entry) (now : Bearing) : Prop where
  quiet : Quiet (Trace.chapter trace)
  going : Trace.milestones trace = [] → now.phase = .paused ∧ now.due = false

section Ongoing

variable {modes : LoopMode → Prop} {start now next finish : Bearing}
  {past entries trace : List Entry}

theorem Ongoing.step (ongoing : Ongoing past now) (dealing : Dealing modes now entries next) :
    Ongoing (past ++ entries) next := by
  obtain ⟨quiet, going⟩ := ongoing
  by_cases silent : Trace.milestones past = []
  · obtain ⟨paused, settled⟩ := going silent
    rw [Trace.chapter_of_silent silent] at quiet
    have split := Trace.chapter_append_of_silent silent entries
    cases dealing with
    | aside aside =>
      refine ⟨?_, fun _ => ⟨paused, settled⟩⟩
      rw [split, Trace.chapter_of_silent aside.milestones]
      exact quiet.append aside.toQuiet
    | looked looking => exact absurd paused looking.awake
    | carriedOut working => exact absurd working.due (by simp [settled])
    | ended ending =>
      refine ⟨?_, by simp [ending.milestones]⟩
      rw [split]
      exact quiet.append ⟨rfl, fun _ => .none⟩
  · refine ⟨?_, fun none => ?_⟩
    · rwa [Trace.chapter_append_of_milestone silent]
    · rw [Trace.milestones_append] at none
      exact absurd (List.append_eq_nil_iff.mp none).1 silent

/-- In the background, once the pause is carried out, all is quiet up to the next milestone. -/
theorem Dealings.quiet_of_settled (dealings : Dealings modes start trace finish)
    (paused : start.phase = .paused) (settled : start.due = false) :
    Quiet (Trace.chapter trace) := by
  have ongoing : Ongoing trace finish :=
    dealings.invariant ⟨⟨rfl, fun _ => .none⟩, fun _ => ⟨paused, settled⟩⟩ fun ongoing dealing =>
      ongoing.step dealing
  exact ongoing.quiet

end Ongoing

end AppLifecycle
