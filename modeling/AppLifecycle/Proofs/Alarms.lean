import AppLifecycle.Trace.Traced
import Mathlib.Data.List.Forall2

/-! Failures and warnings. A call that fails is told of by one warning, and the two answer to
each other if in a trace each failure is followed at once by its warning and no warning stands
elsewhere. That is put together along with the actions that leave the trace: an action either
tells of its failures itself, or admits the one that came right before it. -/
namespace AppLifecycle

open Traced

variable {γ σ α τ s t β δ : Type}

/-- The calls that fail: a refusal, an error state of the rendering layer in which an allocation
failed or context and surface do not fit together, and playback that stalled. -/
def Entry.isFailure : Entry → Bool
  | .graphics (.makeCurrent _ (.error _)) | .graphics (.createContext (.error _))
  | .graphics (.setSwapInterval _ (.error _)) => true
  | .graphics (.lastStatus .badAlloc) | .graphics (.lastStatus .badMatch) => true
  | .audio _ (.pause _ (.error _)) | .audio _ (.resume _ (.error _))
  | .audio _ (.detectStall true) => true
  | _ => false

/-- Whether an entry is a failure or a warning. -/
def Entry.isAlarm : Entry → Bool
  | .notice told => decide (told.level = .warn)
  | other => other.isFailure

/-- The words of a refusal. -/
def Entry.refusal? : Entry → Option String
  | .graphics (.makeCurrent _ (.error error)) | .graphics (.createContext (.error error))
  | .graphics (.setSwapInterval _ (.error error)) => some error.message
  | .audio _ (.pause _ (.error error)) | .audio _ (.resume _ (.error error)) => some error.message
  | _ => none

/-- Which notice tells of which failure. The notices of audio name the output that failed. -/
inductive Tells (outputs : List (Audio.Output α)) : Entry → Notice → Prop where
  | detach (error : Graphics.Error) :
      Tells outputs (.graphics (.makeCurrent none (.error error))) (.detachFailed error)
  | attachSaved (context : Option Graphics.Context) (error : Graphics.Error) :
      Tells outputs (.graphics (.makeCurrent context (.error error))) (.savedContextInvalid error)
  | attachNew (context : Graphics.Context) (error : Graphics.Error) :
      Tells outputs (.graphics (.makeCurrent (some context) (.error error)))
        (.newContextNotCurrent error)
  | create (error : Graphics.Error) :
      Tells outputs (.graphics (.createContext (.error error))) (.createContextFailed error)
  | status (status : Graphics.Status) (bad : status = .badAlloc ∨ status = .badMatch) :
      Tells outputs (.graphics (.lastStatus status)) (.statusAfterRestore status)
  | interval (wanted : Int32) (error : Graphics.Error) :
      Tells outputs (.graphics (.setSwapInterval wanted (.error error)))
        (.swapIntervalRefused error wanted)
  | vsync (error : Graphics.Error) :
      Tells outputs (.graphics (.setSwapInterval 0 (.error error))) (.disableVsyncFailed error)
  | silence {position : Nat} {output : Audio.Output α} (here : outputs[position]? = some output)
      (purpose : Audio.Purpose) (error : Audio.Error) :
      Tells outputs (.audio position (.pause purpose (.error error)))
        (.audioPauseFailed output.name error)
  | takeUp {position : Nat} {output : Audio.Output α} (here : outputs[position]? = some output)
      (purpose : Audio.Purpose) (error : Audio.Error) :
      Tells outputs (.audio position (.resume purpose (.error error)))
        (.audioResumeFailed output.name error)
  | stall {position : Nat} {output : Audio.Output α} (here : outputs[position]? = some output) :
      Tells outputs (.audio position (.detectStall true)) (.stalledPlayback output.name)

/-- Entries in which every failure is followed by the warning that tells of it, and which have
no other warnings. -/
inductive Reported (outputs : List (Audio.Output α)) : List Entry → Prop where
  | none : Reported outputs []
  | harmless {entry : Entry} {rest : List Entry} (harmless : entry.isAlarm = false)
      (after : Reported outputs rest) : Reported outputs (entry :: rest)
  | told {entry : Entry} {notice : Notice} {rest : List Entry}
      (tells : Tells outputs entry notice) (after : Reported outputs rest) :
      Reported outputs (entry :: .notice notice :: rest)

section Reported

variable {outputs : List (Audio.Output α)} {entry : Entry} {notice : Notice}
  {first second trace : List Entry}

theorem Tells.isFailure (tells : Tells outputs entry notice) : entry.isFailure = true := by
  cases tells with
  | status _ bad => rcases bad with rfl | rfl <;> rfl
  | _ => rfl

theorem Tells.warns (tells : Tells outputs entry notice) : notice.level = .warn := by
  cases tells <;> rfl

/-- A notice that tells of a refusal has its words. -/
theorem Tells.words (tells : Tells outputs entry notice) {words : String}
    (refused : entry.refusal? = some words) : ("error", .text words) ∈ notice.fields := by
  cases tells <;> cases refused <;> simp [Notice.fields]

/-- A failure is not a notice. -/
theorem Tells.noticesFrom_cons (tells : Tells outputs entry notice) (least : Level)
    (rest : List Entry) :
    Trace.noticesFrom least (entry :: rest) = Trace.noticesFrom least rest := by
  cases tells <;> rfl

theorem Reported.append (before : Reported outputs first) (after : Reported outputs second) :
    Reported outputs (first ++ second) := by
  induction before with
  | none => exact after
  | harmless harmless _ ih => exact .harmless harmless ih
  | told tells _ ih => exact .told tells ih

/-- To remove events is nothing to warn of. -/
theorem Reported.of_removed (events : List Event) : Reported outputs (events.map .removed) := by
  induction events with
  | nil => exact .none
  | cons event rest ih => exact .harmless rfl ih

theorem Trace.noticesFrom_warn_of_harmless (harmless : entry.isAlarm = false) (rest : List Entry) :
    noticesFrom .warn (entry :: rest) = noticesFrom .warn rest := by
  cases entry with
  | notice told =>
    have mild : ¬ Level.warn.rank ≤ told.level.rank := by
      simp only [Entry.isAlarm, decide_eq_false_iff_not] at harmless
      cases level : told.level <;> simp_all [Level.rank]
    simp [noticesFrom, notices, mild]
  | _ => rfl

theorem Entry.not_isFailure_of_harmless (harmless : entry.isAlarm = false) :
    entry.isFailure = false := by
  cases entry with
  | notice told => rfl
  | _ => exact harmless

/-- The failures and the warnings of such entries answer to each other, one by one and in
order. -/
theorem Reported.forall₂ (reported : Reported outputs trace) :
    List.Forall₂ (Tells outputs) (trace.filter Entry.isFailure)
      (Trace.noticesFrom .warn trace) := by
  induction reported with
  | none => exact .nil
  | harmless harmless _ ih =>
    rw [Trace.noticesFrom_warn_of_harmless harmless,
      List.filter_cons_of_neg (by simp [Entry.not_isFailure_of_harmless harmless])]
    exact ih
  | @told entry notice rest tells _ ih =>
    have warned : Trace.noticesFrom .warn (.notice notice :: rest) =
        notice :: Trace.noticesFrom .warn rest := by
      simp [Trace.noticesFrom, Trace.notices, tells.warns]
    have silent : Entry.isFailure (.notice notice) = false := rfl
    rw [tells.noticesFrom_cons, warned, List.filter_cons_of_pos tells.isFailure,
      List.filter_cons_of_neg (by simp [silent])]
    exact .cons tells ih

end Reported

/-- Wherever it starts among the kept states, the action ends in one of them and tells of every
failure. -/
def Reports (outputs : List (Audio.Output α)) (kept : s → Prop) (action : Traced s β) : Prop :=
  ∀ state, kept state → kept (action.run state).state ∧ Reported outputs (action.run state).trace

/-- So does the action right after an entry that may be a failure; it then begins with the
warning. -/
def Admits (outputs : List (Audio.Output α)) (kept : s → Prop) (entry : Entry)
    (action : Traced s β) : Prop :=
  ∀ state, kept state →
    kept (action.run state).state ∧ Reported outputs (entry :: (action.run state).trace)

section Rules

variable {outputs : List (Audio.Output α)} {kept : s → Prop} {entry : Entry} {notice : Notice}

theorem reports_pure (value : β) : Reports outputs kept (pure value) :=
  fun _ holds => ⟨holds, .none⟩

theorem reports_read (reading : s → β) : Reports outputs kept (read reading) :=
  fun _ holds => ⟨holds, .none⟩

theorem reports_update {change : s → s} (keeps : ∀ state, kept state → kept (change state)) :
    Reports outputs kept (update change) := fun state holds => ⟨keeps state holds, .none⟩

theorem reports_tell (harmless : entry.isAlarm = false) : Reports outputs kept (tell entry) :=
  fun _ holds => ⟨holds, .harmless harmless .none⟩

theorem reports_note (mild : Entry.isAlarm (.notice notice) = false) :
    Reports outputs kept (note notice) := reports_tell mild

/-- A question that cannot be answered by a failure. -/
theorem reports_ask {call : s → β × s} {record : β → Entry}
    (keeps : ∀ state, kept state → kept (call state).2)
    (harmless : ∀ answer, (record answer).isAlarm = false) :
    Reports outputs kept (ask call record) :=
  fun state holds => ⟨keeps state holds, .harmless (harmless _) .none⟩

theorem reports_command {call : s → s} (keeps : ∀ state, kept state → kept (call state))
    (harmless : entry.isAlarm = false) : Reports outputs kept (command call entry) :=
  fun state holds => ⟨keeps state holds, .harmless harmless .none⟩

theorem reports_bind {first : Traced s β} {next : β → Traced s δ}
    (before : Reports outputs kept first) (after : ∀ value, Reports outputs kept (next value)) :
    Reports outputs kept (first >>= next) := by
  intro state holds
  obtain ⟨still, reported⟩ := before state holds
  obtain ⟨ends, later⟩ := after (first.run state).value (first.run state).state still
  rw [run_bind]
  exact ⟨ends, reported.append later⟩

theorem reports_whenever {condition : Bool} {action : Traced s Unit}
    (reports : Reports outputs kept action) : Reports outputs kept (whenever condition action) := by
  cases condition with
  | false => exact reports_pure ()
  | true => exact reports

theorem reports_forAll {action : t → Traced s β} (items : List t)
    (reports : ∀ item ∈ items, Reports outputs kept (action item)) :
    Reports outputs kept (forAll action items) := by
  induction items with
  | nil => exact reports_pure []
  | cons item rest ih =>
    have others := ih fun later member => reports later (List.mem_cons_of_mem _ member)
    apply reports_bind (reports item List.mem_cons_self)
    intro first
    exact reports_bind others fun _ => reports_pure _

theorem reports_repeated {action : Traced s β} (reports : Reports outputs kept action)
    (times : Nat) : Reports outputs kept (repeated action times) := by
  induction times with
  | zero => exact reports_pure []
  | succ times ih => exact reports_bind reports fun _ => reports_bind ih fun _ => reports_pure _

/-- What is done in a part of a state, if the part does not matter. -/
theorem reports_within {part : t → s} {put : s → t → t} {kept : t → Prop} {action : Traced s β}
    (keeps : ∀ inner whole, kept whole → kept (put inner whole))
    (reports : Reports outputs (fun _ => True) action) :
    Reports outputs kept (action.within part put) :=
  fun whole holds => ⟨keeps _ whole holds, (reports (part whole) trivial).2⟩

theorem admits_of_harmless {action : Traced s β} (harmless : entry.isAlarm = false)
    (reports : Reports outputs kept action) : Admits outputs kept entry action := by
  intro state holds
  obtain ⟨still, reported⟩ := reports state holds
  exact ⟨still, .harmless harmless reported⟩

theorem admits_note (tells : Tells outputs entry notice) :
    Admits outputs kept entry (note notice) := fun _ holds => ⟨holds, .told tells .none⟩

theorem admits_bind {first : Traced s β} {next : β → Traced s δ}
    (before : Admits outputs kept entry first)
    (after : ∀ value, Reports outputs kept (next value)) :
    Admits outputs kept entry (first >>= next) := by
  intro state holds
  obtain ⟨still, reported⟩ := before state holds
  obtain ⟨ends, later⟩ := after (first.run state).value (first.run state).state still
  rw [run_bind, ← List.cons_append]
  exact ⟨ends, reported.append later⟩

/-- A question may be answered by a failure if what follows then tells of it. -/
theorem reports_ask_bind {call : s → β × s} {record : β → Entry} {next : β → Traced s δ}
    (keeps : ∀ state, kept state → kept (call state).2)
    (admits : ∀ answer, Admits outputs kept (record answer) (next answer)) :
    Reports outputs kept (ask call record >>= next) := by
  intro state holds
  exact admits (call state).1 (call state).2 (keeps state holds)

end Rules

end AppLifecycle
