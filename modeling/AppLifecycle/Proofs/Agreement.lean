import AppLifecycle.Proofs.Frame

/-! An action taken from two related states. It is steady if it answers the same from both, leads
to related states and leaves the same in the trace as far as a view shows it, provided that
nothing barred happens on either side. Like what an action spares, that travels through
every way of putting actions together. -/
namespace AppLifecycle

/-- Nothing barred is in a trace. -/
def Trace.Free (barred : Entry → Bool) (trace : List Entry) : Prop :=
  ∀ entry ∈ trace, barred entry = false

instance (barred : Entry → Bool) (trace : List Entry) : Decidable (Trace.Free barred trace) :=
  inferInstanceAs (Decidable (∀ entry ∈ trace, barred entry = false))

@[simp] theorem Trace.free_append {barred : Entry → Bool} {before after : List Entry} :
    Free barred (before ++ after) ↔ Free barred before ∧ Free barred after :=
  List.forall_mem_append

namespace Traced

variable {s t β δ ε ι : Type} {related : s → s → Prop} {barred : Entry → Bool}
  {view : Entry → Option ε}

/-- Two outcomes are alike: the answers are the same, the states related, and the traces the
same as far as the view shows them. -/
structure Alike (related : s → s → Prop) (view : Entry → Option ε) (first second : Outcome s β) :
    Prop where
  value : first.value = second.value
  state : related first.state second.state
  trace : first.trace.filterMap view = second.trace.filterMap view

/-- From related states the action has outcomes that are alike, unless something barred
happens. -/
def Steady (related : s → s → Prop) (barred : Entry → Bool) (view : Entry → Option ε)
    (action : Traced s β) : Prop :=
  ∀ here there, related here there → Trace.Free barred (action.run here).trace →
    Trace.Free barred (action.run there).trace →
    Alike related view (action.run here) (action.run there)

/-- What is done next may be compared from where two actions have come. -/
theorem Alike.bind {here there : s} {first second : Traced s β} {next other : β → Traced s δ}
    (before : Alike related view (first.run here) (second.run there))
    (after : Alike related view ((next (first.run here).value).run (first.run here).state)
      ((other (first.run here).value).run (second.run there).state)) :
    Alike related view ((first >>= next).run here) ((second >>= other).run there) := by
  rw [run_bind, run_bind, ← before.value]
  exact ⟨after.value, after.state, by
    rw [List.filterMap_append, List.filterMap_append, before.trace, after.trace]⟩

/-- The answers may be dropped. -/
theorem Alike.discard {here there : s} {first second : Traced s β}
    (alike : Alike related view (first.run here) (second.run there)) :
    Alike related view
      ((do
        let _ ← first
        pure () : Traced s Unit).run here)
      ((do
        let _ ← second
        pure () : Traced s Unit).run there) :=
  alike.bind ⟨rfl, alike.state, rfl⟩

theorem steady_pure (value : β) : Steady related barred view (pure value) :=
  fun _ _ same _ _ => ⟨rfl, same, rfl⟩

theorem steady_read {reading : s → β}
    (shown : ∀ here there, related here there → reading here = reading there) :
    Steady related barred view (read reading) :=
  fun here there same _ _ => ⟨shown here there same, same, rfl⟩

theorem steady_update {change : s → s}
    (kept : ∀ here there, related here there → related (change here) (change there)) :
    Steady related barred view (update change) :=
  fun here there same _ _ => ⟨rfl, kept here there same, rfl⟩

theorem steady_tell (entry : Entry) : Steady related barred view (tell entry) :=
  fun _ _ same _ _ => ⟨rfl, same, rfl⟩

theorem steady_note (notice : Notice) : Steady related barred view (note notice) :=
  steady_tell _

theorem steady_bind {first : Traced s β} {next : β → Traced s δ}
    (before : Steady related barred view first)
    (after : ∀ value, Steady related barred view (next value)) :
    Steady related barred view (first >>= next) := by
  intro here there same free freeThere
  rw [run_bind, Trace.free_append] at free freeThere
  have alike := before here there same free.1 freeThere.1
  refine alike.bind (after _ _ _ alike.state free.2 ?_)
  rw [alike.value]
  exact freeThere.2

theorem steady_whenever {condition : Bool} {action : Traced s Unit}
    (steady : Steady related barred view action) :
    Steady related barred view (whenever condition action) := by
  cases condition with
  | false => exact steady_pure ()
  | true => exact steady

theorem steady_forAll {action : ι → Traced s β} (items : List ι)
    (steady : ∀ item ∈ items, Steady related barred view (action item)) :
    Steady related barred view (forAll action items) := by
  induction items with
  | nil => exact steady_pure []
  | cons item rest ih =>
    have others := ih fun later member => steady later (List.mem_cons_of_mem _ member)
    exact steady_bind (steady item List.mem_cons_self) fun _ =>
      steady_bind others fun _ => steady_pure _

theorem steady_repeated {action : Traced s β} (steady : Steady related barred view action)
    (times : Nat) : Steady related barred view (repeated action times) := by
  induction times with
  | zero => exact steady_pure []
  | succ times ih => exact steady_bind steady fun _ => steady_bind ih fun _ => steady_pure _

/-- What is done to a part that related states share is the same on both sides. -/
theorem steady_within {part : s → t} {put : t → s → s}
    (shared : ∀ here there, related here there → part here = part there)
    (kept : ∀ inner here there, related here there → related (put inner here) (put inner there))
    (action : Traced t β) : Steady related barred view (action.within part put) := by
  intro here there same _ _
  rw [run_within, run_within, ← shared here there same]
  exact ⟨rfl, kept _ here there same, rfl⟩

end Traced

end AppLifecycle
