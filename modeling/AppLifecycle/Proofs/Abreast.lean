import AppLifecycle.Proofs.Parallel

/-! Two actions on two kinds of state, compared together with everything that came before them.
What two states must have in common may then depend on what has happened on either side. The
answers need not be the same, only alike, and nothing need be alike about answers that
nobody looks at. -/
namespace AppLifecycle

/-- Where an action leads when it follows on what has happened so far. -/
def Outcome.after {s β : Type} (sofar : Outcome s Unit) (action : Traced s β) : Outcome s Unit where
  value := ()
  state := (action.run sofar.state).state
  trace := sofar.trace ++ (action.run sofar.state).trace

namespace Traced

variable {s s' β β' δ δ' : Type} {related : Outcome s Unit → Outcome s' Unit → Prop}
  {alike : β → β' → Prop}

@[simp] theorem after_pure (value : β) (sofar : Outcome s Unit) :
    sofar.after (pure value) = sofar := by
  simp [Outcome.after]

theorem after_bind (first : Traced s β) (next : β → Traced s δ) (sofar : Outcome s Unit) :
    sofar.after (first >>= next) =
      (sofar.after first).after (next (first.run sofar.state).value) := by
  simp [Outcome.after, run_bind]

/-- Wherever the two sides are related, the actions answer alike and lead to where the two sides
are related again. -/
def Abreast (related : Outcome s Unit → Outcome s' Unit → Prop) (alike : β → β' → Prop)
    (first : Traced s β) (second : Traced s' β') : Prop :=
  ∀ here there, related here there →
    alike (first.run here.state).value (second.run there.state).value ∧
      related (here.after first) (there.after second)

/-- Nothing is alike about two answers. -/
abbrev Unlike (_ : β) (_ : β') : Prop := True

theorem Abreast.forget {first : Traced s β} {second : Traced s' β'}
    (abreast : Abreast related alike first second) : Abreast related Unlike first second :=
  fun here there met => ⟨trivial, (abreast here there met).2⟩

theorem abreast_pure {value : β} {other : β'} (same : alike value other) :
    Abreast related alike (pure value) (pure other) := by
  intro here there met
  rw [after_pure, after_pure]
  exact ⟨same, met⟩

theorem abreast_bind {kin : δ → δ' → Prop} {first : Traced s β} {second : Traced s' β'}
    {next : β → Traced s δ} {counterpart : β' → Traced s' δ'}
    (before : Abreast related alike first second)
    (after : ∀ value other, alike value other →
      Abreast related kin (next value) (counterpart other)) :
    Abreast related kin (first >>= next) (second >>= counterpart) := by
  intro here there met
  obtain ⟨same, abreast⟩ := before here there met
  rw [after_bind, after_bind]
  exact after _ _ same _ _ abreast

theorem abreast_read {reading : s → β} {counterpart : s' → β'}
    (shown : ∀ here there, related here there → alike (reading here.state) (counterpart there.state)) :
    Abreast related alike (read reading) (read counterpart) := by
  intro here there met
  refine ⟨shown here there met, ?_⟩
  simpa [Outcome.after] using met

/-- Answers that nobody looks at may be dropped. -/
theorem abreast_discard {first : Traced s β} {second : Traced s' β'}
    (abreast : Abreast related alike first second) :
    Abreast related Unlike
      (do
        let _ ← first
        pure () : Traced s Unit)
      (do
        let _ ← second
        pure () : Traced s' Unit) :=
  abreast_bind abreast fun _ _ _ => abreast_pure trivial

theorem abreast_whenever {condition other : Bool} {first : Traced s Unit}
    {second : Traced s' Unit} (same : condition = other)
    (abreast : Abreast related Unlike first second) :
    Abreast related Unlike (whenever condition first) (whenever other second) := by
  subst same
  cases condition with
  | false => exact abreast_pure trivial
  | true => exact abreast

/-- Items that look the same are dealt with side by side. -/
theorem abreast_forAll {ι ι' κ : Type} {look : ι → κ} {look' : ι' → κ} {action : ι → Traced s β}
    {counterpart : ι' → Traced s' β'} {items : List ι} {others : List ι'}
    (same : items.map look = others.map look')
    (abreast : ∀ item ∈ items, ∀ other, look item = look' other →
      Abreast related Unlike (action item) (counterpart other)) :
    Abreast related Unlike (forAll action items) (forAll counterpart others) := by
  induction items generalizing others with
  | nil =>
    obtain rfl : others = [] := List.map_eq_nil_iff.mp same.symm
    exact abreast_pure trivial
  | cons item rest ih =>
    cases others with
    | nil => cases same
    | cons other remaining =>
      obtain ⟨looks, rest_eq⟩ := List.cons.inj same
      have later := ih rest_eq fun item member => abreast item (List.mem_cons_of_mem _ member)
      exact abreast_bind (abreast item List.mem_cons_self other looks) fun _ _ _ =>
        abreast_bind later fun _ _ _ => abreast_pure trivial

theorem abreast_repeated {first : Traced s β} {second : Traced s' β'}
    (abreast : Abreast related Unlike first second) (times : Nat) :
    Abreast related Unlike (repeated first times) (repeated second times) := by
  induction times with
  | zero => exact abreast_pure trivial
  | succ times ih =>
    exact abreast_bind abreast fun _ _ _ => abreast_bind ih fun _ _ _ => abreast_pure trivial

end Traced

end AppLifecycle
