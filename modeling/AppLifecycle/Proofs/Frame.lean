import AppLifecycle.Lifecycle.Advance

/-! What actions leave alone. An action spares a view of its state and a kind of entry if
the view is the same afterwards and the trace has no entry of the kind. That travels
through every way of putting actions together, so what holds of each call on a
collaborator holds of all that the lifecycle does with it. -/
namespace AppLifecycle.Traced

variable {s t β δ ε : Type} {view : s → ε} {kind : Entry → Bool}

@[simp] theorem run_map (change : β → δ) (action : Traced s β) (state : s) :
    (change <$> action).run state =
      ⟨change (action.run state).value, (action.run state).state, (action.run state).trace⟩ := by
  rw [map_eq_pure_bind, run_bind]
  simp

/-- The action neither changes the view nor leaves an entry of the kind. -/
def Spares (view : s → ε) (kind : Entry → Bool) (action : Traced s β) : Prop :=
  ∀ state, view (action.run state).state = view state ∧ (action.run state).trace.filter kind = []

/-- The action does not change the view, whatever it leaves in the trace. -/
abbrev Keeps (view : s → ε) (action : Traced s β) : Prop := Spares view (fun _ => false) action

theorem spares_pure (value : β) : Spares view kind (pure value) := fun _ => ⟨rfl, rfl⟩

theorem spares_read (reading : s → β) : Spares view kind (read reading) := fun _ => ⟨rfl, rfl⟩

theorem spares_update {change : s → s} (same : ∀ state, view (change state) = view state) :
    Spares view kind (update change) := fun state => ⟨same state, rfl⟩

theorem spares_tell {entry : Entry} (other : kind entry = false) :
    Spares view kind (tell entry) := fun _ => ⟨rfl, by simp [other]⟩

theorem spares_note {notice : Notice} (other : kind (.notice notice) = false) :
    Spares view kind (note notice) := spares_tell other

/-- A question spares a view if asking does not change it. -/
theorem spares_ask {call : s → β × s} {record : β → Entry}
    (same : ∀ state, view (call state).2 = view state)
    (other : ∀ answer, kind (record answer) = false) : Spares view kind (ask call record) :=
  fun state => ⟨same state, by simp [other]⟩

theorem spares_command {call : s → s} {record : Entry}
    (same : ∀ state, view (call state) = view state) (other : kind record = false) :
    Spares view kind (command call record) := fun state => ⟨same state, by simp [other]⟩

theorem spares_bind {first : Traced s β} {next : β → Traced s δ}
    (before : Spares view kind first) (after : ∀ value, Spares view kind (next value)) :
    Spares view kind (first >>= next) := by
  intro state
  obtain ⟨kept, omitted⟩ := before state
  obtain ⟨keptAfter, omittedAfter⟩ := after (first.run state).value (first.run state).state
  rw [run_bind]
  exact ⟨keptAfter.trans kept, by rw [List.filter_append, omitted, omittedAfter, List.append_nil]⟩

theorem spares_whenever {condition : Bool} {action : Traced s Unit}
    (spared : Spares view kind action) : Spares view kind (whenever condition action) := by
  cases condition with
  | false => exact spares_pure ()
  | true => exact spared

theorem spares_forAll {action : t → Traced s β} (items : List t)
    (spared : ∀ item ∈ items, Spares view kind (action item)) :
    Spares view kind (forAll action items) := by
  induction items with
  | nil => exact spares_pure []
  | cons item rest ih =>
    have others := ih fun later member => spared later (List.mem_cons_of_mem _ member)
    exact spares_bind (spared item List.mem_cons_self) fun _ =>
      spares_bind others fun _ => spares_pure _

theorem spares_repeated {action : Traced s β} (spared : Spares view kind action) (times : Nat) :
    Spares view kind (repeated action times) := by
  induction times with
  | zero => exact spares_pure []
  | succ times ih => exact spares_bind spared fun _ => spares_bind ih fun _ => spares_pure _

/-- A part of a state may change freely as long as the view does not look at it. -/
theorem spares_within {part : t → s} {put : s → t → t} {view : t → ε} {action : Traced s β}
    (blind : ∀ inner whole, view (put inner whole) = view whole)
    (omitted : Spares (fun _ => ()) kind action) :
    Spares view kind (action.within part put) :=
  fun whole => ⟨blind _ whole, (omitted (part whole)).2⟩

/-- What happens in one part of a state is not seen by a view of the others. -/
theorem keeps_within {part : t → s} {put : s → t → t} {view : t → ε} {action : Traced s β}
    (blind : ∀ inner whole, view (put inner whole) = view whole) :
    Keeps view (action.within part put) :=
  fun whole => ⟨blind _ whole, List.filter_eq_nil_iff.mpr (by simp)⟩

end AppLifecycle.Traced
