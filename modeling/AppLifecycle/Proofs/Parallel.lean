import AppLifecycle.Proofs.Frame

/-! Two actions on two kinds of state. They are parallel if, from states that are related, they
answer the same, come to states that are related again, and leave the same entries as far as
entries of a kind go. What both do to things that are neither related nor of the kind makes no
difference, so the two may do different work there. -/
namespace AppLifecycle.Traced

variable {s s' t β δ : Type} {related : s → s' → Prop} {kind : Entry → Bool}

/-- Two outcomes are parallel: the answers are the same, the states related, and the entries of
the kind the same. -/
structure Matched (related : s → s' → Prop) (kind : Entry → Bool) (first : Outcome s β)
    (second : Outcome s' β) : Prop where
  value : first.value = second.value
  state : related first.state second.state
  trace : first.trace.filter kind = second.trace.filter kind

/-- From related states the two actions have parallel outcomes. -/
def Parallel (related : s → s' → Prop) (kind : Entry → Bool) (first : Traced s β)
    (second : Traced s' β) : Prop :=
  ∀ here there, related here there → Matched related kind (first.run here) (second.run there)

theorem parallel_pure (value : β) : Parallel related kind (pure value) (pure value) :=
  fun _ _ same => ⟨rfl, same, rfl⟩

theorem parallel_read {reading : s → β} {counterpart : s' → β}
    (shown : ∀ here there, related here there → reading here = counterpart there) :
    Parallel related kind (read reading) (read counterpart) :=
  fun here there same => ⟨shown here there same, same, rfl⟩

theorem parallel_update {change : s → s} {counterpart : s' → s'}
    (kept : ∀ here there, related here there → related (change here) (counterpart there)) :
    Parallel related kind (update change) (update counterpart) :=
  fun here there same => ⟨rfl, kept here there same, rfl⟩

theorem parallel_tell (entry : Entry) : Parallel related kind (tell entry) (tell entry) :=
  fun _ _ same => ⟨rfl, same, rfl⟩

theorem parallel_note (notice : Notice) : Parallel related kind (note notice) (note notice) :=
  parallel_tell _

theorem parallel_bind {first : Traced s β} {second : Traced s' β} {next : β → Traced s δ}
    {counterpart : β → Traced s' δ} (before : Parallel related kind first second)
    (after : ∀ value, Parallel related kind (next value) (counterpart value)) :
    Parallel related kind (first >>= next) (second >>= counterpart) := by
  intro here there same
  obtain ⟨value, state, trace⟩ := before here there same
  have later := after (first.run here).value _ _ state
  rw [run_bind, run_bind, ← value]
  refine ⟨later.value, later.state, ?_⟩
  rw [List.filter_append, List.filter_append, trace, later.trace]

theorem parallel_whenever {condition : Bool} {first : Traced s Unit} {second : Traced s' Unit}
    (parallel : Parallel related kind first second) :
    Parallel related kind (whenever condition first) (whenever condition second) := by
  cases condition with
  | false => exact parallel_pure ()
  | true => exact parallel

/-- Items that cannot be told apart are dealt with in parallel. -/
theorem parallel_forAll {ι ι' κ : Type} {look : ι → κ} {look' : ι' → κ} {action : ι → Traced s β}
    {counterpart : ι' → Traced s' β} {items : List ι} {others : List ι'}
    (same : items.map look = others.map look')
    (parallel : ∀ item other, look item = look' other →
      Parallel related kind (action item) (counterpart other)) :
    Parallel related kind (forAll action items) (forAll counterpart others) := by
  induction items generalizing others with
  | nil =>
    obtain rfl : others = [] := List.map_eq_nil_iff.mp same.symm
    exact parallel_pure []
  | cons item rest ih =>
    cases others with
    | nil => cases same
    | cons other remaining =>
      obtain ⟨alike, rest_eq⟩ := List.cons.inj same
      exact parallel_bind (parallel item other alike) fun _ =>
        parallel_bind (ih rest_eq) fun _ => parallel_pure _

/-- The same items are dealt with in parallel. -/
theorem parallel_each {ι : Type} {action : ι → Traced s β} {counterpart : ι → Traced s' β}
    (parallel : ∀ item, Parallel related kind (action item) (counterpart item)) (items : List ι) :
    Parallel related kind (forAll action items) (forAll counterpart items) := by
  apply parallel_forAll (rfl : items.map id = items.map id)
  rintro item _ rfl
  exact parallel item

theorem parallel_repeated {first : Traced s β} {second : Traced s' β}
    (parallel : Parallel related kind first second) (times : Nat) :
    Parallel related kind (repeated first times) (repeated second times) := by
  induction times with
  | zero => exact parallel_pure []
  | succ times ih => exact parallel_bind parallel fun _ => parallel_bind ih fun _ => parallel_pure _

/-- The same is done to a part that both sides share. -/
theorem parallel_within {part : s → t} {put : t → s → s} {part' : s' → t} {put' : t → s' → s'}
    (shared : ∀ here there, related here there → part here = part' there)
    (kept : ∀ inner here there, related here there → related (put inner here) (put' inner there))
    (action : Traced t β) :
    Parallel related kind (action.within part put) (action.within part' put') := by
  intro here there same
  rw [run_within, run_within, ← shared here there same]
  exact ⟨rfl, kept _ here there same, rfl⟩

/-- What either side does that is neither related nor of the kind. -/
def Apart {η η' : Type} (related : s → s' → Prop) (kind : Entry → Bool) (first : Traced s η)
    (second : Traced s' η') : Prop :=
  ∀ here there, related here there → related (first.run here).state (second.run there).state ∧
    (first.run here).trace.filter kind = [] ∧ (second.run there).trace.filter kind = []

/-- Each side may do work of its own. -/
theorem parallel_of_apart {first : Traced s Unit} {second : Traced s' Unit}
    (apart : Apart related kind first second) : Parallel related kind first second := by
  intro here there same
  obtain ⟨state, silent, silentThere⟩ := apart here there same
  exact ⟨rfl, state, silent.trans silentThere.symm⟩

/-- Each side may do work of its own first, as long as it is not seen. -/
theorem parallel_after {η η' : Type} {first : Traced s η} {second : Traced s' η'}
    {next : η → Traced s δ} {counterpart : η' → Traced s' δ}
    (apart : Apart related kind first second)
    (after : ∀ value other, Parallel related kind (next value) (counterpart other)) :
    Parallel related kind (first >>= next) (second >>= counterpart) := by
  intro here there same
  obtain ⟨state, silent, silentThere⟩ := apart here there same
  have later := after (first.run here).value (second.run there).value _ _ state
  rw [run_bind, run_bind]
  refine ⟨later.value, later.state, ?_⟩
  rw [List.filter_append, List.filter_append, silent, silentThere, later.trace]

/-- What is spared on both sides is not seen. -/
theorem apart_of_spares {ε η η' : Type} {view : s → ε} {view' : s' → ε} {first : Traced s η}
    {second : Traced s' η'} (spared : Spares view kind first)
    (sparedThere : Spares view' kind second) :
    Apart (fun here there => view here = view' there) kind first second := by
  intro here there same
  obtain ⟨kept, silent⟩ := spared here
  obtain ⟨keptThere, silentThere⟩ := sparedThere there
  exact ⟨kept.trans (same.trans keptThere.symm), silent, silentThere⟩

end AppLifecycle.Traced

namespace AppLifecycle.Lifecycle

open Traced

variable {γ σ α τ γ' σ' α' τ' : Type}
  {related : Lifecycle γ σ α τ → Lifecycle γ' σ' α' τ' → Prop} {kind : Entry → Bool}
  (signals : ∀ {β : Type} (action : Traced HostSignals β),
    Parallel related kind (onSignals action) (onSignals action))

include signals

/-- Where both sides share the signals, they raise the same ones in parallel. -/
theorem parallel_notifyAll (kinds : List SignalKind) :
    Parallel related kind (notifyAll kinds) (notifyAll kinds) := by
  apply parallel_bind _ fun _ => parallel_pure ()
  exact parallel_each (fun raised => signals _) kinds

theorem parallel_take (taken : SignalKind) :
    Parallel related kind (take taken) (take taken) :=
  parallel_bind (signals _) fun _ =>
    parallel_bind (parallel_whenever (parallel_tell _)) fun _ => parallel_pure _

end AppLifecycle.Lifecycle
