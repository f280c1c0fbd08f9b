import AppLifecycle.Lifecycle.Host

/-! What raising a signal and using it up do to the two counts. Either operation moves one
count by one and leaves the other alone; using up a signal that is not raised changes
nothing and leaves nothing in the trace. -/
namespace AppLifecycle

open Traced

variable {γ σ α τ : Type}

namespace HostSignals

/-- One count more of one of the signals. -/
def raise (signals : HostSignals) (kind : SignalKind) : HostSignals :=
  signals.set { signals.get kind with count := (signals.get kind).count + 1 } kind

/-- One count less of one of the signals, if there is one. -/
def spend (signals : HostSignals) (kind : SignalKind) : HostSignals :=
  signals.set { signals.get kind with count := (signals.get kind).count - 1 } kind

@[simp] theorem count_raise (signals : HostSignals) (kind other : SignalKind) :
    ((signals.raise kind).get other).count =
      (signals.get other).count + if kind = other then 1 else 0 := by
  cases kind <;> cases other <;> rfl

@[simp] theorem count_spend (signals : HostSignals) (kind other : SignalKind) :
    ((signals.spend kind).get other).count =
      (signals.get other).count - if kind = other then 1 else 0 := by
  cases kind <;> cases other <;> rfl

/-- Raising several signals adds up for each of them. -/
theorem count_raises (kinds : List SignalKind) (signals : HostSignals) (kind : SignalKind) :
    ((kinds.foldl raise signals).get kind).count =
      (signals.get kind).count + kinds.count kind := by
  induction kinds generalizing signals with
  | nil => rfl
  | cons first rest ih =>
    rw [List.foldl_cons, ih, count_raise, List.count_cons, Nat.add_assoc,
      Nat.add_comm (List.count _ _)]
    simp

theorem spend_of_none (signals : HostSignals) (kind : SignalKind)
    (none : (signals.get kind).count = 0) : signals.spend kind = signals := by
  obtain ⟨⟨pauseName, pause⟩, ⟨resumeName, resume⟩⟩ := signals
  cases kind <;> simp_all [spend, get, set]

theorem run_notify (kind : SignalKind) (signals : HostSignals) :
    (notify kind).run signals = ⟨(), signals.raise kind,
      [.raised kind,
        .notice (.signalRaised (signals.get kind).name ((signals.get kind).count + 1))]⟩ := rfl

theorem run_on_tryTake (kind : SignalKind) (signals : HostSignals) :
    (on kind Signal.tryTake).run signals =
      ⟨decide (0 < (signals.get kind).count), signals.spend kind, []⟩ := by
  simp [on, spend]

end HostSignals

namespace Lifecycle

theorem run_onSignals {β : Type} (action : Traced HostSignals β) (lifecycle : Lifecycle γ σ α τ) :
    (onSignals action).run lifecycle = ⟨(action.run lifecycle.signals).value,
      { lifecycle with signals := (action.run lifecycle.signals).state },
      (action.run lifecycle.signals).trace⟩ := rfl

/-- A raised signal is used up, and only then the trace tells of it. -/
theorem run_take (kind : SignalKind) (lifecycle : Lifecycle γ σ α τ) :
    (take kind).run lifecycle =
      ⟨decide (0 < (lifecycle.signals.get kind).count),
        { lifecycle with signals := lifecycle.signals.spend kind },
        if 0 < (lifecycle.signals.get kind).count then [.took kind] else []⟩ := by
  simp only [take, run_onSignals, run_bind, HostSignals.run_on_tryTake, run_pure,
    List.append_nil, List.nil_append]
  by_cases raised : 0 < (lifecycle.signals.get kind).count
  · simp [raised]
  · simp [raised]

theorem run_take_of_none {kind : SignalKind} {lifecycle : Lifecycle γ σ α τ}
    (none : (lifecycle.signals.get kind).count = 0) :
    (take kind).run lifecycle = ⟨false, lifecycle, []⟩ := by
  simp [run_take, none, HostSignals.spend_of_none lifecycle.signals kind none]

end Lifecycle

end AppLifecycle
