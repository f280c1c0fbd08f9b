import AppLifecycle.Proofs.WindowGeometry

/-! The protocol of a keeper. Whatever is asked of it, in any order, a backup is made exactly if
none is held and used up exactly if one is, so that the two come by turns; a call that has
nothing to do changes nothing and calls nobody. What the collaborators answer, a refused
detachment included, has no say in it. -/
namespace AppLifecycle

open Traced

variable {γ σ : Type}

namespace Keeper

/-- What a call on a keeper can achieve. -/
inductive Deed where
  /-- A backup was made. -/
  | saved
  /-- The backup that was held was used up. -/
  | restored
  deriving DecidableEq

/-- What may become of the snapshot, and what is achieved with it. -/
inductive Turned (before after : Snapshot) : Option Deed → Prop where
  | saved (unheld : before.held = false) (held : after.held = true) :
      Turned before after (some .saved)
  | restored (held : before.held = true) (unheld : after.held = false) :
      Turned before after (some .restored)
  | left (same : after = before) : Turned before after none

/-- Backups are made and used up by turns, and one is held if the last was made. -/
def Alternating (deeds : List Deed) (held : Bool) : Prop :=
  ∃ cycles, deeds = (List.replicate cycles [.saved, .restored]).flatten ++
    if held then [.saved] else []

theorem Alternating.turn {deeds : List Deed} {before after : Snapshot} {deed : Option Deed}
    (alternating : Alternating deeds before.held) (turned : Turned before after deed) :
    Alternating (deeds ++ deed.toList) after.held := by
  obtain ⟨cycles, rfl⟩ := alternating
  cases turned with
  | saved unheld held => exact ⟨cycles, by simp [unheld, held]⟩
  | restored held unheld => exact ⟨cycles + 1, by simp [held, unheld, List.replicate_succ']⟩
  | left same => exact ⟨cycles, by simp [same]⟩

/-- The last deed tells whether a backup is held. -/
theorem Alternating.held_iff {deeds : List Deed} {held : Bool}
    (alternating : Alternating deeds held) : held = true ↔ deeds.getLast? = some .saved := by
  obtain ⟨cycles, rfl⟩ := alternating
  cases held with
  | true => simp
  | false =>
    cases cycles with
    | zero => simp
    | succ cycles => simp [List.replicate_succ']

variable [Graphics.Layer γ]

/-- To make a backup has to do with neither the geometry nor the swap interval. -/
theorem save_keeps_memos (keeper : Keeper γ σ) :
    (save.run keeper).state.geometry = keeper.geometry ∧
      (save.run keeper).state.swapInterval = keeper.swapInterval := by
  have kept : Keeps (fun now : Keeper γ σ => (now.geometry, now.swapInterval)) save :=
    spares_save ⟨fun _ _ => rfl, fun _ _ => rfl, fun _ => rfl⟩ (fun _ _ _ => rfl) fun _ => rfl
  exact Prod.mk.inj (kept keeper).1

/-- A backup is made exactly if none is held. -/
theorem save_value (keeper : Keeper γ σ) : (save.run keeper).value = !keeper.snapshot.held := by
  cases held : keeper.snapshot.held <;> simp [save, run_bind, held]

variable [Window.Layer σ]

/-- A backup is used up exactly if one is held. -/
theorem restore_value (keeper : Keeper γ σ) :
    (restore.run keeper).value.isSome = keeper.snapshot.held := by
  cases held : keeper.snapshot.held with
  | true =>
    rw [run_restore_of_held held]
    rfl
  | false =>
    rw [restore_of_none held]
    rfl

/-- Goes through one step and says what it achieved, going by what the call answers. -/
def attempt : Keeper.Step γ σ → Traced (Keeper γ σ) (Option Deed)
  | .save => do
    let made ← save
    pure (if made then some .saved else none)
  | .restore => do
    let done ← restore
    pure (done.map fun _ => .restored)
  | other => do
    go other
    pure none

/-- Goes through steps and collects what they achieved, oldest first. -/
def attempts : List (Keeper.Step γ σ) → Traced (Keeper γ σ) (List Deed)
  | [] => pure []
  | step :: rest => do
    let deed ← attempt step
    let later ← attempts rest
    pure (deed.toList ++ later)

/-- No step does anything to the snapshot but what it achieves. -/
theorem turned_attempt (step : Keeper.Step γ σ) (keeper : Keeper γ σ) :
    Turned keeper.snapshot ((attempt step).run keeper).state.snapshot
      ((attempt step).run keeper).value := by
  cases step with
  | remember => exact .left rfl
  | adjust graphics window events => exact .left rfl
  | save =>
    cases held : keeper.snapshot.held with
    | true =>
      simp only [attempt, run_bind, run_pure, save_of_held held]
      exact .left rfl
    | false =>
      -- Whatever the detachment answers, what was current is held from now on.
      obtain ⟨context, answer, -, saved⟩ := save_of_unheld held
      simp only [attempt, run_bind, run_pure, save_value, held, saved]
      exact .saved held rfl
  | restore =>
    cases held : keeper.snapshot.held with
    | true =>
      simp only [attempt, run_bind, run_pure, run_restore_of_held held]
      exact .restored held rfl
    | false =>
      simp only [attempt, run_bind, run_pure, restore_of_none held]
      exact .left rfl

theorem alternating_attempts (steps : List (Keeper.Step γ σ)) {keeper : Keeper γ σ}
    {past : List Deed} (alternating : Alternating past keeper.snapshot.held) :
    Alternating (past ++ ((attempts steps).run keeper).value)
      ((attempts steps).run keeper).state.snapshot.held := by
  induction steps generalizing keeper past with
  | nil => simpa [attempts] using alternating
  | cons step rest ih =>
    have next := ih (alternating.turn (turned_attempt step keeper))
    simpa [attempts, run_bind] using next

/-- What is held stays the same until it is used up. -/
theorem snapshot_attempts_of_unrestored (steps : List (Keeper.Step γ σ)) {keeper : Keeper γ σ}
    (held : keeper.snapshot.held = true)
    (unrestored : .restored ∉ ((attempts steps).run keeper).value) :
    ((attempts steps).run keeper).state.snapshot = keeper.snapshot := by
  induction steps generalizing keeper with
  | nil => rfl
  | cons step rest ih =>
    have turned := turned_attempt step keeper
    simp only [attempts, run_bind, run_pure, List.mem_append, not_or] at unrestored ⊢
    obtain ⟨now, later⟩ := unrestored
    generalize ((attempt step).run keeper) = outcome at turned now later ⊢
    obtain ⟨deed, next, entries⟩ := outcome
    cases turned with
    | saved unheld _ => simp [held] at unheld
    | restored _ _ => simp at now
    | left same =>
      have still : next.snapshot.held = true := by rw [same, held]
      exact (ih still later).trans same

end Keeper

open Keeper in
/-- However a keeper is used and whatever its collaborators answer, backups are made and used up
by turns, a backup first, and one is held exactly after it was made. A call that achieves
nothing leaves the keeper as it is and calls nobody; what is held stays the same until it is
used up, whatever else is asked; and no backup touches the geometry or the swap interval. -/
theorem backups_and_restores_come_by_turns [Graphics.Layer γ] [Window.Layer σ] (graphics : γ)
    (window : σ) (events : EventQueue) (lock : ContextLock) (steps : List (Keeper.Step γ σ)) :
    let outcome := (attempts steps).run (fresh graphics window events lock)
    let now := outcome.state
    (∃ cycles, outcome.value = (List.replicate cycles [.saved, .restored]).flatten ++
      if now.snapshot.held then [.saved] else []) ∧
    (now.snapshot.held = true ↔ outcome.value.getLast? = some .saved) ∧
    (save.run now).value = !now.snapshot.held ∧
    (restore.run now).value.isSome = now.snapshot.held ∧
    ((save.run now).value = false →
      (save.run now).state = now ∧ (save.run now).trace = [.notice .alreadyBackedUp]) ∧
    ((restore.run now).value = none →
      (restore.run now).state = now ∧ (restore.run now).trace = [.notice .nothingToRestore]) ∧
    (now.snapshot.held = true → ∀ later, .restored ∉ ((attempts later).run now).value →
      ((attempts later).run now).state.snapshot = now.snapshot) ∧
    (save.run now).state.geometry = now.geometry ∧
    (save.run now).state.swapInterval = now.swapInterval := by
  intro outcome now
  have start : Alternating [] (fresh graphics window events lock).snapshot.held := ⟨0, rfl⟩
  have alternating : Alternating outcome.value now.snapshot.held := alternating_attempts steps start
  refine ⟨alternating, alternating.held_iff, save_value now, restore_value now, ?_, ?_, ?_,
    save_keeps_memos now⟩
  · intro refused
    have held : now.snapshot.held = true := by simpa [save_value] using refused
    rw [save_of_held held]
    exact ⟨rfl, rfl⟩
  · intro refused
    have unheld : now.snapshot.held = false := by
      rw [← restore_value now, refused]
      rfl
    rw [restore_of_none unheld]
    exact ⟨rfl, rfl⟩
  · intro held later unrestored
    exact snapshot_attempts_of_unrestored later held unrestored

open Rehearsal in
/-- A restore before any backup, then a backup that cannot detach and is asked for twice. -/
def Rehearsal.insistentBackup : List (Keeper.Step ScriptedGraphics ScriptedWindow) :=
  [.restore, .save, .remember, .save]

/-- A restore before any backup does nothing. The context that was current is saved although it
could not be detached, and asking again does not touch it, whatever is current then. -/
theorem insistent_backup_saves_once :
    let opening := Keeper.fresh { current := some ⟨42⟩, refusesDetach := true }
      ({} : Rehearsal.ScriptedWindow) .empty {}
    let kept := (Keeper.attempts Rehearsal.insistentBackup).run opening
    (Keeper.restore.run opening).value = none ∧
      (Keeper.restore.run opening).trace = [.notice .nothingToRestore] ∧
      kept.value = [.saved] ∧ (Keeper.save.run kept.state).value = false ∧
      (Keeper.save.run kept.state).trace = [.notice .alreadyBackedUp] ∧
      ((Keeper.attempts [.adjust ({ · with current := some ⟨7⟩ }) id id, .save]).run
        kept.state).state.snapshot = { context := some ⟨42⟩, held := true } := by
  intro opening kept
  obtain ⟨-, -, -, -, -, nothing, -⟩ := backups_and_restores_come_by_turns
    opening.graphics opening.window .empty {} []
  obtain ⟨-, -, -, -, idle, -, stays, -⟩ := backups_and_restores_come_by_turns
    opening.graphics opening.window .empty {} Rehearsal.insistentBackup
  have empty : (Keeper.restore.run opening).value = none := by decide
  have deeds : kept.value = [.saved] := by decide
  have refused : (Keeper.save.run kept.state).value = false := by decide
  have held : kept.state.snapshot.held = true := by decide
  have saved : kept.state.snapshot = { context := some ⟨42⟩, held := true } := by decide
  exact ⟨empty, (nothing empty).2, deeds, refused, (idle refused).2,
    (stays held _ (by decide)).trans saved⟩

end AppLifecycle
