import AppLifecycle.Proofs.Calls

/-! Runs of a keeper on its own. What is asked of it, in any order, and what happens to its
collaborators in between are the steps of such a run. A restore is taken apart here, once,
into the pieces of work that it consists of. -/
namespace AppLifecycle

open Traced

variable {γ σ : Type}

/-- One thing that happens to a keeper. -/
inductive Keeper.Step (γ σ : Type) where
  /-- It is asked to remember the swap interval in effect. -/
  | remember
  | save
  | restore
  /-- Its collaborators change on their own, and others move events. -/
  | adjust (graphics : γ → γ) (window : σ → σ) (events : EventQueue → EventQueue)

/-- Only the queue changes. -/
def Keeper.Step.requeue (events : EventQueue → EventQueue) : Keeper.Step γ σ :=
  .adjust id id events

namespace Trace

/-- The calls on the window, oldest first. -/
def windowCalls (trace : List Entry) : List Window.Call :=
  trace.filterMap fun
    | .window call => some call
    | _ => none

/-- The swap intervals that were set, oldest first, with the answers. -/
def settings (trace : List Entry) : List (Int32 × Except Graphics.Error Unit) :=
  trace.filterMap fun
    | .graphics (.setSwapInterval interval answer) => some (interval, answer)
    | _ => none

@[simp] theorem windowCalls_append (before after : List Entry) :
    windowCalls (before ++ after) = windowCalls before ++ windowCalls after :=
  List.filterMap_append

@[simp] theorem settings_append (before after : List Entry) :
    settings (before ++ after) = settings before ++ settings after :=
  List.filterMap_append

variable {kind : Entry → Bool} {trace : List Entry}

theorem windowCalls_of_spared (calls : ∀ call, kind (.window call) = true)
    (spared : trace.filter kind = []) : windowCalls trace = [] := by
  refine filterMap_of_spared (fun entry other => ?_) spared
  cases entry with
  | window call => exact absurd (calls call) (by simp [other])
  | _ => rfl

theorem settings_of_spared
    (calls : ∀ interval answer, kind (.graphics (.setSwapInterval interval answer)) = true)
    (spared : trace.filter kind = []) : settings trace = [] := by
  refine filterMap_of_spared (fun entry other => ?_) spared
  cases entry with
  | graphics call =>
    cases call with
    | setSwapInterval interval answer => exact absurd (calls interval answer) (by simp [other])
    | _ => rfl
  | _ => rfl

end Trace

namespace Keeper

variable [Graphics.Layer γ] [Window.Layer σ] {keeper : Keeper γ σ}

/-- Goes through one step. -/
def go : Keeper.Step γ σ → Traced (Keeper γ σ) Unit
  | .remember => rememberSwapInterval
  | .save => do
    let _ ← save
    pure ()
  | .restore => do
    let _ ← restore
    pure ()
  | .adjust graphics window events => update fun keeper => { keeper with
      graphics := graphics keeper.graphics
      window := window keeper.window
      events := events keeper.events }

/-- Goes through steps. -/
def through : List (Keeper.Step γ σ) → Traced (Keeper γ σ) Unit
  | [] => pure ()
  | step :: rest => do
    go step
    through rest

@[simp] theorem run_through_nil : (through []).run keeper = ⟨(), keeper, []⟩ := rfl

@[simp] theorem run_through_single (step : Keeper.Step γ σ) :
    (through [step]).run keeper = (go step).run keeper := by
  simp [through]

theorem through_append (first second : List (Keeper.Step γ σ)) :
    through (first ++ second) = (do
      through first
      through second) := by
  induction first with
  | nil => simp [through]
  | cons step rest ih => simp [through, ih]

/-- What holds of a keeper and its past, and is kept by every step of a run, holds after it. -/
theorem through_invariant {property : List Entry → Keeper γ σ → Prop}
    {allowed : Keeper.Step γ σ → Prop} {past : List Entry} {steps : List (Keeper.Step γ σ)}
    (ok : ∀ step ∈ steps, allowed step) (initial : property past keeper)
    (kept : ∀ past now step, property past now → allowed step →
      property (past ++ ((go step).run now).trace) ((go step).run now).state) :
    property (past ++ ((through steps).run keeper).trace) ((through steps).run keeper).state := by
  induction steps generalizing past keeper with
  | nil => simpa using initial
  | cons step rest ih =>
    have first := kept past keeper step initial (ok step List.mem_cons_self)
    have later := ih (fun next member => ok next (List.mem_cons_of_mem _ member)) first
    rw [List.append_assoc] at later
    exact later

/-! The pieces of work of a restore, one after the other. -/

/-- The context is attached, now that the lock is held. -/
def attaching (keeper : Keeper γ σ) : Outcome (Keeper γ σ) Bool :=
  attachSaved.run { keeper with lock := { keeper.lock with held := true } }

/-- The app is told of a reset if there was one. -/
def resetting (keeper : Keeper γ σ) : Outcome (Keeper γ σ) Unit :=
  (whenever (attaching keeper).value (onEvents (EventQueue.send .keeper .renderDeviceReset))).run
    (attaching keeper).state

/-- The window is updated. -/
def updating (keeper : Keeper γ σ) : Outcome (Keeper γ σ) (Option Resolution) :=
  updateWindow.run (resetting keeper).state

/-- The swap interval is set. -/
def reinstating (keeper : Keeper γ σ) : Outcome (Keeper γ σ) Int32 :=
  reinstateSwapInterval.run (updating keeper).state

/-- A restore consists of these four. -/
theorem run_restore_of_held (held : keeper.snapshot.held = true) :
    restore.run keeper =
      ⟨some ⟨(attaching keeper).value, (updating keeper).value, (reinstating keeper).value⟩,
        { (reinstating keeper).state with
          snapshot := {}
          lock := { (reinstating keeper).state.lock with held := false } },
        (attaching keeper).trace ++ ((resetting keeper).trace ++ ((updating keeper).trace ++
          ((reinstating keeper).trace ++
            [.notice (.restored (attaching keeper).value (reinstating keeper).value)])))⟩ := by
  simp [restore, guarded, run_bind, held, attaching, resetting, updating, reinstating]

omit [Window.Layer σ] in
/-- What neither the rendering layer nor the queue shows is as it was when the window is
updated. -/
theorem spared_before_update {ε : Type} {view : Keeper γ σ → ε} {kind : Entry → Bool}
    (apart : ApartFromGraphics view kind)
    (blind : ∀ events lock now, view { now with events, lock } = view now)
    (reset : kind (.pushed .keeper .renderDeviceReset) = false) (keeper : Keeper γ σ) :
    view (resetting keeper).state = view keeper ∧ (attaching keeper).trace.filter kind = [] ∧
      (resetting keeper).trace.filter kind = [] := by
  obtain ⟨attached, silent⟩ := spares_attachSaved apart
    { keeper with lock := { keeper.lock with held := true } }
  have tells : Spares view kind (whenever (attaching keeper).value
      (onEvents (EventQueue.send .keeper .renderDeviceReset))) :=
    spares_tellOfReset (fun events now => blind events now.lock now) reset apart.notices
  obtain ⟨told, silentAfter⟩ := tells (attaching keeper).state
  refine ⟨?_, silent, silentAfter⟩
  calc view (resetting keeper).state
    _ = view (attaching keeper).state := told
    _ = view { keeper with lock := { keeper.lock with held := true } } := attached
    _ = view keeper := blind keeper.events _ keeper

end Keeper

end AppLifecycle
