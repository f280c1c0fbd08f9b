import AppLifecycle.Proofs.ContextContinuity
import AppLifecycle.Proofs.SwapInterval
import AppLifecycle.Proofs.WindowGeometry

/-! What a restore reports. It goes on whatever is refused on the way, so all that is left of a
refusal is the report. Of the context the report is right: the app is told of a reset, once,
whenever the saved context was not attached again or its resources may be gone. Of the swap
interval it is right as long as one of the intervals that are tried is accepted. -/
namespace AppLifecycle

open Traced Trace

variable {γ σ : Type}

/-- The calls by which a context is attached again, and whether it was. A new context is made only
if it is refused, and is attached only if it could be made. -/
inductive Reattaches (saved : Option Graphics.Context) : Bool → List Graphics.Call → Prop where
  | attached : Reattaches saved true [.makeCurrent saved (.ok ())]
  | remade (error : Graphics.Error) (context : Graphics.Context)
      (answer : Except Graphics.Error Unit) :
      Reattaches saved false
        [.makeCurrent saved (.error error), .createContext (.ok context),
          .makeCurrent (some context) answer]
  | unmade (error failure : Graphics.Error) :
      Reattaches saved false
        [.makeCurrent saved (.error error), .createContext (.error failure)]

namespace Graphics

variable [Layer γ]

/-- The swap interval that a rendering layer calls its own. -/
def interval (graphics : γ) : Int32 := (Layer.swapInterval graphics).1

/-- A context that is accepted is current from then on. Neither to report an error state nor to set
a swap interval has to do with it. -/
structure Faithful (γ : Type) [Layer γ] : Prop where
  attaches : ∀ context (graphics : γ), (Layer.makeCurrent context graphics).1 = .ok () →
    current (Layer.makeCurrent context graphics).2 = context
  setSwapInterval : ∀ interval (graphics : γ),
    current (Layer.setSwapInterval interval graphics).2 = current graphics
  lastStatus : ∀ graphics : γ, current (Layer.lastStatus graphics).2 = current graphics

/-- A swap interval that is accepted is in effect from then on, and one that is refused changes
nothing. -/
structure Settable (γ : Type) [Layer γ] : Prop where
  accepted : ∀ wanted (graphics : γ), (Layer.setSwapInterval wanted graphics).1 = .ok () →
    interval (Layer.setSwapInterval wanted graphics).2 = wanted
  refused : ∀ wanted (graphics : γ) error,
    (Layer.setSwapInterval wanted graphics).1 = .error error →
    interval (Layer.setSwapInterval wanted graphics).2 = interval graphics

end Graphics

def Entry.isPush : Entry → Bool
  | .pushed _ _ => true
  | _ => false

theorem Trace.pushes_of_spared {trace : List Entry} (spared : trace.filter Entry.isPush = []) :
    pushes trace = [] := by
  refine filterMap_of_spared (fun entry other => ?_) spared
  cases entry with
  | pushed origin event => cases other
  | _ => rfl

namespace Keeper

variable [Graphics.Layer γ] {keeper : Keeper γ σ}

/-- A new context is attached only if it could be made. -/
theorem graphicsCalls_recreate (keeper : Keeper γ σ) :
    (∃ failure, graphicsCalls (recreate.run keeper).trace = [.createContext (.error failure)]) ∨
      ∃ context answer, graphicsCalls (recreate.run keeper).trace =
        [.createContext (.ok context), .makeCurrent (some context) answer] := by
  let made := Graphics.Layer.createContext keeper.graphics
  cases created : made.1 with
  | error failure =>
    left
    exact ⟨failure, by simp [recreate, askGraphics, run_bind, graphicsCalls, made, created]⟩
  | ok context =>
    right
    obtain ⟨answer, attached⟩ := graphicsCalls_attach (some context) .newContextNotCurrent
      { keeper with graphics := made.2 }
    have split : (recreate.run keeper).trace = .graphics (.createContext (.ok context)) ::
        ((attach (some context) .newContextNotCurrent).run
          { keeper with graphics := made.2 }).trace := by
      simp [recreate, askGraphics, run_bind, made, created]
    refine ⟨context, answer, ?_⟩
    rw [split, ← List.singleton_append, graphicsCalls_append, attached]
    rfl

/-- To attach what is saved is to try it, to make a new context if it is refused, and to ask for the
error state in any case. -/
theorem reattaches_attachSaved (keeper : Keeper γ σ) :
    ∃ attached calls status, Reattaches keeper.snapshot.context attached calls ∧
      graphicsCalls (attachSaved.run keeper).trace = calls ++ [.lastStatus status] ∧
      (attachSaved.run keeper).value = (!attached || status.needsRebuild) := by
  let first := Graphics.Layer.makeCurrent keeper.snapshot.context keeper.graphics
  cases answer : first.1 with
  | ok _ =>
    let status := (Graphics.Layer.lastStatus first.2).1
    refine ⟨true, _, status, .attached, ?_, ?_⟩
    · cases rebuild : status.needsRebuild <;>
        simp [attachSaved, attach, askGraphics, run_bind, graphicsCalls, first, answer, status,
          rebuild]
    · simp [attachSaved, attach, askGraphics, run_bind, first, answer, status]
  | error error =>
    let refused : Keeper γ σ := { keeper with graphics := first.2 }
    let status := (Graphics.Layer.lastStatus (recreate.run refused).state.graphics).1
    have calls : graphicsCalls (attachSaved.run keeper).trace =
        .makeCurrent keeper.snapshot.context (.error error) ::
          (graphicsCalls (recreate.run refused).trace ++ [.lastStatus status]) := by
      cases rebuild : status.needsRebuild <;>
        simp [attachSaved, attach, askGraphics, run_bind, graphicsCalls, first, answer, status,
          refused, rebuild]
    have value : (attachSaved.run keeper).value = (!false || status.needsRebuild) := by
      simp [attachSaved, attach, askGraphics, run_bind, first, answer]
    rcases graphicsCalls_recreate refused with ⟨failure, made⟩ | ⟨context, retried, made⟩
    · exact ⟨false, _, status, .unmade error failure, by rw [calls, made]; rfl, value⟩
    · exact ⟨false, _, status, .remade error context retried, by rw [calls, made]; rfl, value⟩

/-- A context that is attached again is current, whatever error state is reported. -/
theorem current_attachSaved (faithful : Graphics.Faithful γ) (keeper : Keeper γ σ)
    (unreset : (attachSaved.run keeper).value = false) :
    Graphics.current (attachSaved.run keeper).state.graphics = keeper.snapshot.context := by
  let first := Graphics.Layer.makeCurrent keeper.snapshot.context keeper.graphics
  cases answer : first.1 with
  | ok _ =>
    have reached : (attachSaved.run keeper).state.graphics =
        (Graphics.Layer.lastStatus first.2).2 := by
      cases rebuild : (Graphics.Layer.lastStatus first.2).1.needsRebuild <;>
        simp [attachSaved, attach, askGraphics, run_bind, first, answer, rebuild]
    rw [reached, faithful.lastStatus, faithful.attaches _ _ answer]
  | error error =>
    simp [attachSaved, attach, askGraphics, run_bind, first, answer] at unreset

/-- Only swap intervals are asked for where one is reinstated. -/
theorem graphicsCalls_reinstateSwapInterval (keeper : Keeper γ σ) :
    graphicsCalls (reinstateSwapInterval.run keeper).trace =
      (settings (reinstateSwapInterval.run keeper).trace).map fun setting =>
        .setSwapInterval setting.1 setting.2 := by
  have came := reinstatement keeper
  generalize reinstateSwapInterval.run keeper = outcome at came
  cases came <;> rfl

/-- To set swap intervals attaches and detaches nothing. -/
theorem current_reinstateSwapInterval (faithful : Graphics.Faithful γ) (keeper : Keeper γ σ) :
    Graphics.current (reinstateSwapInterval.run keeper).state.graphics =
      Graphics.current keeper.graphics := by
  have same {wanted : Int32} {before after : γ} {answer : Except Graphics.Error Unit}
      (set : Graphics.Layer.setSwapInterval wanted before = (answer, after)) :
      Graphics.current after = Graphics.current before := by
    simpa [set] using faithful.setSwapInterval wanted before
  have came := reinstatement keeper
  generalize reinstateSwapInterval.run keeper = outcome at came
  cases came with
  | accepted set => exact same set
  | zeroed set zero => exact (same zero).trans (same set)
  | refused set zero => exact (same zero).trans (same set)

/-- What is reported is in effect once something is accepted. Otherwise zero is reported, and what
was in effect still is. -/
theorem interval_reinstateSwapInterval (settable : Graphics.Settable γ) (keeper : Keeper γ σ) :
    let outcome := reinstateSwapInterval.run keeper
    (∃ wanted, (wanted, .ok ()) ∈ settings outcome.trace ∧
        Graphics.interval outcome.state.graphics = outcome.value) ∨
      (∀ wanted, (wanted, .ok ()) ∉ settings outcome.trace) ∧ outcome.value = 0 ∧
        Graphics.interval outcome.state.graphics = Graphics.interval keeper.graphics := by
  intro outcome
  have effect {wanted : Int32} {before after : γ}
      (set : Graphics.Layer.setSwapInterval wanted before = (.ok (), after)) :
      Graphics.interval after = wanted := by
    simpa [set] using settable.accepted wanted before
  have same {wanted : Int32} {before after : γ} {error : Graphics.Error}
      (set : Graphics.Layer.setSwapInterval wanted before = (.error error, after)) :
      Graphics.interval after = Graphics.interval before := by
    simpa [set] using settable.refused wanted before error
  have came : Reinstatement keeper outcome := reinstatement keeper
  generalize outcome = outcome at came
  cases came with
  | accepted set => exact .inl ⟨_, List.mem_singleton_self _, effect set⟩
  | zeroed set zero => exact .inl ⟨0, by simp [settings], effect zero⟩
  | refused set zero =>
    exact .inr ⟨fun wanted => by simp [settings], rfl, (same zero).trans (same set)⟩

section Restore

variable [Window.Layer σ]

/-- Between the context and the swap interval, the rendering layer is left alone. -/
theorem graphics_updating (keeper : Keeper γ σ) :
    (updating keeper).state.graphics = (attaching keeper).state.graphics ∧
      graphicsCalls (resetting keeper).trace = [] ∧ graphicsCalls (updating keeper).trace = [] := by
  have tells : Spares (Keeper.graphics : Keeper γ σ → γ) Entry.isGraphics
      (whenever (attaching keeper).value
        (onEvents (EventQueue.send .keeper .renderDeviceReset))) :=
    spares_tellOfReset (fun _ _ => rfl) rfl fun _ => rfl
  have updates : Spares (Keeper.graphics : Keeper γ σ → γ) Entry.isGraphics updateWindow :=
    spares_updateWindow ⟨fun _ _ => rfl, fun _ => rfl, fun _ => rfl⟩ fun _ _ => rfl
  obtain ⟨same, told⟩ := tells (attaching keeper).state
  obtain ⟨still, updated⟩ := updates (resetting keeper).state
  exact ⟨still.trans same, graphicsCalls_of_spared (fun _ => rfl) told,
    graphicsCalls_of_spared (fun _ => rfl) updated⟩

/-- The calls on the rendering layer in a restore, and whether a reset follows from the answers. -/
theorem graphicsCalls_restore (held : keeper.snapshot.held = true) :
    ∃ attached calls status, Reattaches keeper.snapshot.context attached calls ∧
      graphicsCalls (restore.run keeper).trace = calls ++ .lastStatus status ::
        (settings (restore.run keeper).trace).map (fun setting =>
          .setSwapInterval setting.1 setting.2) ∧
      (attaching keeper).value = (!attached || status.needsRebuild) := by
  obtain ⟨attached, calls, status, reattaches, called, value⟩ :=
    reattaches_attachSaved { keeper with lock := { keeper.lock with held := true } }
  have first : graphicsCalls (attaching keeper).trace = calls ++ [.lastStatus status] := called
  obtain ⟨-, told, updated⟩ := graphics_updating keeper
  have last : graphicsCalls (reinstating keeper).trace = _ :=
    graphicsCalls_reinstateSwapInterval (updating keeper).state
  have noted {notice : Notice} : graphicsCalls [.notice notice] = [] := rfl
  refine ⟨attached, calls, status, reattaches, ?_, value⟩
  rw [settings_restore held, run_restore_of_held held]
  simp only [graphicsCalls_append, first, told, updated, last, noted, List.nil_append,
    List.append_nil, List.append_assoc, List.singleton_append]
  rfl

/-- The app is told of a reset, once, if there is one. -/
theorem pushes_restore (held : keeper.snapshot.held = true) :
    pushes (restore.run keeper).trace =
        (if (attaching keeper).value then [(.keeper, .renderDeviceReset)] else []) ∧
      (restore.run keeper).state.events =
        if (attaching keeper).value then keeper.events.push .renderDeviceReset
        else keeper.events := by
  have apart : ApartFromGraphics (Keeper.events : Keeper γ σ → EventQueue) Entry.isPush :=
    ⟨fun _ _ => rfl, fun _ _ => rfl, fun _ => rfl⟩
  have updates : Spares (Keeper.events : Keeper γ σ → EventQueue) Entry.isPush updateWindow :=
    spares_updateWindow ⟨fun _ _ => rfl, fun _ => rfl, fun _ => rfl⟩ fun _ _ => rfl
  obtain ⟨before, attached⟩ := spares_attachSaved apart
    { keeper with lock := { keeper.lock with held := true } }
  obtain ⟨kept, updated⟩ := updates (resetting keeper).state
  obtain ⟨still, reinstated⟩ :=
    spares_reinstateSwapInterval apart (fun _ _ => rfl) (updating keeper).state
  have silent : pushes (attaching keeper).trace = [] ∧ pushes (updating keeper).trace = [] ∧
      pushes (reinstating keeper).trace = [] :=
    ⟨pushes_of_spared attached, pushes_of_spared updated, pushes_of_spared reinstated⟩
  have queue : (reinstating keeper).state.events = (resetting keeper).state.events :=
    still.trans kept
  have first : (attaching keeper).state.events = keeper.events := before
  have noted {notice : Notice} : pushes [.notice notice] = [] := rfl
  rw [run_restore_of_held held]
  simp only [pushes_append, silent, queue, noted, List.nil_append, List.append_nil, ← first]
  cases reset : (attaching keeper).value with
  | false => simp [resetting, reset, pushes]
  | true =>
    simp [resetting, reset, onEvents, EventQueue.pushes_send]

/-- Without a reset the saved context is current. -/
theorem current_restore (faithful : Graphics.Faithful γ) (held : keeper.snapshot.held = true)
    (unreset : (attaching keeper).value = false) :
    Graphics.current (restore.run keeper).state.graphics = keeper.snapshot.context := by
  obtain ⟨same, -, -⟩ := graphics_updating keeper
  have current : Graphics.current (reinstating keeper).state.graphics = _ :=
    current_reinstateSwapInterval faithful (updating keeper).state
  rw [run_restore_of_held held, current, same]
  exact current_attachSaved faithful _ unreset

end Restore

end Keeper

variable [Graphics.Layer γ] [Window.Layer σ]

/-- A restore goes on whatever is refused, and uses the backup up. The saved context is tried first,
and a new one only if it is refused. The app is told of a reset exactly if it was refused, or if
an error state says that resources may be gone, and never twice. So where an accepted context is
current, the app is told whenever another than the saved one is. -/
theorem reset_is_told_exactly_if_the_context_may_be_lost (keeper : Keeper γ σ)
    (held : keeper.snapshot.held = true) :
    let outcome := Keeper.restore.run keeper
    ∃ (restored : Restored) (attached : Bool) (calls : List Graphics.Call)
      (status : Graphics.Status) (sets : List (Int32 × Except Graphics.Error Unit))
      (answers : Window.Answers),
      outcome.value = some restored ∧
      Reattaches keeper.snapshot.context attached calls ∧
      graphicsCalls outcome.trace = calls ++ .lastStatus status ::
        sets.map (fun setting => .setSwapInterval setting.1 setting.2) ∧
      Reinstates keeper.swapInterval sets ∧
      windowCalls outcome.trace = answers.calls (keeper.geometry.changesTo answers.geometry) ∧
      (restored.deviceReset = true ↔
        attached = false ∨ status = .badAlloc ∨ status = .badMatch) ∧
      pushes outcome.trace =
        (if restored.deviceReset then [(.keeper, .renderDeviceReset)] else []) ∧
      outcome.state.events =
        (if restored.deviceReset then keeper.events.push .renderDeviceReset else keeper.events) ∧
      outcome.state.snapshot = {} ∧
      (Graphics.Faithful γ →
        Graphics.current outcome.state.graphics ≠ keeper.snapshot.context →
        (.keeper, .renderDeviceReset) ∈ pushes outcome.trace) := by
  intro outcome
  obtain ⟨attached, calls, status, reattaches, called, reset⟩ := Keeper.graphicsCalls_restore held
  obtain ⟨answers, -, asked, -⟩ := Keeper.windowCalls_restore held
  obtain ⟨told, queued⟩ := Keeper.pushes_restore held
  have used : outcome.state.snapshot = {} := by
    simp only [outcome, Keeper.run_restore_of_held held]
  have value : outcome.value = some ⟨(Keeper.attaching keeper).value, _, _⟩ :=
    congrArg Outcome.value (Keeper.run_restore_of_held held)
  refine ⟨_, attached, calls, status, settings outcome.trace, answers, value, reattaches, called,
    Keeper.reinstates_restore held, asked, ?_, told, queued, used, fun faithful other => ?_⟩
  · have gone : status.needsRebuild = true ↔ status = .badAlloc ∨ status = .badMatch := by
      cases status <;> simp [Graphics.Status.needsRebuild]
    rw [reset, Bool.or_eq_true, Bool.not_eq_true', gone]
  · cases unreset : (Keeper.attaching keeper).value with
    | false => exact absurd (Keeper.current_restore faithful held unreset) other
    | true => simp [outcome, told, unreset]

namespace Rehearsal

theorem ScriptedGraphics.faithful : Graphics.Faithful ScriptedGraphics where
  attaches context graphics accepted := by
    cases context with
    | none =>
      cases refuses : graphics.refusesDetach <;>
        simp_all [Graphics.Layer.makeCurrent, makeCurrent, Graphics.current,
          Graphics.Layer.currentContext]
    | some wanted =>
      by_cases lost : wanted ∈ graphics.stale <;>
        simp_all [Graphics.Layer.makeCurrent, makeCurrent, Graphics.current,
          Graphics.Layer.currentContext]
  setSwapInterval interval graphics := by
    by_cases refused : interval ∈ graphics.unsupported <;>
      simp [Graphics.Layer.setSwapInterval, setSwapInterval, Graphics.current,
        Graphics.Layer.currentContext, refused]
  lastStatus graphics := by
    obtain ⟨_, _, _, _, _, _, _, statuses⟩ := graphics
    cases statuses <;> rfl

/-- Neither the saved context nor a new one can be attached, and an allocation failed besides. -/
def contextLost : Keeper ScriptedGraphics ScriptedWindow where
  graphics := { stale := [⟨42⟩, ⟨100⟩], statuses := [.badAlloc], unsupported := [1] }
  window := {}
  events := .empty
  snapshot := { context := some ⟨42⟩, held := true }
  swapInterval := 1

end Rehearsal

/-- However much went wrong, the app is told of one reset. -/
theorem lost_context_is_told_once :
    let outcome := Keeper.restore.run Rehearsal.contextLost
    Rehearsal.contextLost.snapshot.held = true ∧ outcome.value.isSome = true ∧
      Graphics.current outcome.state.graphics ≠ some ⟨42⟩ ∧
      pushes outcome.trace = [(.keeper, .renderDeviceReset)] := by
  intro outcome
  obtain ⟨restored, -, -, -, -, -, value, -, -, -, -, -, told, -, -, tells⟩ :=
    reset_is_told_exactly_if_the_context_may_be_lost Rehearsal.contextLost rfl
  have other : Graphics.current outcome.state.graphics ≠ some ⟨42⟩ := by decide
  have once := tells Rehearsal.ScriptedGraphics.faithful other
  have value : outcome.value = some restored := value
  have told : pushes outcome.trace =
    if restored.deviceReset then [(.keeper, .renderDeviceReset)] else [] := told
  refine ⟨rfl, by rw [value]; rfl, other, ?_⟩
  cases reset : restored.deviceReset with
  | false => simp [outcome, told, reset] at once
  | true => simp [told, reset]

/-- Where an accepted swap interval is in effect and a refused one changes nothing, a restore
reports the interval in effect, unless every interval that it tries is refused. It then reports
zero, while what was in effect before still is. -/
theorem reported_interval_is_in_effect_unless_all_are_refused (settable : Graphics.Settable γ)
    (keeper : Keeper γ σ) (held : keeper.snapshot.held = true) :
    let outcome := Keeper.restore.run keeper
    let found := Graphics.interval (Keeper.updating keeper).state.graphics
    let accepted := ∃ wanted, (wanted, .ok ()) ∈ settings outcome.trace
    ∃ restored, outcome.value = some restored ∧
      Reinstates keeper.swapInterval (settings outcome.trace) ∧
      (Graphics.interval outcome.state.graphics = restored.swapInterval ↔
        accepted ∨ found = 0) ∧
      (¬ accepted →
        restored.swapInterval = 0 ∧ Graphics.interval outcome.state.graphics = found) := by
  intro outcome found accepted
  have ran := Keeper.run_restore_of_held held
  have value : outcome.value = some ⟨_, _, (Keeper.reinstating keeper).value⟩ :=
    congrArg Outcome.value ran
  have reached : outcome.state.graphics = (Keeper.reinstating keeper).state.graphics :=
    congrArg (fun outcome => outcome.state.graphics) ran
  have sets : settings outcome.trace = settings (Keeper.reinstating keeper).trace :=
    Keeper.settings_restore held
  refine ⟨_, value, Keeper.reinstates_restore held, ?_⟩
  rw [reached]
  simp only [accepted, sets]
  rcases Keeper.interval_reinstateSwapInterval settable (Keeper.updating keeper).state with
    ⟨wanted, member, effect⟩ | ⟨none, zero, effect⟩
  · exact ⟨⟨fun _ => .inl ⟨wanted, member⟩, fun _ => effect⟩,
      fun refused => absurd ⟨wanted, member⟩ refused⟩
  · have unaccepted : ¬ ∃ wanted, (wanted, .ok ()) ∈ settings (Keeper.reinstating keeper).trace :=
      fun ⟨wanted, member⟩ => none wanted member
    have zero : (Keeper.reinstating keeper).value = 0 := zero
    have effect : Graphics.interval (Keeper.reinstating keeper).state.graphics = found := effect
    refine ⟨?_, fun _ => ⟨zero, effect⟩⟩
    rw [effect, zero]
    exact ⟨.inr, fun either => either.resolve_left unaccepted⟩

namespace Rehearsal

theorem ScriptedGraphics.settable : Graphics.Settable ScriptedGraphics where
  accepted wanted graphics accepted := by
    by_cases refused : wanted ∈ graphics.unsupported <;>
      simp_all [Graphics.Layer.setSwapInterval, setSwapInterval, Graphics.interval,
        Graphics.Layer.swapInterval]
  refused wanted graphics error refused := by
    by_cases unsupported : wanted ∈ graphics.unsupported <;>
      simp_all [Graphics.Layer.setSwapInterval, setSwapInterval, Graphics.interval,
        Graphics.Layer.swapInterval]

/-- The rendering layer waits for the display and cannot be told to do anything else. -/
def vsyncForced : Keeper ScriptedGraphics ScriptedWindow where
  graphics := { swapInterval := 1, unsupported := [1, 0] }
  window := {}
  events := .empty
  snapshot := { context := some ⟨42⟩, held := true }
  swapInterval := 1

end Rehearsal

/-- Zero is reported while the interval in effect is one. -/
theorem forced_interval_is_misreported :
    let outcome := Keeper.restore.run Rehearsal.vsyncForced
    Rehearsal.vsyncForced.snapshot.held = true ∧ ∃ restored, outcome.value = some restored ∧
      restored.swapInterval = 0 ∧ Graphics.interval outcome.state.graphics = 1 := by
  intro outcome
  obtain ⟨restored, value, -, -, misreports⟩ :=
    reported_interval_is_in_effect_unless_all_are_refused Rehearsal.ScriptedGraphics.settable
      Rehearsal.vsyncForced rfl
  have refused : ¬ ∃ wanted, (wanted, .ok ()) ∈ settings outcome.trace := by
    have tried : settings outcome.trace =
        [(1, .error (.swapInterval 1)), (0, .error (.swapInterval 0))] := rfl
    simp [tried]
  obtain ⟨zero, effect⟩ := misreports refused
  exact ⟨rfl, restored, value, zero, effect⟩

end AppLifecycle
