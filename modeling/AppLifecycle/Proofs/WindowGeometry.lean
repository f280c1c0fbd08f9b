import AppLifecycle.Proofs.KeeperRun

/-! What a window is told over a whole run of its keeper. Each completed restore derives a
geometry from what the window answers; the window is told of it if it is not the one that
the restore before derived. The keeper compares three of five fields with what it remembers.
That is enough because the device follows the surface and a derived rate is positive, so that
nothing derived is what a keeper remembers before its first restore. -/
namespace AppLifecycle

open Traced Trace

variable {γ σ : Type}

namespace Window

/-- A format is handed on if it is positive. -/
def formatOrders : Option PixelFormat → List Call
  | some format => if 0 < format.code then [.setPixelFormat format] else []
  | none => []

/-- What a window answers when it is asked for what its geometry follows from. -/
structure Answers where
  logical : Size
  native : Option Size
  display : Option Display
  format : Option PixelFormat

namespace Answers

/-- The size of the live surface if both of its dimensions are positive, else the window's own. -/
def size (answers : Answers) : Size :=
  match answers.native with
  | some native =>
    if 0 < native.width ∧ 0 < native.height then native else answers.logical
  | none => answers.logical

/-- The geometry that follows: the size, for the surface and the device alike, and the rate of
the display. -/
def geometry (answers : Answers) : Geometry where
  surfaceWidth := answers.size.width
  surfaceHeight := answers.size.height
  deviceWidth := answers.size.width
  deviceHeight := answers.size.height
  refreshRate := Display.refreshRate answers.display

/-- The questions with these answers. -/
def questions (answers : Answers) : List Call :=
  [.logicalSize answers.logical, .nativeSize answers.native, .display answers.display,
    .nativeFormat answers.format]

/-- Everything that a window with these answers is asked and told, of its geometry or not. -/
def calls (answers : Answers) (told : Bool) : List Call :=
  answers.questions ++ formatOrders answers.format ++
    if told then
      [.setResolution answers.geometry.resolution,
        .sendResize ⟨answers.geometry.surfaceWidth, answers.geometry.surfaceHeight⟩]
    else []

theorem size_eq (answers : Answers) :
    answers.size = (answers.native.filter Size.isVisible).getD answers.logical := by
  unfold size
  cases answers.native with
  | none => rfl
  | some native =>
    by_cases visible : 0 < native.width ∧ 0 < native.height <;>
      simp [Size.isVisible, Option.filter, visible]

end Answers

/-- The geometries that follow from what a window answered, oldest first. -/
def geometries : List Call → List Geometry
  | .logicalSize logical :: .nativeSize native :: .display display :: rest =>
    Answers.geometry ⟨logical, native, display, none⟩ :: geometries rest
  | _ :: rest => geometries rest
  | [] => []

/-- One geometry follows from all that one restore asks and tells. -/
theorem geometries_calls (answers : Answers) (told : Bool) (rest : List Call) :
    geometries (answers.calls told ++ rest) = answers.geometry :: geometries rest := by
  obtain ⟨logical, native, display, format⟩ := answers
  cases told <;> cases format with
  | none => rfl
  | some format => by_cases known : 0 < format.code <;>
      simp [Answers.calls, Answers.questions, formatOrders, geometries, known] <;> rfl

/-- The calls of one restore after another, with the geometries that follow from them. -/
inductive Dialogue : List Call → List Geometry → Prop where
  | none : Dialogue [] []
  | next {calls : List Call} {derived : List Geometry} (before : Dialogue calls derived)
      (answers : Answers) (told : Bool) :
      Dialogue (calls ++ answers.calls told) (derived ++ [answers.geometry])

variable {calls : List Call} {derived : List Geometry}

theorem Dialogue.geometries_append (dialogue : Dialogue calls derived) (rest : List Call) :
    geometries (calls ++ rest) = derived ++ geometries rest := by
  induction dialogue generalizing rest with
  | none => rfl
  | next before answers told ih =>
    rw [List.append_assoc, ih, geometries_calls, List.append_assoc, List.singleton_append]

end Window

/-- The geometries that followed from what the window answered, oldest first. -/
def Trace.geometries (trace : List Entry) : List Geometry := Window.geometries (windowCalls trace)

namespace Geometry

/-- The device has the size of the surface. -/
def Even (geometry : Geometry) : Prop :=
  geometry.deviceWidth = geometry.surfaceWidth ∧ geometry.deviceHeight = geometry.surfaceHeight

variable {geometry next : Geometry}

theorem changesTo_iff : geometry.changesTo next = true ↔
    geometry.surfaceWidth ≠ next.surfaceWidth ∨ geometry.surfaceHeight ≠ next.surfaceHeight ∨
      geometry.refreshRate ≠ next.refreshRate := by
  simp [changesTo, or_assoc]

/-- Where the devices follow the surfaces, no difference is missed. -/
theorem changesTo_iff_ne (even : geometry.Even) (evenNext : next.Even) :
    geometry.changesTo next = true ↔ geometry ≠ next := by
  obtain ⟨wide, high⟩ := even
  obtain ⟨wideNext, highNext⟩ := evenNext
  rw [changesTo_iff]
  constructor
  · rintro differs rfl
    simp at differs
  · intro distinct
    refine Classical.byContradiction fun same => distinct ?_
    simp only [not_or, Classical.not_not] at same
    obtain ⟨width, height, rate⟩ := same
    cases geometry
    cases next
    simp_all

/-- A keeper that remembers nothing yet is always told something new. -/
theorem changesTo_of_none (answers : Window.Answers) :
    Geometry.changesTo {} answers.geometry = true := by
  have positive := Display.refreshRate_pos answers.display
  refine changesTo_iff.mpr (.inr (.inr fun same => ?_))
  have rate : (0 : Int32) = Display.refreshRate answers.display := same
  rw [← rate] at positive
  exact absurd positive (by decide)

end Geometry

theorem Window.Dialogue.even {calls : List Window.Call} {derived : List Geometry}
    (dialogue : Dialogue calls derived) : ∀ geometry ∈ derived, geometry.Even := by
  induction dialogue with
  | none => simp
  | next before answers told ih =>
    intro geometry member
    rcases List.mem_append.mp member with earlier | last
    · exact ih geometry earlier
    · obtain rfl := List.mem_singleton.mp last
      exact ⟨rfl, rfl⟩

/-- What is remembered is what followed last, and nothing at all before anything did. -/
structure Debounced (trace : List Entry) (now : Keeper γ σ) : Prop where
  dialogue : Window.Dialogue (windowCalls trace) (geometries trace)
  memo : now.geometry = (geometries trace).getLast?.getD {}

namespace Debounced

variable {trace entries : List Entry} {now next : Keeper γ σ}

theorem even (debounced : Debounced trace now) : now.geometry.Even := by
  rw [debounced.memo]
  cases latest : (geometries trace).getLast? with
  | none => exact ⟨rfl, rfl⟩
  | some geometry => exact debounced.dialogue.even geometry (List.mem_of_getLast? latest)

/-- Where the window is left alone, nothing follows. -/
theorem idle (debounced : Debounced trace now) (silent : windowCalls entries = [])
    (same : next.geometry = now.geometry) : Debounced (trace ++ entries) next := by
  obtain ⟨dialogue, memo⟩ := debounced
  have calls : windowCalls (trace ++ entries) = windowCalls trace := by simp [silent]
  have derived : geometries (trace ++ entries) = geometries trace :=
    congrArg Window.geometries calls
  exact ⟨by rwa [calls, derived], by rw [same, derived, memo]⟩

/-- A geometry is told exactly if it is not the one that followed last. -/
theorem told_iff (debounced : Debounced trace now) (answers : Window.Answers) :
    now.geometry.changesTo answers.geometry = true ↔
      ∀ previous ∈ (geometries trace).getLast?,
        previous.surfaceWidth ≠ answers.geometry.surfaceWidth ∨
          previous.surfaceHeight ≠ answers.geometry.surfaceHeight ∨
            previous.refreshRate ≠ answers.geometry.refreshRate := by
  rw [debounced.memo]
  cases latest : (geometries trace).getLast? with
  | none => simp [Geometry.changesTo_of_none]
  | some previous => simpa using Geometry.changesTo_iff

/-- What the window is not told is what is remembered already. -/
theorem told_or_remembered (debounced : Debounced trace now) (answers : Window.Answers) :
    (if now.geometry.changesTo answers.geometry then answers.geometry else now.geometry) =
      answers.geometry := by
  split
  · rfl
  · rename_i untold
    -- What is remembered and what is derived are both even, so the two device fields agree too.
    rw [Geometry.changesTo_iff_ne debounced.even ⟨rfl, rfl⟩] at untold
    exact Classical.not_not.mp untold

theorem geometries_append (debounced : Debounced trace now) {answers : Window.Answers}
    {told : Bool} (calls : windowCalls entries = answers.calls told) :
    geometries (trace ++ entries) = geometries trace ++ [answers.geometry] := by
  have one := Window.geometries_calls answers told []
  rw [List.append_nil] at one
  unfold Trace.geometries at *
  rw [windowCalls_append, debounced.dialogue.geometries_append, calls, one]
  rfl

/-- One more geometry follows, and is remembered. -/
theorem derive (debounced : Debounced trace now) {answers : Window.Answers} {told : Bool}
    (calls : windowCalls entries = answers.calls told) (memo : next.geometry = answers.geometry) :
    Debounced (trace ++ entries) next := by
  have derived := debounced.geometries_append calls
  constructor
  · rw [derived, windowCalls_append, calls]
    exact debounced.dialogue.next answers told
  · rw [derived, memo, List.getLast?_concat]
    rfl

end Debounced

namespace Keeper

section Window

variable [Window.Layer σ]

private theorem windowCalls_deriveGeometry (keeper : Keeper γ σ) :
    ∃ logical native display,
      (deriveGeometry.run keeper).value =
          Window.Answers.geometry ⟨logical, native, display, none⟩ ∧
        windowCalls (deriveGeometry.run keeper).trace =
          [.logicalSize logical, .nativeSize native, .display display] ∧
        (deriveGeometry.run keeper).state.geometry = keeper.geometry := by
  let logical := Window.Layer.logicalSize keeper.window
  let native := Window.Layer.nativeSize logical.2
  let display := Window.Layer.display native.2
  refine ⟨logical.1, native.1, display.1, ?_, rfl, rfl⟩
  unfold Window.Answers.geometry
  rw [Window.Answers.size_eq]
  rfl

private theorem windowCalls_passFormat (keeper : Keeper γ σ) :
    ∃ format, windowCalls (passFormat.run keeper).trace =
        .nativeFormat format :: Window.formatOrders format ∧
      (passFormat.run keeper).state.geometry = keeper.geometry := by
  let asked := Window.Layer.nativeFormat keeper.window
  refine ⟨asked.1, ?_⟩
  cases answer : asked.1 with
  | none => simp [passFormat, askWindow, run_bind, asked, answer, windowCalls, Window.formatOrders]
  | some format =>
    by_cases known : 0 < format.code <;>
      simp [passFormat, askWindow, tellWindow, run_bind, asked, answer, windowCalls,
        Window.formatOrders, Option.filter, Window.PixelFormat.isKnown, known]

/-- To update a window is to ask it, to hand its format on, and to tell it of a geometry that
is not the remembered one. -/
theorem windowCalls_updateWindow (keeper : Keeper γ σ) : ∃ answers : Window.Answers,
    let told := keeper.geometry.changesTo answers.geometry
    windowCalls (updateWindow.run keeper).trace = answers.calls told ∧
      (updateWindow.run keeper).value = (if told then some answers.geometry.resolution else none) ∧
      (updateWindow.run keeper).state.geometry =
        if told then answers.geometry else keeper.geometry := by
  obtain ⟨logical, native, display, derived, asked, kept⟩ := windowCalls_deriveGeometry keeper
  obtain ⟨format, passed, still⟩ := windowCalls_passFormat (deriveGeometry.run keeper).state
  refine ⟨⟨logical, native, display, format⟩, ?_⟩
  have same : Window.Answers.geometry ⟨logical, native, display, format⟩ =
      (deriveGeometry.run keeper).value := derived.symm
  have noted {notice : Notice} : windowCalls [.notice notice] = [] := rfl
  simp only [same, Window.Answers.calls, Window.Answers.questions]
  cases told : keeper.geometry.changesTo (deriveGeometry.run keeper).value with
  | true =>
    simp [updateWindow, run_bind, still, kept, told, asked, passed]
    simp [tellWindow, windowCalls]
  | false => simp [updateWindow, run_bind, still, kept, told, asked, passed, noted]

end Window

/-- The calls on the window. -/
private def ofWindow : Entry → Bool
  | .window _ => true
  | _ => false

private theorem geometry_apart :
    ApartFromGraphics (Keeper.geometry : Keeper γ σ → Geometry) ofWindow :=
  ⟨fun _ _ => rfl, fun _ _ => rfl, fun _ => rfl⟩

private theorem windowCalls_of_apart {entries : List Entry}
    (spared : entries.filter ofWindow = []) : windowCalls entries = [] :=
  windowCalls_of_spared (fun _ => rfl) spared

section Restore

variable [Graphics.Layer γ] [Window.Layer σ] {keeper : Keeper γ σ}

/-- The window is asked and told in the one piece of a restore that is about it. -/
theorem windowCalls_restore (held : keeper.snapshot.held = true) :
    ∃ (answers : Window.Answers) (restored : Restored),
      let told := keeper.geometry.changesTo answers.geometry
      windowCalls (restore.run keeper).trace = answers.calls told ∧
        (restore.run keeper).state.geometry =
          (if told then answers.geometry else keeper.geometry) ∧
        (restore.run keeper).value = some restored ∧
        restored.resolution = if told then some answers.geometry.resolution else none := by
  obtain ⟨same, attached, told⟩ := spared_before_update geometry_apart (fun _ _ _ => rfl) rfl keeper
  obtain ⟨answers, calls, value, memo⟩ := windowCalls_updateWindow (resetting keeper).state
  rw [same] at calls value memo
  have reinstates : Spares (Keeper.geometry : Keeper γ σ → Geometry) ofWindow
      reinstateSwapInterval := spares_reinstateSwapInterval geometry_apart fun _ _ => rfl
  obtain ⟨kept, reinstated⟩ := reinstates (updating keeper).state
  have noted {notice : Notice} : windowCalls [.notice notice] = [] := rfl
  have updated : windowCalls (updating keeper).trace = _ := calls
  have silent : windowCalls (reinstating keeper).trace = [] := windowCalls_of_apart reinstated
  rw [run_restore_of_held held]
  refine ⟨answers, _, ?_, kept.trans memo, rfl, value⟩
  simp only [windowCalls_append, windowCalls_of_apart attached, windowCalls_of_apart told, updated,
    silent, noted, List.nil_append, List.append_nil]

/-- No other step has to do with the window. -/
theorem window_left_alone {step : Keeper.Step γ σ}
    (other : step = .restore → keeper.snapshot.held = false) :
    windowCalls ((go step).run keeper).trace = [] ∧
      ((go step).run keeper).state.geometry = keeper.geometry := by
  cases step with
  | remember =>
    have spared : Spares (Keeper.geometry : Keeper γ σ → Geometry) ofWindow
        rememberSwapInterval :=
      spares_rememberSwapInterval (fun _ _ => rfl) (fun _ _ => rfl) (fun _ => rfl) fun _ => rfl
    exact ⟨windowCalls_of_apart (spared keeper).2, (spared keeper).1⟩
  | save =>
    have spared : Spares (Keeper.geometry : Keeper γ σ → Geometry) ofWindow (go .save) := by
      apply spares_bind _ fun _ => spares_pure ()
      exact spares_save geometry_apart (fun _ _ _ => rfl) fun _ => rfl
    exact ⟨windowCalls_of_apart (spared keeper).2, (spared keeper).1⟩
  | restore => simp [go, restore_of_none (other rfl), windowCalls]
  | adjust graphics window events => exact ⟨rfl, rfl⟩

theorem debounced_go {past : List Entry} (debounced : Debounced past keeper)
    (step : Keeper.Step γ σ) :
    Debounced (past ++ ((go step).run keeper).trace) ((go step).run keeper).state := by
  by_cases other : step = .restore → keeper.snapshot.held = false
  · obtain ⟨silent, same⟩ := window_left_alone other
    exact debounced.idle silent same
  · simp only [Classical.not_imp, Bool.not_eq_false] at other
    obtain ⟨rfl, held⟩ := other
    obtain ⟨answers, restored, calls, memo, -⟩ := windowCalls_restore held
    rw [debounced.told_or_remembered] at memo
    simpa [go, run_bind] using debounced.derive calls memo

/-- A keeper to which nothing has happened yet. -/
def fresh (graphics : γ) (window : σ) (events : EventQueue) (lock : ContextLock) : Keeper γ σ :=
  { graphics, window, events, lock }

theorem debounced_through (graphics : γ) (window : σ) (events : EventQueue) (lock : ContextLock)
    (steps : List (Keeper.Step γ σ)) :
    let outcome := (through steps).run (fresh graphics window events lock)
    Debounced outcome.trace outcome.state := by
  have before : Debounced [] (fresh graphics window events lock) := ⟨.none, rfl⟩
  have any : ∀ step ∈ steps, (fun _ => True) step := fun _ _ => trivial
  exact through_invariant any before fun past now step debounced _ => debounced_go debounced step

end Restore

end Keeper

variable [Graphics.Layer γ] [Window.Layer σ]

/-- However a keeper is used and whatever its window answers, each completed restore derives one
geometry from the answers and remembers it. The window is told of it, once, exactly if it
differs in width, height or rate from the one derived before or is the first, and of its
format exactly if that is positive; nothing else has to do with the window. Of the
geometries that can come to be remembered, no two differ in another field only. -/
theorem window_is_told_of_every_new_geometry_and_of_no_other (graphics : γ) (window : σ)
    (events : EventQueue) (lock : ContextLock) (steps : List (Keeper.Step γ σ)) :
    let outcome := (Keeper.through steps).run (Keeper.fresh graphics window events lock)
    let restore := Keeper.restore.run outcome.state
    (outcome.state.snapshot.held = true →
      ∃ (answers : Window.Answers) (told : Bool) (restored : Restored),
      windowCalls restore.trace = answers.calls told ∧
      (told = true ↔ ∀ previous ∈ (geometries outcome.trace).getLast?,
        previous.surfaceWidth ≠ answers.geometry.surfaceWidth ∨
          previous.surfaceHeight ≠ answers.geometry.surfaceHeight ∨
            previous.refreshRate ≠ answers.geometry.refreshRate) ∧
      geometries (outcome.trace ++ restore.trace) =
        geometries outcome.trace ++ [answers.geometry] ∧
      restore.state.geometry = answers.geometry ∧
      restore.value = some restored ∧
      restored.resolution = if told then some answers.geometry.resolution else none) ∧
    (∀ step, (step = .restore → outcome.state.snapshot.held = false) →
      windowCalls ((Keeper.go step).run outcome.state).trace = [] ∧
        ((Keeper.go step).run outcome.state).state.geometry = outcome.state.geometry) ∧
    outcome.state.geometry = (geometries outcome.trace).getLast?.getD {} ∧
    ∀ otherGraphics otherWindow otherEvents otherLock otherSteps,
      let other := (Keeper.through otherSteps).run
        (Keeper.fresh (γ := γ) (σ := σ) otherGraphics otherWindow otherEvents otherLock)
      outcome.state.geometry.changesTo other.state.geometry = true ↔
        outcome.state.geometry ≠ other.state.geometry := by
  intro outcome restore
  have debounced : Debounced outcome.trace outcome.state :=
    Keeper.debounced_through graphics window events lock steps
  refine ⟨fun held => ?_, fun step other => Keeper.window_left_alone other, debounced.memo, ?_⟩
  · obtain ⟨answers, restored, calls, memo, value, resolution⟩ := Keeper.windowCalls_restore held
    rw [debounced.told_or_remembered] at memo
    exact ⟨answers, _, restored, calls, debounced.told_iff answers,
      debounced.geometries_append calls, memo, value, resolution⟩
  · intro otherGraphics otherWindow otherEvents otherLock otherSteps other
    have otherDebounced : Debounced other.trace other.state :=
      Keeper.debounced_through otherGraphics otherWindow otherEvents otherLock otherSteps
    exact Geometry.changesTo_iff_ne debounced.even otherDebounced.even

open Rehearsal in
/-- The window is rotated between two restores, and a third is about to come. -/
def Rehearsal.rotation : List (Keeper.Step ScriptedGraphics ScriptedWindow) :=
  [.save, .restore, .adjust id (fun window => { window with native := some ⟨600, 800⟩ }) id,
    .save, .restore, .save]

/-- The window was told of the rotation, and the third restore tells it nothing. -/
theorem rotation_is_told_once :
    let rotated := (Keeper.through Rehearsal.rotation).run
      (Keeper.fresh {} { native := some ⟨800, 600⟩ } .empty {})
    rotated.state.snapshot.held = true ∧
      geometries rotated.trace = [⟨800, 600, 800, 600, 60⟩, ⟨600, 800, 600, 800, 60⟩] ∧
      ∃ answers : Window.Answers, answers.geometry = ⟨600, 800, 600, 800, 60⟩ ∧
        windowCalls (Keeper.restore.run rotated.state).trace = answers.calls false := by
  intro rotated
  have held : rotated.state.snapshot.held = true := by decide
  have derived : geometries rotated.trace =
      [⟨800, 600, 800, 600, 60⟩, ⟨600, 800, 600, 800, 60⟩] := by decide
  have remembered : (Keeper.restore.run rotated.state).state.geometry =
      ⟨600, 800, 600, 800, 60⟩ := by decide
  obtain ⟨restores, -⟩ := window_is_told_of_every_new_geometry_and_of_no_other
    {} { native := some ⟨800, 600⟩ } .empty {} Rehearsal.rotation
  obtain ⟨answers, told, restored, calls, told_iff, -, memo, -⟩ := restores held
  have same : answers.geometry = ⟨600, 800, 600, 800, 60⟩ := memo.symm.trans remembered
  refine ⟨held, derived, answers, same, ?_⟩
  cases told with
  | false => exact calls
  | true =>
    have differs := told_iff.mp rfl ⟨600, 800, 600, 800, 60⟩ (by rw [derived]; rfl)
    simp [same] at differs

end AppLifecycle
