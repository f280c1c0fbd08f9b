import AppLifecycle.Proofs.KeeperTasks

/-! Where the context is. If a rendering layer attaches whatever it is given and nobody but the
keeper attaches anything, then the context that was current at the start is current whenever
no backup is held, and is the saved one, with nothing attached, whenever a backup is held.
That is an invariant of every run of a keeper, in whatever order it saves and restores, and
so of every run of a lifecycle. -/
namespace AppLifecycle

open Traced

variable {γ σ α τ : Type}

namespace Graphics

/-- The context that a rendering layer calls current. -/
def current [Layer γ] (graphics : γ) : Option Context := (Layer.currentContext graphics).1

/-- The layer attaches whatever it is given. Nothing else that it is asked attaches or detaches
anything; new contexts aside, it may answer as it likes. -/
structure Compliant (γ : Type) [Layer γ] : Prop where
  accepts : ∀ context (graphics : γ), (Layer.makeCurrent context graphics).1 = .ok ()
  attaches : ∀ context (graphics : γ), current (Layer.makeCurrent context graphics).2 = context
  currentContext : ∀ graphics : γ, current (Layer.currentContext graphics).2 = current graphics
  swapInterval : ∀ graphics : γ, current (Layer.swapInterval graphics).2 = current graphics
  setSwapInterval : ∀ interval (graphics : γ),
    current (Layer.setSwapInterval interval graphics).2 = current graphics
  lastStatus : ∀ graphics : γ, current (Layer.lastStatus graphics).2 = current graphics

end Graphics

variable [Graphics.Layer γ]

/-- Nothing is attached or detached behind the keeper's back. -/
def Move.KeepsContext : Move γ σ α τ → Prop
  | .adjust graphics _ _ _ => ∀ now, Graphics.current (graphics now) = Graphics.current now
  | _ => True

def Keeper.Step.KeepsContext : Keeper.Step γ σ → Prop
  | .adjust graphics _ _ => ∀ now, Graphics.current (graphics now) = Graphics.current now
  | _ => True

/-- The calls that make a new context. -/
def Entry.isCreation : Entry → Bool
  | .graphics (.createContext _) => true
  | _ => false

namespace Keeper

/-- The current context and what is saved. -/
def contexts (keeper : Keeper γ σ) : Option Graphics.Context × Snapshot :=
  (Graphics.current keeper.graphics, keeper.snapshot)

/-- The context that was current at the start is current as long as no backup is held, and is
saved, with nothing attached, as long as one is. -/
structure Continuous (context : Graphics.Context) (trace : List Entry) (now : Keeper γ σ) :
    Prop where
  attached : now.snapshot.held = false → Graphics.current now.graphics = some context
  saved : now.snapshot.held = true →
    Graphics.current now.graphics = none ∧ now.snapshot.context = some context
  uncreated : trace.filter Entry.isCreation = []

theorem Continuous.of_same {context : Graphics.Context} {past trace : List Entry}
    {now next : Keeper γ σ} (continuous : Continuous context past now)
    (same : next.contexts = now.contexts) (uncreated : trace.filter Entry.isCreation = []) :
    Continuous context trace next := by
  obtain ⟨current, snapshot⟩ := Prod.mk.inj same
  refine ⟨fun unheld => ?_, fun held => ?_, uncreated⟩
  · rw [current]
    exact continuous.attached (snapshot ▸ unheld)
  · rw [current, snapshot]
    exact continuous.saved (snapshot ▸ held)

/-- A question that leaves the current context alone. -/
theorem spares_contexts_ask {β : Type} {call : γ → β × γ} {record : β → Graphics.Call}
    (same : ∀ graphics, Graphics.current (call graphics).2 = Graphics.current graphics)
    (other : ∀ answer, Entry.isCreation (.graphics (record answer)) = false) :
    Spares contexts Entry.isCreation (askGraphics (σ := σ) call record) := by
  intro keeper
  constructor
  · exact congrArg (·, keeper.snapshot) (same keeper.graphics)
  · simp [askGraphics, other]

variable (compliant : Graphics.Compliant γ)

include compliant

theorem run_attach_of_compliant (context : Option Graphics.Context)
    (refusal : Graphics.Error → Notice) (keeper : Keeper γ σ) :
    (attach context refusal).run keeper =
      ⟨true, { keeper with graphics := (Graphics.Layer.makeCurrent context keeper.graphics).2 },
        [.graphics (.makeCurrent context (.ok ()))]⟩ := by
  simp [attach, askGraphics, run_bind, compliant.accepts]

theorem spares_contexts_remember :
    Spares (contexts : Keeper γ σ → _) Entry.isCreation rememberSwapInterval := by
  refine spares_bind (spares_contexts_ask compliant.swapInterval fun _ => rfl) fun interval => ?_
  exact spares_bind (spares_update fun _ => rfl) fun _ => spares_note rfl

theorem spares_contexts_reinstate :
    Spares (contexts : Keeper γ σ → _) Entry.isCreation reinstateSwapInterval := by
  have sets (interval : Int32) :
      Spares (contexts : Keeper γ σ → _) Entry.isCreation (setSwapInterval interval) :=
    spares_contexts_ask (compliant.setSwapInterval interval) fun _ => rfl
  refine spares_bind (spares_read _) fun wanted => spares_bind (sets wanted) fun first => ?_
  cases first with
  | ok _ => exact spares_pure wanted
  | error error =>
    refine spares_bind (spares_note rfl) fun _ => spares_bind (sets 0) fun second => ?_
    cases second with
    | ok _ => exact spares_pure 0
    | error error => exact spares_bind (spares_note rfl) fun _ => spares_pure 0

/-- A backup moves the current context into what is saved. -/
theorem contexts_save {keeper : Keeper γ σ} (unheld : keeper.snapshot.held = false) :
    (save.run keeper).state.contexts =
        (none, { context := Graphics.current keeper.graphics, held := true }) ∧
      (save.run keeper).trace.filter Entry.isCreation = [] := by
  constructor
  · simp [save, guarded, run_bind, unheld, run_attach_of_compliant compliant, askGraphics,
      contexts, compliant.attaches]
    rfl
  · simp [save, guarded, run_bind, unheld, run_attach_of_compliant compliant, askGraphics,
      Entry.isCreation]

/-- The saved context is attached, and no other is made. -/
theorem contexts_attachSaved (keeper : Keeper γ σ) :
    (attachSaved.run keeper).state.contexts = (keeper.snapshot.context, keeper.snapshot) ∧
      (attachSaved.run keeper).trace.filter Entry.isCreation = [] := by
  have attached := run_attach_of_compliant compliant keeper.snapshot.context
    .savedContextInvalid keeper
  have asks : Spares (contexts : Keeper γ σ → _) Entry.isCreation (do
      whenever (!true) recreate
      let status ← askGraphics Graphics.Layer.lastStatus .lastStatus
      whenever status.needsRebuild (note (.statusAfterRestore status))
      pure (!true || status.needsRebuild)) := by
    refine spares_bind (spares_pure ()) fun _ => ?_
    refine spares_bind (spares_contexts_ask compliant.lastStatus fun _ => rfl) fun status => ?_
    exact spares_bind (spares_whenever (spares_note rfl)) fun _ => spares_pure _
  obtain ⟨kept, silent⟩ :=
    asks ((attach keeper.snapshot.context .savedContextInvalid).run keeper).state
  unfold attachSaved
  rw [run_bind, run_read, run_bind]
  simp only [attached, List.nil_append] at kept silent ⊢
  constructor
  · rw [kept, contexts, compliant.attaches]
  · rw [List.filter_append, silent]
    rfl

/-- A restore moves what is saved back, whatever error states are reported. -/
theorem contexts_restore [Window.Layer σ] {keeper : Keeper γ σ}
    (held : keeper.snapshot.held = true) :
    (restore.run keeper).state.contexts = (keeper.snapshot.context, {}) ∧
      (restore.run keeper).trace.filter Entry.isCreation = [] := by
  have attached : (attaching keeper).state.contexts = (keeper.snapshot.context, keeper.snapshot) ∧
      (attaching keeper).trace.filter Entry.isCreation = [] := contexts_attachSaved compliant _
  have tells : Spares (contexts : Keeper γ σ → _) Entry.isCreation (whenever (attaching keeper).value
      (onEvents (EventQueue.send .keeper .renderDeviceReset))) :=
    spares_tellOfReset (fun _ _ => rfl) rfl fun _ => rfl
  obtain ⟨told, silentReset⟩ := tells (attaching keeper).state
  have updates : Spares (contexts : Keeper γ σ → _) Entry.isCreation updateWindow :=
    spares_updateWindow ⟨fun _ _ => rfl, fun _ => rfl, fun _ => rfl⟩ fun _ _ => rfl
  obtain ⟨updated, silentUpdate⟩ := updates (resetting keeper).state
  obtain ⟨reinstated, silentAfter⟩ := spares_contexts_reinstate compliant (updating keeper).state
  have came : (reinstating keeper).state.contexts = (keeper.snapshot.context, keeper.snapshot) :=
    reinstated.trans (updated.trans (told.trans attached.1))
  rw [run_restore_of_held held]
  constructor
  · exact congrArg (fun moved => (moved.1, ({} : Snapshot))) came
  · have silent : (resetting keeper).trace.filter Entry.isCreation = [] ∧
        (updating keeper).trace.filter Entry.isCreation = [] ∧
        (reinstating keeper).trace.filter Entry.isCreation = [] :=
      ⟨silentReset, silentUpdate, silentAfter⟩
    simp [List.filter_append, attached.2, silent, Entry.isCreation]

theorem continuous_go [Window.Layer σ] {context : Graphics.Context} {past : List Entry}
    {now : Keeper γ σ} (continuous : Continuous context past now) {step : Keeper.Step γ σ}
    (keeps : step.KeepsContext) :
    Continuous context (past ++ ((go step).run now).trace) ((go step).run now).state := by
  have silently (silent : ((go step).run now).trace.filter Entry.isCreation = []) :
      (past ++ ((go step).run now).trace).filter Entry.isCreation = [] := by
    rw [List.filter_append, continuous.uncreated, silent]
    rfl
  cases step with
  | remember =>
    obtain ⟨same, silent⟩ := spares_contexts_remember compliant now
    exact continuous.of_same same (silently silent)
  | save =>
    have ran : ((go .save).run now).trace = (save.run now).trace := List.append_nil _
    cases held : now.snapshot.held with
    | true =>
      -- A return that was skipped has left its backup behind, and it is not replaced.
      have idle := save_of_held held
      refine continuous.of_same ?_ (silently ?_)
      · simp [go, idle]
      · simp [go, idle, Entry.isCreation]
    | false =>
      obtain ⟨moved, silent⟩ := contexts_save compliant held
      obtain ⟨current, snapshot⟩ := Prod.mk.inj moved
      have saved : ((go .save).run now).state.snapshot = _ := snapshot
      refine ⟨fun unheld => ?_, fun _ => ⟨current, ?_⟩, silently (ran ▸ silent)⟩
      · simp [saved] at unheld
      · rw [saved]
        exact continuous.attached held
  | restore =>
    have ran : ((go .restore).run now).trace = (restore.run now).trace := List.append_nil _
    cases held : now.snapshot.held with
    | true =>
      obtain ⟨moved, silent⟩ := contexts_restore compliant held
      obtain ⟨current, snapshot⟩ := Prod.mk.inj moved
      have used : ((go .restore).run now).state.snapshot = {} := snapshot
      refine ⟨fun _ => current.trans (continuous.saved held).2, fun again => ?_,
        silently (ran ▸ silent)⟩
      simp [used] at again
    | false =>
      have idle := restore_of_none held
      refine continuous.of_same ?_ (silently ?_)
      · simp [go, idle]
      · simp [go, idle, Entry.isCreation]
  | adjust graphics window events =>
    have same : ((go (.adjust graphics window events)).run now).state.contexts = now.contexts :=
      congrArg (·, now.snapshot) (keeps now.graphics)
    exact continuous.of_same same (silently rfl)

end Keeper

/-- A keeper's tasks attach and detach nothing behind its back. -/
theorem Stage.tasks_keep_context {stage : Stage γ σ α τ} {now : Lifecycle γ σ α τ}
    (moves : ∀ move ∈ stage.moves, move.KeepsContext) {step : Keeper.Step γ σ}
    (task : step ∈ stage.tasks now) : step.KeepsContext := by
  have filled (events : EventQueue → EventQueue) :
      (Keeper.Step.requeue events : Keeper.Step γ σ).KeepsContext := fun _ => rfl
  cases stage with
  | move deed =>
    obtain rfl := List.mem_singleton.mp task
    have kept := moves deed List.mem_cons_self
    cases deed with
    | adjust graphics window audio textInput => exact kept
    | _ => exact filled _
  | look host =>
    simp only [tasks] at task
    split at task
    · rcases List.mem_cons.mp task with rfl | last
      · trivial
      · obtain rfl := List.mem_singleton.mp last
        exact filled _
    · cases task
  | carryOut mode =>
    simp only [tasks] at task
    split at task
    · cases task
    · obtain rfl := List.mem_singleton.mp task
      trivial
  | comeBack mode =>
    rcases List.mem_cons.mp task with rfl | last
    · exact filled _
    · split at last
      · obtain rfl := List.mem_singleton.mp last
        trivial
      · cases last
  | remark entry => cases task
  | recover => cases task

variable [Window.Layer σ] [TextInput τ]

/-- Over a rendering layer that attaches whatever it is given, and that nobody else attaches
anything to, a run never loses the context: unless a backup is held, the context that was
current at the start is current, and while a backup is held, nothing is and the backup is of
that context. So no other context is ever made. -/
theorem context_is_current_or_saved_throughout (config : Config) (keeper : Keeper γ σ)
    (outputs : List (Audio.Output α)) (audio : α) (textInput : Option τ) (run : Run γ σ α τ)
    (context : Graphics.Context) (compliant : Graphics.Compliant γ)
    (attached : Graphics.current keeper.graphics = some context)
    (unsaved : keeper.snapshot = {}) (moves : ∀ move ∈ run.moves, move.KeepsContext) :
    let outcome := (Lifecycle.play run).run (Lifecycle.fresh config keeper outputs audio textInput)
    let now := outcome.state.keeper
    (now.snapshot.held = false → Graphics.current now.graphics = some context) ∧
    (now.snapshot.held = true →
      Graphics.current now.graphics = none ∧ now.snapshot.context = some context) ∧
    ∀ answer, .graphics (.createContext answer) ∉ outcome.trace := by
  intro outcome now
  let start := Lifecycle.fresh config keeper outputs audio textInput
  have course : Course run.Has start outcome.trace outcome.state := Lifecycle.unfolds_play run
  obtain ⟨steps, employed, tasks⟩ := course.employed
  have kept : ∀ step ∈ steps, step.KeepsContext := by
    intro step member
    obtain ⟨stage, there, ⟨among, member, moved, -⟩, task⟩ := tasks step member
    apply Stage.tasks_keep_context _ task
    intro move moving
    exact moves move (List.mem_flatMap.mpr ⟨among, member, moved move moving⟩)
  have before : Keeper.Continuous context [] keeper := by
    refine ⟨fun _ => attached, fun held => ?_, rfl⟩
    simp [unsaved] at held
  have after := Keeper.through_invariant kept before fun past there step continuous keeps =>
    Keeper.continuous_go compliant continuous keeps
  have same : now = ((Keeper.through steps).run keeper).state := employed.finish_eq
  rw [same]
  refine ⟨after.attached, after.saved, fun answer member => ?_⟩
  have left : .graphics (.createContext answer) ∈ ((Keeper.through steps).run keeper).trace :=
    employed.mem_iff rfl |>.mp member
  have none := List.filter_eq_nil_iff.mp after.uncreated _ left
  exact none rfl

namespace Rehearsal

/-- A rendering layer that attaches whatever it is given. It refuses every swap interval and
keeps reporting that resources have to be rebuilt. -/
structure WillingGraphics where
  current : Option Graphics.Context

instance : Graphics.Layer WillingGraphics where
  currentContext graphics := (graphics.current, graphics)
  makeCurrent context _ := (.ok (), ⟨context⟩)
  createContext graphics := (.error (.createContext "not asked for"), graphics)
  swapInterval graphics := (1, graphics)
  setSwapInterval interval graphics := (.error (.swapInterval interval), graphics)
  lastStatus graphics := (.badAlloc, graphics)

theorem WillingGraphics.compliant : Graphics.Compliant WillingGraphics :=
  ⟨fun _ _ => rfl, fun _ _ => rfl, fun _ => rfl, fun _ => rfl, fun _ _ => rfl, fun _ => rfl⟩

/-- The app is about to quit when its first pause ends, changes its mind and is sent to the
background once more. -/
def quitWithdrawn : Run WillingGraphics ScriptedWindow Scripts ScriptedText where
  steps := [.around (.notify .pause 1), .ticking {}, .around .drain, .ticking {}, .ticking {},
    .around (.push .quit 1), .around (.notify .resume 1), .ticking {}, .around .drain,
    .around (.notify .pause 1), .ticking {}, .around .drain, .ticking {}, .ticking {}]

end Rehearsal

/-- The backup of the first pause outlives the second, and is of the context still. -/
theorem context_outlives_a_skipped_restore :
    let now := ((Lifecycle.play Rehearsal.quitWithdrawn).run
      (Lifecycle.fresh {} ⟨⟨some ⟨42⟩⟩, {}, .empty, {}, {}, {}, 0⟩ [] [] none)).state.keeper
    now.snapshot.held = true ∧ Graphics.current now.graphics = none ∧
      now.snapshot.context = some ⟨42⟩ := by
  intro now
  have moves : ∀ move ∈ Rehearsal.quitWithdrawn.moves, move.KeepsContext := by
    intro move member
    simp [Rehearsal.quitWithdrawn, Run.moves, Run.allSteps, Step.moves, HostActivity.moves]
      at member
    rcases member with rfl | rfl | rfl | rfl | rfl | rfl | rfl <;> trivial
  obtain ⟨-, saved, -⟩ := context_is_current_or_saved_throughout {}
    ⟨⟨some ⟨42⟩⟩, {}, .empty, {}, {}, {}, 0⟩ [] [] none Rehearsal.quitWithdrawn ⟨42⟩
    Rehearsal.WillingGraphics.compliant rfl rfl moves
  have held : now.snapshot.held = true := by decide
  exact ⟨held, saved held⟩

end AppLifecycle
