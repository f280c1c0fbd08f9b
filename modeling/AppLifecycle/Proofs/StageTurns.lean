import AppLifecycle.Proofs.Collaborators
import AppLifecycle.Proofs.Standing

/-! Every stage turns the standing in the known ways. The work on collaborators drops out;
what is left of a stage is its effect on the queue, the signals, the phase and the
backup, and one lemma says it for each operation. -/
namespace AppLifecycle

open Traced

variable {γ σ α τ : Type} {allowed : Move γ σ α τ → Prop}

theorem EventQueue.turns_send (origin : Origin) (event : Event) (queue : EventQueue) :
    ((EventQueue.send origin event).run queue).trace.filter Entry.isTurn =
      [.pushed origin event] := by
  cases queue <;> rfl

theorem EventQueue.count_pushAll_of_not_mem {event : Event} {events : List Event}
    (absent : event ∉ events) (queue : EventQueue) :
    (queue.pushAll events).count event = queue.count event := by
  induction events generalizing queue with
  | nil => rfl
  | cons first rest ih =>
    simp only [List.mem_cons, not_or] at absent
    have pushed : (queue.push first).count event = queue.count event := by
      cases queue with
      | discarding => rfl
      | storing queued =>
        simp [EventQueue.count, EventQueue.toList, EventQueue.push, Ne.symm absent.1]
    exact (ih absent.2 _).trans pushed

theorem EventQueue.has_pushAll_of_not_mem {event : Event} {events : List Event}
    (absent : event ∉ events) (queue : EventQueue) :
    (queue.pushAll events).has event = queue.has event := by
  simp [EventQueue.has, EventQueue.count_pushAll_of_not_mem absent]

namespace Keeper

private theorem apart_from_graphics :
    ApartFromGraphics (holding : Keeper γ σ → EventQueue × Bool) Entry.isTurn :=
  ⟨fun _ _ => rfl, fun _ _ => rfl, fun _ => rfl⟩

private theorem apart_from_window :
    ApartFromWindow (holding : Keeper γ σ → EventQueue × Bool) Entry.isTurn :=
  ⟨fun _ _ => rfl, fun _ => rfl, fun _ => rfl⟩

variable [Graphics.Layer γ]

theorem spares_holding_rememberSwapInterval :
    Spares (holding : Keeper γ σ → EventQueue × Bool) Entry.isTurn rememberSwapInterval :=
  spares_rememberSwapInterval (fun _ _ => rfl) (fun _ _ => rfl) (fun _ => rfl) fun _ => rfl

/-- After a save a backup is held, whether or not one was held before. -/
theorem holding_save (keeper : Keeper γ σ) :
    (save.run keeper).state.holding = (keeper.events, true) ∧
      (save.run keeper).trace.filter Entry.isTurn = [] := by
  cases held : keeper.snapshot.held with
  | true => simp [save, run_bind, held, holding, Entry.isTurn]
  | false =>
    let locked : Keeper γ σ := { keeper with lock := { keeper.lock with held := true } }
    have asks : Spares holding Entry.isTurn
        (askGraphics (σ := σ) (Graphics.Layer.currentContext (γ := γ)) .currentContext) :=
      spares_askGraphics apart_from_graphics _ fun _ => rfl
    have asked := asks locked
    have detached := spares_attach apart_from_graphics none .detachFailed
      ((askGraphics Graphics.Layer.currentContext .currentContext).run locked).state
    have events := congrArg Prod.fst (detached.1.trans asked.1)
    simp only [holding] at events
    simp [save, guarded, run_bind, held, holding, asked.2, detached.2, events, locked, Entry.isTurn]

theorem restore_of_none [Window.Layer σ] {keeper : Keeper γ σ}
    (none : keeper.snapshot.held = false) :
    restore.run keeper = ⟨Option.none, keeper, [.notice .nothingToRestore]⟩ := by
  simp [restore, run_bind, none]

omit [Graphics.Layer γ] in
/-- Telling the app of a reset changes the queue and nothing else. -/
private theorem holding_send (keeper : Keeper γ σ) (reset : Bool) :
    let told := (whenever reset (onEvents (EventQueue.send .keeper .renderDeviceReset))).run keeper
    told.state.holding =
        (keeper.events.pushAll (if reset then [.renderDeviceReset] else []), keeper.snapshot.held) ∧
      told.trace.filter Entry.isTurn =
        if reset then [.pushed .keeper .renderDeviceReset] else [] := by
  cases reset with
  | false => exact ⟨rfl, rfl⟩
  | true => exact ⟨by simp [onEvents, holding, EventQueue.pushAll], EventQueue.turns_send _ _ _⟩

/-- A restore uses the backup up. The app is told of it at most once, by a reset. -/
theorem holding_restore [Window.Layer σ] {keeper : Keeper γ σ}
    (held : keeper.snapshot.held = true) :
    ∃ reset : Bool,
      (restore.run keeper).state.holding =
          (keeper.events.pushAll (if reset then [.renderDeviceReset] else []), false) ∧
        (restore.run keeper).trace.filter Entry.isTurn =
          if reset then [.pushed .keeper .renderDeviceReset] else [] := by
  simp only [restore, guarded, run_bind, run_read, run_update, run_note, run_pure, held, ↓reduceIte,
    List.nil_append, List.append_nil]
  generalize locked_eq : ({ keeper with lock := { keeper.lock with held := true } } :
    Keeper γ σ) = locked
  have attached := spares_attachSaved apart_from_graphics locked
  generalize attachSaved.run locked = attachment at attached ⊢
  have told := holding_send attachment.state attachment.value
  generalize (whenever attachment.value (onEvents (EventQueue.send .keeper
    .renderDeviceReset))).run attachment.state = telling at told ⊢
  have updated := spares_updateWindow apart_from_window (fun _ _ => rfl) telling.state
  generalize updateWindow.run telling.state = update at updated ⊢
  have reinstated := spares_reinstateSwapInterval apart_from_graphics (fun _ _ => rfl) update.state
  generalize reinstateSwapInterval.run update.state = reinstatement at reinstated ⊢
  refine ⟨attachment.value, ?_, ?_⟩
  · have events := congrArg Prod.fst ((reinstated.1.trans updated.1).trans told.1)
    have before := congrArg Prod.fst attached.1
    subst locked_eq
    simp only [holding] at events before ⊢
    rw [events, before]
  · simp [List.filter_append, attached.2, told.2, updated.2, reinstated.2, Entry.isTurn]

end Keeper

namespace Lifecycle

theorem spares_standing_onKeeper {β : Type} {action : Traced (Keeper γ σ) β}
    (spared : Spares Keeper.holding Entry.isTurn action) :
    Spares standing Entry.isTurn (onKeeper action : Traced (Lifecycle γ σ α τ) β) := by
  refine spares_onKeeper (fun keeper lifecycle kept => ?_) spared
  simp only [Keeper.holding, Prod.mk.injEq] at kept
  simp [standing, kept]

theorem spares_standing_onAudio {β : Type} {action : List (Audio.Output α) → Traced α β}
    (spared : ∀ outputs, Spares (fun _ => ()) Entry.isTurn (action outputs)) :
    Spares standing Entry.isTurn (onAudio action : Traced (Lifecycle γ σ α τ) β) :=
  spares_onAudio (fun _ _ => rfl) spared

theorem spares_standing_recoverAudio :
    Spares standing Entry.isTurn (recoverAudio : Traced (Lifecycle γ σ α τ) Nat) :=
  spares_standing_onAudio fun outputs =>
    Audio.spares_recoverStalled (fun _ _ => rfl) (fun _ => rfl) outputs

theorem spares_standing_wakeTextInput [TextInput τ] :
    Spares standing Entry.isTurn (wakeTextInput : Traced (Lifecycle γ σ α τ) Unit) :=
  spares_wakeTextInput (fun _ _ => rfl) fun _ => rfl

theorem run_onEvents {β : Type} (action : Traced EventQueue β) (lifecycle : Lifecycle γ σ α τ) :
    (onEvents action).run lifecycle = ⟨(action.run lifecycle.keeper.events).value,
      { lifecycle with keeper := { lifecycle.keeper with
        events := (action.run lifecycle.keeper.events).state } },
      (action.run lifecycle.keeper.events).trace⟩ := rfl

theorem notifyAll_turns (kinds : List SignalKind) (lifecycle : Lifecycle γ σ α τ) :
    ((notifyAll kinds).run lifecycle).state =
        { lifecycle with signals := kinds.foldl HostSignals.raise lifecycle.signals } ∧
      ((notifyAll kinds).run lifecycle).trace.filter Entry.isTurn = kinds.map .raised := by
  induction kinds generalizing lifecycle with
  | nil => exact ⟨rfl, rfl⟩
  | cons kind rest ih =>
    obtain ⟨state, trace⟩ := ih { lifecycle with signals := lifecycle.signals.raise kind }
    simp only [notifyAll, run_bind, run_pure, List.append_nil] at state trace
    simp [notifyAll, forAll, run_bind, run_onSignals, HostSignals.run_notify, state, trace,
      List.filter_cons, Entry.isTurn]

theorem announce_turns (events : List Event) (lifecycle : Lifecycle γ σ α τ) :
    ((announce events).run lifecycle).state = { lifecycle with
        keeper := { lifecycle.keeper with events := lifecycle.keeper.events.pushAll events } } ∧
      ((announce events).run lifecycle).trace.filter Entry.isTurn =
        events.map (.pushed .lifecycle) := by
  induction events generalizing lifecycle with
  | nil => exact ⟨rfl, rfl⟩
  | cons event rest ih =>
    obtain ⟨state, trace⟩ := ih { lifecycle with
      keeper := { lifecycle.keeper with events := lifecycle.keeper.events.push event } }
    simp only [announce, run_bind, run_pure, List.append_nil] at state trace
    simp [announce, forAll, run_bind, run_onEvents, state, trace, EventQueue.turns_send,
      EventQueue.pushAll]

end Lifecycle

theorem Turns.raises {now : Standing} (kinds : List SignalKind)
    (ok : ∀ kind ∈ kinds, ∃ times, allowed (.notify kind times)) :
    Turns allowed now (kinds.map .raised)
      { now with signals := kinds.foldl HostSignals.raise now.signals } := by
  induction kinds generalizing now with
  | nil => exact .rest
  | cons kind rest ih =>
    obtain ⟨times, permitted⟩ := ok kind List.mem_cons_self
    exact (Chain.single (.raised kind times permitted)).trans
      (ih fun later member => ok later (List.mem_cons_of_mem _ member))

theorem Turns.received (now : Standing) :
    Turns allowed now ((EventQueue.receive.run now.events).trace.filter Entry.isTurn)
      { now with events := (EventQueue.receive.run now.events).state } := by
  obtain ⟨external, phase, due, signals, events, held⟩ := now
  cases events with
  | discarding => exact .rest
  | storing events =>
    cases events with
    | nil => exact .rest
    | cons event rest => exact .single (.removed event rest rfl)

theorem Turns.receivedAll (now : Standing) :
    Turns allowed now ((EventQueue.receiveAll.run now.events).trace.filter Entry.isTurn)
      { now with events := (EventQueue.receiveAll.run now.events).state } := by
  obtain ⟨external, phase, due, signals, events, held⟩ := now
  cases events with
  | discarding => exact .rest
  | storing events =>
    induction events with
    | nil => exact .rest
    | cons event rest ih =>
      have removed : Turn allowed ⟨external, phase, due, signals, .storing (event :: rest), held⟩
          [.removed event] ⟨external, phase, due, signals, .storing rest, held⟩ :=
        .removed event rest rfl
      exact (Chain.single removed).trans ih

namespace Lifecycle

variable {start : Lifecycle γ σ α τ}

theorem turning_notifyAll (kinds : List SignalKind)
    (ok : ∀ kind ∈ kinds, ∃ times, allowed (.notify kind times)) :
    Turning allowed (notifyAll kinds) start := by
  obtain ⟨state, trace⟩ := notifyAll_turns kinds start
  unfold Turning
  rw [state, trace]
  exact Turns.raises kinds ok

theorem turning_perform {move : Move γ σ α τ} (ok : allowed move) :
    Turning allowed (perform move) start := by
  cases move with
  | notify kind times =>
    refine turning_bind (turning_notifyAll _ fun other member => ?_) .rest
    exact ⟨times, (List.eq_of_mem_replicate member) ▸ ok⟩
  | take kind =>
    have spent : Turn allowed start.standing [] _ := .spent kind ok
    have turned : Turning allowed (onSignals (HostSignals.on kind Signal.tryTake)) start := by
      unfold Turning
      rw [run_onSignals, HostSignals.run_on_tryTake]
      exact .single spent
    exact turning_bind turned .rest
  | push event times =>
    cases times with
    | zero => exact .rest
    | succ times =>
      refine turning_bind (turning_repeated _ fun now => ?_) .rest
      have pushed : Turn allowed now.standing [.pushed .app event] _ :=
        .pushed event _ ok times.succ_pos
      unfold Turning
      rw [run_onEvents, EventQueue.turns_send, EventQueue.state_send]
      exact .single pushed
  | poll => exact turning_bind (Turns.received start.standing) .rest
  | drain => exact turning_bind (Turns.receivedAll start.standing) .rest
  | adjust graphics window audio textInput => exact .rest

/-- A pause that is pending stays so or is final, as the counts say. -/
theorem turning_settlePause (announced : Bool) (now : Lifecycle γ σ α τ) :
    Turns allowed { now.standing with phase := .pausing }
      (((settlePause announced).run now).trace.filter Entry.isTurn)
      ((settlePause announced).run now).state.standing := by
  by_cases unseen : now.signals.pause.count < now.keeper.events.count .didEnterBackground
  · have pending : ((settlePause announced).run now).state.standing =
        { now.standing with phase := .pausing } := by
      cases announced <;> simp [settlePause, run_bind, unseen, standing]
    have silent : ((settlePause announced).run now).trace.filter Entry.isTurn = [] := by
      cases announced <;> simp [settlePause, run_bind, unseen, Entry.isTurn]
    rw [pending, silent]
    exact .rest
  · have final : ((settlePause announced).run now).state.standing = now.standing.commit := by
      simp [settlePause, run_bind, unseen, standing, Standing.commit]
    have told : ((settlePause announced).run now).trace.filter Entry.isTurn =
        [.milestone .committed] := by
      simp [settlePause, run_bind, unseen, List.filter_cons, Entry.isTurn]
    rw [final, told]
    have committed : Turn allowed { now.standing with phase := .pausing }
        [.milestone .committed] now.standing.commit := .committed rfl (Nat.le_of_not_lt unseen)
    exact .single committed

/-- Unless the context belongs to the embedder, a backup is held afterwards. -/
private theorem save_turns [Graphics.Layer γ] (external : Bool) (now : Lifecycle γ σ α τ)
    {saved : Outcome (Lifecycle γ σ α τ) Unit}
    (ran : (whenever (!external) (do
      let _ ← onKeeper Keeper.save
      pure ())).run now = saved) :
    saved.state.standing = { now.standing with held := now.standing.held || !external } ∧
      saved.trace.filter Entry.isTurn = [] := by
  subst ran
  cases external with
  | true => simp
  | false =>
    obtain ⟨kept, silent⟩ := Keeper.holding_save now.keeper
    simp only [Keeper.holding, Prod.mk.injEq] at kept
    simp [onKeeper, standing, kept, silent]

/-- Carrying a pause out shows in its milestone only. -/
theorem carryOutPause_turns [Graphics.Layer γ] (pauseAudio : Bool) (now : Lifecycle γ σ α τ) :
    ((carryOutPause pauseAudio).run now).state.standing = now.standing.carryOut ∧
      ((carryOutPause pauseAudio).run now).trace.filter Entry.isTurn =
        [.milestone .carriedOut] := by
  unfold carryOutPause
  simp only [run_bind, run_tell, run_read, run_update, List.nil_append, List.append_nil]
  generalize ran : (whenever (!now.config.contextExternal) _).run now = save
  obtain ⟨savedStanding, savedSilent⟩ := save_turns _ _ ran
  have silenced : Spares standing Entry.isTurn (whenever pauseAudio
      (onAudio Audio.silenceAll : Traced (Lifecycle γ σ α τ) Unit)) :=
    spares_whenever (spares_standing_onAudio fun outputs =>
      Audio.spares_silenceAll (fun _ _ => rfl) (fun _ => rfl) outputs)
  obtain ⟨kept, silent⟩ := silenced save.state
  generalize (whenever pauseAudio _).run save.state = silence at kept silent ⊢
  constructor
  · calc
      _ = { silence.state.standing with due := false } := rfl
      _ = now.standing.carryOut := by rw [kept, savedStanding]; rfl
  · simp [List.filter_cons, savedSilent, silent, Entry.isTurn]

theorem turning_carryOutPause [Graphics.Layer γ] {pauseAudio : Bool}
    (paused : start.phase = .paused) (due : start.carryOutDue = true) :
    Turning allowed (carryOutPause pauseAudio) start := by
  obtain ⟨turned, told⟩ := carryOutPause_turns pauseAudio start
  unfold Turning
  rw [told, turned]
  exact .single (.carriedOut paused due)

/-- Up to the count, a pause that is taken is announced and the host raises what it raises. -/
theorem announcement_turns [Graphics.Layer γ] (posts : List SignalKind)
    (taken : Lifecycle γ σ α τ) :
    let remembered := (onKeeper Keeper.rememberSwapInterval).run taken
    let announced := (announce Event.backgroundGroup).run remembered.state
    let posted := (notifyAll posts).run announced.state
    posted.state.standing = { taken.standing with
        signals := posts.foldl HostSignals.raise taken.signals
        events := taken.keeper.events.pushAll Event.backgroundGroup } ∧
      (remembered.trace ++ (announced.trace ++ posted.trace)).filter Entry.isTurn =
        Event.backgroundGroup.map (.pushed .lifecycle) ++ posts.map .raised := by
  intro remembered announced posted
  obtain ⟨kept, silent⟩ := (spares_standing_onKeeper (α := α) (τ := τ)
    Keeper.spares_holding_rememberSwapInterval) taken
  obtain ⟨announcedState, announcedTrace⟩ :=
    announce_turns Event.backgroundGroup remembered.state
  obtain ⟨postedState, postedTrace⟩ := notifyAll_turns posts announced.state
  constructor
  · calc
      posted.state.standing = { remembered.state.standing with
            signals := posts.foldl HostSignals.raise remembered.state.standing.signals
            events := remembered.state.standing.events.pushAll Event.backgroundGroup } := by
          rw [postedState, announcedState]
          rfl
      _ = _ := by
          rw [kept]
          rfl
  · rw [List.filter_append, List.filter_append, silent, announcedTrace, postedTrace]
    rfl

/-- A pause that is taken is announced, and then pending or final. -/
theorem turning_announcement [Graphics.Layer γ] (posts : List SignalKind)
    (ok : ∀ kind ∈ posts, ∃ times, allowed (.notify kind times))
    (running : start.phase = .running) (raised : 0 < start.signals.pause.count) :
    Turning allowed (do
      let taken ← take .pause
      whenever taken do
        onKeeper Keeper.rememberSwapInterval
        announce Event.backgroundGroup
        notifyAll posts
        settlePause true) start := by
  have there : 0 < (start.signals.get .pause).count := raised
  unfold Turning
  simp only [run_bind, run_take, there, decide_true, whenever_true, ↓reduceIte]
  generalize taken_eq : ({ start with signals := start.signals.spend .pause } :
    Lifecycle γ σ α τ) = taken
  obtain ⟨postedState, postedTrace⟩ := announcement_turns posts taken
  generalize (onKeeper Keeper.rememberSwapInterval).run taken = remembered
    at postedState postedTrace ⊢
  generalize (announce Event.backgroundGroup).run remembered.state = announced
    at postedState postedTrace ⊢
  generalize (notifyAll posts).run announced.state = posted at postedState postedTrace ⊢
  have settled : Turns allowed _ _ _ := turning_settlePause true posted.state
  have stands : { posted.state.standing with phase := .pausing } =
      { start.standing.announce with
        signals := posts.foldl HostSignals.raise start.standing.announce.signals } := by
    rw [postedState, ← taken_eq]
    rfl
  rw [stands] at settled
  have taking : Turn allowed start.standing announcing start.standing.announce :=
    .announced running raised
  have turned := ((Chain.single taking).trans (Turns.raises posts ok)).trans settled
  have told : announcing ++ posts.map .raised = .took .pause ::
      (remembered.trace ++ (announced.trace ++ posted.trace)).filter Entry.isTurn := by
    rw [postedTrace]
    rfl
  rw [told] at turned
  simpa [List.filter_cons, Entry.isTurn] using turned

/-- Whether anything is announced, and whether the pause is final at once, only the counts
decide. -/
theorem turning_lookForPause [Graphics.Layer γ] {host : HostActivity γ σ α τ}
    (ok : ∀ move ∈ host.moves, allowed move) (awake : start.phase ≠ .paused) :
    Turning allowed (lookForPause host) start := by
  have beforeTake : ∀ kind ∈ host.beforeTake, ∃ times, allowed (.notify kind times) :=
    fun kind member => ⟨1, ok _ (by simp [HostActivity.moves, member])⟩
  have beforeCount : ∀ kind ∈ host.beforeCount, ∃ times, allowed (.notify kind times) :=
    fun kind member => ⟨1, ok _ (by simp [HostActivity.moves, member])⟩
  refine turning_read ?_
  cases here : start.phase with
  | paused => exact absurd here awake
  | pausing =>
    refine turning_bind (turning_notifyAll _ beforeCount) ?_
    obtain ⟨state, -⟩ := notifyAll_turns host.beforeCount start
    generalize ((notifyAll host.beforeCount).run start).state = now at state ⊢
    have settled : Turns allowed _ _ _ := turning_settlePause false now
    have same : { now.standing with phase := .pausing } = now.standing := by
      rw [state]
      simp [standing, here]
    rwa [same] at settled
  | running =>
    refine turning_bind (turning_notifyAll _ beforeTake) ?_
    obtain ⟨state, -⟩ := notifyAll_turns host.beforeTake start
    generalize ((notifyAll host.beforeTake).run start).state = now at state ⊢
    by_cases raised : 0 < (now.signals.get .pause).count
    · exact turning_announcement _ beforeCount (by rw [state]; exact here) raised
    · unfold Turning
      rw [run_bind, run_take_of_none (Nat.eq_zero_of_not_pos raised)]
      exact .rest

/-- Rendering is brought back, and the backup used up, unless the context belongs to the
embedder or the app is about to quit. -/
theorem restoreContext_turns [Graphics.Layer γ] [Window.Layer σ] (now : Lifecycle γ σ α τ) :
    ∃ reset : Bool, (reset = true → now.standing.held = true ∧ now.standing.restores = true) ∧
      (restoreContext.run now).state.standing = { now.standing with
        events := now.standing.events.pushAll (if reset then [.renderDeviceReset] else [])
        held := now.standing.held && !now.standing.restores } ∧
      (restoreContext.run now).trace.filter Entry.isTurn =
        if reset then [.pushed .keeper .renderDeviceReset] else [] := by
  cases external : now.config.contextExternal with
  | true =>
    refine ⟨false, by simp, ?_, ?_⟩ <;>
      simp [restoreContext, run_bind, external, standing, Standing.restores, EventQueue.pushAll,
        Entry.isTurn]
  | false =>
    cases quitting : now.keeper.events.has .quit with
    | true =>
      refine ⟨false, by simp, ?_, ?_⟩ <;>
        simp [restoreContext, run_bind, external, quitting, standing, Standing.restores,
          EventQueue.pushAll, Entry.isTurn]
    | false =>
      have restores : now.standing.restores = true := by
        simp [Standing.restores, standing, external, quitting]
      cases held : now.keeper.snapshot.held with
      | false =>
        have idle := Keeper.restore_of_none held
        refine ⟨false, by simp, ?_, ?_⟩ <;>
          simp [restoreContext, run_bind, external, quitting, onKeeper, idle, standing,
            EventQueue.pushAll, held, Entry.isTurn]
      | true =>
        obtain ⟨reset, kept, told⟩ := Keeper.holding_restore held
        simp only [Keeper.holding, Prod.mk.injEq] at kept
        refine ⟨reset, fun _ => ⟨held, restores⟩, ?_, ?_⟩
        · rw [restores]
          simp [restoreContext, run_bind, external, quitting, onKeeper, kept, standing]
        · simp [restoreContext, run_bind, external, quitting, onKeeper, told]

section Ending

/-! The pieces of work with which a pause ends, one after the other. -/

/-- The app is told that it is back, once the resume is used up. -/
def telling (start : Lifecycle γ σ α τ) : Outcome (Lifecycle γ σ α τ) Unit :=
  (announce Event.foregroundGroup).run
    { start with signals := start.signals.spend .resume, phase := .running }

/-- Audio is taken up if the round silences it. -/
def hearing (quiets : Bool) (start : Lifecycle γ σ α τ) : Outcome (Lifecycle γ σ α τ) Unit :=
  (whenever quiets (onAudio Audio.takeUpAll)).run start.telling.state

/-- Ahead of the restore, the app is told that it is back and audio is taken up. -/
theorem hearing_turns (quiets : Bool) (start : Lifecycle γ σ α τ) :
    (start.hearing quiets).state.standing = { start.standing with
        phase := .running
        signals := start.signals.spend .resume
        events := start.keeper.events.pushAll Event.foregroundGroup } ∧
      (start.telling.trace ++ (start.hearing quiets).trace).filter Entry.isTurn =
        Event.foregroundGroup.map (.pushed .lifecycle) := by
  obtain ⟨told, toldTrace⟩ := announce_turns Event.foregroundGroup
    ({ start with signals := start.signals.spend .resume, phase := .running } : Lifecycle γ σ α τ)
  have takesUp : Spares standing Entry.isTurn (whenever quiets
      (onAudio Audio.takeUpAll : Traced (Lifecycle γ σ α τ) Unit)) :=
    spares_whenever (spares_standing_onAudio fun outputs =>
      Audio.spares_takeUpAll (fun _ _ => rfl) (fun _ => rfl) outputs)
  obtain ⟨heard, heardTrace⟩ := takesUp start.telling.state
  constructor
  · rw [hearing, heard, telling, told]
    rfl
  · rw [List.filter_append, hearing, heardTrace, telling, toldTrace, List.append_nil]

/-- The foreground group holds no request to quit, so it does not matter that it is queued. -/
theorem restores_hearing (quiets : Bool) (start : Lifecycle γ σ α τ) :
    (start.hearing quiets).state.standing.restores = start.standing.restores := by
  have absent : Event.quit ∉ Event.foregroundGroup := by decide
  rw [(hearing_turns quiets start).1]
  simp [Standing.restores, standing, EventQueue.has_pushAll_of_not_mem absent]

variable [Graphics.Layer γ] [Window.Layer σ]

/-- Rendering comes back. -/
def rendering (quiets : Bool) (start : Lifecycle γ σ α τ) : Outcome (Lifecycle γ σ α τ) Unit :=
  restoreContext.run (start.hearing quiets).state

variable [TextInput τ]

/-- The text input is woken. -/
def waking (quiets : Bool) (start : Lifecycle γ σ α τ) : Outcome (Lifecycle γ σ α τ) Unit :=
  wakeTextInput.run (start.rendering quiets).state

/-- The end of a pause consists of these four. -/
theorem run_comeBack (mode : LoopMode) (raised : 0 < start.signals.resume.count) :
    let quiets := start.config.quietsAudio mode
    (Stage.comeBack mode).act.run start = ⟨(), (start.waking quiets).state,
      .took .resume :: .milestone .ended :: (start.telling.trace ++ ((start.hearing quiets).trace ++
        ((start.rendering quiets).trace ++ ((start.waking quiets).trace ++
          [.notice .enteredForeground]))))⟩ := by
  have there : 0 < (start.signals.get .resume).count := raised
  simp only [Stage.act, endPause, run_bind, run_take, run_read, run_update, run_tell, run_note,
    there, ↓reduceIte, List.nil_append, List.cons_append]
  rfl

/-- The end of a pause shows in the resume that is taken, the milestone and what the app is
told. -/
theorem comeBack_turns (mode : LoopMode) (raised : 0 < start.signals.resume.count) :
    ∃ reset : Bool,
      (reset = true → start.standing.held = true ∧ start.standing.restores = true) ∧
      ((Stage.comeBack mode).act.run start).state.standing = start.standing.comeBack reset ∧
      ((Stage.comeBack mode).act.run start).trace.filter Entry.isTurn = endingEntries reset := by
  rw [run_comeBack mode raised]
  generalize start.config.quietsAudio mode = quiets
  obtain ⟨stands, heardTrace⟩ := hearing_turns quiets start
  obtain ⟨reset, restored, restoredState, restoredTrace⟩ :=
    restoreContext_turns (start.hearing quiets).state
  obtain ⟨wokenState, wokenTrace⟩ := spares_standing_wakeTextInput (start.rendering quiets).state
  have restores := restores_hearing quiets start
  refine ⟨reset, fun happened => ?_, ?_, ?_⟩
  · have cause := restored happened
    rwa [restores, stands] at cause
  · calc (start.waking quiets).state.standing
      _ = (start.rendering quiets).state.standing := wokenState
      _ = start.standing.comeBack reset := by
        rw [rendering, restoredState, restores, stands]
        simp [Standing.comeBack, Standing.farewell, EventQueue.pushAll, standing]
  · have told : endingEntries reset = .took .resume :: .milestone .ended ::
        ((start.telling.trace ++ (start.hearing quiets).trace) ++
          (start.rendering quiets).trace).filter Entry.isTurn := by
      rw [List.filter_append, heardTrace, rendering, restoredTrace]
      rfl
    have woken : (start.waking quiets).trace.filter Entry.isTurn = [] := wokenTrace
    rw [told]
    simp [List.filter_cons, woken, Entry.isTurn]

end Ending

/-- A resume that is taken ends the pause, whichever kind of round takes it. -/
theorem turning_comeBack [Graphics.Layer γ] [Window.Layer σ] [TextInput τ] {mode : LoopMode}
    (paused : start.phase = .paused) (settled : start.carryOutDue = false)
    (raised : 0 < start.signals.resume.count) :
    Turning allowed (Stage.comeBack mode).act start := by
  obtain ⟨reset, restored, turned, told⟩ := comeBack_turns mode raised
  unfold Turning
  rw [turned, told]
  exact .single (.ended reset paused settled raised restored)

end Lifecycle

/-- Whatever a stage does, it turns the standing in the known ways. -/
theorem turning_stage [Graphics.Layer γ] [Window.Layer σ] [TextInput τ]
    {stage : Stage γ σ α τ} {start : Lifecycle γ σ α τ} (ok : ∀ move ∈ stage.moves, allowed move)
    (ready : stage.Ready start) : Turning allowed stage.act start := by
  cases stage with
  | move move =>
    have permits : allowed move := ok move (by simp [Stage.moves])
    exact turning_bind (Lifecycle.turning_perform permits) .rest
  | remark entry =>
    refine turning_of_spares (spares_tell ?_)
    cases entry <;> first | rfl | cases ready
  | look host => exact Lifecycle.turning_lookForPause ok ready
  | carryOut mode => exact turning_read (Lifecycle.turning_carryOutPause ready.1 ready.2)
  | comeBack mode => exact Lifecycle.turning_comeBack ready.1 ready.2.1 ready.2.2
  | recover =>
    apply turning_of_spares
    exact spares_bind Lifecycle.spares_standing_recoverAudio fun _ => spares_pure _

theorem Course.turns [Graphics.Layer γ] [Window.Layer σ] [TextInput τ]
    {permitted : Stage γ σ α τ → Prop} {start finish : Lifecycle γ σ α τ} {trace : List Entry}
    (ok : ∀ stage, permitted stage → ∀ move ∈ stage.moves, allowed move)
    (course : Course permitted start trace finish) :
    Turns allowed start.standing (trace.filter Entry.isTurn) finish.standing := by
  induction course with
  | rest => exact .rest
  | next before last ih =>
    obtain ⟨stage, permits, ready⟩ := last
    rw [List.filter_append]
    exact ih.trans (turning_stage (ok stage permits) ready)

/-- Every run turns the standing in the known ways, by moves of its own only. -/
theorem Lifecycle.play_turns [Graphics.Layer γ] [Window.Layer σ] [TextInput τ]
    (run : Run γ σ α τ) (start : Lifecycle γ σ α τ) (ok : ∀ move ∈ run.moves, allowed move) :
    Turning allowed (play run) start := by
  refine (unfolds_play run).turns fun stage has move member => ok move ?_
  obtain ⟨step, among, moves, -⟩ := has
  exact List.mem_flatMap.mpr ⟨step, among, moves move member⟩

end AppLifecycle
