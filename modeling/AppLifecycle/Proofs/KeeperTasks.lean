import AppLifecycle.Proofs.KeeperRun
import AppLifecycle.Proofs.Operations

/-! What a lifecycle has its keeper do. Seen from the keeper, every stage of a run is a short
list of steps that follows from where the lifecycle stands, so a run of a lifecycle is a run
of its keeper, and what holds along every run of a keeper holds in a lifecycle too. -/
namespace AppLifecycle

open Traced

variable {γ σ α τ : Type}

/-- The entries that a keeper leaves, its notices apart. -/
def Entry.isKeepers : Entry → Bool
  | .graphics _ | .window _ | .pushed .keeper _ => true
  | _ => false

/-- What a move does to the keeper. -/
def Move.task : Move γ σ α τ → Keeper.Step γ σ
  | .notify _ _ | .take _ => .requeue id
  | .push event times => .requeue fun events => events.pushAll (List.replicate times event)
  | .poll => .requeue fun events => events.poll.2
  | .drain => .requeue fun events => events.drain.2
  | .adjust graphics window _ _ => .adjust graphics window id

/-- Whether a look takes a pause. -/
def HostActivity.findsPause (host : HostActivity γ σ α τ) (lifecycle : Lifecycle γ σ α τ) : Prop :=
  lifecycle.phase ≠ .pausing ∧
    0 < lifecycle.signals.pause.count + host.beforeTake.count .pause

instance (host : HostActivity γ σ α τ) (lifecycle : Lifecycle γ σ α τ) :
    Decidable (host.findsPause lifecycle) :=
  inferInstanceAs (Decidable (_ ∧ _))

namespace Lifecycle

/-- What a look does once it has taken a pause. -/
def takeUp [Graphics.Layer γ] (posts : List SignalKind) : Traced (Lifecycle γ σ α τ) Unit := do
  onKeeper Keeper.rememberSwapInterval
  announce Event.backgroundGroup
  notifyAll posts
  settlePause true

/-- What a look finds is what was raised, and what the host raises right before it. -/
theorem pauses_before_take (host : HostActivity γ σ α τ) (start : Lifecycle γ σ α τ) :
    (((notifyAll host.beforeTake).run start).state.signals.get .pause).count =
      start.signals.pause.count + host.beforeTake.count .pause := by
  rw [(notifyAll_turns host.beforeTake start).1]
  exact HostSignals.count_raises host.beforeTake start.signals .pause

variable [Graphics.Layer γ] {host : HostActivity γ σ α τ} {start : Lifecycle γ σ α τ}

theorem run_lookForPause_of_pausing (pausing : start.phase = .pausing) :
    (lookForPause host).run start = (do
      notifyAll host.beforeCount
      settlePause false).run start := by
  simp [lookForPause, run_bind, pausing]

private theorem run_lookForPause_of_awake (awake : start.phase ≠ .pausing) :
    (lookForPause host).run start = (do
      notifyAll host.beforeTake
      let taken ← take .pause
      whenever taken (takeUp host.beforeCount)).run start := by
  unfold lookForPause
  rw [run_bind, run_read]
  cases here : start.phase with
  | pausing => exact absurd here awake
  | running => rfl
  | paused => rfl

/-- A look that finds no pause does nothing. -/
theorem run_lookForPause_of_none (awake : start.phase ≠ .pausing)
    (none : ¬ host.findsPause start) :
    (lookForPause host).run start = (notifyAll host.beforeTake).run start := by
  have counted := pauses_before_take host start
  have gone : start.signals.pause.count + host.beforeTake.count .pause = 0 :=
    Nat.eq_zero_of_not_pos fun raised => none ⟨awake, raised⟩
  rw [gone] at counted
  rw [run_lookForPause_of_awake awake, run_bind, run_bind, run_take_of_none counted]
  simp

/-- A look that finds a pause takes it and takes it up. -/
theorem run_lookForPause_of_found (found : host.findsPause start) :
    (lookForPause host).run start = (do
      notifyAll host.beforeTake
      let _ ← take .pause
      takeUp host.beforeCount).run start := by
  obtain ⟨awake, raised⟩ := found
  rw [← pauses_before_take host start] at raised
  rw [run_lookForPause_of_awake awake, run_bind, run_bind, run_bind, run_bind, run_take]
  simp [raised]

end Lifecycle

/-- What the keeper has to do in a stage. -/
def Stage.tasks : Stage γ σ α τ → Lifecycle γ σ α τ → List (Keeper.Step γ σ)
  | .move deed, _ => [deed.task]
  | .look host, lifecycle =>
    if host.findsPause lifecycle then
      [.remember, .requeue fun events => events.pushAll Event.backgroundGroup]
    else []
  | .carryOut _, lifecycle => if lifecycle.config.contextExternal then [] else [.save]
  | .comeBack _, lifecycle =>
    .requeue (fun events => events.pushAll Event.foregroundGroup) ::
      if lifecycle.standing.restores then [.restore] else []
  | .remark _, _ | .recover, _ => []

variable [Graphics.Layer γ] [Window.Layer σ]

/-- The keeper comes out as it would after the given steps, and leaves the same entries. -/
structure Employed (steps : List (Keeper.Step γ σ)) (start : Keeper γ σ) (entries : List Entry)
    (finish : Keeper γ σ) : Prop where
  finish_eq : finish = ((Keeper.through steps).run start).state
  entries_eq : entries.filter Entry.isKeepers =
    ((Keeper.through steps).run start).trace.filter Entry.isKeepers

namespace Employed

variable {first second : List (Keeper.Step γ σ)} {start middle finish : Keeper γ σ}
  {entries later : List Entry}

theorem none (silent : entries.filter Entry.isKeepers = []) : Employed [] start entries start :=
  ⟨rfl, silent⟩

theorem trans (before : Employed first start entries middle)
    (after : Employed second middle later finish) :
    Employed (first ++ second) start (entries ++ later) finish := by
  obtain ⟨rfl, beforeEntries⟩ := before
  obtain ⟨rfl, afterEntries⟩ := after
  constructor
  · rw [Keeper.through_append, run_bind]
  · rw [Keeper.through_append, run_bind, List.filter_append, List.filter_append, beforeEntries,
      afterEntries]

theorem single (step : Keeper.Step γ σ)
    (silent : entries.filter Entry.isKeepers =
      ((Keeper.go step).run start).trace.filter Entry.isKeepers) :
    Employed [step] start entries ((Keeper.go step).run start).state := by
  constructor
  · rw [Keeper.run_through_single]
  · rw [Keeper.run_through_single, silent]

theorem mem_iff (employed : Employed first start entries finish) {entry : Entry}
    (keepers : entry.isKeepers = true) :
    entry ∈ entries ↔ entry ∈ ((Keeper.through first).run start).trace := by
  have same := congrArg (entry ∈ ·) employed.entries_eq
  simpa [List.mem_filter, keepers] using same

end Employed

/-- An action has the keeper do the given steps. -/
def Employs {β : Type} (steps : List (Keeper.Step γ σ)) (action : Traced (Lifecycle γ σ α τ) β)
    (start : Lifecycle γ σ α τ) : Prop :=
  Employed steps start.keeper (action.run start).trace (action.run start).state.keeper

section Employing

variable {β δ : Type} {start : Lifecycle γ σ α τ} {first second : List (Keeper.Step γ σ)}

theorem employs_bind {action : Traced (Lifecycle γ σ α τ) β}
    {next : β → Traced (Lifecycle γ σ α τ) δ} (before : Employs first action start)
    (after : Employs second (next (action.run start).value) (action.run start).state) :
    Employs (first ++ second) (action >>= next) start := before.trans after

/-- What comes before and leaves the keeper alone makes no difference. -/
theorem employs_after {action : Traced (Lifecycle γ σ α τ) β}
    {next : β → Traced (Lifecycle γ σ α τ) δ} (before : Employs [] action start)
    (after : Employs second (next (action.run start).value) (action.run start).state) :
    Employs second (action >>= next) start := before.trans after

/-- What comes afterwards and leaves the keeper alone makes no difference. -/
theorem employs_before {action : Traced (Lifecycle γ σ α τ) β}
    {next : β → Traced (Lifecycle γ σ α τ) δ} (before : Employs first action start)
    (after : Employs [] (next (action.run start).value) (action.run start).state) :
    Employs first (action >>= next) start := by
  have both : Employs (first ++ []) (action >>= next) start := before.trans after
  rwa [List.append_nil] at both

/-- What does not touch the keeper employs it for nothing. -/
theorem employs_of_spares {action : Traced (Lifecycle γ σ α τ) β}
    (spared : Spares Lifecycle.keeper Entry.isKeepers action) : Employs [] action start := by
  unfold Employs
  rw [(spared start).1]
  exact .none (spared start).2

theorem employs_read {view : Lifecycle γ σ α τ → β} {next : β → Traced (Lifecycle γ σ α τ) δ}
    (after : Employs second (next (view start)) start) :
    Employs second (read view >>= next) start := after

/-- Work that is nothing but a change of the keeper's queue or collaborators. -/
theorem employs_silently {action : Traced (Lifecycle γ σ α τ) β} {step : Keeper.Step γ σ}
    (changed : (action.run start).state.keeper = ((Keeper.go step).run start.keeper).state)
    (silent : Spares (fun _ : Lifecycle γ σ α τ => ()) Entry.isKeepers action)
    (idle : ((Keeper.go step).run start.keeper).trace = []) : Employs [step] action start := by
  unfold Employs
  rw [changed]
  apply Employed.single
  rw [(silent start).2, idle]
  rfl

theorem employs_onKeeper (step : Keeper.Step γ σ) :
    Employs [step] (Lifecycle.onKeeper (Keeper.go step)) start := Employed.single step rfl

end Employing

namespace Lifecycle

variable {start : Lifecycle γ σ α τ}

omit [Graphics.Layer γ] [Window.Layer σ]

private theorem moves_apart_from_keeper :
    ApartFromMoves (fun _ : Lifecycle γ σ α τ => ()) Entry.isKeepers :=
  ⟨fun _ _ => rfl, fun _ _ => rfl, fun _ _ _ _ _ => rfl, fun _ => rfl, fun _ => rfl,
    fun _ => rfl, fun _ => rfl⟩

private theorem keeper_repeated_push (event : Event) (times : Nat) (now : Lifecycle γ σ α τ) :
    ((repeated (onEvents (EventQueue.send .app event)) times).run now).state.keeper =
      { now.keeper with events := now.keeper.events.pushAll (List.replicate times event) } := by
  induction times generalizing now with
  | zero => rfl
  | succ times ih => simp [repeated, run_bind, run_onEvents, ih, EventQueue.pushAll,
      List.replicate_succ]

variable [Graphics.Layer γ] [Window.Layer σ]

theorem employs_perform (move : Move γ σ α τ) : Employs [move.task] (perform move) start := by
  refine employs_silently ?_ (spares_perform moves_apart_from_keeper move) ?_
  · cases move with
    | notify kind times =>
      have raised := (notifyAll_turns (List.replicate times kind) start).1
      simp [perform, raised, Move.task, Keeper.Step.requeue, Keeper.go]
    | push event times =>
      simp [perform, keeper_repeated_push, Move.task, Keeper.Step.requeue, Keeper.go]
    | _ => rfl
  · cases move <;> rfl

theorem employs_notifyAll (kinds : List SignalKind) : Employs [] (notifyAll kinds) start := by
  unfold Employs
  rw [(notifyAll_turns kinds start).1]
  exact .none (spares_notifyAll moves_apart_from_keeper kinds start).2

theorem employs_announce (events : List Event) :
    Employs [.requeue fun queue => queue.pushAll events] (announce events) start := by
  refine employs_silently ?_ ?_ rfl
  · rw [(announce_turns events start).1]
    rfl
  · exact spares_announce (fun _ _ => rfl) (fun _ _ => rfl) fun _ => rfl

theorem employs_onAudio {β : Type} {action : List (Audio.Output α) → Traced α β}
    (spared : ∀ outputs, Spares (fun _ => ()) Entry.isKeepers (action outputs)) :
    Employs [] (onAudio action) start :=
  employs_of_spares (spares_onAudio (fun _ _ => rfl) spared)

theorem employs_settlePause (announced : Bool) : Employs [] (settlePause announced) start := by
  apply employs_of_spares
  exact spares_settlePause announced (fun _ _ _ => rfl) rfl fun _ => rfl

theorem employs_takeUp (posts : List SignalKind) :
    Employs [.remember, .requeue fun events => events.pushAll Event.backgroundGroup]
      (takeUp posts) start := by
  apply employs_bind (employs_onKeeper .remember)
  apply employs_bind (employs_announce Event.backgroundGroup)
  exact employs_after (employs_notifyAll posts) (employs_settlePause true)

/-- A look that takes a pause has the swap interval remembered and the queue filled. -/
theorem employs_lookForPause (host : HostActivity γ σ α τ) :
    Employs ((Stage.look host).tasks start) (lookForPause host) start := by
  have takes : Employs [] (take .pause : Traced (Lifecycle γ σ α τ) Bool)
      ((notifyAll host.beforeTake).run start).state :=
    employs_of_spares (spares_take (fun _ _ => rfl) rfl)
  simp only [Employs, Stage.tasks]
  by_cases found : host.findsPause start
  · rw [run_lookForPause_of_found found, if_pos found]
    exact employs_after (employs_notifyAll _) (employs_after takes (employs_takeUp _))
  · rw [if_neg found]
    by_cases pausing : start.phase = .pausing
    · rw [run_lookForPause_of_pausing pausing]
      exact employs_after (employs_notifyAll _) (employs_settlePause false)
    · rw [run_lookForPause_of_none pausing found]
      exact employs_notifyAll _

theorem employs_carryOutPause (pauseAudio : Bool) :
    Employs (if start.config.contextExternal then [] else [.save]) (carryOutPause pauseAudio)
      start := by
  refine employs_after (employs_of_spares (spares_tell rfl)) ?_
  rw [run_tell]
  refine employs_read (employs_before ?_ ?_)
  · cases start.config.contextExternal with
    | true => exact .none rfl
    | false => exact employs_onKeeper .save
  · apply employs_of_spares
    refine spares_bind (spares_whenever ?_) fun _ => spares_update fun _ => rfl
    exact spares_onAudio (fun _ _ => rfl) fun outputs =>
      Audio.spares_silenceAll (fun _ _ => rfl) (fun _ => rfl) outputs

theorem employs_restoreContext :
    Employs (if start.standing.restores then [.restore] else []) restoreContext start := by
  unfold Standing.restores standing
  refine employs_read (employs_read ?_)
  cases start.config.contextExternal with
  | true => exact .none rfl
  | false =>
    cases start.keeper.events.has .quit with
    | true => exact .none rfl
    | false => exact employs_onKeeper .restore

/-- A pause that ends has the queue filled and, if it is to come back, rendering restored. -/
theorem employs_comeBack [TextInput τ] (mode : LoopMode) :
    Employs ((Stage.comeBack mode).tasks start) (Stage.comeBack mode).act start := by
  refine employs_after (employs_of_spares (spares_take (fun _ _ => rfl) rfl)) (employs_read ?_)
  refine employs_after (employs_of_spares (spares_update fun _ => rfl)) ?_
  refine employs_after (employs_of_spares (spares_tell rfl)) ?_
  simp only [Stage.tasks, run_take, run_update, run_tell]
  rw [← restores_hearing (start.config.quietsAudio mode)]
  apply employs_bind (employs_announce Event.foregroundGroup)
  refine employs_after (employs_of_spares (spares_whenever ?_)) ?_
  · exact spares_onAudio (fun _ _ => rfl) fun outputs =>
      Audio.spares_takeUpAll (fun _ _ => rfl) (fun _ => rfl) outputs
  · refine employs_before employs_restoreContext (employs_of_spares ?_)
    exact spares_bind (spares_wakeTextInput (fun _ _ => rfl) fun _ => rfl) fun _ =>
      spares_note rfl

end Lifecycle

variable [TextInput τ] {permitted : Stage γ σ α τ → Prop} {start finish : Lifecycle γ σ α τ}
  {trace : List Entry}

theorem employs_stage {stage : Stage γ σ α τ} (ready : stage.Ready start) :
    Employs (stage.tasks start) stage.act start := by
  cases stage with
  | move deed => exact employs_before (Lifecycle.employs_perform deed) (.none rfl)
  | remark entry =>
    apply employs_of_spares
    apply spares_tell
    cases entry <;> first | rfl | cases ready
  | look host => exact Lifecycle.employs_lookForPause host
  | carryOut mode => exact employs_read (Lifecycle.employs_carryOutPause _)
  | comeBack mode => exact Lifecycle.employs_comeBack mode
  | recover =>
    refine employs_before ?_ (employs_of_spares (spares_pure ()))
    exact Lifecycle.employs_onAudio fun outputs =>
      Audio.spares_recoverStalled (fun _ _ => rfl) (fun _ => rfl) outputs

/-- Every course is a run of its keeper, by tasks of its stages. -/
theorem Course.employed (course : Course permitted start trace finish) :
    ∃ steps, Employed steps start.keeper trace finish.keeper ∧
      ∀ step ∈ steps, ∃ stage now, permitted stage ∧ step ∈ stage.tasks now := by
  induction course with
  | rest => exact ⟨[], .none rfl, by simp⟩
  | next before last ih =>
    obtain ⟨steps, employed, tasks⟩ := ih
    obtain ⟨stage, ok, ready⟩ := last
    refine ⟨steps ++ stage.tasks _, employed.trans (employs_stage ready), ?_⟩
    intro step member
    rcases List.mem_append.mp member with earlier | now
    · exact tasks step earlier
    · exact ⟨stage, _, ok, now⟩

end AppLifecycle
