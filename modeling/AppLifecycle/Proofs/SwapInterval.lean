import AppLifecycle.Proofs.KeeperTasks
import AppLifecycle.Proofs.StageDealings

/-! The swap interval over a background cycle. The interval in effect is remembered when a pause
is announced and at no other time, so however long the pause lasts, and however often the host
asks for more, the restore that ends it sets what was in effect when it began. -/
namespace AppLifecycle

open Traced Trace

variable {γ σ α τ : Type}

/-- The settings of one restore: an interval and, only if that is refused, zero. -/
inductive Reinstates (interval : Int32) : List (Int32 × Except Graphics.Error Unit) → Prop where
  | accepted : Reinstates interval [(interval, .ok ())]
  | refused (error : Graphics.Error) (answer : Except Graphics.Error Unit) :
      Reinstates interval [(interval, .error error), (0, answer)]

/-- The entries of a pause that is taken and announced while an interval is in effect. -/
def Announces (interval : Int32) (entries : List Entry) : Prop :=
  entries.filter (fun entry => !entry.isNotice) =
    .took .pause :: .graphics (.swapInterval interval) ::
      Event.backgroundGroup.map (.pushed .lifecycle)

/-- The pause that was announced last was announced while an interval was in effect. -/
def AnnouncedLast (interval : Int32) (trace since : List Entry) : Prop :=
  ∃ before entries, trace = before ++ entries ++ since ∧ Announces interval entries ∧
    .pushed .lifecycle .didEnterBackground ∉ since

/-- What the app is told when a pause is announced, for the last time. -/
def Entry.isDeparture : Entry → Bool
  | .pushed .lifecycle .didEnterBackground => true
  | _ => false

/-- What there is in a return only. -/
def Entry.isReturn : Entry → Bool
  | .milestone .ended | .graphics (.setSwapInterval _ _) => true
  | _ => false

theorem AnnouncedLast.append {interval : Int32} {trace since later : List Entry}
    (announced : AnnouncedLast interval trace since)
    (silent : .pushed .lifecycle .didEnterBackground ∉ later) :
    AnnouncedLast interval (trace ++ later) (since ++ later) := by
  obtain ⟨before, entries, rfl, announces, last⟩ := announced
  exact ⟨before, entries, by simp, announces, by simp [last, silent]⟩

theorem AnnouncedLast.prepend {interval : Int32} {trace since : List Entry}
    (announced : AnnouncedLast interval trace since) (earlier : List Entry) :
    AnnouncedLast interval (earlier ++ trace) since := by
  obtain ⟨before, entries, rfl, announces, last⟩ := announced
  exact ⟨earlier ++ before, entries, by simp, announces, last⟩

/-- What is set is set by the keeper. -/
theorem Employed.settings_eq [Graphics.Layer γ] [Window.Layer σ] {steps : List (Keeper.Step γ σ)}
    {start finish : Keeper γ σ} {entries : List Entry}
    (employed : Employed steps start entries finish) :
    settings entries = settings ((Keeper.through steps).run start).trace := by
  have only (trace : List Entry) : settings (trace.filter Entry.isKeepers) = settings trace :=
    filterMap_filter_eq (fun entry silent => by cases entry <;> first | rfl | cases silent) trace
  rw [← only entries, employed.entries_eq, only]

namespace Keeper

variable [Graphics.Layer γ]

/-- What comes of reinstating an interval: it is set, or zero is instead, or neither. -/
inductive Reinstatement (keeper : Keeper γ σ) : Outcome (Keeper γ σ) Int32 → Prop where
  | accepted {graphics : γ}
      (set : Graphics.Layer.setSwapInterval keeper.swapInterval keeper.graphics =
        (.ok (), graphics)) :
      Reinstatement keeper ⟨keeper.swapInterval, { keeper with graphics },
        [.graphics (.setSwapInterval keeper.swapInterval (.ok ()))]⟩
  | zeroed {unchanged graphics : γ} {error : Graphics.Error}
      (set : Graphics.Layer.setSwapInterval keeper.swapInterval keeper.graphics =
        (.error error, unchanged))
      (zero : Graphics.Layer.setSwapInterval 0 unchanged = (.ok (), graphics)) :
      Reinstatement keeper ⟨0, { keeper with graphics },
        [.graphics (.setSwapInterval keeper.swapInterval (.error error)),
          .notice (.swapIntervalRefused error keeper.swapInterval),
          .graphics (.setSwapInterval 0 (.ok ()))]⟩
  | refused {unchanged graphics : γ} {error second : Graphics.Error}
      (set : Graphics.Layer.setSwapInterval keeper.swapInterval keeper.graphics =
        (.error error, unchanged))
      (zero : Graphics.Layer.setSwapInterval 0 unchanged = (.error second, graphics)) :
      Reinstatement keeper ⟨0, { keeper with graphics },
        [.graphics (.setSwapInterval keeper.swapInterval (.error error)),
          .notice (.swapIntervalRefused error keeper.swapInterval),
          .graphics (.setSwapInterval 0 (.error second)),
          .notice (.disableVsyncFailed second)]⟩

theorem reinstatement (keeper : Keeper γ σ) :
    Reinstatement keeper (reinstateSwapInterval.run keeper) := by
  cases set : Graphics.Layer.setSwapInterval keeper.swapInterval keeper.graphics with
  | mk answer after =>
    cases answer with
    | ok _ =>
      simpa [reinstateSwapInterval, setSwapInterval, askGraphics, run_bind, set] using
        Reinstatement.accepted set
    | error error =>
      cases zero : Graphics.Layer.setSwapInterval 0 after with
      | mk last graphics =>
        cases last with
        | ok _ =>
          simpa [reinstateSwapInterval, setSwapInterval, askGraphics, run_bind, set, zero] using
            Reinstatement.zeroed set zero
        | error second =>
          simpa [reinstateSwapInterval, setSwapInterval, askGraphics, run_bind, set, zero] using
            Reinstatement.refused set zero

/-- To reinstate an interval is to set it, and to give up on it only if that is refused. -/
theorem reinstates_reinstateSwapInterval (keeper : Keeper γ σ) :
    Reinstates keeper.swapInterval (settings (reinstateSwapInterval.run keeper).trace) := by
  have came := reinstatement keeper
  generalize reinstateSwapInterval.run keeper = outcome at came
  cases came with
  | accepted set => exact .accepted
  | zeroed set zero => exact .refused _ (.ok ())
  | refused set zero => exact .refused _ (.error _)

omit [Graphics.Layer γ] in
private theorem apart_from_return :
    ApartFromGraphics (Keeper.swapInterval : Keeper γ σ → Int32) Entry.isReturn :=
  ⟨fun _ _ => rfl, fun call _ => by cases call <;> trivial, fun _ => rfl⟩

omit [Graphics.Layer γ] in
private theorem updates_apart_from_return [Window.Layer σ] :
    Spares (Keeper.swapInterval : Keeper γ σ → Int32) Entry.isReturn updateWindow :=
  spares_updateWindow ⟨fun _ _ => rfl, fun _ => rfl, fun _ => rfl⟩ fun _ _ => rfl

/-- What is remembered is still remembered when its turn comes. -/
theorem swapInterval_updating [Window.Layer σ] (keeper : Keeper γ σ) :
    (updating keeper).state.swapInterval = keeper.swapInterval := by
  obtain ⟨kept, -⟩ := spared_before_update apart_from_return (fun _ _ _ => rfl) rfl keeper
  exact (updates_apart_from_return (resetting keeper).state).1.trans kept

/-- Swap intervals are set in the one piece of a restore that is about them. -/
theorem settings_restore [Window.Layer σ] {keeper : Keeper γ σ}
    (held : keeper.snapshot.held = true) :
    settings (restore.run keeper).trace = settings (reinstating keeper).trace := by
  have silent {entries : List Entry} (spared : entries.filter Entry.isReturn = []) :
      settings entries = [] := settings_of_spared (fun _ _ => rfl) spared
  obtain ⟨-, attached, told⟩ :=
    spared_before_update apart_from_return (fun _ _ _ => rfl) rfl keeper
  have updated : settings (updating keeper).trace = [] :=
    silent (updates_apart_from_return (resetting keeper).state).2
  have noted {notice : Notice} : settings [.notice notice] = [] := rfl
  rw [run_restore_of_held held]
  simp only [settings_append, silent attached, silent told, updated, noted, List.nil_append,
    List.append_nil]

/-- A restore sets the remembered interval, and nothing else in it sets any. -/
theorem reinstates_restore [Window.Layer σ] {keeper : Keeper γ σ}
    (held : keeper.snapshot.held = true) :
    Reinstates keeper.swapInterval (settings (restore.run keeper).trace) := by
  rw [settings_restore held, ← swapInterval_updating keeper]
  exact reinstates_reinstateSwapInterval (updating keeper).state

end Keeper

/-- The work of a return, which restores what is remembered or nothing at all. -/
structure Returning (now : Lifecycle γ σ α τ) (work : List Entry) (next : Lifecycle γ σ α τ) :
    Prop where
  silent : work.filter Entry.isDeparture = []
  still : work.filter Entry.isAdvance = []
  same : next.keeper.swapInterval = now.keeper.swapInterval
  paused : now.phase = .paused
  settled : now.carryOutDue = false
  running : next.phase = .running
  skipped : now.standing.restores = false → settings work = []
  restored : now.standing.restores = true → now.keeper.snapshot.held = true →
    Reinstates now.keeper.swapInterval (settings work)

/-- What one stage has to do with the swap interval. -/
inductive Timing (now : Lifecycle γ σ α τ) : List Entry → Lifecycle γ σ α τ → Prop where
  | idle {entries : List Entry} {next : Lifecycle γ σ α τ}
      (silent : entries.filter Entry.isDeparture = [])
      (returnless : entries.filter Entry.isReturn = [])
      (same : next.keeper.swapInterval = now.keeper.swapInterval)
      (away : next.phase ≠ .running → now.phase ≠ .running) : Timing now entries next
  | announced {entries since : List Entry} {next : Lifecycle γ σ α τ}
      (last : AnnouncedLast next.keeper.swapInterval entries since)
      (returnless : entries.filter Entry.isReturn = []) : Timing now entries next
  | ended {work : List Entry} {next : Lifecycle γ σ α τ} (returning : Returning now work next) :
      Timing now (.took .resume :: .milestone .ended :: work) next

namespace Lifecycle

variable {start : Lifecycle γ σ α τ}

/-- The remembered interval and the phase. -/
private def remembered (lifecycle : Lifecycle γ σ α τ) : Int32 × Phase :=
  (lifecycle.keeper.swapInterval, lifecycle.phase)

/-- The announcement of a pause, and what there is in a return only. -/
private def marks (entry : Entry) : Bool := entry.isDeparture || entry.isReturn

/-- What is raised while a pause settles has nothing to do with the interval. -/
private theorem spares_settling (posts : List SignalKind) (announced : Bool) :
    Spares (fun now : Lifecycle γ σ α τ => now.keeper.swapInterval) marks (do
      notifyAll posts
      settlePause announced) := by
  have moves : ApartFromMoves (fun now : Lifecycle γ σ α τ => now.keeper.swapInterval) marks :=
    ⟨fun _ _ => rfl, fun _ _ => rfl, fun _ _ _ _ _ => rfl, fun _ => rfl, fun _ => rfl,
      fun _ => rfl, fun _ => rfl⟩
  refine spares_bind (spares_notifyAll moves posts) fun _ => ?_
  exact spares_settlePause announced (fun _ _ _ => rfl) rfl fun _ => rfl

private theorem moves_unmarked :
    ApartFromMoves (remembered : Lifecycle γ σ α τ → Int32 × Phase) marks :=
  ⟨fun _ _ => rfl, fun _ _ => rfl, fun _ _ _ _ _ => rfl, fun _ => rfl, fun _ => rfl,
    fun _ => rfl, fun _ => rfl⟩

/-- Without either of the two, a stage that keeps the interval has nothing to do with it. -/
private theorem timing_of_unmarked {entries : List Entry} {next : Lifecycle γ σ α τ}
    (silent : entries.filter marks = [])
    (same : next.keeper.swapInterval = start.keeper.swapInterval)
    (away : next.phase ≠ .running → start.phase ≠ .running) : Timing start entries next := by
  refine .idle ?_ ?_ same away
  · exact filter_of_spared (fun _ here => by simp [marks, here]) silent
  · exact filter_of_spared (fun _ here => by simp [marks, here]) silent

private theorem timing_of_spares {β : Type} {action : Traced (Lifecycle γ σ α τ) β}
    (spared : Spares remembered marks action) :
    Timing start (action.run start).trace (action.run start).state := by
  obtain ⟨same, silent⟩ := spared start
  obtain ⟨interval, phase⟩ := Prod.mk.inj same
  exact timing_of_unmarked silent interval fun away => phase ▸ away

variable [Graphics.Layer γ]

private theorem spares_marks_carryOutPause (pauseAudio : Bool) :
    Spares (remembered : Lifecycle γ σ α τ → Int32 × Phase) marks (carryOutPause pauseAudio) := by
  have saves : Spares (Keeper.swapInterval : Keeper γ σ → Int32) marks Keeper.save :=
    Keeper.spares_save ⟨fun _ _ => rfl, fun call _ => by cases call <;> trivial, fun _ => rfl⟩
      (fun _ _ _ => rfl) fun _ => rfl
  have kept : Spares (remembered : Lifecycle γ σ α τ → Int32 × Phase) marks
      (onKeeper Keeper.save) :=
    spares_onKeeper (fun _ now same => congrArg (·, now.phase) same) saves
  exact spares_carryOutPause_of_save pauseAudio (fun _ _ _ => rfl) kept rfl (fun _ _ => rfl)
    fun _ => rfl

omit [Graphics.Layer γ] in
/-- An announcement is nothing but its events and notices. -/
private theorem announce_entries (events : List Event) (now : Lifecycle γ σ α τ) :
    ((announce events).run now).trace.filter (fun entry => !entry.isNotice) =
      events.map (.pushed .lifecycle) := by
  induction events generalizing now with
  | nil => rfl
  | cons event rest ih =>
    have sent (queue : EventQueue) : ((EventQueue.send .lifecycle event).run queue).trace.filter
        (fun entry => !entry.isNotice) = [.pushed .lifecycle event] := by
      cases queue <;> rfl
    have others := ih ((onEvents (EventQueue.send .lifecycle event)).run now).state
    simp only [announce, run_bind, run_pure, List.append_nil] at others
    simp only [announce, forAll, run_bind, run_pure, List.append_nil, List.filter_append, others]
    simp [run_onEvents, sent]

/-- A pause that is taken up is announced, with the interval that is remembered. -/
private theorem announced_takeUp (posts : List SignalKind) (now : Lifecycle γ σ α τ) :
    ∃ since, AnnouncedLast ((takeUp posts).run now).state.keeper.swapInterval
      (.took .pause :: ((takeUp posts).run now).trace) since := by
  let kept := (onKeeper Keeper.rememberSwapInterval).run now
  let told := (announce Event.backgroundGroup).run kept.state
  obtain ⟨interval, silent⟩ := spares_settling posts true told.state
  have stays : told.state.keeper.swapInterval = kept.state.keeper.swapInterval := by
    rw [(announce_turns Event.backgroundGroup kept.state).1]
  have remembers : ((takeUp posts).run now).state.keeper.swapInterval =
      kept.state.keeper.swapInterval := interval.trans stays
  refine ⟨((do notifyAll posts; settlePause true).run told.state).trace,
    [], .took .pause :: (kept.trace ++ told.trace), ?_, ?_, fun pushed => ?_⟩
  · simp [takeUp, run_bind, kept, told]
  · have captured : kept.trace.filter (fun entry => !entry.isNotice) =
        [.graphics (.swapInterval kept.state.keeper.swapInterval)] := rfl
    unfold Announces
    rw [remembers, List.filter_cons_of_pos rfl, List.filter_append, captured, announce_entries]
    rfl
  · have unmarked := List.filter_eq_nil_iff.mp silent _ pushed
    simp [marks, Entry.isDeparture] at unmarked

/-- A look either finds no pause or announces the one that it takes. -/
theorem timing_lookForPause (host : HostActivity γ σ α τ) :
    Timing start ((lookForPause host).run start).trace ((lookForPause host).run start).state := by
  by_cases found : host.findsPause start
  · have returnless : ((lookForPause host).run start).trace.filter Entry.isReturn = [] := by
      have looks : Spares (fun _ : Lifecycle γ σ α τ => ()) Entry.isReturn (lookForPause host) :=
        spares_lookForPause ⟨fun _ _ => rfl, fun _ _ => rfl, fun _ _ _ _ _ => rfl, fun _ => rfl,
          fun _ => rfl, fun _ => rfl, fun _ => rfl⟩ (fun _ _ _ => rfl) (fun _ _ _ => rfl)
          (fun _ => rfl) rfl (fun _ => rfl) rfl
      exact (looks start).2
    rw [run_lookForPause_of_found found] at returnless ⊢
    let raised := (notifyAll host.beforeTake).run start
    have took : ((take .pause).run raised.state).trace = [.took .pause] := by
      have some := found.2
      rw [← pauses_before_take host start] at some
      rw [run_take, if_pos some]
    obtain ⟨since, last⟩ :=
      announced_takeUp host.beforeCount ((take .pause).run raised.state).state
    have whole := last.prepend raised.trace
    rw [← List.singleton_append, ← took] at whole
    exact .announced whole returnless
  · by_cases pausing : start.phase = .pausing
    · obtain ⟨same, silent⟩ := spares_settling host.beforeCount false start
      rw [run_lookForPause_of_pausing pausing]
      exact timing_of_unmarked silent same fun _ => by simp [pausing]
    · rw [run_lookForPause_of_none pausing found]
      exact timing_of_spares (spares_notifyAll moves_unmarked _)

variable [Window.Layer σ] [TextInput τ]

private theorem spares_departure_comeBack (mode : LoopMode) :
    Spares (fun now : Lifecycle γ σ α τ => now.keeper.swapInterval) Entry.isDeparture
      (Stage.comeBack mode).act := by
  have restores : Spares (Keeper.swapInterval : Keeper γ σ → Int32) Entry.isDeparture
      Keeper.restore :=
    Keeper.spares_restore ⟨fun _ _ => rfl, fun _ _ => rfl, fun _ => rfl⟩
      ⟨fun _ _ => rfl, fun _ => rfl, fun _ => rfl⟩ (fun _ _ _ _ _ => rfl) (fun _ _ => rfl) rfl
  have announces : Spares (fun now : Lifecycle γ σ α τ => now.keeper.swapInterval)
      Entry.isDeparture (announce Event.foregroundGroup) :=
    spares_announce (fun _ _ => rfl) (by decide) fun _ => rfl
  refine spares_bind (spares_take (fun _ _ => rfl) rfl) fun _ => ?_
  refine spares_bind (spares_read _) fun config => ?_
  exact spares_endPause_of_restore (spares_onKeeper (fun _ _ kept => kept) restores) (fun _ => rfl)
    _ (fun _ _ _ _ => rfl) announces rfl (fun _ _ => rfl) fun _ => rfl

/-- A return restores what is remembered, if anything. -/
theorem timing_comeBack (mode : LoopMode) (paused : start.phase = .paused)
    (settled : start.carryOutDue = false) (raised : 0 < start.signals.resume.count) :
    Timing start ((Stage.comeBack mode).act.run start).trace
      ((Stage.comeBack mode).act.run start).state := by
  have ends : ∃ work, _ = .took .resume :: .milestone .ended :: work ∧
      Ending (fun _ => True) _ work _ := ending_comeBack mode trivial paused settled raised
  obtain ⟨work, split, ending⟩ := ends
  obtain ⟨same, silent⟩ := spares_departure_comeBack mode start
  have employed : Employs ((Stage.comeBack mode).tasks start) (Stage.comeBack mode).act start :=
    employs_comeBack mode
  have settings_eq := employed.settings_eq
  have shown : settings (.took .resume :: .milestone .ended :: work) = settings work := rfl
  rw [split] at silent settings_eq ⊢
  rw [shown] at settings_eq
  have phase := congrArg Bearing.phase ending.next_eq
  refine .ended ⟨silent, ending.still, same, paused, settled, phase, ?_, ?_⟩
  · intro skips
    have tasks : (Stage.comeBack mode).tasks start =
        [.requeue fun events => events.pushAll Event.foregroundGroup] := by
      simp [Stage.tasks, skips]
    rw [tasks, Keeper.run_through_single] at settings_eq
    exact settings_eq
  · intro restores held
    -- The app is told before anything is restored, which leaves the remembered interval alone.
    let filled : Keeper γ σ := { start.keeper with
      events := start.keeper.events.pushAll Event.foregroundGroup }
    have tasks : (Stage.comeBack mode).tasks start =
        [.requeue fun events => events.pushAll Event.foregroundGroup, .restore] := by
      simp [Stage.tasks, restores]
    have sets : settings work = settings (Keeper.restore.run filled).trace := by
      rw [tasks] at settings_eq
      simpa [Keeper.through, Keeper.go, Keeper.Step.requeue, run_bind] using settings_eq
    have reinstated : Reinstates filled.swapInterval _ := Keeper.reinstates_restore held
    rw [sets]
    exact reinstated

end Lifecycle

/-- A part of a run announces a pause, or else keeps the interval of the pause that is going on. -/
inductive Recalls (start : Lifecycle γ σ α τ) (entries : List Entry)
    (finish : Lifecycle γ σ α τ) : Prop where
  | announced {since : List Entry} (last : AnnouncedLast finish.keeper.swapInterval entries since)
      (ongoing : finish.phase ≠ .running → .milestone .ended ∉ since) : Recalls start entries finish
  | kept (silent : .pushed .lifecycle .didEnterBackground ∉ entries)
      (same : finish.keeper.swapInterval = start.keeper.swapInterval)
      (ongoing : finish.phase ≠ .running → start.phase ≠ .running ∧ .milestone .ended ∉ entries) :
      Recalls start entries finish

section Parts

variable {start middle finish : Lifecycle γ σ α τ} {entries later head tail : List Entry}

theorem Recalls.trans (first : Recalls start entries middle)
    (second : Recalls middle later finish) : Recalls start (entries ++ later) finish := by
  cases second with
  | announced last ongoing => exact .announced (last.prepend entries) ongoing
  | kept silent same ongoing =>
    cases first with
    | announced last ongoingBefore =>
      rw [← same] at last
      refine .announced (last.append silent) fun away => ?_
      obtain ⟨awayBefore, endless⟩ := ongoing away
      simp [ongoingBefore awayBefore, endless]
    | kept silentBefore sameBefore ongoingBefore =>
      refine .kept (by simp [silentBefore, silent]) (same.trans sameBefore) fun away => ?_
      obtain ⟨awayBefore, endless⟩ := ongoing away
      obtain ⟨awayFirst, endlessFirst⟩ := ongoingBefore awayBefore
      exact ⟨awayFirst, by simp [endlessFirst, endless]⟩

theorem Timing.recalls (timing : Timing start entries finish) :
    Recalls start entries finish := by
  cases timing with
  | idle silent returnless same away =>
    refine .kept (fun pushed => ?_) same fun gone => ⟨away gone, fun ended => ?_⟩
    · exact List.filter_eq_nil_iff.mp silent _ pushed rfl
    · exact List.filter_eq_nil_iff.mp returnless _ ended rfl
  | announced last returnless =>
    refine .announced last fun _ ended => ?_
    obtain ⟨before, announcement, rfl, -, -⟩ := last
    exact List.filter_eq_nil_iff.mp returnless _ (List.mem_append_right _ ended) rfl
  | ended returning =>
    refine .kept (fun pushed => ?_) returning.same fun gone => absurd returning.running gone
    have there := List.mem_filter.mpr ⟨pushed, (rfl : Entry.isDeparture _ = true)⟩
    have none : (Entry.took .resume :: .milestone .ended :: _).filter Entry.isDeparture = [] :=
      returning.silent
    simp [none] at there

/-- No swap interval is set before the next milestone. -/
def Unset (trace : List Entry) : Prop := settings (chapter trace) = []

theorem Unset.append (first : Unset entries) (second : Unset later) :
    Unset (entries ++ later) := by
  unfold Unset at *
  by_cases silent : milestones entries = []
  · rw [chapter_of_silent silent] at first
    rw [chapter_append_of_silent silent, settings_append, first, second]
    rfl
  · rwa [chapter_append_of_milestone silent]

theorem Unset.of_returnless (returnless : entries.filter Entry.isReturn = []) :
    Unset entries := by
  apply settings_of_spared (fun _ _ => rfl : ∀ _ _, Entry.isReturn _ = true)
  refine List.filter_eq_nil_iff.mpr fun entry member => ?_
  exact List.filter_eq_nil_iff.mp returnless entry (List.takeWhile_subset _ member)

theorem Timing.unset (timing : Timing start entries finish) : Unset entries := by
  cases timing with
  | idle silent returnless same away => exact .of_returnless returnless
  | announced last returnless => exact .of_returnless returnless
  | ended returning => rfl

/-- Only a return ends a pause. -/
theorem Timing.at_ended (timing : Timing start entries finish)
    (split : entries = head ++ .milestone .ended :: tail) :
    head = [.took .resume] ∧ Returning start tail finish := by
  have member : .milestone .ended ∈ entries := by simp [split]
  cases timing with
  | idle silent returnless same away =>
    exact absurd rfl (List.filter_eq_nil_iff.mp returnless _ member)
  | announced last returnless =>
    exact absurd rfl (List.filter_eq_nil_iff.mp returnless _ member)
  | ended returning =>
    cases head with
    | nil => simp at split
    | cons first head =>
      obtain ⟨rfl, after⟩ := List.cons.inj split
      obtain ⟨-, rfl, rfl⟩ := eq_of_first_milestone returning.still after
      exact ⟨rfl, returning⟩

/-- After another milestone nothing is set in the same stage. -/
theorem Timing.unset_after {milestone : Milestone} (other : milestone ≠ .ended)
    (timing : Timing start entries finish)
    (split : entries = head ++ .milestone milestone :: tail) : Unset tail := by
  have within (returnless : entries.filter Entry.isReturn = []) : Unset tail := by
    rw [split, List.filter_append] at returnless
    have rest := (List.append_eq_nil_iff.mp returnless).2
    refine .of_returnless (List.filter_eq_nil_iff.mpr fun entry member => ?_)
    exact List.filter_eq_nil_iff.mp rest entry (List.mem_cons_of_mem _ member)
  cases timing with
  | idle silent returnless same away => exact within returnless
  | announced last returnless => exact within returnless
  | @ended work next returning =>
    have only : milestones (.took .resume :: .milestone .ended :: work) = [.ended] :=
      congrArg (List.cons _) (milestones_of_still returning.still)
    have member : milestone ∈ milestones (.took .resume :: .milestone .ended :: work) :=
      mem_milestones.mpr (by simp [split])
    rw [only] at member
    exact absurd (List.mem_singleton.mp member) other

end Parts

variable [Graphics.Layer γ] [Window.Layer σ] [TextInput τ]

theorem timing_stage {stage : Stage γ σ α τ} {start : Lifecycle γ σ α τ}
    (ready : stage.Ready start) :
    Timing start (stage.act.run start).trace (stage.act.run start).state := by
  cases stage with
  | move move =>
    exact Lifecycle.timing_of_spares
      (spares_bind (Lifecycle.spares_perform Lifecycle.moves_unmarked move) fun _ => spares_pure _)
  | remark entry =>
    refine Lifecycle.timing_of_spares (spares_tell ?_)
    cases entry <;> first | rfl | cases ready
  | look host => exact Lifecycle.timing_lookForPause host
  | carryOut mode =>
    exact Lifecycle.timing_of_spares
      (spares_bind (spares_read _) fun config => Lifecycle.spares_marks_carryOutPause _)
  | comeBack mode => exact Lifecycle.timing_comeBack mode ready.1 ready.2.1 ready.2.2
  | recover =>
    refine Lifecycle.timing_of_spares (spares_bind ?_ fun _ => spares_pure ())
    exact Lifecycle.spares_recoverAudio (fun _ _ => rfl) (fun _ _ => rfl) fun _ => rfl

/-- Whoever is in the background with nothing left to carry out has a backup. -/
structure BackedUp (now : Standing) : Prop where
  own : now.external = false
  held : now.phase = .paused → now.due = false → now.held = true

omit [Graphics.Layer γ] [Window.Layer σ] [TextInput τ] in
theorem Turn.backedUp {allowed : Move γ σ α τ → Prop} {now next : Standing} {entries : List Entry}
    (turn : Turn allowed now entries next) (backed : BackedUp now) : BackedUp next := by
  obtain ⟨own, held⟩ := backed
  cases turn with
  | announced running raised => exact ⟨own, fun paused => by cases paused⟩
  | committed pausing few => exact ⟨own, fun _ settled => by cases settled⟩
  | carriedOut paused due => exact ⟨own, fun _ _ => by simp [Standing.carryOut, own]⟩
  | ended reset paused settled raised restored => exact ⟨own, fun paused => by cases paused⟩
  | _ => exact ⟨own, held⟩

section Course

variable {permitted : Stage γ σ α τ → Prop} {start finish : Lifecycle γ σ α τ}
  {trace past later : List Entry}

theorem Stage.Happens.timing (happens : Stage.Happens permitted start trace finish) :
    Timing start trace finish := by
  obtain ⟨stage, ok, ready⟩ := happens
  exact timing_stage ready

theorem Course.recalls (course : Course permitted start trace finish) :
    Recalls start trace finish := by
  induction course with
  | rest => exact .kept (by simp) rfl fun away => ⟨away, by simp⟩
  | next before last ih => exact ih.trans last.timing.recalls

theorem Course.unset (course : Course permitted start trace finish) : Unset trace := by
  induction course with
  | rest => rfl
  | next before last ih => exact ih.append last.timing.unset

/-- No swap interval is set in the chapter of a milestone that ends no pause. -/
theorem Course.unset_after {milestone : Milestone} (course : Course permitted start trace finish)
    (split : trace = past ++ .milestone milestone :: later) (other : milestone ≠ .ended) :
    Unset later := by
  obtain ⟨earlier, head, tail, rest, before, after, first, link, remainder, -, rfl⟩ :=
    course.split split
  exact (link.timing.unset_after other rfl).append (Course.unset remainder)

/-- A return sets what was in effect at the announcement of the pause that it ends, unless the
app is about to quit. -/
theorem Course.reinstates_at_ended (course : Course permitted start trace finish)
    (own : start.config.contextExternal = false) (running : start.phase = .running)
    (split : trace = past ++ .milestone .ended :: later) :
    if (start.keeper.events.after past).has .quit then settings (chapter later) = []
    else ∃ interval since, AnnouncedLast interval past since ∧ .milestone .ended ∉ since ∧
      Reinstates interval (settings (chapter later)) := by
  obtain ⟨earlier, head, work, rest, before, after, first, link, remainder, rfl, rfl⟩ :=
    course.split split
  obtain ⟨rfl, returning⟩ := link.timing.at_ended rfl
  have turns : Turns (fun _ => True) start.standing (earlier.filter Entry.isTurn)
      before.standing := Course.turns (fun _ _ _ _ => trivial) first
  have events : start.keeper.events.after (earlier ++ [.took .resume]) = before.keeper.events := by
    rw [EventQueue.after_append, ← EventQueue.after_turns _ earlier]
    exact turns.events_eq_after.symm
  -- That something is held is no matter of the interval; it follows from what turns do.
  have backed : BackedUp before.standing := by
    refine turns.invariant ⟨own, fun paused => ?_⟩ fun backed turn => turn.backedUp backed
    exact absurd (running.symm.trans paused) (by decide)
  have restores : before.standing.restores = !before.keeper.events.has .quit := by
    rw [Standing.restores, backed.own]
    rfl
  have sets : settings (chapter (work ++ rest)) = settings work := by
    have unset : settings (chapter rest) = [] := Course.unset remainder
    rw [chapter_append_of_silent (milestones_of_still returning.still), settings_append, unset,
      List.append_nil]
  rw [events, sets]
  cases quitting : before.keeper.events.has .quit with
  | true => exact returning.skipped (by rw [restores, quitting]; rfl)
  | false =>
    have away : before.phase ≠ .running := by
      rw [returning.paused]
      decide
    have held := backed.held returning.paused returning.settled
    have reinstated := returning.restored (by rw [restores, quitting]; rfl) held
    cases Course.recalls first with
    | @announced since last ongoing =>
      exact ⟨_, _, last.append (by simp), by simp [ongoing away], reinstated⟩
    | kept silent same ongoing => exact absurd running (ongoing away).1

end Course

/-- The first swap interval that a restore sets is the one that was in effect when the pause that
it ends was announced, and it sets a second one, zero, only if that is refused. Nothing else
ever sets one, and the remembered interval changes only where a pause is announced. -/
theorem interval_at_the_announcement_is_reinstated (config : Config) (keeper : Keeper γ σ)
    (outputs : List (Audio.Output α)) (audio : α) (textInput : Option τ) (run : Run γ σ α τ)
    (own : config.contextExternal = false) :
    let outcome := (Lifecycle.play run).run (Lifecycle.fresh config keeper outputs audio textInput)
    (∀ past later, outcome.trace = past ++ .milestone .ended :: later →
      if (keeper.events.after past).has .quit then settings (chapter later) = []
      else ∃ interval since, AnnouncedLast interval past since ∧ .milestone .ended ∉ since ∧
        Reinstates interval (settings (chapter later))) ∧
    (∀ past milestone later, outcome.trace = past ++ .milestone milestone :: later →
      milestone ≠ .ended → settings (chapter later) = []) ∧
    settings (chapter outcome.trace) = [] ∧
    ∀ step, let next := (Lifecycle.go step).run outcome.state
      next.state.keeper.swapInterval = outcome.state.keeper.swapInterval ∨
        ∃ since, AnnouncedLast next.state.keeper.swapInterval next.trace since := by
  intro outcome
  let start := Lifecycle.fresh config keeper outputs audio textInput
  have course : Course run.Has start outcome.trace outcome.state := Lifecycle.unfolds_play run
  refine ⟨fun past later split => Course.reinstates_at_ended course own rfl split,
    fun past milestone later split other => Course.unset_after course split other,
    Course.unset course, fun step => ?_⟩
  have steps : Course step.Has outcome.state _ _ := Lifecycle.unfolds_go fun _ has => has
  cases steps.recalls with
  | announced last ongoing => exact .inr ⟨_, last⟩
  | kept silent same ongoing => exact .inl same

/-- The display's own interval comes into effect while the app is in the background, and the
host asks for another pause. -/
def Rehearsal.intervalReset : RehearsedRun where
  steps := [.around (.adjust (fun graphics => { graphics with swapInterval := 2 }) id id id),
    .around (.notify .pause 1), .ticking {}, .around .drain, .ticking {},
    .around (.adjust (fun graphics => { graphics with swapInterval := 1 }) id id id),
    .around (.notify .pause 1), .ticking {}, .around (.notify .resume 1), .ticking {}]

/-- The return goes back to the interval that was in effect before. -/
theorem interval_outlives_a_reset_in_the_background :
    ∃ past since later, (Rehearsal.rehearse Rehearsal.intervalReset).trace =
        past ++ .milestone .ended :: later ∧
      AnnouncedLast 2 past since ∧ settings (chapter later) = [(2, .ok ())] := by
  let before (entry : Entry) : Bool := !entry.isReturn
  let trace := (Rehearsal.rehearse Rehearsal.intervalReset).trace
  have split : trace = trace.takeWhile before ++ .milestone .ended ::
      (trace.dropWhile before).tail := by rfl
  obtain ⟨reinstated, -⟩ := interval_at_the_announcement_is_reinstated {} Rehearsal.opening
    [Rehearsal.Scripts.output .plain "speaker" 0] [{}] (some {}) Rehearsal.intervalReset rfl
  have staying : (Rehearsal.opening.events.after (trace.takeWhile before)).has .quit = false := by
    decide
  have sets := reinstated _ _ split
  rw [staying] at sets
  obtain ⟨interval, since, last, -, settings_eq⟩ := sets
  have once : settings (chapter (trace.dropWhile before).tail) = [(2, .ok ())] := by rfl
  rw [once] at settings_eq
  cases settings_eq
  exact ⟨_, since, _, split, last, once⟩

end AppLifecycle
