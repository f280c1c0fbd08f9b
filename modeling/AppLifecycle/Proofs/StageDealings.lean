import AppLifecycle.Proofs.Dealings
import AppLifecycle.Proofs.Operations

/-! Every stage is a dealing. What the collaborators answer only shows in the answers; which
of them are called, and how a lifecycle bears itself afterwards, depends on where it stood. -/
namespace AppLifecycle

open Traced

variable {γ σ α τ : Type} {modes : LoopMode → Prop} {start : Lifecycle γ σ α τ}

def Entry.isGraphics : Entry → Bool
  | .graphics _ => true
  | _ => false

def Entry.isAudio : Entry → Bool
  | .audio .. => true
  | _ => false

/-- The entries that belong to a dealing. -/
def Entry.isDealing (entry : Entry) : Bool := entry.isAdvance || entry.isGraphics || entry.isAudio

namespace Trace

variable {kind other : Entry → Bool} {trace : List Entry}

theorem filter_of_spared (covers : ∀ entry, other entry = true → kind entry = true)
    (spared : trace.filter kind = []) : trace.filter other = [] := by
  refine List.filter_eq_nil_iff.mpr fun entry member here => ?_
  exact List.filter_eq_nil_iff.mp spared entry member (covers entry here)

/-- Entries without a dealing show nothing of one. -/
theorem silent_of_spared (spared : trace.filter Entry.isDealing = []) :
    trace.filter Entry.isAdvance = [] ∧ graphicsCalls trace = [] ∧
      ∀ position, audioCalls position trace = [] :=
  ⟨filter_of_spared (fun _ here => by simp [Entry.isDealing, here]) spared,
    graphicsCalls_of_spared (fun _ => rfl) spared,
    audioCalls_of_spared (fun _ _ => rfl) spared⟩

end Trace

open Trace

theorem Aside.of_spared {entries : List Entry} (spared : entries.filter Entry.isDealing = []) :
    Aside entries := by
  obtain ⟨still, rendering, outputs⟩ := silent_of_spared spared
  exact ⟨⟨rendering, fun position => outputs position ▸ .none⟩, still⟩

namespace Lifecycle

theorem apart_from_dealing :
    ApartFromMoves (bearing : Lifecycle γ σ α τ → Bearing) Entry.isDealing :=
  ⟨fun _ _ => rfl, fun _ _ => rfl, fun _ _ _ _ _ => rfl, fun _ => rfl, fun _ => rfl, fun _ => rfl,
    fun _ => rfl⟩

private theorem apart_from_advance :
    ApartFromMoves (bearing : Lifecycle γ σ α τ → Bearing) Entry.isAdvance :=
  ⟨fun _ _ => rfl, fun _ _ => rfl, fun _ _ _ _ _ => rfl, fun _ => rfl, fun _ => rfl, fun _ => rfl,
    fun _ => rfl⟩

/-- To recover stalled playback is not to get any further. -/
theorem aside_recoverAudio (now : Lifecycle γ σ α τ) :
    (recoverAudio.run now).state.bearing = now.bearing ∧ Aside (recoverAudio.run now).trace := by
  have advance : Spares bearing Entry.isAdvance
      (recoverAudio : Traced (Lifecycle γ σ α τ) Nat) :=
    spares_recoverAudio (fun _ _ => rfl) (fun _ _ => rfl) fun _ => rfl
  have graphics : Spares bearing Entry.isGraphics
      (recoverAudio : Traced (Lifecycle γ σ α τ) Nat) :=
    spares_recoverAudio (fun _ _ => rfl) (fun _ _ => rfl) fun _ => rfl
  refine ⟨(advance now).1, ⟨?_, fun position => ?_⟩, (advance now).2⟩
  · exact graphicsCalls_of_spared (fun _ => rfl) (graphics now).2
  · exact Audio.recoveries_recoverStalled position now.audio now.outputs

section Look

/-- The entries that a look for a pause does not leave. -/
private def isBeyondLook : Entry → Bool
  | .graphics (.swapInterval _) => false
  | .graphics _ | .audio .. => true
  | _ => false

/-- What a look for a pause does not change. -/
private def unlooked (lifecycle : Lifecycle γ σ α τ) : Config × Nat × Snapshot :=
  (lifecycle.config, lifecycle.outputs.length, lifecycle.keeper.snapshot)

private theorem unlooked_apart :
    ApartFromMoves (unlooked : Lifecycle γ σ α τ → Config × Nat × Snapshot) isBeyondLook :=
  ⟨fun _ _ => rfl, fun _ _ => rfl, fun _ _ _ _ _ => rfl, fun _ => rfl, fun _ => rfl, fun _ => rfl,
    fun _ => rfl⟩

/-- Where a pause becomes final, that is told and due, and nothing else is. -/
private def Settles (action : Traced (Lifecycle γ σ α τ) Unit) : Prop :=
  ∀ now : Lifecycle γ σ α τ, now.phase ≠ .paused →
    (action.run now).trace.filter Entry.isAdvance =
        (if (action.run now).state.phase = .paused then [.milestone .committed] else []) ∧
      (action.run now).state.carryOutDue =
        (now.carryOutDue || decide ((action.run now).state.phase = .paused))

private theorem settles_settlePause (announced : Bool) :
    Settles (settlePause announced : Traced (Lifecycle γ σ α τ) Unit) := by
  intro now awake
  by_cases unseen : now.signals.pause.count < now.keeper.events.count .didEnterBackground
  · cases announced <;> simp [settlePause, run_bind, unseen, Entry.isAdvance]
  · simp [settlePause, run_bind, unseen, Entry.isAdvance, List.filter_cons]

private theorem settles_bind {β : Type} {first : Traced (Lifecycle γ σ α τ) β}
    {next : β → Traced (Lifecycle γ σ α τ) Unit}
    (before : Spares bearing Entry.isAdvance first) (after : ∀ value, Settles (next value)) :
    Settles (first >>= next) := by
  intro now awake
  obtain ⟨kept, still⟩ := before now
  have phase : (first.run now).state.phase = now.phase := congrArg Bearing.phase kept
  have due : (first.run now).state.carryOutDue = now.carryOutDue := congrArg Bearing.due kept
  obtain ⟨advances, final⟩ := after (first.run now).value (first.run now).state (phase ▸ awake)
  rw [run_bind, List.filter_append, still, List.nil_append, ← due]
  exact ⟨advances, final⟩

private theorem settles_pure : Settles (pure () : Traced (Lifecycle γ σ α τ) Unit) :=
  fun now awake => by simp [awake]

variable [Graphics.Layer γ]

private theorem spares_unlooked_lookForPause (host : HostActivity γ σ α τ) :
    Spares unlooked isBeyondLook (lookForPause host) :=
  spares_lookForPause unlooked_apart (fun _ _ _ => rfl) (fun _ _ _ => rfl) (fun _ => rfl) rfl
    (fun _ => rfl) rfl

private theorem settles_lookForPause (host : HostActivity γ σ α τ) :
    Settles (lookForPause host) := by
  have remembers : Spares (Keeper.snapshot : Keeper γ σ → Snapshot) Entry.isAdvance
      Keeper.rememberSwapInterval :=
    Keeper.spares_rememberSwapInterval (fun _ _ => rfl) (fun _ _ => rfl) (fun _ => rfl)
      fun _ => rfl
  refine settles_bind (spares_read _) fun phase => ?_
  split
  · exact settles_bind (spares_notifyAll apart_from_advance _) fun _ => settles_settlePause false
  · refine settles_bind (spares_notifyAll apart_from_advance _) fun _ => ?_
    refine settles_bind (spares_take (fun _ _ => rfl) rfl) fun taken => ?_
    cases taken with
    | false => exact settles_pure
    | true =>
      refine settles_bind (spares_onKeeper (fun keeper now kept => ?_) remembers) fun _ => ?_
      · simp [bearing, kept]
      · refine settles_bind (spares_announce (fun _ _ => rfl) (fun _ _ => rfl) fun _ => rfl)
          fun _ => ?_
        exact settles_bind (spares_notifyAll apart_from_advance _) fun _ => settles_settlePause true

/-- Whatever a look for a pause finds, all it asks for is the swap interval. -/
theorem looking_lookForPause (host : HostActivity γ σ α τ) (awake : start.phase ≠ .paused) :
    Looking start.bearing ((lookForPause host).run start).trace
      ((lookForPause host).run start).state.bearing := by
  obtain ⟨kept, silent⟩ := spares_unlooked_lookForPause host start
  obtain ⟨advances, due⟩ := settles_lookForPause host start awake
  have only (entry : Entry) (member : entry ∈ ((lookForPause host).run start).trace) :
      isBeyondLook entry = false := by
    simpa using List.filter_eq_nil_iff.mp silent entry member
  refine ⟨awake, advances, fun call member => ?_, fun position => ?_, ?_⟩
  · have plain := only _ (mem_graphicsCalls.mp member)
    cases call with
    | swapInterval answer => exact ⟨answer, rfl⟩
    | _ => simp [isBeyondLook] at plain
  · refine List.eq_nil_iff_forall_not_mem.mpr fun call member => ?_
    simpa [isBeyondLook] using only _ (mem_audioCalls.mp member)
  · simp only [unlooked, Prod.mk.injEq] at kept
    simp [bearing, kept, due]

end Look

section Work

/-- The entries that the keeper does not leave. -/
private def isBeyondKeeper (entry : Entry) : Bool := entry.isAdvance || entry.isAudio

private theorem silent_of_kept {trace : List Entry} (spared : trace.filter isBeyondKeeper = []) :
    trace.filter Entry.isAdvance = [] ∧ ∀ position, audioCalls position trace = [] :=
  ⟨filter_of_spared (fun _ here => by simp [isBeyondKeeper, here]) spared,
    audioCalls_of_spared (fun _ _ => rfl) spared⟩

variable [Graphics.Layer γ]

/-- Unless the context belongs to the embedder, a backup is held afterwards. -/
private theorem backup_save (now : Lifecycle γ σ α τ) {saved : Outcome (Lifecycle γ σ α τ) Unit}
    (ran : (whenever (!now.config.contextExternal) (do
      let _ ← onKeeper Keeper.save
      pure ())).run now = saved) :
    saved.state.bearing = { now.bearing with snapshot := saved.state.keeper.snapshot } ∧
      saved.trace.filter Entry.isAdvance = [] ∧
      (∀ position, audioCalls position saved.trace = []) ∧
      Backup now.config.contextExternal now.keeper.snapshot (graphicsCalls saved.trace)
        saved.state.keeper.snapshot := by
  subst ran
  cases external : now.config.contextExternal with
  | true => exact ⟨rfl, rfl, fun _ => rfl, .left (.inl rfl)⟩
  | false =>
    have spared : Spares (fun _ : Keeper γ σ => ()) isBeyondKeeper Keeper.save :=
      Keeper.spares_save ⟨fun _ _ => rfl, fun _ _ => rfl, fun _ => rfl⟩ (fun _ _ _ => rfl)
        fun _ => rfl
    obtain ⟨still, outputs⟩ := silent_of_kept (spared now.keeper).2
    have only : (whenever (!false) (do
        let _ ← onKeeper Keeper.save
        pure ())).run now = ⟨(), { now with keeper := (Keeper.save.run now.keeper).state },
          (Keeper.save.run now.keeper).trace⟩ := by
      simp [onKeeper]
    rw [only]
    refine ⟨rfl, still, outputs, ?_⟩
    cases held : now.keeper.snapshot.held with
    | true =>
      rw [Keeper.save_of_held held]
      exact .left (.inr held)
    | false =>
      obtain ⟨context, answer, calls, saved⟩ := Keeper.save_of_unheld held
      rw [calls, saved]
      exact .made context answer rfl held

/-- The entries that work on audio outputs does not leave. -/
private def isBeyondAudio (entry : Entry) : Bool := entry.isAdvance || entry.isGraphics

omit [Graphics.Layer γ] in
/-- Where every output is called once, nothing else happens. -/
private theorem called_onAudio {action : List (Audio.Output α) → Traced α Unit}
    {record : Except Audio.Error Unit → Audio.Call}
    (spared : ∀ outputs, Spares (fun _ => ()) isBeyondAudio (action outputs))
    (called : ∀ position audio outputs, ∃ answer,
      audioCalls position ((action outputs).run audio).trace =
        if position < outputs.length then [record answer] else [])
    (wanted : Bool) (now : Lifecycle γ σ α τ) {heard : Outcome (Lifecycle γ σ α τ) Unit}
    (ran : (whenever wanted (onAudio action)).run now = heard) :
    heard.state.bearing = now.bearing ∧ heard.trace.filter Entry.isAdvance = [] ∧
      graphicsCalls heard.trace = [] ∧ ∀ position, ∃ answer, audioCalls position heard.trace =
        if wanted ∧ position < now.bearing.outputs then [record answer] else [] := by
  subst ran
  cases wanted with
  | false => exact ⟨rfl, rfl, rfl, fun _ => ⟨.ok (), by simp [audioCalls]⟩⟩
  | true =>
    have silent := (spared now.outputs now.audio).2
    refine ⟨rfl, ?_, ?_, fun position => ?_⟩
    · exact filter_of_spared (fun _ here => by simp [isBeyondAudio, here]) silent
    · exact graphicsCalls_of_spared (fun _ => rfl) silent
    · obtain ⟨answer, calls⟩ := called position now.audio now.outputs
      exact ⟨answer, by simpa [onAudio, run_bind, bearing] using calls⟩

/-- A pause is carried out by a backup and by silencing the audio outputs. -/
theorem carryingOut_carryOutPause (mode : LoopMode) (ok : modes mode)
    (paused : start.phase = .paused) (due : start.carryOutDue = true) :
    let outcome := (carryOutPause (start.config.quietsAudio mode)).run start
    ∃ work, outcome.trace = .milestone .carriedOut :: work ∧
      CarryingOut modes start.bearing work outcome.state.bearing := by
  intro outcome
  generalize saving : (whenever (!start.config.contextExternal) (do
    let _ ← onKeeper Keeper.save
    pure ())).run start = saved
  generalize silencing : (whenever (start.config.quietsAudio mode)
    (onAudio Audio.silenceAll)).run saved.state = silenced
  have split : outcome = ⟨(), { silenced.state with carryOutDue := false },
      .milestone .carriedOut :: (saved.trace ++ silenced.trace)⟩ := by
    subst silencing saving
    simp only [outcome, carryOutPause, run_bind, run_tell, run_read, run_update, List.append_nil,
      List.nil_append, List.cons_append]
  obtain ⟨kept, savedStill, savedOutputs, rendering⟩ := backup_save start saving
  obtain ⟨same, still, graphics, outputs⟩ := called_onAudio
    (fun outputs => Audio.spares_silenceAll (fun _ _ => rfl) (fun _ => rfl) outputs)
    Audio.audioCalls_silenceAll _ saved.state silencing
  have bearing_eq : outcome.state.bearing = { start.bearing with
      due := false
      snapshot := saved.state.keeper.snapshot } := by
    rw [split]
    calc
      _ = { silenced.state.bearing with due := false } := rfl
      _ = _ := by rw [same, kept]
  rw [bearing_eq, split]
  refine ⟨_, rfl, paused, due, ?_, ?_, ⟨mode, ok, fun position => ?_⟩, rfl⟩
  · rw [List.filter_append, savedStill, still, List.append_nil]
  · rwa [graphicsCalls_append, graphics, List.append_nil]
  · obtain ⟨answer, calls⟩ := outputs position
    refine ⟨answer, ?_⟩
    rw [audioCalls_append, savedOutputs, calls, kept, List.nil_append]
    rfl

variable [Window.Layer σ]

/-- Rendering comes back, if at all, by a restore. -/
private theorem comeback_restoreContext (now : Lifecycle γ σ α τ)
    {restored : Outcome (Lifecycle γ σ α τ) Unit} (ran : restoreContext.run now = restored) :
    restored.state.bearing = { now.bearing with snapshot := restored.state.keeper.snapshot } ∧
      restored.trace.filter Entry.isAdvance = [] ∧
      (∀ position, audioCalls position restored.trace = []) ∧
      Comeback now.keeper.snapshot (graphicsCalls restored.trace)
        restored.state.keeper.snapshot := by
  subst ran
  have spared : Spares (fun _ : Keeper γ σ => ()) isBeyondKeeper Keeper.restore :=
    Keeper.spares_restore ⟨fun _ _ => rfl, fun _ _ => rfl, fun _ => rfl⟩
      ⟨fun _ _ => rfl, fun _ => rfl, fun _ => rfl⟩ (fun _ _ _ _ _ => rfl) (fun _ _ => rfl) rfl
  obtain ⟨still, outputs⟩ := silent_of_kept (spared now.keeper).2
  cases external : now.config.contextExternal with
  | true =>
    have skipped : restoreContext.run now = ⟨(), now, [.notice .restoreSkippedExternal]⟩ := by
      simp [restoreContext, run_bind, external]
    rw [skipped]
    exact ⟨rfl, rfl, fun _ => rfl, .skipped⟩
  | false =>
    cases quitting : now.keeper.events.has .quit with
    | true =>
      have skipped : restoreContext.run now = ⟨(), now, [.notice .restoreSkippedQuit]⟩ := by
        simp [restoreContext, run_bind, external, quitting]
      rw [skipped]
      exact ⟨rfl, rfl, fun _ => rfl, .skipped⟩
    | false =>
      have only : restoreContext.run now = ⟨(),
          { now with keeper := (Keeper.restore.run now.keeper).state },
          (Keeper.restore.run now.keeper).trace⟩ := by
        simp [restoreContext, run_bind, external, quitting, onKeeper]
      rw [only]
      refine ⟨rfl, still, outputs, ?_⟩
      cases held : now.keeper.snapshot.held with
      | false =>
        rw [Keeper.restore_of_none held]
        exact .skipped
      | true =>
        obtain ⟨used, answer, rest, calls⟩ := Keeper.restore_of_held held
        rw [used, calls]
        refine .attached answer rest held fun call member => Keeper.orders_of_restore now.keeper ?_
        rw [calls]
        exact List.mem_cons_of_mem _ member

variable [TextInput τ]

/-- A pause ends by taking the audio outputs up and bringing rendering back. -/
theorem ending_comeBack (mode : LoopMode) (ok : modes mode) (paused : start.phase = .paused)
    (settled : start.carryOutDue = false) (raised : 0 < start.signals.resume.count) :
    let outcome := (Stage.comeBack mode).act.run start
    ∃ work, outcome.trace = .took .resume :: .milestone .ended :: work ∧
      Ending modes start.bearing work outcome.state.bearing := by
  intro outcome
  have split := run_comeBack mode raised
  generalize quiets_eq : start.config.quietsAudio mode = quiets at split
  have tells : Spares bearing Entry.isDealing
      (announce Event.foregroundGroup : Traced (Lifecycle γ σ α τ) Unit) :=
    spares_announce (fun _ _ => rfl) (fun _ _ => rfl) fun _ => rfl
  have wakes : Spares bearing Entry.isDealing
      (wakeTextInput : Traced (Lifecycle γ σ α τ) Unit) :=
    spares_wakeTextInput (fun _ _ => rfl) fun _ => rfl
  have told : start.telling.state.bearing = { start.bearing with phase := .running } :=
    (tells _).1
  obtain ⟨toldStill, toldGraphics, toldOutputs⟩ := silent_of_spared
    (show start.telling.trace.filter Entry.isDealing = [] from (tells _).2)
  have woken : (start.waking quiets).state.bearing = (start.rendering quiets).state.bearing :=
    (wakes _).1
  obtain ⟨wokenStill, wokenGraphics, wokenOutputs⟩ := silent_of_spared
    (show (start.waking quiets).trace.filter Entry.isDealing = [] from (wakes _).2)
  have hears : (whenever quiets (onAudio Audio.takeUpAll)).run start.telling.state =
      start.hearing quiets := rfl
  obtain ⟨heardSame, heardStill, heardGraphics, heardOutputs⟩ := called_onAudio
    (fun outputs => Audio.spares_takeUpAll (fun _ _ => rfl) (fun _ => rfl) outputs)
    Audio.audioCalls_takeUpAll quiets start.telling.state hears
  have restores : restoreContext.run (start.hearing quiets).state = start.rendering quiets := rfl
  obtain ⟨restoredSame, restoredStill, restoredOutputs, rendering⟩ :=
    comeback_restoreContext (start.hearing quiets).state restores
  have heard : (start.hearing quiets).state.bearing = { start.bearing with phase := .running } :=
    heardSame.trans told
  have bearing_eq : outcome.state.bearing = { start.bearing with
      phase := .running
      snapshot := (start.rendering quiets).state.keeper.snapshot } := by
    simp only [outcome, split]
    rw [woken, restoredSame, heard]
  have noted (position : Nat) : audioCalls position [.notice .enteredForeground] = [] := rfl
  have unrendered : graphicsCalls [.notice .enteredForeground] = [] := rfl
  refine ⟨_, congrArg Outcome.trace split, ?_⟩
  rw [bearing_eq]
  refine ⟨paused, settled, ?_, ?_, ⟨mode, ok, fun position => ?_⟩, rfl⟩
  · simp [toldStill, heardStill, restoredStill, wokenStill, Entry.isAdvance]
  · have saved : (start.hearing quiets).state.keeper.snapshot = start.keeper.snapshot :=
      congrArg Bearing.snapshot heard
    rw [saved] at rendering
    change Comeback start.keeper.snapshot _ _
    simpa only [graphicsCalls_append, toldGraphics, heardGraphics, wokenGraphics, unrendered,
      List.nil_append, List.append_nil] using rendering
  · subst quiets_eq
    obtain ⟨answer, calls⟩ := heardOutputs position
    refine ⟨answer, ?_⟩
    rw [told] at calls
    simp only [audioCalls_append, toldOutputs, calls, restoredOutputs, wokenOutputs, noted,
      List.nil_append, List.append_nil]
    rfl

end Work

end Lifecycle

variable [Graphics.Layer γ] [Window.Layer σ] [TextInput τ]

/-- Whatever a stage does, it is a dealing. -/
theorem dealing_stage {stage : Stage γ σ α τ} (ok : ∀ mode ∈ stage.mode?, modes mode)
    (ready : stage.Ready start) :
    Dealing modes start.bearing (stage.act.run start).trace
      (stage.act.run start).state.bearing := by
  have idle {action : Traced (Lifecycle γ σ α τ) Unit}
      (spared : Spares Lifecycle.bearing Entry.isDealing action) :
      Dealing modes start.bearing (action.run start).trace (action.run start).state.bearing := by
    obtain ⟨same, silent⟩ := spared start
    rw [same]
    exact .aside (.of_spared silent)
  cases stage with
  | move move =>
    exact idle (spares_bind (Lifecycle.spares_perform Lifecycle.apart_from_dealing move)
      fun _ => spares_pure _)
  | remark entry =>
    refine idle (spares_tell ?_)
    cases entry <;> first | rfl | cases ready
  | look host => exact .looked (Lifecycle.looking_lookForPause host ready)
  | carryOut mode =>
    obtain ⟨work, split, working⟩ := Lifecycle.carryingOut_carryOutPause mode
      (ok mode (by simp [Stage.mode?])) ready.1 ready.2
    have acts : (Stage.carryOut mode).act.run start =
        (Lifecycle.carryOutPause (start.config.quietsAudio mode)).run start := rfl
    rw [acts, split]
    exact .carriedOut working
  | comeBack mode =>
    obtain ⟨work, split, ending⟩ := Lifecycle.ending_comeBack mode
      (ok mode (by simp [Stage.mode?])) ready.1 ready.2.1 ready.2.2
    rw [split]
    exact .ended ending
  | recover =>
    obtain ⟨same, aside⟩ := Lifecycle.aside_recoverAudio start
    have acts : Stage.recover.act.run start = ⟨(), (Lifecycle.recoverAudio.run start).state,
        (Lifecycle.recoverAudio.run start).trace⟩ := by
      simp [Stage.act]
    rw [acts, same]
    exact .aside aside

section Course

variable {permitted : Stage γ σ α τ → Prop} {finish : Lifecycle γ σ α τ}
  {trace entries past later : List Entry}
  (ok : ∀ stage, permitted stage → ∀ mode ∈ stage.mode?, modes mode)

include ok

theorem Stage.Happens.dealing (happens : Stage.Happens permitted start entries finish) :
    Dealing modes start.bearing entries finish.bearing := by
  obtain ⟨stage, permits, ready⟩ := happens
  exact dealing_stage (ok stage permits) ready

/-- Every course of stages is one dealing after another. -/
theorem Course.dealings (course : Course permitted start trace finish) :
    Dealings modes start.bearing trace finish.bearing := by
  induction course with
  | rest => exact .rest
  | next before last ih => exact ih.next (last.dealing ok)

/-- The chapter of a pause that is carried out has the work of that, and is quiet otherwise. -/
theorem Course.chapter_of_carriedOut (course : Course permitted start trace finish)
    (split : trace = past ++ .milestone .carriedOut :: later) :
    ∃ (before : Lifecycle γ σ α τ) (after : Bearing) (work rest : List Entry),
      Course permitted start past before ∧ CarryingOut modes before.bearing work after ∧
      chapter later = work ++ rest ∧ Quiet rest := by
  obtain ⟨earlier, head, work, rest, before, after, first, link, remainder, past_eq, rfl⟩ :=
    course.split split
  obtain ⟨rfl, working⟩ := (link.dealing ok).at_carriedOut rfl
  have paused : after.bearing.phase = .paused := by
    rw [working.next_eq]
    exact working.paused
  have settled : after.bearing.due = false := by rw [working.next_eq]
  have quiet := (Course.dealings ok remainder).quiet_of_settled paused settled
  rw [List.append_nil] at past_eq
  refine ⟨before, after.bearing, work, chapter rest, past_eq ▸ first, working, ?_, quiet⟩
  exact chapter_append_of_silent (milestones_of_still working.still) rest

end Course

variable {permitted : Stage γ σ α τ → Prop} {finish : Lifecycle γ σ α τ} {trace : List Entry}

omit [Graphics.Layer γ] [Window.Layer σ] [TextInput τ] in
/-- Rounds of any kind. -/
theorem any_mode :
    ∀ stage, permitted stage → ∀ mode ∈ stage.mode?, (fun _ : LoopMode => True) mode :=
  fun _ _ _ _ => trivial

theorem Course.config_eq (course : Course permitted start trace finish) :
    finish.config = start.config :=
  (Course.dealings any_mode course).setUp.1

end AppLifecycle
