import AppLifecycle.Proofs.KeeperTasks
import AppLifecycle.Proofs.QuietAudio
import AppLifecycle.Proofs.TextInputCalls
import AppLifecycle.Proofs.TwoPhases

/-! A rendering context that belongs to the embedder. The keeper of such a lifecycle is never
asked for a backup or a restore, whichever rounds are gone through and whatever happens around
them; all else that a background cycle consists of goes on as ever. -/
namespace AppLifecycle

open Traced Trace

variable {γ σ α τ : Type}

namespace Keeper

/-- Whether a step leaves the rendering context to others. -/
def Step.leavesContext : Keeper.Step γ σ → Bool
  | .save | .restore => false
  | _ => true

/-- What a keeper that leaves the context to others has done, and still remembers. -/
structure Untouched (start : Keeper γ σ) (past : List Entry) (now : Keeper γ σ) : Prop where
  calls : ∀ entry ∈ past, entry.isKeepers = true →
    ∃ answer, entry = .graphics (.swapInterval answer)
  snapshot : now.snapshot = start.snapshot
  geometry : now.geometry = start.geometry

variable [Graphics.Layer γ] [Window.Layer σ] {start : Keeper γ σ}

theorem Untouched.go {past : List Entry} {now : Keeper γ σ} {step : Keeper.Step γ σ}
    (untouched : Untouched start past now) (leaves : step.leavesContext = true) :
    Untouched start (past ++ ((go step).run now).trace) ((go step).run now).state := by
  obtain ⟨calls, snapshot, geometry⟩ := untouched
  cases step with
  | save => cases leaves
  | restore => cases leaves
  | adjust graphics window events =>
    refine ⟨fun entry member => calls entry ?_, snapshot, geometry⟩
    simpa [Keeper.go] using member
  | remember =>
    refine ⟨fun entry member keepers => ?_, snapshot, geometry⟩
    rcases List.mem_append.mp member with earlier | now
    · exact calls entry earlier keepers
    · simp only [Keeper.go, rememberSwapInterval, askGraphics, run_bind, run_within, run_ask,
        run_update, run_note, List.nil_append, List.cons_append, List.mem_cons, List.not_mem_nil,
        or_false] at now
      rcases now with rfl | rfl
      · exact ⟨_, rfl⟩
      · cases keepers

/-- Work that has the keeper do such steps only adds nothing of its own. -/
theorem Untouched.employed {past entries : List Entry} {now next : Keeper γ σ}
    {steps : List (Keeper.Step γ σ)} (untouched : Untouched start past now)
    (employed : Employed steps now entries next)
    (leave : ∀ step ∈ steps, step.leavesContext = true) :
    Untouched start (past ++ entries) next := by
  have through : Untouched start (past ++ ((Keeper.through steps).run now).trace) _ :=
    through_invariant leave untouched fun _ _ _ untouched leaves => untouched.go leaves
  obtain ⟨calls, snapshot, geometry⟩ := through
  rw [employed.finish_eq]
  refine ⟨fun entry member keepers => calls entry ?_ keepers, snapshot, geometry⟩
  rcases List.mem_append.mp member with earlier | now
  · exact List.mem_append_left _ earlier
  · exact List.mem_append_right _ ((employed.mem_iff keepers).mp now)

end Keeper

/-- A lifecycle has its keeper leave the context alone if that belongs to the embedder. -/
theorem Stage.tasks_leave_context {stage : Stage γ σ α τ} {now : Lifecycle γ σ α τ}
    (external : now.config.contextExternal = true) (step : Keeper.Step γ σ)
    (member : step ∈ stage.tasks now) : step.leavesContext = true := by
  have unrestored : now.standing.restores = false := by
    simp [Standing.restores, Lifecycle.standing, external]
  cases stage with
  | move deed =>
    obtain rfl := List.mem_singleton.mp member
    cases deed <;> rfl
  | look host =>
    simp only [Stage.tasks] at member
    split at member <;> simp at member
    rcases member with rfl | rfl <;> rfl
  | carryOut mode => simp [Stage.tasks, external] at member
  | comeBack mode =>
    obtain rfl : step = .requeue _ := by simpa [Stage.tasks, unrestored] using member
    rfl
  | remark entry => simp [Stage.tasks] at member
  | recover => simp [Stage.tasks] at member

section Turns

variable {allowed : Move γ σ α τ → Prop} {start finish : Standing} {trace : List Entry}

/-- The app is told of no reset by the lifecycle of a context that belongs to the embedder. -/
theorem Turns.resets_of_external (turns : Turns allowed start trace finish)
    (external : start.external = true) :
    finish.external = true ∧
      ∀ origin, (origin, .renderDeviceReset) ∈ pushes trace → origin = .app := by
  induction turns with
  | rest => exact ⟨external, by simp [pushes]⟩
  | @next past entries now next before turn ih =>
    obtain ⟨still, earlier⟩ := ih
    have last : next.external = true ∧
        ∀ origin, (origin, .renderDeviceReset) ∈ pushes entries → origin = .app := by
      cases turn with
      | pushed event times ok some => exact ⟨still, by simp [pushes]⟩
      | announced running raised =>
        exact ⟨still, by simp [pushes, announcing, Event.backgroundGroup]⟩
      | ended reset paused settled raised restored =>
        cases reset with
        | false => exact ⟨still, by simp [pushes, endingEntries, Event.foregroundGroup]⟩
        | true =>
          obtain ⟨-, restores⟩ := restored rfl
          simp [Standing.restores, still] at restores
      | _ => exact ⟨still, by simp [pushes]⟩
    refine ⟨last.1, fun origin member => ?_⟩
    rw [pushes_append] at member
    rcases List.mem_append.mp member with before | after
    · exact earlier origin before
    · exact last.2 origin after

end Turns

/-- A pause is due exactly from the moment it is final until it is carried out. -/
theorem Cycled.due_iff {trace : List Entry} {now : Bearing} (cycled : Cycled trace now) :
    now.due = true ↔ (Trace.milestones trace).getLast? = some .committed := by
  by_cases paused : now.phase = .paused
  · rw [cycled.last paused]
    cases now.due <;> simp
  -- Outside a pause nothing is due, and all that lies behind are whole cycles.
  · obtain ⟨paused_of_due, cycles, milestones⟩ := cycled
    have last : (Trace.milestones trace).getLast? ≠ some .committed := by
      rw [milestones]
      cases cycles <;> simp [Bearing.cycle, paused, List.replicate_succ']
    exact ⟨fun due => absurd (paused_of_due due) paused, fun committed => absurd committed last⟩

/-- The end of a pause, the rendering context apart: the app is told that it is back, each output
is taken up if the round silences audio, and a text input is woken exactly if it was in use. -/
structure Return (mode : LoopMode) (config : Config) (outputs : Nat) (hasTextInput : Bool)
    (work : List Entry) : Prop where
  told : pushes work = Event.foregroundGroup.map (Prod.mk .lifecycle)
  heard : ∀ position, ∃ answer, audioCalls position work =
    if config.quietsAudio mode = true ∧ position < outputs then [.resume .fanOut answer] else []
  asked : hasTextInput = true → ∃ active,
    textInputCalls work = .isActive active :: if active then [.activate] else []
  unasked : hasTextInput = false → textInputCalls work = []

section Returning

variable [Graphics.Layer γ] [Window.Layer σ] [TextInput τ] {now after : Lifecycle γ σ α τ}
  {permitted : Stage γ σ α τ → Prop} {head tail : List Entry} {mode : LoopMode}

/-- A pause ends in the one stage that is there for that. -/
theorem Stage.Happens.at_ended
    (happens : Stage.Happens permitted now (head ++ .milestone .ended :: tail) after) :
    ∃ mode, permitted (.comeBack mode) ∧ (Stage.comeBack mode).Ready now ∧
      ((Stage.comeBack mode).act.run now).trace = .took .resume :: .milestone .ended :: tail := by
  generalize split : head ++ .milestone .ended :: tail = entries at happens
  obtain ⟨stage, permits, ready⟩ := happens
  have anyway : ∀ mode ∈ stage.mode?, (fun _ : LoopMode => True) mode := fun _ _ => trivial
  obtain ⟨rfl, ending⟩ := (dealing_stage anyway ready).at_ended split.symm
  have member : .milestone .ended ∈ (stage.act.run now).trace := by simp [← split]
  -- The other stages are not there for a pause that is settled, or never end one.
  cases stage with
  | comeBack mode => exact ⟨mode, permits, ready, split.symm⟩
  | look host => exact absurd ending.paused ready
  | carryOut mode =>
    have settled : now.carryOutDue = false := ending.settled
    simp [Stage.Ready, settled] at ready
  | move move =>
    have spared := spares_bind (Lifecycle.spares_perform Lifecycle.apart_from_dealing move)
      fun _ => spares_pure ()
    exact absurd rfl (List.filter_eq_nil_iff.mp (spared now).2 _ member)
  | remark entry =>
    obtain rfl := List.mem_singleton.mp member
    cases ready
  | recover =>
    have there : .milestone .ended ∈ (Lifecycle.recoverAudio.run now).trace := by
      simpa [Stage.act] using member
    exact absurd there (Lifecycle.avoids_recoverAudio.not_mem now)

namespace Lifecycle

/-- Where the context belongs to the embedder, the app is told that it is back and no more. -/
theorem pushes_of_external (quiets : Bool) (external : now.config.contextExternal = true) :
    pushes (now.telling.trace ++ (now.hearing quiets).trace ++ (now.rendering quiets).trace ++
      (now.waking quiets).trace) = Event.foregroundGroup.map (Prod.mk .lifecycle) := by
  obtain ⟨stands, told⟩ := hearing_turns quiets now
  have still : (now.hearing quiets).state.config.contextExternal = true :=
    (congrArg Standing.external stands).trans external
  have skipped : (now.rendering quiets).trace = [.notice .restoreSkippedExternal] := by
    simp [rendering, restoreContext, run_bind, still]
  have woken : (now.waking quiets).trace.filter Entry.isTurn = [] :=
    (spares_standing_wakeTextInput (now.rendering quiets).state).2
  rw [← pushes_turns, List.filter_append, List.filter_append, told, skipped, woken]
  rfl

/-- Where the context belongs to the embedder, the end of a pause is all but a restore. -/
theorem return_of_external (external : now.config.contextExternal = true)
    (ready : (Stage.comeBack mode).Ready now) :
    ∃ work, ((Stage.comeBack mode).act.run now).trace =
        .took .resume :: .milestone .ended :: (work ++ [.notice .enteredForeground]) ∧
      Return mode now.config now.outputs.length now.textInput.isSome work := by
  obtain ⟨paused, settled, raised⟩ := ready
  have ends : ∃ rest, ((Stage.comeBack mode).act.run now).trace =
      .took .resume :: .milestone .ended :: rest ∧ Ending (· = mode) now.bearing rest _ :=
    ending_comeBack mode rfl paused settled raised
  obtain ⟨rest, split, ending⟩ := ends
  obtain ⟨other, same, outputs⟩ := ending.outputs
  have whole := congrArg Outcome.trace (run_comeBack mode raised)
  -- How the outputs are taken up is known of the work as a whole; who is told and who is asked
  -- can only be read off its pieces.
  generalize quiets_eq : now.config.quietsAudio mode = quiets at whole
  let early := now.telling.trace ++ (now.hearing quiets).trace ++ (now.rendering quiets).trace
  have rest_eq : rest = early ++ (now.waking quiets).trace ++ [.notice .enteredForeground] := by
    simpa [split, early] using whole
  have unasked : textInputCalls early = [] := (textInput_rendering quiets now).2
  have asked := textInputCalls_waking quiets now
  refine ⟨early ++ (now.waking quiets).trace, by rw [split, rest_eq],
    pushes_of_external quiets external, fun position => ?_, ?_, ?_⟩
  · obtain ⟨answer, called⟩ := outputs position
    have noted : audioCalls position [.notice .enteredForeground] = [] := rfl
    rw [rest_eq, audioCalls_append, noted, List.append_nil, same] at called
    exact ⟨answer, called⟩
  · rw [textInputCalls_append, unasked, List.nil_append]
    exact asked.1
  · rw [textInputCalls_append, unasked, List.nil_append]
    exact asked.2

end Lifecycle

section Course

variable {start finish : Lifecycle γ σ α τ} {trace past later : List Entry}

/-- Where the context belongs to the embedder, the keeper leaves it to others all along. -/
theorem Course.untouched (course : Course permitted start trace finish)
    (external : start.config.contextExternal = true) :
    Keeper.Untouched start.keeper trace finish.keeper := by
  induction course with
  | rest => exact ⟨by simp, rfl, rfl⟩
  | next before last ih =>
    obtain ⟨stage, -, ready⟩ := last
    have still := (Course.config_eq before).symm ▸ external
    exact ih.employed (employs_stage ready) (Stage.tasks_leave_context still)

/-- Every pause that ends in rounds of one kind ends as that kind has it. -/
theorem Course.return_of_external
    (ok : ∀ stage, permitted stage → ∀ other ∈ stage.mode?, other = mode)
    (course : Course permitted start trace finish) (external : start.config.contextExternal = true)
    (split : trace = past ++ .milestone .ended :: later) :
    ∃ work rest, later = work ++ .notice .enteredForeground :: rest ∧
      Return mode start.config start.outputs.length start.textInput.isSome work := by
  obtain ⟨_, _, tail, rest, now, _, before, link, -, -, rfl⟩ := course.split split
  obtain ⟨other, permits, ready, ends⟩ := link.at_ended
  obtain rfl := ok _ permits other (by simp [Stage.mode?])
  have config := Course.config_eq before
  have outputs : now.outputs.length = start.outputs.length :=
    (Course.dealings any_mode before).setUp.2
  obtain ⟨work, whole, returned⟩ := Lifecycle.return_of_external (config ▸ external) ready
  have tail_eq : tail = work ++ [.notice .enteredForeground] := by
    simpa using ends.symm.trans whole
  refine ⟨work, rest, by simp [tail_eq], ?_⟩
  rwa [config, outputs, Course.isSome_textInput before] at returned

end Course

end Returning

variable [Graphics.Layer γ] [Window.Layer σ] [TextInput τ]

/-- A rendering context that belongs to the embedder is left alone by every run, in rounds of
either kind and whatever happens around them: the rendering layer is asked for the swap interval
only and the window for nothing, the app is told of a reset by itself only, and what the keeper
remembers of context and geometry stays what it was. All else goes on as ever. A final pause is
due until it is carried out. In whatever comes next, the rounds being of one kind, a pause that
is carried out silences the outputs if this kind does, and from then on they are only recovered;
and a pause that ends is told of, takes the outputs up likewise and wakes the text input exactly
if it was in use. -/
theorem external_context_is_left_alone (config : Config) (keeper : Keeper γ σ)
    (outputs : List (Audio.Output α)) (audio : α) (textInput : Option τ) (run : Run γ σ α τ)
    (external : config.contextExternal = true) :
    let outcome := (Lifecycle.play run).run (Lifecycle.fresh config keeper outputs audio textInput)
    let lifecycle := outcome.state
    (∀ call ∈ graphicsCalls outcome.trace, ∃ answer, call = .swapInterval answer) ∧
    windowCalls outcome.trace = [] ∧
    (∀ origin, (origin, .renderDeviceReset) ∈ pushes outcome.trace → origin = .app) ∧
    lifecycle.keeper.snapshot = keeper.snapshot ∧ lifecycle.keeper.geometry = keeper.geometry ∧
    (lifecycle.carryOutDue = true ↔ (milestones outcome.trace).getLast? = some .committed) ∧
    ∀ mode next, (∀ other, next.modes other → other = mode) →
      let onward := (Lifecycle.play next).run lifecycle
      (∀ past later, onward.trace = past ++ .milestone .carriedOut :: later →
        ∀ position, ∃ answer calls, audioCalls position (chapter later) =
            (if config.quietsAudio mode = true ∧ position < outputs.length
              then [.pause .fanOut answer] else []) ++ calls ∧ Audio.Recoveries calls) ∧
      ∀ past later, onward.trace = past ++ .milestone .ended :: later →
        ∃ work rest, later = work ++ .notice .enteredForeground :: rest ∧
          Return mode config outputs.length textInput.isSome work := by
  intro outcome lifecycle
  let start := Lifecycle.fresh config keeper outputs audio textInput
  have course : Course run.Has start outcome.trace lifecycle := Lifecycle.unfolds_play run
  obtain ⟨calls, snapshot, geometry⟩ := course.untouched external
  have turns : Turns (· ∈ run.moves) start.standing (outcome.trace.filter Entry.isTurn) _ :=
    Lifecycle.play_turns run start fun _ member => member
  have cycled : Cycled outcome.trace lifecycle.bearing := (Course.dealings any_mode course).cycled
    (by simp [start, Lifecycle.bearing, Lifecycle.fresh]) rfl
  have config_eq : lifecycle.config = config := Course.config_eq course
  have outputs_eq : lifecycle.outputs.length = outputs.length :=
    (Course.dealings any_mode course).setUp.2
  have textInput_eq : lifecycle.textInput.isSome = textInput.isSome := course.isSome_textInput
  refine ⟨?_, ?_, ?_, snapshot, geometry, cycled.due_iff, ?_⟩
  · intro call member
    obtain ⟨answer, same⟩ := calls _ (mem_graphicsCalls.mp member) rfl
    exact ⟨answer, Entry.graphics.inj same⟩
  · apply List.filterMap_eq_nil_iff.mpr
    intro entry member
    cases entry with
    | window call =>
      obtain ⟨answer, same⟩ := calls _ member rfl
      cases same
    | _ => rfl
  · intro origin reset
    have resets := (turns.resets_of_external external).2
    rw [pushes_turns] at resets
    exact resets origin reset
  · intro mode next same onward
    have onwards : Course next.Has lifecycle onward.trace onward.state :=
      Lifecycle.unfolds_play next
    have ok (stage : Stage γ σ α τ) (has : next.Has stage) (other : LoopMode)
        (member : other ∈ stage.mode?) : other = mode :=
      same other (Run.modes_of_has stage has other member)
    constructor
    · intro past later split position
      have silences := onwards.silences_at_carriedOut ok split position
      rwa [config_eq, outputs_eq] at silences
    · intro past later split
      have returns := onwards.return_of_external ok (config_eq ▸ external) split
      rwa [config_eq, outputs_eq, textInput_eq] at returns

/-- One pause in ticking rounds, with a request to quit in the background, and a second one that
a ticking round makes final. -/
def Rehearsal.quitBetweenPauses : RehearsedRun where
  steps := [.around (.notify .pause 1), .ticking {}, .around .drain, .ticking {}, .ticking {},
    .around (.push .quit 1), .around (.notify .resume 1), .ticking {}, .around (.notify .pause 1),
    .ticking {}, .around .drain, .ticking {}]

/-- A suspending round that finds a resume. -/
def Rehearsal.suspendingReturn : RehearsedRun where
  steps := [.suspending { beforeResume := [.resume] }]

/-- The second pause is carried out and ended by a suspending round, which silences audio although
ticking rounds do not; the context that gets lost when it is detached is never detached. -/
theorem external_context_survives_pauses_in_rounds_of_either_kind :
    let config : Config := { pauseAudio := false, contextExternal := true }
    let outcome := (Lifecycle.play Rehearsal.quitBetweenPauses).run
      (Lifecycle.fresh config Rehearsal.opening [Rehearsal.Scripts.output .plain "speaker" 0] [{}]
        (some { active := true }))
    let onward := (Lifecycle.play Rehearsal.suspendingReturn).run outcome.state
    config.contextExternal = true ∧
      (∀ other, Rehearsal.suspendingReturn.modes other → other = .suspending) ∧
      milestones outcome.trace = [.committed, .carriedOut, .ended, .committed] ∧
      windowCalls outcome.trace = [] ∧ outcome.state.carryOutDue = true ∧
      (∃ past later answer calls, onward.trace = past ++ .milestone .carriedOut :: later ∧
        audioCalls 0 (chapter later) = .pause .fanOut answer :: calls) ∧
      ∃ past work rest,
        onward.trace = past ++ .milestone .ended :: (work ++ .notice .enteredForeground :: rest) ∧
        Return .suspending config 1 true work := by
  intro config outcome onward
  have same (other : LoopMode) (among : Rehearsal.suspendingReturn.modes other) :
      other = .suspending := by
    obtain ⟨step, member, mode⟩ := among
    obtain rfl := List.mem_singleton.mp member
    exact (Option.some.inj mode).symm
  obtain ⟨-, windowCalls, -, -, -, due_iff, onwards⟩ := external_context_is_left_alone config
    Rehearsal.opening [Rehearsal.Scripts.output .plain "speaker" 0] [{}] (some { active := true })
    Rehearsal.quitBetweenPauses rfl
  obtain ⟨silences, returns⟩ := onwards .suspending Rehearsal.suspendingReturn same
  have cycles : milestones outcome.trace = [.committed, .carriedOut, .ended, .committed] := by
    decide
  have carriedOut : .milestone .carriedOut ∈ onward.trace := mem_milestones.mp (by decide)
  have ended : .milestone .ended ∈ onward.trace := mem_milestones.mp (by decide)
  obtain ⟨past, later, split⟩ := List.append_of_mem carriedOut
  obtain ⟨before, after, whole⟩ := List.append_of_mem ended
  obtain ⟨answer, calls, called, -⟩ := silences past later split 0
  obtain ⟨work, rest, rfl, returned⟩ := returns before after whole
  exact ⟨rfl, same, cycles, windowCalls, due_iff.mpr (by rw [cycles]; rfl),
    ⟨past, later, answer, calls, split, called⟩, before, work, rest, whole, returned⟩

end AppLifecycle
