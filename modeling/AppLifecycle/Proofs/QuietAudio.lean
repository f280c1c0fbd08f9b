import AppLifecycle.Proofs.StageDealings

/-! Audio in the background. A pause that is carried out silences every output, and nothing but
the end of the pause takes them all up again; an output whose own playback stalls, though,
is cycled whatever the phase, and then plays on in the background. -/
namespace AppLifecycle

open Traced Trace

variable {γ σ α τ : Type}

namespace Audio

/-- Whether a call tells an output to be silent or to play. -/
def Call.isOrder : Call → Bool
  | .pause .. | .resume .. => true
  | .detectStall _ => false

/-- Recoveries order something exactly if the output stalled, and the last order is to play. -/
theorem Recoveries.orders {calls : List Call} (recoveries : Recoveries calls) :
    (.detectStall true ∉ calls → calls.filter Call.isOrder = []) ∧
      (.detectStall true ∈ calls → ∃ answer,
        (calls.filter Call.isOrder).getLast? = some (.resume .recovery answer)) := by
  induction recoveries with
  | none => exact ⟨fun _ => rfl, fun stalled => by simp at stalled⟩
  | @sound calls before ih =>
    have same : (calls ++ [Call.detectStall false]).filter Call.isOrder =
        calls.filter Call.isOrder := by simp [Call.isOrder]
    rw [same]
    simpa using ih
  | @stalled calls before paused resumed ih =>
    refine ⟨fun sound => absurd sound (by simp), fun _ => ⟨resumed, ?_⟩⟩
    simp [Call.isOrder, List.filter_cons]

end Audio

/-- The latest order to the output at a position. -/
def Trace.lastOrder (position : Nat) (trace : List Entry) : Option Audio.Call :=
  ((audioCalls position trace).filter Audio.Call.isOrder).getLast?

/-- An output that was silenced stays so until it stalls. -/
theorem Trace.lastOrder_of_silenced {position : Nat} {past since : List Entry}
    {answer : Except Audio.Error Unit} {calls : List Audio.Call}
    (called : audioCalls position since = .pause .fanOut answer :: calls)
    (recoveries : Audio.Recoveries calls) :
    (.audio position (.detectStall true) ∉ since →
      lastOrder position (past ++ since) = some (.pause .fanOut answer)) ∧
    (.audio position (.detectStall true) ∈ since → ∃ answer,
      lastOrder position (past ++ since) = some (.resume .recovery answer)) := by
  have stalls : .audio position (.detectStall true) ∈ since ↔ .detectStall true ∈ calls := by
    rw [← mem_audioCalls, called]
    simp
  have orders : (audioCalls position (past ++ since)).filter Audio.Call.isOrder =
      (audioCalls position past).filter Audio.Call.isOrder ++
        .pause .fanOut answer :: calls.filter Audio.Call.isOrder := by
    simp [called, List.filter_cons, Audio.Call.isOrder]
  obtain ⟨silent, plays⟩ := recoveries.orders
  rw [stalls, lastOrder, orders]
  refine ⟨fun sound => ?_, fun stalled => ?_⟩
  · rw [silent sound]
    exact List.getLast?_concat
  · obtain ⟨resumed, last⟩ := plays stalled
    exact ⟨resumed, by simp [List.getLast?_cons, last]⟩

/-- Every stage of a run without suspending rounds belongs to a ticking one. -/
theorem Run.ticking_of_has {run : Run γ σ α τ}
    (ticks : ∀ step ∈ run.allSteps, step.mode? ≠ some .suspending) (stage : Stage γ σ α τ)
    (has : run.Has stage) (mode : LoopMode) (member : mode ∈ stage.mode?) : mode = .ticking := by
  obtain ⟨step, among, -, modes⟩ := has
  cases mode with
  | ticking => rfl
  | suspending => exact absurd (modes _ member) (ticks step among)

variable [Graphics.Layer γ] [Window.Layer σ] [TextInput τ]

section Course

variable {permitted : Stage γ σ α τ → Prop} {start finish : Lifecycle γ σ α τ}
  {trace past later : List Entry}

/-- A pause that is carried out in rounds of one kind silences every output once if that kind
silences audio, and up to the next milestone outputs are only recovered. -/
theorem Course.silences_at_carriedOut {mode : LoopMode}
    (ok : ∀ stage, permitted stage → ∀ other ∈ stage.mode?, other = mode)
    (course : Course permitted start trace finish)
    (split : trace = past ++ .milestone .carriedOut :: later) (position : Nat) :
    ∃ answer calls, audioCalls position (chapter later) =
        (if start.config.quietsAudio mode = true ∧ position < start.outputs.length
          then [.pause .fanOut answer] else []) ++ calls ∧ Audio.Recoveries calls := by
  obtain ⟨before, after, work, rest, first, working, chapter_eq, quiet⟩ :=
    Course.chapter_of_carriedOut ok course split
  obtain ⟨config, outputs⟩ := (Course.dealings ok first).setUp
  obtain ⟨_, rfl, silences⟩ := working.outputs
  obtain ⟨answer, called⟩ := silences position
  rw [config, outputs] at called
  refine ⟨answer, audioCalls position rest, ?_, quiet.outputs position⟩
  rw [chapter_eq, audioCalls_append, called]
  rfl

/-- A pause that is carried out in ticking rounds silences every registered output once, if they
silence audio. -/
theorem Course.silenced_at_carriedOut
    (ticks : ∀ stage, permitted stage → ∀ mode ∈ stage.mode?, mode = .ticking)
    (quiets : start.config.pauseAudio = true) (course : Course permitted start trace finish)
    (split : trace = past ++ .milestone .carriedOut :: later) (position : Nat)
    (registered : position < start.outputs.length) :
    ∃ answer calls, audioCalls position (chapter later) = .pause .fanOut answer :: calls ∧
      Audio.Recoveries calls := by
  obtain ⟨answer, calls, called, recoveries⟩ :=
    course.silences_at_carriedOut ticks split position
  rw [if_pos ⟨quiets, registered⟩] at called
  exact ⟨answer, calls, called, recoveries⟩

end Course

/-- Where ticking rounds silence audio, a pause that is carried out silences every output once,
and up to the end of the pause an output is only called to recover it. In the background the
latest order to an output is therefore to be silent, unless it stalled since the pause was
carried out; then it is to play. -/
theorem audio_is_silent_in_the_background_until_it_stalls (config : Config) (keeper : Keeper γ σ)
    (outputs : List (Audio.Output α)) (audio : α) (textInput : Option τ) (run : Run γ σ α τ)
    (quiets : config.pauseAudio = true)
    (ticks : ∀ step ∈ run.allSteps, step.mode? ≠ some .suspending) :
    let outcome := (Lifecycle.play run).run (Lifecycle.fresh config keeper outputs audio textInput)
    let lifecycle := outcome.state
    (∀ past later, outcome.trace = past ++ .milestone .carriedOut :: later →
      ∀ position < outputs.length, ∃ answer calls,
        audioCalls position (chapter later) = .pause .fanOut answer :: calls ∧
          Audio.Recoveries calls) ∧
    (lifecycle.phase = .paused → lifecycle.carryOutDue = false → ∃ past since,
      outcome.trace = past ++ .milestone .carriedOut :: since ∧ milestones since = [] ∧
      ∀ position < outputs.length,
        (.audio position (.detectStall true) ∉ since →
          ∃ answer, lastOrder position outcome.trace = some (.pause .fanOut answer)) ∧
        (.audio position (.detectStall true) ∈ since →
          ∃ answer, lastOrder position outcome.trace = some (.resume .recovery answer))) := by
  intro outcome lifecycle
  let start := Lifecycle.fresh config keeper outputs audio textInput
  have course : Course run.Has start outcome.trace lifecycle := Lifecycle.unfolds_play run
  have silenced (past later : List Entry)
      (split : outcome.trace = past ++ .milestone .carriedOut :: later) (position : Nat)
      (registered : position < outputs.length) :=
    Course.silenced_at_carriedOut (Run.ticking_of_has ticks) quiets course split position registered
  refine ⟨silenced, fun paused settled => ?_⟩
  have dealings := Course.dealings (Run.ticking_of_has ticks) course
  have last : (milestones outcome.trace).getLast? = some .carriedOut := by
    have cycled := dealings.cycled (by simp [start, Lifecycle.bearing, Lifecycle.fresh]) rfl
    have carried : lifecycle.bearing.due = false := settled
    rw [cycled.last paused, carried]
    rfl
  obtain ⟨past, since, split, open_⟩ := split_of_last_milestone last
  refine ⟨past, since, split, open_, fun position registered => ?_⟩
  obtain ⟨answer, calls, called, recoveries⟩ := silenced past since split position registered
  rw [chapter_of_silent open_] at called
  obtain ⟨silent, plays⟩ := lastOrder_of_silenced called recoveries
  rw [split, List.append_cons]
  exact ⟨fun sound => ⟨answer, silent sound⟩, plays⟩

/-- One output is silenced in the background by ticking rounds. -/
def Rehearsal.ticksToBackground : RehearsedRun where
  steps := [.around (.notify .pause 1), .ticking {}, .around .drain, .ticking {}, .ticking {}]

/-- Goes through that run with an output that stalls as a script tells. -/
def Rehearsal.rehearseAudio (stalls : List Bool) : Outcome RehearsedLifecycle Unit :=
  (Lifecycle.play ticksToBackground).run
    (Lifecycle.fresh .ticking opening [Scripts.output .probing "speaker" 0] [{ stalls }] none)

/-- An output that does not stall is silent. -/
theorem sound_output_is_silent_in_the_background :
    Config.ticking.pauseAudio = true ∧
      (∀ step ∈ Rehearsal.ticksToBackground.allSteps, step.mode? ≠ some .suspending) ∧
      (Rehearsal.rehearseAudio []).state.phase = .paused ∧
      ∃ answer, lastOrder 0 (Rehearsal.rehearseAudio []).trace = some (.pause .fanOut answer) := by
  have ticks : ∀ step ∈ Rehearsal.ticksToBackground.allSteps, step.mode? ≠ some .suspending := by
    decide
  obtain ⟨-, background⟩ := audio_is_silent_in_the_background_until_it_stalls .ticking
    Rehearsal.opening [Rehearsal.Scripts.output .probing "speaker" 0] [{}] none
    Rehearsal.ticksToBackground rfl ticks
  obtain ⟨past, since, split, -, orders⟩ := background (by decide) (by decide)
  have calls : audioCalls 0 (Rehearsal.rehearseAudio []).trace =
    [.detectStall false, .detectStall false, .pause .fanOut (.ok ()), .detectStall false] := rfl
  have sound : .audio 0 (.detectStall true) ∉ since := by
    intro stalled
    have member : .audio 0 (.detectStall true) ∈ (Rehearsal.rehearseAudio []).trace :=
      split ▸ List.mem_append_right _ (List.mem_cons_of_mem _ stalled)
    rw [← mem_audioCalls, calls] at member
    simp at member
  exact ⟨rfl, ticks, by decide, (orders 0 (by decide)).1 sound⟩

/-- An output that stalls in the background is taken up there, with nothing left to carry out. -/
theorem stalled_output_is_taken_up_in_the_background :
    Config.ticking.pauseAudio = true ∧
      (∀ step ∈ Rehearsal.ticksToBackground.allSteps, step.mode? ≠ some .suspending) ∧
      (Rehearsal.rehearseAudio [false, false, true]).state.phase = .paused ∧
      (Rehearsal.rehearseAudio [false, false, true]).state.carryOutDue = false ∧
      lastOrder 0 (Rehearsal.rehearseAudio [false, false, true]).trace =
        some (.resume .recovery (.ok ())) :=
  ⟨rfl, by decide, by decide, by decide, rfl⟩

end AppLifecycle
