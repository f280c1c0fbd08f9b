import AppLifecycle.Proofs.Run

/-! The stages that runs are made of. Both kinds of round are put together from the same
few pieces of work, each of which happens only in certain lifecycles. Every run is a
course of such stages, so a property of runs follows from what each stage does where it
can happen; which round a stage belongs to, and in which order, no longer matters. -/
namespace AppLifecycle

open Traced

variable {γ σ α τ : Type}

/-- One link after another, with the entries that tell of it. -/
inductive Chain {s : Type} (link : s → List Entry → s → Prop) (start : s) :
    List Entry → s → Prop where
  | rest : Chain link start [] start
  | next {past entries : List Entry} {now after : s} (before : Chain link start past now)
      (last : link now entries after) : Chain link start (past ++ entries) after

namespace Chain

variable {s : Type} {link : s → List Entry → s → Prop} {start middle finish : s}
  {past later entries trace : List Entry}

theorem single (only : link start entries finish) : Chain link start entries finish :=
  rest.next only

theorem trans (first : Chain link start past middle) (second : Chain link middle later finish) :
    Chain link start (past ++ later) finish := by
  induction second with
  | rest => simpa using first
  | next before last ih =>
    rw [← List.append_assoc]
    exact ih.next last

/-- What holds at the start and is kept by every link holds at the end. -/
theorem invariant {property : List Entry → s → Prop} (chain : Chain link start trace finish)
    (initial : property [] start)
    (step : ∀ {past entries now after}, property past now → link now entries after →
      property (past ++ entries) after) : property trace finish := by
  induction chain with
  | rest => exact initial
  | next before last ih => exact step ih last

/-- The moment of an entry lies within one link; the chain goes on after it. -/
theorem split (chain : Chain link start trace finish) {entry : Entry}
    (at_entry : trace = past ++ entry :: later) :
    ∃ before head tail rest now after, Chain link start before now ∧
      link now (head ++ entry :: tail) after ∧ Chain link after rest finish ∧
      past = before ++ head ∧ later = tail ++ rest := by
  induction chain generalizing later with
  | rest => simp at at_entry
  | @next before entries now after chain last ih =>
    rcases List.append_eq_append_iff.mp at_entry with
      ⟨head, rfl, entries_eq⟩ | ⟨between, before_eq, later_eq⟩
    · exact ⟨before, head, later, [], now, after, chain, entries_eq ▸ last, .rest, rfl, by simp⟩
    · cases between with
      | nil =>
        have same : past = before := by simpa using before_eq.symm
        have here : entry :: later = entries := later_eq
        exact ⟨before, [], later, [], now, after, chain, here ▸ last, .rest, by simp [same],
          by simp⟩
      | cons first between =>
        obtain ⟨rfl, rfl⟩ := List.cons.inj later_eq
        obtain ⟨earlier, head, tail, rest, there, beyond, first, link, remainder, past_eq, rfl⟩ :=
          ih before_eq
        exact ⟨earlier, head, tail, rest ++ entries, there, beyond, first, link,
          remainder.next last, past_eq, by simp⟩

/-- The moment of an entry lies within one link. -/
theorem around (chain : Chain link start trace finish) {entry : Entry}
    (at_entry : trace = past ++ entry :: later) :
    ∃ before head tail now after, Chain link start before now ∧
      link now (head ++ entry :: tail) after ∧ past = before ++ head := by
  obtain ⟨before, head, tail, rest, now, after, first, last, -, past_eq, -⟩ := chain.split at_entry
  exact ⟨before, head, tail, now, after, first, last, past_eq⟩

end Chain

/-- A piece of a run. -/
inductive Stage (γ σ α τ : Type) where
  /-- A move of the host, the app or the collaborators. -/
  | move (move : Move γ σ α τ)
  /-- An entry in the trace and nothing else. -/
  | remark (entry : Entry)
  /-- A look for a pause. -/
  | look (host : HostActivity γ σ α τ)
  /-- A final pause is carried out, in a round of a kind. -/
  | carryOut (mode : LoopMode)
  /-- A resume ends the pause, in a round of a kind. -/
  | comeBack (mode : LoopMode)
  /-- Stalled audio outputs are cycled. -/
  | recover

/-- The entries that only say how a round is getting on. -/
def Entry.isRemark : Entry → Bool
  | .suspended | .released _ | .notice _ => true
  | _ => false

/-- Whether audio is silenced in the background by rounds of a kind. -/
def Config.quietsAudio (config : Config) : LoopMode → Bool
  | .suspending => true
  | .ticking => config.pauseAudio

namespace Stage

/-- The moves that happen in a stage. -/
def moves : Stage γ σ α τ → List (Move γ σ α τ)
  | .move deed => [deed]
  | .look host => host.moves
  | _ => []

/-- The kind of round that a stage can only be a part of. -/
def mode? : Stage γ σ α τ → Option LoopMode
  | carryOut mode | comeBack mode => some mode
  | _ => none

/-- Whether a stage can happen to a lifecycle. -/
def Ready : Stage γ σ α τ → Lifecycle γ σ α τ → Prop
  | remark entry, _ => entry.isRemark = true
  | look _, lifecycle => lifecycle.phase ≠ .paused
  | carryOut _, lifecycle => lifecycle.phase = .paused ∧ lifecycle.carryOutDue = true
  | comeBack _, lifecycle => lifecycle.phase = .paused ∧ lifecycle.carryOutDue = false ∧
    0 < lifecycle.signals.resume.count
  | _, _ => True

variable [Graphics.Layer γ] [Window.Layer σ] [TextInput τ]

/-- What happens in a stage. -/
def act : Stage γ σ α τ → Traced (Lifecycle γ σ α τ) Unit
  | .move deed => do
    let _ ← Lifecycle.perform deed
    pure ()
  | remark entry => tell entry
  | look host => Lifecycle.lookForPause host
  | carryOut mode => do
    let config ← read Lifecycle.config
    Lifecycle.carryOutPause (config.quietsAudio mode)
  | comeBack mode => do
    let _ ← Lifecycle.take .resume
    let config ← read Lifecycle.config
    Lifecycle.endPause (config.quietsAudio mode)
  | recover => do
    let _ ← Lifecycle.recoverAudio
    pure ()

end Stage

/-- Whether a stage may be a part of a step: its moves are moves of the step, and the kind
of its round is the kind of the step. -/
def Step.Has (step : Step γ σ α τ) (stage : Stage γ σ α τ) : Prop :=
  (∀ move ∈ stage.moves, move ∈ step.moves) ∧ ∀ mode ∈ stage.mode?, step.mode? = some mode

theorem Step.has_move {step : Step γ σ α τ} {move : Move γ σ α τ} (member : move ∈ step.moves) :
    step.Has (.move move) := ⟨by simpa [Stage.moves] using member, by simp [Stage.mode?]⟩

theorem Step.has_remark (step : Step γ σ α τ) (entry : Entry) : step.Has (.remark entry) :=
  ⟨by simp [Stage.moves], by simp [Stage.mode?]⟩

theorem Step.has_recover (step : Step γ σ α τ) : step.Has .recover :=
  ⟨by simp [Stage.moves], by simp [Stage.mode?]⟩

theorem Step.has_look {step : Step γ σ α τ} {host : HostActivity γ σ α τ}
    (members : ∀ move ∈ host.moves, move ∈ step.moves) : step.Has (.look host) :=
  ⟨members, by simp [Stage.mode?]⟩

theorem Step.has_carryOut {step : Step γ σ α τ} {mode : LoopMode}
    (same : step.mode? = some mode) : step.Has (.carryOut mode) :=
  ⟨by simp [Stage.moves], by simpa [Stage.mode?] using same⟩

theorem Step.has_comeBack {step : Step γ σ α τ} {mode : LoopMode}
    (same : step.mode? = some mode) : step.Has (.comeBack mode) :=
  ⟨by simp [Stage.moves], by simpa [Stage.mode?] using same⟩

/-- Whether a stage may be a part of a run. -/
def Run.Has (run : Run γ σ α τ) (stage : Stage γ σ α τ) : Prop :=
  ∃ step ∈ run.allSteps, step.Has stage

/-- The kinds of round in a run. -/
def Run.modes (run : Run γ σ α τ) (mode : LoopMode) : Prop :=
  ∃ step ∈ run.allSteps, step.mode? = some mode

theorem Run.modes_of_has {run : Run γ σ α τ} (stage : Stage γ σ α τ) (has : run.Has stage)
    (mode : LoopMode) (member : mode ∈ stage.mode?) : run.modes mode := by
  obtain ⟨step, among, -, modes⟩ := has
  exact ⟨step, among, modes mode member⟩

variable [Graphics.Layer γ] [Window.Layer σ] [TextInput τ]

/-- A permitted stage happens where it can. -/
inductive Stage.Happens (permitted : Stage γ σ α τ → Prop) :
    Lifecycle γ σ α τ → List Entry → Lifecycle γ σ α τ → Prop where
  | act {now : Lifecycle γ σ α τ} (stage : Stage γ σ α τ) (ok : permitted stage)
      (ready : stage.Ready now) :
      Happens permitted now (stage.act.run now).trace (stage.act.run now).state

/-- One stage after another. -/
abbrev Course (permitted : Stage γ σ α τ → Prop) := Chain (Stage.Happens permitted)

/-- An action, taken from a lifecycle, is a course of permitted stages. -/
def Unfolds {β : Type} (permitted : Stage γ σ α τ → Prop)
    (action : Traced (Lifecycle γ σ α τ) β) (start : Lifecycle γ σ α τ) : Prop :=
  Course permitted start (action.run start).trace (action.run start).state

section Unfolding

variable {permitted : Stage γ σ α τ → Prop} {start : Lifecycle γ σ α τ} {β δ : Type}

theorem unfolds_pure (value : β) : Unfolds permitted (pure value) start := Chain.rest

theorem unfolds_bind {first : Traced (Lifecycle γ σ α τ) β}
    {next : β → Traced (Lifecycle γ σ α τ) δ} (before : Unfolds permitted first start)
    (after : Unfolds permitted (next (first.run start).value) (first.run start).state) :
    Unfolds permitted (first >>= next) start := before.trans after

theorem unfolds_read {view : Lifecycle γ σ α τ → β}
    {next : β → Traced (Lifecycle γ σ α τ) δ}
    (after : Unfolds permitted (next (view start)) start) :
    Unfolds permitted (read view >>= next) start := Chain.rest.trans after

/-- An answer that nobody looks at makes no difference. -/
theorem unfolds_discard {action : Traced (Lifecycle γ σ α τ) β}
    (unfolds : Unfolds permitted action start) :
    Unfolds permitted (do let _ ← action; pure ()) start := unfolds_bind unfolds (unfolds_pure ())

theorem unfolds_stage (stage : Stage γ σ α τ) (ok : permitted stage)
    (ready : stage.Ready start) : Unfolds permitted stage.act start :=
  Chain.single (.act stage ok ready)

theorem unfolds_remark {entry : Entry} (ok : permitted (.remark entry))
    (remark : entry.isRemark = true) : Unfolds permitted (tell entry) start :=
  unfolds_stage (.remark entry) ok remark

theorem unfolds_whenever {condition : Bool} {action : Traced (Lifecycle γ σ α τ) Unit}
    (unfolds : condition = true → Unfolds permitted action start) :
    Unfolds permitted (whenever condition action) start := by
  cases condition with
  | false => exact unfolds_pure ()
  | true => exact unfolds rfl

theorem unfolds_forAll {ι : Type} {action : ι → Traced (Lifecycle γ σ α τ) β} (items : List ι)
    (unfolds : ∀ item ∈ items, ∀ start, Unfolds permitted (action item) start) :
    Unfolds permitted (forAll action items) start := by
  induction items generalizing start with
  | nil => exact unfolds_pure []
  | cons item rest ih =>
    refine unfolds_bind (unfolds item List.mem_cons_self start) ?_
    refine unfolds_bind (ih fun later member => unfolds later (List.mem_cons_of_mem _ member)) ?_
    exact unfolds_pure _

end Unfolding

end AppLifecycle
