import AppLifecycle.Rehearsal.Cast

/-! Runs of a lifecycle: rounds of either kind in any order, and everything that the host,
the app and the collaborators do between the rounds and during them. A run may also stop
in the middle of a suspension, so that what is said of every run is said of that moment
too. -/
namespace AppLifecycle

variable {γ σ α τ : Type}

/-- One step of a run. -/
inductive Step (γ σ α τ : Type) where
  /-- Something happens around the lifecycle. -/
  | around (move : Move γ σ α τ)
  /-- The main loop goes through a suspending round. -/
  | suspending (host : HostActivity γ σ α τ)
  /-- The main loop goes through a ticking round. -/
  | ticking (host : HostActivity γ σ α τ)

/-- A run of any length. -/
structure Run (γ σ α τ : Type) where
  steps : List (Step γ σ α τ)
  /-- A last suspending round that has not come back yet, with what the host has done in
  it so far. -/
  unfinished : Option (HostActivity γ σ α τ) := none

/-- The moves of the host during a round. To raise a signal is a move. -/
def HostActivity.moves (host : HostActivity γ σ α τ) : List (Move γ σ α τ) :=
  (host.beforeTake ++ host.beforeCount ++ host.beforeResume).map (Move.notify · 1) ++
    host.whileSuspended

/-- The moves of a step. A suspension ends with a resume, which the host raises if nobody
else did. -/
def Step.moves : Step γ σ α τ → List (Move γ σ α τ)
  | .around move => [move]
  | .suspending host => host.moves ++ [.notify .resume 1]
  | .ticking host => host.moves

/-- The kind of the round that a step is, if it is one. -/
def Step.mode? : Step γ σ α τ → Option LoopMode
  | .around _ => none
  | .suspending _ => some .suspending
  | .ticking _ => some .ticking

/-- Every step of a run, an unfinished one last. -/
def Run.allSteps (run : Run γ σ α τ) : List (Step γ σ α τ) :=
  run.steps ++ run.unfinished.toList.map Step.suspending

/-- Every move of a run. -/
def Run.moves (run : Run γ σ α τ) : List (Move γ σ α τ) := run.allSteps.flatMap Step.moves

section Rewriting

variable {γ' σ' α' τ' : Type} (change : Move γ σ α τ → Move γ' σ' α' τ')

/-- The same activity with every move rewritten. To raise a signal is the same to anyone. -/
def HostActivity.mapMoves (host : HostActivity γ σ α τ) : HostActivity γ' σ' α' τ' where
  beforeTake := host.beforeTake
  beforeCount := host.beforeCount
  beforeResume := host.beforeResume
  whileSuspended := host.whileSuspended.map change

def Step.mapMoves : Step γ σ α τ → Step γ' σ' α' τ'
  | .around move => .around (change move)
  | .suspending host => .suspending (host.mapMoves change)
  | .ticking host => .ticking (host.mapMoves change)

def Run.mapMoves (run : Run γ σ α τ) : Run γ' σ' α' τ' where
  steps := run.steps.map (Step.mapMoves change)
  unfinished := run.unfinished.map (HostActivity.mapMoves change)

end Rewriting

/-- The events that a move pushes. -/
def Move.pushes : Move γ σ α τ → List Event
  | .push event times => List.replicate times event
  | _ => []

/-- Whether a move uses up a signal behind the lifecycle's back. -/
def Move.takes : Move γ σ α τ → Bool
  | .take _ => true
  | _ => false

namespace Lifecycle

open Traced

/-- A lifecycle to which nothing has happened yet. -/
def fresh (config : Config) (keeper : Keeper γ σ) (outputs : List (Audio.Output α)) (audio : α)
    (textInput : Option τ) : Lifecycle γ σ α τ :=
  { config, keeper, outputs, audio, textInput }

variable [Graphics.Layer γ] [Window.Layer σ] [TextInput τ]

/-- A suspending round that has not come back: it settles down and, once it waits, the host
does its moves. -/
def standBy (host : HostActivity γ σ α τ) : Traced (Lifecycle γ σ α τ) Unit := do
  settleDown host
  let phase ← read Lifecycle.phase
  whenever (phase == .paused) do
    notifyAll host.beforeResume
    let raised ← read fun lifecycle => lifecycle.signals.resume.count
    whenever (raised == 0) do
      tell .suspended
      let _ ← forAll perform host.whileSuspended
      pure ()

/-- Goes through one step. -/
def go : Step γ σ α τ → Traced (Lifecycle γ σ α τ) Unit
  | .around move => do
    let _ ← perform move
    pure ()
  | .suspending host => do
    let _ ← advanceSuspending host
    pure ()
  | .ticking host => do
    let _ ← advanceTicking host
    pure ()

/-- Goes through a run. -/
def play (run : Run γ σ α τ) : Traced (Lifecycle γ σ α τ) Unit := do
  let _ ← forAll go run.steps
  match run.unfinished with
  | none => pure ()
  | some host => standBy host

/-- A round that has not come back has done what the finished round does first. -/
theorem standBy_prefix (host : HostActivity γ σ α τ) (lifecycle : Lifecycle γ σ α τ) :
    ((standBy host).run lifecycle).trace <+: ((advanceSuspending host).run lifecycle).trace := by
  unfold standBy advanceSuspending comeBack
  simp only [run_bind, run_read, List.nil_append, List.prefix_append_right_inj]
  generalize ((settleDown host).run lifecycle) = settled
  cases settled.state.phase == .paused with
  | false => exact List.nil_prefix
  | true =>
    simp only [whenever_true, awaitResume, run_bind, run_read, List.nil_append, List.append_assoc,
      List.prefix_append_right_inj]
    generalize ((notifyAll host.beforeResume).run settled.state) = raised
    cases raised.state.signals.resume.count == 0 with
    | false => exact List.nil_prefix
    | true =>
      simp only [whenever_true, suspend, run_bind, run_tell, run_pure, List.append_nil,
        List.append_assoc, List.prefix_append_right_inj]
      exact List.prefix_append _ _

end Lifecycle

namespace Rehearsal

/-- A run with collaborators that follow scripts. -/
abbrev RehearsedRun := Run ScriptedGraphics ScriptedWindow Scripts ScriptedText

/-- A keeper whose context is lost once it is detached. -/
def opening : Keeper ScriptedGraphics ScriptedWindow where
  graphics := { current := some ⟨42⟩, stale := [⟨42⟩] }
  window := {}
  events := .empty

/-- Goes through a run with that keeper and one audio output. -/
def rehearse (run : RehearsedRun) : Outcome RehearsedLifecycle Unit :=
  (Lifecycle.play run).run
    (Lifecycle.fresh {} opening [Scripts.output .plain "speaker" 0] [{}] (some {}))

end Rehearsal

end AppLifecycle
