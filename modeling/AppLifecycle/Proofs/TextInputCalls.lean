import AppLifecycle.Proofs.StageDealings

/-! The text input. A lifecycle has one from the beginning or never. When a pause ends it is asked
whether text was being entered, after all else that has to be done, and woken exactly if so. -/
namespace AppLifecycle

open Traced Trace

variable {γ σ α τ : Type}

def Entry.isTextInput : Entry → Bool
  | .textInput _ => true
  | _ => false

namespace Trace

/-- The calls on the text input, oldest first. -/
def textInputCalls (trace : List Entry) : List TextInput.Call :=
  trace.filterMap fun
    | .textInput call => some call
    | _ => none

@[simp] theorem textInputCalls_append (before after : List Entry) :
    textInputCalls (before ++ after) = textInputCalls before ++ textInputCalls after :=
  List.filterMap_append

theorem textInputCalls_of_spared {kind : Entry → Bool} {trace : List Entry}
    (calls : ∀ call, kind (.textInput call) = true) (spared : trace.filter kind = []) :
    textInputCalls trace = [] := by
  apply filterMap_of_spared _ spared
  intro entry other
  cases entry with
  | textInput call => exact absurd (calls call) (by simp [other])
  | _ => rfl

end Trace

/-- A text input is asked whether it was in use and woken exactly if it was. -/
theorem TextInput.calls_wake [TextInput τ] (textInput : τ) :
    ∃ active, textInputCalls (TextInput.wake.run textInput).trace =
      .isActive active :: if active then [.activate] else [] := by
  refine ⟨(TextInput.isActive textInput).1, ?_⟩
  cases active : (TextInput.isActive textInput).1 <;>
    simp [TextInput.wake, run_bind, active, textInputCalls]

variable {now : Lifecycle γ σ α τ}

namespace Lifecycle

/-- What the keeper does has nothing to do with the text input. -/
theorem keeps_textInput_onKeeper {β : Type} (action : Traced (Keeper γ σ) β) :
    Keeps Lifecycle.textInput (onKeeper action : Traced (Lifecycle γ σ α τ) β) :=
  keeps_within fun _ _ => rfl

/-- A look for a pause has nothing to do with the text input. -/
theorem keeps_textInput_lookForPause [Graphics.Layer γ] (host : HostActivity γ σ α τ) :
    Keeps Lifecycle.textInput (lookForPause host) := by
  have raises (kinds : List SignalKind) :
      Keeps Lifecycle.textInput (notifyAll kinds : Traced (Lifecycle γ σ α τ) Unit) :=
    spares_raising kinds (fun _ _ => rfl) (fun _ => rfl) fun _ => rfl
  have settles (announced : Bool) :
      Keeps Lifecycle.textInput (settlePause announced : Traced (Lifecycle γ σ α τ) Unit) :=
    spares_settlePause announced (fun _ _ _ => rfl) rfl fun _ => rfl
  apply spares_bind (spares_read _)
  intro phase
  split
  · exact spares_bind (raises _) fun _ => settles false
  · apply spares_bind (raises _)
    intro _
    apply spares_bind (spares_take (fun _ _ => rfl) rfl)
    intro taken
    apply spares_whenever
    apply spares_bind (keeps_textInput_onKeeper _)
    intro _
    apply spares_bind (spares_announce (fun _ _ => rfl) (fun _ _ => rfl) fun _ => rfl)
    intro _
    exact spares_bind (raises _) fun _ => settles true

variable [Graphics.Layer γ] [Window.Layer σ]

/-- Until it is woken, the end of a pause has nothing to do with the text input either. -/
theorem textInput_rendering (quiets : Bool) (start : Lifecycle γ σ α τ) :
    (start.rendering quiets).state.textInput = start.textInput ∧
      textInputCalls (start.telling.trace ++ (start.hearing quiets).trace ++
        (start.rendering quiets).trace) = [] := by
  have tells : Spares Lifecycle.textInput Entry.isTextInput
      (announce Event.foregroundGroup : Traced (Lifecycle γ σ α τ) Unit) :=
    spares_announce (fun _ _ => rfl) (fun _ _ => rfl) fun _ => rfl
  have hears : Spares Lifecycle.textInput Entry.isTextInput (whenever quiets
      (onAudio Audio.takeUpAll : Traced (Lifecycle γ σ α τ) Unit)) :=
    spares_whenever (spares_onAudio (fun _ _ => rfl) fun outputs =>
      Audio.spares_takeUpAll (fun _ _ => rfl) (fun _ => rfl) outputs)
  have restores : Spares (fun _ : Keeper γ σ => ()) Entry.isTextInput Keeper.restore :=
    Keeper.spares_restore ⟨fun _ _ => rfl, fun _ _ => rfl, fun _ => rfl⟩
      ⟨fun _ _ => rfl, fun _ => rfl, fun _ => rfl⟩ (fun _ _ _ _ _ => rfl) (fun _ _ => rfl) rfl
  have renders : Spares Lifecycle.textInput Entry.isTextInput
      (restoreContext : Traced (Lifecycle γ σ α τ) Unit) :=
    spares_restoreContext_of_restore (spares_within (fun _ _ => rfl) restores) fun _ => rfl
  obtain ⟨told, toldSilent⟩ := tells
    { start with signals := start.signals.spend .resume, phase := .running }
  obtain ⟨heard, heardSilent⟩ := hears start.telling.state
  obtain ⟨rendered, renderedSilent⟩ := renders (start.hearing quiets).state
  refine ⟨(rendered.trans heard).trans told, ?_⟩
  rw [textInputCalls_append, textInputCalls_append]
  simp only [telling, hearing, rendering] at toldSilent heardSilent renderedSilent ⊢
  rw [textInputCalls_of_spared (fun _ => rfl) toldSilent,
    textInputCalls_of_spared (fun _ => rfl) heardSilent,
    textInputCalls_of_spared (fun _ => rfl) renderedSilent]
  rfl

omit [Graphics.Layer γ] [Window.Layer σ] in
theorem isSome_textInput_wake [TextInput τ] (now : Lifecycle γ σ α τ) :
    (wakeTextInput.run now).state.textInput.isSome = now.textInput.isSome := by
  cases here : now.textInput <;> simp [wakeTextInput, run, here]

/-- The text input is called once more if there is one, and woken exactly if it was in use. -/
theorem textInputCalls_waking [TextInput τ] (quiets : Bool) (start : Lifecycle γ σ α τ) :
    (start.textInput.isSome = true → ∃ active,
      textInputCalls (start.waking quiets).trace =
        .isActive active :: if active then [.activate] else []) ∧
    (start.textInput.isSome = false → textInputCalls (start.waking quiets).trace = []) := by
  have same := (textInput_rendering quiets start).1
  cases here : start.textInput with
  | none => simp [waking, wakeTextInput, run, same, here, textInputCalls]
  | some textInput =>
    obtain ⟨active, calls⟩ := TextInput.calls_wake textInput
    refine ⟨fun _ => ⟨active, ?_⟩, by simp⟩
    rw [← calls]
    simp [waking, wakeTextInput, run, same, here]

end Lifecycle

variable [Graphics.Layer γ] [Window.Layer σ] [TextInput τ]

/-- No stage gives a lifecycle a text input or takes one away. -/
theorem Stage.isSome_textInput {stage : Stage γ σ α τ} (ready : stage.Ready now) :
    (stage.act.run now).state.textInput.isSome = now.textInput.isSome := by
  have same {action : Traced (Lifecycle γ σ α τ) Unit} (kept : Keeps Lifecycle.textInput action) :
      (action.run now).state.textInput.isSome = now.textInput.isSome :=
    congrArg Option.isSome (kept now).1
  cases stage with
  | move move =>
    cases move with
    | adjust graphics window audio textInput => simp [act, Lifecycle.perform]
    | notify kind times =>
      have raises : Keeps Lifecycle.textInput
          (Lifecycle.notifyAll (List.replicate times kind) : Traced (Lifecycle γ σ α τ) Unit) :=
        Lifecycle.spares_raising _ (fun _ _ => rfl) (fun _ => rfl) fun _ => rfl
      exact same (spares_bind (spares_bind raises fun _ => spares_pure _) fun _ => spares_pure _)
    | take kind =>
      have takes : Keeps Lifecycle.textInput (Lifecycle.onSignals
          (HostSignals.on kind Signal.tryTake) : Traced (Lifecycle γ σ α τ) Bool) :=
        Lifecycle.spares_tryTake kind fun _ _ => rfl
      exact same (spares_bind (spares_bind takes fun _ => spares_pure _) fun _ => spares_pure _)
    | push event times =>
      have pushes : Keeps Lifecycle.textInput (repeated (Lifecycle.onEvents
          (EventQueue.send .app event) : Traced (Lifecycle γ σ α τ) Unit) times) :=
        spares_repeated (Lifecycle.keeps_textInput_onKeeper _) times
      exact same (spares_bind (spares_bind pushes fun _ => spares_pure _) fun _ => spares_pure _)
    | poll => rfl
    | drain => rfl
  | remark entry => rfl
  | look host => exact same (Lifecycle.keeps_textInput_lookForPause host)
  | carryOut mode =>
    apply same
    apply spares_bind (spares_read _)
    intro config
    exact Lifecycle.spares_carryOutPause_of_save _ (fun _ _ _ => rfl)
      (Lifecycle.keeps_textInput_onKeeper _) rfl (fun _ _ => rfl) fun _ => rfl
  | comeBack mode =>
    rw [Lifecycle.run_comeBack mode ready.2.2]
    exact (Lifecycle.isSome_textInput_wake _).trans
      (congrArg Option.isSome (Lifecycle.textInput_rendering _ now).1)
  | recover =>
    have recovers : Keeps Lifecycle.textInput
        (Lifecycle.recoverAudio : Traced (Lifecycle γ σ α τ) Nat) :=
      Lifecycle.spares_recoverAudio (fun _ _ => rfl) (fun _ _ => rfl) fun _ => rfl
    exact same (spares_bind recovers fun _ => spares_pure _)

theorem Course.isSome_textInput {permitted : Stage γ σ α τ → Prop}
    {start finish : Lifecycle γ σ α τ} {trace : List Entry}
    (course : Course permitted start trace finish) :
    finish.textInput.isSome = start.textInput.isSome := by
  induction course with
  | rest => rfl
  | next before last ih =>
    obtain ⟨stage, -, ready⟩ := last
    exact (Stage.isSome_textInput ready).trans ih

end AppLifecycle
