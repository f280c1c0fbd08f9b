import AppLifecycle.Proofs.Agreement

/-! A lifecycle is deaf: what it does does not depend on what its audio outputs answer, except
that it cycles those that stalled. So as long as no output stalls, two lifecycles that differ
in the state of their outputs only do the same. -/
namespace AppLifecycle

open Traced

variable {γ σ α τ : Type}

/-- What an entry says was done. To ask an output whether it stalled is not to do anything to
it, and what an output answers to an order makes no difference. -/
def Entry.deed? : Entry → Option Entry
  | .notice _ | .audio _ (.detectStall _) => none
  | .audio position (.pause purpose _) => some (.audio position (.pause purpose (.ok ())))
  | .audio position (.resume purpose _) => some (.audio position (.resume purpose (.ok ())))
  | entry => some entry

/-- Whether an entry tells of an output that stalled. -/
def Entry.isStall : Entry → Bool
  | .audio _ (.detectStall stalled) => stalled
  | _ => false

namespace Audio

variable {β ε : Type} {view : Entry → Option ε}

/-- Outputs in any two states. -/
def AnyTwo (_ _ : α) : Prop := True

/-- What is done to the outputs is the same in any of their states, unless one stalls. -/
abbrev Uniform (action : Traced α β) : Prop := Steady AnyTwo Entry.isStall Entry.deed? action

theorem uniform_silenceOne (purpose : Purpose) (position : Nat) (output : Output α) :
    Uniform (silenceOne purpose position output) := by
  have deeds (audio : α) : ((silenceOne purpose position output).run audio).trace.filterMap
      Entry.deed? = [.audio position (.pause purpose (.ok ()))] := by
    cases answer : (output.pause audio).1 <;> simp [silenceOne, run_bind, answer, Entry.deed?]
  exact fun here there _ _ _ => ⟨rfl, trivial, (deeds here).trans (deeds there).symm⟩

theorem uniform_takeUpOne (purpose : Purpose) (position : Nat) (output : Output α) :
    Uniform (takeUpOne purpose position output) := by
  have deeds (audio : α) : ((takeUpOne purpose position output).run audio).trace.filterMap
      Entry.deed? = [.audio position (.resume purpose (.ok ()))] := by
    cases answer : (output.resume audio).1 <;> simp [takeUpOne, run_bind, answer, Entry.deed?]
  exact fun here there _ _ _ => ⟨rfl, trivial, (deeds here).trans (deeds there).symm⟩

/-- An output that did not stall was only asked. -/
theorem run_recoverOne_of_free {position : Nat} {output : Output α} {audio : α}
    (free : Trace.Free Entry.isStall ((recoverOne position output).run audio).trace) :
    (recoverOne position output).run audio =
      ⟨false, (output.detectStall audio).2, [.audio position (.detectStall false)]⟩ := by
  cases stalled : (output.detectStall audio).1 with
  | false => simp [recoverOne, run_bind, stalled]
  | true =>
    have told : Entry.audio position (.detectStall true) ∈
        ((recoverOne position output).run audio).trace := by
      simp [recoverOne, run_bind, stalled]
    exact absurd (free _ told) (by simp [Entry.isStall])

theorem uniform_recoverOne (position : Nat) (output : Output α) :
    Uniform (recoverOne position output) := by
  intro here there _ free freeThere
  rw [run_recoverOne_of_free free, run_recoverOne_of_free freeThere]
  exact ⟨rfl, trivial, rfl⟩

theorem uniform_eachFrom {action : Nat → Output α → Traced α β}
    (uniform : ∀ position output, Uniform (action position output)) (position : Nat)
    (outputs : List (Output α)) : Uniform (eachFrom action position outputs) := by
  induction outputs generalizing position with
  | nil => exact steady_pure []
  | cons output rest ih =>
    exact steady_bind (uniform position output) fun _ =>
      steady_bind (ih (position + 1)) fun _ => steady_pure _

theorem uniform_silenceAll (outputs : List (Output α)) : Uniform (silenceAll outputs) :=
  steady_bind (uniform_eachFrom (uniform_silenceOne _) 0 outputs) fun _ => steady_note _

theorem uniform_takeUpAll (outputs : List (Output α)) : Uniform (takeUpAll outputs) :=
  steady_bind (uniform_eachFrom (uniform_takeUpOne _) 0 outputs) fun _ => steady_note _

theorem uniform_recoverStalled (outputs : List (Output α)) : Uniform (recoverStalled outputs) :=
  steady_bind (uniform_eachFrom uniform_recoverOne 0 outputs) fun _ => steady_pure _

private theorem deeds_eachFrom_recoverOne {position : Nat} {outputs : List (Output α)} {audio : α}
    (free : Trace.Free Entry.isStall ((eachFrom recoverOne position outputs).run audio).trace) :
    ((eachFrom recoverOne position outputs).run audio).trace.filterMap Entry.deed? = [] := by
  induction outputs generalizing position audio with
  | nil => rfl
  | cons output rest ih =>
    simp only [eachFrom, run_bind, run_pure, List.append_nil, Trace.free_append,
      List.filterMap_append] at free ⊢
    have asked := run_recoverOne_of_free free.1
    rw [asked] at free ⊢
    exact ih free.2

/-- Where no output stalled, nothing was done to any. -/
theorem deeds_recoverStalled {outputs : List (Output α)} {audio : α}
    (free : Trace.Free Entry.isStall ((recoverStalled outputs).run audio).trace) :
    ((recoverStalled outputs).run audio).trace.filterMap Entry.deed? = [] := by
  have only : ((recoverStalled outputs).run audio).trace =
      ((eachFrom recoverOne 0 outputs).run audio).trace := List.append_nil _
  rw [only] at free ⊢
  exact deeds_eachFrom_recoverOne free

end Audio

namespace Lifecycle

/-- Two lifecycles are the same but for the state of their audio outputs. -/
def EqualButAudio (first second : Lifecycle γ σ α τ) : Prop :=
  ∃ audio, second = { first with audio }

theorem EqualButAudio.refl (lifecycle : Lifecycle γ σ α τ) : EqualButAudio lifecycle lifecycle :=
  ⟨lifecycle.audio, rfl⟩

theorem EqualButAudio.trans {first second third : Lifecycle γ σ α τ}
    (before : EqualButAudio first second) (after : EqualButAudio second third) :
    EqualButAudio first third := by
  obtain ⟨audio, rfl⟩ := before
  obtain ⟨other, rfl⟩ := after
  exact ⟨other, rfl⟩

theorem EqualButAudio.phase {first second : Lifecycle γ σ α τ}
    (same : EqualButAudio first second) : second.phase = first.phase := by
  obtain ⟨audio, rfl⟩ := same
  rfl

theorem EqualButAudio.config {first second : Lifecycle γ σ α τ}
    (same : EqualButAudio first second) : second.config = first.config := by
  obtain ⟨audio, rfl⟩ := same
  rfl

/-- An action does the same whatever state the outputs are in, unless one stalls. -/
abbrev Deaf {β : Type} (action : Traced (Lifecycle γ σ α τ) β) : Prop :=
  Steady EqualButAudio Entry.isStall Entry.deed? action

variable {β δ : Type}

theorem deaf_read {reading : Lifecycle γ σ α τ → β}
    (blind : ∀ audio lifecycle, reading { lifecycle with audio } = reading lifecycle) :
    Deaf (read reading) := by
  refine steady_read fun here there same => ?_
  obtain ⟨audio, rfl⟩ := same
  exact (blind audio here).symm

theorem deaf_update {change : Lifecycle γ σ α τ → Lifecycle γ σ α τ}
    (kept : ∀ audio lifecycle, EqualButAudio (change lifecycle) (change { lifecycle with audio })) :
    Deaf (update change) := by
  refine steady_update fun here there same => ?_
  obtain ⟨audio, rfl⟩ := same
  exact kept audio here

theorem deaf_onKeeper (action : Traced (Keeper γ σ) β) :
    Deaf (onKeeper action : Traced (Lifecycle γ σ α τ) β) := by
  refine steady_within ?_ ?_ action
  · rintro here _ ⟨audio, rfl⟩
    rfl
  · rintro keeper here _ ⟨audio, rfl⟩
    exact ⟨audio, rfl⟩

theorem deaf_onSignals (action : Traced HostSignals β) :
    Deaf (onSignals action : Traced (Lifecycle γ σ α τ) β) := by
  refine steady_within ?_ ?_ action
  · rintro here _ ⟨audio, rfl⟩
    rfl
  · rintro signals here _ ⟨audio, rfl⟩
    exact ⟨audio, rfl⟩

theorem deaf_onAudio {action : List (Audio.Output α) → Traced α β}
    (uniform : ∀ outputs, Audio.Uniform (action outputs)) :
    Deaf (onAudio action : Traced (Lifecycle γ σ α τ) β) := by
  refine steady_bind (deaf_read fun _ _ => rfl) fun outputs => ?_
  rintro here _ ⟨audio, rfl⟩ free freeThere
  have alike := uniform outputs here.audio audio trivial free freeThere
  exact ⟨alike.value, ⟨_, rfl⟩, alike.trace⟩

theorem deaf_wakeTextInput [TextInput τ] :
    Deaf (wakeTextInput : Traced (Lifecycle γ σ α τ) Unit) := by
  rintro ⟨config, keeper, outputs, audio, textInput, signals, phase, due⟩ _ ⟨other, rfl⟩ - -
  cases textInput with
  | none => exact ⟨rfl, ⟨other, rfl⟩, rfl⟩
  | some textInput => exact ⟨rfl, ⟨other, rfl⟩, rfl⟩

theorem deaf_recoverAudio : Deaf (recoverAudio : Traced (Lifecycle γ σ α τ) Nat) :=
  deaf_onAudio Audio.uniform_recoverStalled

/-- What every round ends with. -/
theorem deaf_lastOfRound : Deaf (do
    let _ ← recoverAudio
    read Lifecycle.phase : Traced (Lifecycle γ σ α τ) Phase) :=
  steady_bind deaf_recoverAudio fun _ => deaf_read fun _ _ => rfl

/-- A recovery that finds nothing to recover does nothing. -/
theorem recoverAudio_of_free {lifecycle : Lifecycle γ σ α τ}
    (free : Trace.Free Entry.isStall (recoverAudio.run lifecycle).trace) :
    EqualButAudio lifecycle (recoverAudio.run lifecycle).state ∧
      (recoverAudio.run lifecycle).trace.filterMap Entry.deed? = [] :=
  ⟨⟨_, rfl⟩, Audio.deeds_recoverStalled free⟩

theorem deaf_notifyAll (kinds : List SignalKind) :
    Deaf (notifyAll kinds : Traced (Lifecycle γ σ α τ) Unit) :=
  steady_bind (steady_forAll kinds fun _ _ => deaf_onSignals _) fun _ => steady_pure ()

theorem deaf_take (kind : SignalKind) : Deaf (take kind : Traced (Lifecycle γ σ α τ) Bool) :=
  steady_bind (deaf_onSignals _) fun _ =>
    steady_bind (steady_whenever (steady_tell _)) fun _ => steady_pure _

theorem deaf_announce (events : List Event) :
    Deaf (announce events : Traced (Lifecycle γ σ α τ) Unit) :=
  steady_bind (steady_forAll events fun _ _ => deaf_onKeeper _) fun _ => steady_pure ()

theorem deaf_settlePause (announced : Bool) :
    Deaf (settlePause announced : Traced (Lifecycle γ σ α τ) Unit) := by
  refine steady_bind (deaf_read fun _ _ => rfl) fun queued => ?_
  refine steady_bind (deaf_read fun _ _ => rfl) fun signalled => ?_
  split
  · exact steady_bind (steady_whenever (steady_note _)) fun _ =>
      deaf_update fun audio _ => ⟨audio, rfl⟩
  · exact steady_bind (deaf_update fun audio _ => ⟨audio, rfl⟩) fun _ =>
      steady_bind (steady_tell _) fun _ => steady_note _

theorem deaf_perform (move : Move γ σ α τ) : Deaf (perform move) := by
  cases move with
  | notify kind times => exact steady_bind (deaf_notifyAll _) fun _ => steady_pure _
  | take kind => exact steady_bind (deaf_onSignals _) fun _ => steady_pure _
  | push event times =>
    exact steady_bind (steady_repeated (deaf_onKeeper _) times) fun _ => steady_pure _
  | poll => exact steady_bind (deaf_onKeeper _) fun _ => steady_pure _
  | drain => exact steady_bind (deaf_onKeeper _) fun _ => steady_pure _
  | adjust graphics window audio textInput =>
    exact steady_bind (deaf_update fun other _ => ⟨audio other, rfl⟩) fun _ => steady_pure _

section Rendering

variable [Graphics.Layer γ]

theorem deaf_lookForPause (host : HostActivity γ σ α τ) : Deaf (lookForPause host) := by
  refine steady_bind (deaf_read fun _ _ => rfl) fun phase => ?_
  split
  · exact steady_bind (deaf_notifyAll _) fun _ => deaf_settlePause false
  · refine steady_bind (deaf_notifyAll _) fun _ => steady_bind (deaf_take _) fun _ => ?_
    refine steady_whenever (steady_bind (deaf_onKeeper _) fun _ => ?_)
    refine steady_bind (deaf_announce _) fun _ => steady_bind (deaf_notifyAll _) fun _ => ?_
    exact deaf_settlePause true

theorem deaf_carryOutDuePause (quiets : Bool) :
    Deaf (carryOutDuePause quiets : Traced (Lifecycle γ σ α τ) Unit) := by
  refine steady_bind (deaf_read fun _ _ => rfl) fun due => steady_whenever ?_
  refine steady_bind (steady_tell _) fun _ => steady_bind (deaf_read fun _ _ => rfl) fun _ => ?_
  have saves : Deaf (do
      let _ ← onKeeper Keeper.save
      pure () : Traced (Lifecycle γ σ α τ) Unit) :=
    steady_bind (deaf_onKeeper _) fun _ => steady_pure ()
  refine steady_bind (steady_whenever saves) fun _ => ?_
  refine steady_bind (steady_whenever (deaf_onAudio Audio.uniform_silenceAll)) fun _ => ?_
  exact deaf_update fun audio _ => ⟨audio, rfl⟩

variable [Window.Layer σ]

theorem deaf_restoreContext : Deaf (restoreContext : Traced (Lifecycle γ σ α τ) Unit) := by
  refine steady_bind (deaf_read fun _ _ => rfl) fun external => ?_
  refine steady_bind (deaf_read fun _ _ => rfl) fun quitting => ?_
  split
  · exact steady_note _
  · split
    · exact steady_note _
    · exact steady_bind (deaf_onKeeper _) fun _ => steady_pure ()

variable [TextInput τ]

theorem deaf_endPause (quiets : Bool) :
    Deaf (endPause quiets : Traced (Lifecycle γ σ α τ) Unit) := by
  refine steady_bind (deaf_update fun audio _ => ⟨audio, rfl⟩) fun _ => ?_
  refine steady_bind (steady_tell _) fun _ => steady_bind (deaf_announce _) fun _ => ?_
  refine steady_bind (steady_whenever (deaf_onAudio Audio.uniform_takeUpAll)) fun _ => ?_
  exact steady_bind deaf_restoreContext fun _ =>
    steady_bind deaf_wakeTextInput fun _ => steady_note _

end Rendering

end Lifecycle

end AppLifecycle
