import AppLifecycle.Proofs.FanOut

/-! The calls on collaborators. What a piece of work asks of the rendering layer and of each
audio output is a word over their calls, whatever they answer: a backup asks and detaches, a
restore attaches first, silencing and taking up call every output once, and the recovery
of stalled playback leaves every output as it was. -/
namespace AppLifecycle

open Traced

variable {γ σ α τ ν : Type}

namespace Trace

/-- The calls on the rendering layer, oldest first. -/
def graphicsCalls (trace : List Entry) : List Graphics.Call :=
  trace.filterMap fun
    | .graphics call => some call
    | _ => none

/-- The calls on the output at a position, oldest first. -/
def audioCalls (position : Nat) (trace : List Entry) : List Audio.Call :=
  trace.filterMap fun
    | .audio place call => if place = position then some call else none
    | _ => none

@[simp] theorem graphicsCalls_append (before after : List Entry) :
    graphicsCalls (before ++ after) = graphicsCalls before ++ graphicsCalls after :=
  List.filterMap_append

@[simp] theorem audioCalls_append (position : Nat) (before after : List Entry) :
    audioCalls position (before ++ after) =
      audioCalls position before ++ audioCalls position after :=
  List.filterMap_append

variable {kind : Entry → Bool} {trace : List Entry}

/-- Where no entry is of a kind, a view of that kind sees nothing. -/
theorem filterMap_of_spared {β : Type} {view : Entry → Option β}
    (blind : ∀ entry, kind entry = false → view entry = none) (spared : trace.filter kind = []) :
    trace.filterMap view = [] := by
  rw [← filterMap_filter_eq blind trace, spared]
  rfl

theorem graphicsCalls_of_spared (calls : ∀ call, kind (.graphics call) = true)
    (spared : trace.filter kind = []) : graphicsCalls trace = [] := by
  refine filterMap_of_spared (fun entry other => ?_) spared
  cases entry with
  | graphics call => exact absurd (calls call) (by simp [other])
  | _ => rfl

theorem audioCalls_of_spared (calls : ∀ position call, kind (.audio position call) = true)
    (spared : trace.filter kind = []) (position : Nat) : audioCalls position trace = [] := by
  refine filterMap_of_spared (fun entry other => ?_) spared
  cases entry with
  | audio place call => exact absurd (calls place call) (by simp [other])
  | _ => rfl

theorem mem_graphicsCalls {call : Graphics.Call} :
    call ∈ graphicsCalls trace ↔ .graphics call ∈ trace := by
  refine List.mem_filterMap.trans ⟨?_, fun member => ⟨_, member, rfl⟩⟩
  rintro ⟨entry, member, seen⟩
  cases entry <;> simp_all

theorem mem_audioCalls {position : Nat} {call : Audio.Call} :
    call ∈ audioCalls position trace ↔ .audio position call ∈ trace := by
  refine List.mem_filterMap.trans ⟨?_, fun member => ⟨_, member, by simp⟩⟩
  rintro ⟨entry, member, seen⟩
  cases entry <;> simp_all

end Trace

open Trace

namespace Audio

/-- The calls on an output that is asked about stalls only, and cycled whenever it holds that
it stalled. -/
inductive Recoveries : List Call → Prop where
  | none : Recoveries []
  | sound {calls : List Call} (before : Recoveries calls) :
      Recoveries (calls ++ [.detectStall false])
  | stalled {calls : List Call} (before : Recoveries calls) (paused resumed : Except Error Unit) :
      Recoveries (calls ++
        [.detectStall true, .pause .recovery paused, .resume .recovery resumed])

theorem Recoveries.append {first second : List Call} (before : Recoveries first)
    (after : Recoveries second) : Recoveries (first ++ second) := by
  induction after with
  | none => simpa using before
  | sound _ ih => simpa using ih.sound
  | stalled _ paused resumed ih => simpa using ih.stalled paused resumed

/-- Visits in turn call each output in its own place only, and an output that is not visited is not
called. -/
theorem audioCalls_inTurn (calls : ν → List Call) (position first : Nat) (seen : List ν) :
    audioCalls position (inTurn calls first seen) =
      if first ≤ position then seen[position - first]?.elim [] calls else [] := by
  have own (place : Nat) (visit : ν) :
      audioCalls position ((calls visit).map (.audio place)) =
        if place = position then calls visit else [] := by
    rw [audioCalls, List.filterMap_map]
    show (calls visit).filterMap (fun call => if place = position then some call else none) = _
    by_cases here : place = position <;> simp [here]
  induction seen generalizing first with
  | nil => simp [inTurn, audioCalls]
  | cons visit others ih =>
    rw [inTurn, audioCalls_append, own, ih]
    obtain earlier | rfl | later := Nat.lt_trichotomy first position
    · have next : position - first = position - (first + 1) + 1 := by omega
      rw [if_neg (Nat.ne_of_lt earlier), if_pos (Nat.succ_le_of_lt earlier),
        if_pos (Nat.le_of_lt earlier), next]
      rfl
    · rw [if_pos rfl, if_neg (Nat.not_succ_le_self first), if_pos (Nat.le_refl first),
        Nat.sub_self, List.append_nil]
      rfl
    · rw [if_neg (Nat.ne_of_gt later), if_neg (by omega), if_neg (Nat.not_le_of_gt later)]
      rfl

/-- What an output is called is in the entries other than notices. -/
theorem audioCalls_of_inTurn {calls : ν → List Call} {trace : List Entry} {seen : List ν}
    (called : besidesNotices trace = inTurn calls 0 seen) (position : Nat) :
    audioCalls position trace = seen[position]?.elim [] calls := by
  have same : audioCalls position (besidesNotices trace) = audioCalls position trace :=
    filterMap_filter_eq (fun entry notice => by cases entry <;> first | rfl | cases notice) trace
  rw [← same, called, audioCalls_inTurn, if_pos position.zero_le, Nat.sub_zero]

/-- Where every output is given one order, each is called once. -/
theorem audioCalls_once {record : Except Error Unit → Call} {trace : List Entry}
    {answers : List (Except Error Unit)}
    (called : besidesNotices trace = inTurn (fun answer => [record answer]) 0 answers)
    (position : Nat) :
    ∃ answer, audioCalls position trace =
      if position < answers.length then [record answer] else [] := by
  rw [audioCalls_of_inTurn called]
  by_cases within : position < answers.length
  · exact ⟨answers[position], by simp [within]⟩
  · exact ⟨.ok (), by simp [within]⟩

variable (position : Nat) (audio : α) (outputs : List (Output α))

/-- Every output is silenced once. -/
theorem audioCalls_silenceAll :
    ∃ answer, audioCalls position ((silenceAll outputs).run audio).trace =
      if position < outputs.length then [.pause .fanOut answer] else [] := by
  obtain ⟨answers, tour, called⟩ := tour_silenceAll outputs audio
  exact tour.length ▸ audioCalls_once called position

/-- Every output is taken up once. -/
theorem audioCalls_takeUpAll :
    ∃ answer, audioCalls position ((takeUpAll outputs).run audio).trace =
      if position < outputs.length then [.resume .fanOut answer] else [] := by
  obtain ⟨answers, tour, called⟩ := tour_takeUpAll outputs audio
  exact tour.length ▸ audioCalls_once called position

/-- Every output is asked, and cycled if it stalled. -/
theorem recoveries_recoverStalled :
    Recoveries (audioCalls position ((recoverStalled outputs).run audio).trace) := by
  obtain ⟨checkups, -, called, -⟩ := tour_recoverStalled outputs audio
  rw [audioCalls_of_inTurn called]
  cases checkups[position]? with
  | none => exact .none
  | some checkup =>
    cases checkup with
    | sound => exact Recoveries.none.sound
    | stalled paused resumed => exact Recoveries.none.stalled paused resumed

end Audio

/-- Calls on the rendering layer that only ask what is in effect. -/
def Entry.isQuestion : Entry → Bool
  | .graphics call => call.asks
  | _ => false

namespace Keeper

variable [Graphics.Layer γ] {keeper : Keeper γ σ}

theorem graphicsCalls_attach (context : Option Graphics.Context)
    (refusal : Graphics.Error → Notice) (keeper : Keeper γ σ) :
    ∃ answer, graphicsCalls ((attach context refusal).run keeper).trace =
      [.makeCurrent context answer] := by
  refine ⟨(Graphics.Layer.makeCurrent context keeper.graphics).1, ?_⟩
  cases answer : (Graphics.Layer.makeCurrent context keeper.graphics).1 <;>
    simp [attach, askGraphics, run_bind, answer, graphicsCalls]

/-- A backup that is held is left alone. -/
theorem save_of_held (held : keeper.snapshot.held = true) :
    save.run keeper = ⟨false, keeper, [.notice .alreadyBackedUp]⟩ := by
  simp [save, run_bind, held]

/-- To make a backup is to ask for the current context, to detach it and to remember it. -/
theorem save_of_unheld (unheld : keeper.snapshot.held = false) :
    ∃ context answer, graphicsCalls (save.run keeper).trace =
        [.currentContext context, .makeCurrent none answer] ∧
      (save.run keeper).state.snapshot = { context, held := true } := by
  let locked : Keeper γ σ := { keeper with lock := { keeper.lock with held := true } }
  let asked := (askGraphics Graphics.Layer.currentContext .currentContext).run locked
  obtain ⟨answer, detached⟩ := graphicsCalls_attach none .detachFailed asked.state
  have first : graphicsCalls asked.trace = [.currentContext asked.value] := rfl
  have told : graphicsCalls [.notice (.backedUp asked.value)] = [] := rfl
  refine ⟨asked.value, answer, ?_, by simp [save, guarded, run_bind, unheld, asked, locked]⟩
  have split : (save.run keeper).trace = asked.trace ++
      (((attach none .detachFailed).run asked.state).trace ++
        [.notice (.backedUp asked.value)]) := by
    simp [save, guarded, run_bind, unheld, asked, locked]
  rw [split, graphicsCalls_append, graphicsCalls_append, first, detached, told]
  rfl

/-- A restore asks for nothing that it does not set. -/
theorem orders_of_restore [Window.Layer σ] (keeper : Keeper γ σ) {call : Graphics.Call}
    (member : call ∈ graphicsCalls (restore.run keeper).trace) : call.asks = false := by
  have spared : Spares (fun _ : Keeper γ σ => ()) Entry.isQuestion restore :=
    spares_restore ⟨fun _ _ => rfl, fun call _ => by cases call <;> trivial, fun _ => rfl⟩
      ⟨fun _ _ => rfl, fun _ => rfl, fun _ => rfl⟩ (fun _ _ _ _ _ => rfl) (fun _ _ => rfl) rfl
  have order := List.filter_eq_nil_iff.mp (spared keeper).2 _ (mem_graphicsCalls.mp member)
  simpa [Entry.isQuestion] using order

/-- To restore is first to attach the context of the backup. The backup is used up. -/
theorem restore_of_held [Window.Layer σ] (held : keeper.snapshot.held = true) :
    (restore.run keeper).state.snapshot = {} ∧ ∃ answer rest,
      graphicsCalls (restore.run keeper).trace =
        .makeCurrent keeper.snapshot.context answer :: rest := by
  refine ⟨by simp [restore, guarded, run_bind, held], ?_⟩
  let locked : Keeper γ σ := { keeper with lock := { keeper.lock with held := true } }
  obtain ⟨answer, attached⟩ := graphicsCalls_attach keeper.snapshot.context
    .savedContextInvalid locked
  have first : ((attach keeper.snapshot.context .savedContextInvalid).run locked).trace <+:
      (restore.run keeper).trace := by
    simp [restore, guarded, attachSaved, run_bind, held, locked]
  obtain ⟨rest, split⟩ := first
  exact ⟨answer, graphicsCalls rest, by rw [← split, graphicsCalls_append, attached]; rfl⟩

end Keeper

end AppLifecycle
