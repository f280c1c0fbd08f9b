import AppLifecycle.Proofs.StageDealings

/-! A pause in two phases. It is made final in one place and carried out in another, and all that
orders the two is whether a final pause is still due. That is enough: every final pause is
carried out once before it ends, and the round that does it does it before anything else. -/
namespace AppLifecycle

open Traced Trace

variable {γ σ α τ : Type}

/-- The entries that only come once a pause is being carried out: the question of a backup, an
order to all outputs to be silent, and a resume that is taken. -/
def Entry.followsCarryOut : Entry → Bool
  | .graphics (.currentContext _) | .audio _ (.pause .fanOut _) | .took .resume => true
  | _ => false

/-- Whether an entry is a given milestone. -/
def Entry.isOf (milestone : Milestone) : Entry → Bool
  | .milestone other => decide (other = milestone)
  | _ => false

/-- The entries of a wait for a resume. -/
def Entry.isOfWait : Entry → Bool
  | .suspended | .took .resume => true
  | _ => false

section Dealing

variable {modes : LoopMode → Prop} {now next : Bearing} {past entries head tail : List Entry}
  {entry : Entry}

theorem Audio.Recoveries.not_mem_fanOut {calls : List Audio.Call}
    (recoveries : Audio.Recoveries calls) (answer : Except Audio.Error Unit) :
    .pause .fanOut answer ∉ calls := by
  induction recoveries with
  | none => simp
  | sound before ih => simpa using ih
  | stalled before paused resumed ih => simpa using ih

/-- Where nobody asks for the current context, silences all outputs or takes a resume. -/
private theorem not_follows_of
    (rendering : ∀ context, .currentContext context ∉ graphicsCalls entries)
    (outputs : ∀ position answer, .pause .fanOut answer ∉ audioCalls position entries)
    (still : .took .resume ∉ entries) (member : entry ∈ entries) :
    entry.followsCarryOut = false := by
  cases entry with
  | graphics call =>
    cases call with
    | currentContext context => exact absurd (mem_graphicsCalls.mpr member) (rendering context)
    | _ => rfl
  | audio position call =>
    cases call with
    | pause purpose answer =>
      cases purpose with
      | fanOut => exact absurd (mem_audioCalls.mpr member) (outputs position answer)
      | recovery => rfl
    | _ => rfl
  | took signal =>
    cases signal with
    | resume => exact absurd member still
    | pause => rfl
  | _ => rfl

private theorem not_mem_of_still (still : entries.filter Entry.isAdvance = []) :
    .took .resume ∉ entries := fun member =>
  List.filter_eq_nil_iff.mp still _ member rfl

theorem Aside.not_follows (aside : Aside entries) (member : entry ∈ entries) :
    entry.followsCarryOut = false := by
  refine not_follows_of (by simp [aside.rendering]) (fun position answer => ?_)
    (not_mem_of_still aside.still) member
  exact (aside.outputs position).not_mem_fanOut answer

theorem Looking.not_follows (looking : Looking now entries next) (member : entry ∈ entries) :
    entry.followsCarryOut = false := by
  refine not_follows_of (fun context asked => ?_) (by simp [looking.outputs]) ?_ member
  · obtain ⟨answer, same⟩ := looking.rendering _ asked
    cases same
  · intro taken
    have advance : .took .resume ∈ entries.filter Entry.isAdvance :=
      List.mem_filter.mpr ⟨taken, rfl⟩
    rw [looking.advances] at advance
    split at advance <;> simp at advance

theorem Ending.not_follows (ending : Ending modes now entries next) (member : entry ∈ entries) :
    entry.followsCarryOut = false := by
  refine not_follows_of (fun context asked => ?_) (fun position answer silenced => ?_)
    (not_mem_of_still ending.still) member
  · have order := ending.rendering.orders asked
    cases order
  · obtain ⟨mode, -, outputs⟩ := ending.outputs
    obtain ⟨resumed, called⟩ := outputs position
    rw [called] at silenced
    split at silenced <;> simp at silenced

/-- What follows the carrying out of a pause comes in its chapter. -/
theorem Dealing.last_of_follows (dealing : Dealing modes now entries next)
    (cycled : Cycled past now) (split : entries = head ++ entry :: tail)
    (follows : entry.followsCarryOut = true) :
    (milestones (past ++ head)).getLast? = some .carriedOut := by
  have member : entry ∈ entries := by simp [split]
  cases dealing with
  | aside aside => simp [aside.not_follows member] at follows
  | looked looking => simp [looking.not_follows member] at follows
  | @carriedOut work _ working =>
    cases head with
    | nil =>
      obtain ⟨rfl, -⟩ := List.cons.inj split
      cases follows
    | cons first head =>
      obtain ⟨rfl, -⟩ := List.cons.inj split
      have work_eq : work = head ++ entry :: tail := (List.cons.inj split).2
      have silent : milestones head = [] := by
        have none := milestones_of_still working.still
        rw [work_eq, milestones_append] at none
        exact (List.append_eq_nil_iff.mp none).1
      simp [silent]
  | @ended work _ ending =>
    cases head with
    | nil =>
      rw [List.append_nil, cycled.last ending.paused, ending.settled]
      rfl
    | cons first head =>
      obtain ⟨-, after⟩ := List.cons.inj split
      cases head with
      | nil =>
        obtain ⟨rfl, -⟩ := List.cons.inj after
        cases follows
      | cons second head =>
        have work_eq : work = head ++ entry :: tail := (List.cons.inj after).2
        have there : entry ∈ work := by simp [work_eq]
        simp [ending.not_follows there] at follows

/-- A look that makes a pause final leaves it due. -/
theorem Looking.final (looking : Looking now entries next)
    (committed : .milestone .committed ∈ entries) : next.phase = .paused ∧ next.due = true := by
  have told := mem_milestones.mpr committed
  rw [looking.milestones] at told
  have paused : next.phase = .paused := by
    by_cases here : next.phase = .paused
    · exact here
    · simp [here] at told
  refine ⟨paused, ?_⟩
  rw [looking.next_eq]
  simp [paused]

end Dealing

namespace Lifecycle

section Milestones

variable {milestone : Milestone}

private theorem work_apart : ApartFromWork (Entry.isOf milestone) :=
  ⟨fun _ => rfl, fun _ => rfl, fun _ _ => rfl, fun _ => rfl, fun _ _ => rfl, fun _ => rfl⟩

private theorem moves_apart :
    ApartFromMoves (fun _ : Lifecycle γ σ α τ => ()) (Entry.isOf milestone) :=
  ⟨fun _ _ => rfl, fun _ _ => rfl, fun _ _ _ _ _ => rfl, fun _ => rfl, fun _ => rfl, fun _ => rfl,
    fun _ => rfl⟩

/-- An action never reaches a milestone. -/
def Avoids {β : Type} (milestone : Milestone) (action : Traced (Lifecycle γ σ α τ) β) : Prop :=
  Spares (fun _ => ()) (Entry.isOf milestone) action

theorem Avoids.not_mem {β : Type} {action : Traced (Lifecycle γ σ α τ) β}
    (avoids : Avoids milestone action) (start : Lifecycle γ σ α τ) :
    .milestone milestone ∉ (action.run start).trace := fun member => by
  simpa [Entry.isOf] using List.filter_eq_nil_iff.mp (avoids start).2 _ member

theorem avoids_recoverAudio :
    Avoids milestone (recoverAudio : Traced (Lifecycle γ σ α τ) Nat) :=
  spares_recoverAudio (fun _ _ => rfl) (fun _ _ => rfl) fun _ => rfl

variable [Graphics.Layer γ] {host : HostActivity γ σ α τ}

theorem avoids_lookForPause (other : milestone ≠ .committed) :
    Avoids milestone (lookForPause host) :=
  spares_lookForPause moves_apart (fun _ _ _ => rfl) (fun _ _ _ => rfl) (fun _ => rfl) rfl
    (fun _ => rfl) (by simpa [Entry.isOf] using other.symm)

theorem avoids_carryOutDuePause {quiets : Bool} (other : milestone ≠ .carriedOut) :
    Avoids milestone (carryOutDuePause quiets : Traced (Lifecycle γ σ α τ) Unit) :=
  spares_bind (spares_read _) fun _ => spares_whenever <|
    spares_carryOutPause work_apart quiets (by simpa [Entry.isOf] using other.symm)

variable [Window.Layer σ] [TextInput τ]

theorem avoids_endPause {quiets : Bool} (other : milestone ≠ .ended) :
    Avoids milestone (endPause quiets : Traced (Lifecycle γ σ α τ) Unit) :=
  spares_endPause work_apart quiets (by simpa [Entry.isOf] using other.symm)

theorem avoids_comeBack (other : milestone ≠ .ended) : Avoids milestone (comeBack host) := by
  refine spares_bind (spares_read _) fun _ => spares_whenever (spares_bind ?_ fun _ => ?_)
  · exact spares_awaitResume moves_apart rfl (fun _ => rfl) rfl
  · exact avoids_endPause other

/-- A ticking round in the background, from the look for a resume on. -/
def tickOn (quiets : Bool) (host : HostActivity γ σ α τ) : Traced (Lifecycle γ σ α τ) Phase := do
  notifyAll host.beforeResume
  let resumed ← take .resume
  whenever resumed (endPause quiets)
  let _ ← recoverAudio
  read Lifecycle.phase

/-- A suspending round in the background, from the wait on. -/
def waitOn (host : HostActivity γ σ α τ) : Traced (Lifecycle γ σ α τ) Phase := do
  note .waitingForResume
  comeBack host
  let _ ← recoverAudio
  read Lifecycle.phase

theorem avoids_tickOn {quiets : Bool} (other : milestone ≠ .ended) :
    Avoids milestone (tickOn quiets host) := by
  refine spares_bind (spares_notifyAll moves_apart _) fun _ => ?_
  refine spares_bind (spares_take (fun _ _ => rfl) rfl) fun _ => ?_
  refine spares_bind (spares_whenever (avoids_endPause other)) fun _ => ?_
  exact spares_bind avoids_recoverAudio fun _ => spares_read _

theorem avoids_waitOn (other : milestone ≠ .ended) : Avoids milestone (waitOn host) := by
  refine spares_bind (spares_note rfl) fun _ => spares_bind (avoids_comeBack other) fun _ => ?_
  exact spares_bind avoids_recoverAudio fun _ => spares_read _

end Milestones

section Rounds

variable [Graphics.Layer γ] [Window.Layer σ] [TextInput τ] {host : HostActivity γ σ α τ}
  {start : Lifecycle γ σ α τ}

/-- A ticking round in the foreground looks for a pause, and that is all. -/
theorem run_advanceTicking_of_awake (awake : start.phase ≠ .paused) :
    (advanceTicking host).run start = (do
      lookForPause host
      let _ ← recoverAudio
      read Lifecycle.phase).run start := by
  cases here : start.phase with
  | paused => exact absurd here awake
  | _ => simp [advanceTicking, run_bind, here]

/-- A ticking round in the background carries a pause that is due out before it looks for a
resume. -/
theorem run_advanceTicking_of_paused (paused : start.phase = .paused) :
    (advanceTicking host).run start = (do
      carryOutDuePause start.config.pauseAudio
      tickOn start.config.pauseAudio host).run start := by
  simp [advanceTicking, tickPaused, tickOn, run_bind, paused]

/-- A suspending round in the background carries a pause that is due out before it waits. -/
theorem run_advanceSuspending_of_paused (paused : start.phase = .paused) :
    (advanceSuspending host).run start = (do
      carryOutDuePause true
      waitOn host).run start := by
  simp [advanceSuspending, settleDown, waitOn, run_bind, paused]

/-- A suspending round carries a pause that it makes final out before it waits. -/
theorem run_advanceSuspending_of_final (awake : start.phase ≠ .paused)
    (final : ((lookForPause host).run start).state.phase = .paused) :
    (advanceSuspending host).run start = (do
      lookForPause host
      carryOutDuePause true
      waitOn host).run start := by
  have looks : (start.phase != .paused) = true := by simpa using awake
  simp [advanceSuspending, settleDown, waitOn, run_bind, looks, final]

/-- A suspending round that makes no pause final goes on as a ticking one does. -/
theorem run_advanceSuspending_of_unfinal (awake : start.phase ≠ .paused)
    (unfinal : ((lookForPause host).run start).state.phase ≠ .paused) :
    (advanceSuspending host).run start = (do
      lookForPause host
      let _ ← recoverAudio
      read Lifecycle.phase).run start := by
  have looks : (start.phase != .paused) = true := by simpa using awake
  have goes : (((lookForPause host).run start).state.phase == .paused) = false := by
    simpa using unfinal
  simp [advanceSuspending, settleDown, comeBack, run_bind, looks, goes]

omit [Window.Layer σ] [TextInput τ] in
theorem run_carryOutDuePause (quiets : Bool) (due : start.carryOutDue = true) :
    (carryOutDuePause quiets).run start = (carryOutPause quiets).run start := by
  simp [carryOutDuePause, run_bind, due]

/-- In a trace a pause is carried out once, in a round of a kind, by a lifecycle that has come that
far and before anything of a wait. The work of it is that the current context is asked for,
detached and saved, unless it belongs to the embedder or a backup is held already, and that
every output is silenced once if rounds of the kind silence audio. -/
def CarriesOutOnce (mode : LoopMode) (past : List Entry) (now : Lifecycle γ σ α τ)
    (trace : List Entry) : Prop :=
  let carried := (carryOutPause (now.config.quietsAudio mode)).run now
  (∀ entry ∈ past ++ carried.trace, entry.isOfWait = false) ∧
    .milestone .carriedOut ∉ past ∧
    (∃ work, carried.trace = .milestone .carriedOut :: work ∧
      CarryingOut (· = mode) now.bearing work carried.state.bearing) ∧
    ∃ rest, trace = past ++ carried.trace ++ rest ∧ .milestone .carriedOut ∉ rest

omit [Graphics.Layer γ] [Window.Layer σ] [TextInput τ] in
theorem apart_from_wait :
    ApartFromMoves (fun _ : Lifecycle γ σ α τ => ()) Entry.isOfWait :=
  ⟨fun _ _ => rfl, fun _ _ => rfl, fun _ _ _ _ _ => rfl, fun _ => rfl, fun _ => rfl, fun _ => rfl,
    fun _ => rfl⟩

omit [Graphics.Layer γ] [Window.Layer σ] [TextInput τ] in
theorem work_apart_from_wait : ApartFromWork Entry.isOfWait :=
  ⟨fun _ => rfl, fun _ => rfl, fun _ _ => rfl, fun _ => rfl, fun _ _ => rfl, fun _ => rfl⟩

omit [Window.Layer σ] [TextInput τ] in
theorem spares_wait_lookForPause (host : HostActivity γ σ α τ) :
    Spares (fun _ : Lifecycle γ σ α τ => ()) Entry.isOfWait (lookForPause host) :=
  spares_lookForPause apart_from_wait (fun _ _ _ => rfl) (fun _ _ _ => rfl) (fun _ => rfl) rfl
    (fun _ => rfl) rfl

omit [Window.Layer σ] [TextInput τ] in
theorem not_waiting_carryOutPause (quiets : Bool) {entry : Entry}
    (member : entry ∈ ((carryOutPause quiets).run start).trace) : entry.isOfWait = false := by
  have spared := (spares_carryOutPause (σ := σ) (α := α) (τ := τ) work_apart_from_wait quiets rfl
    start).2
  simpa using List.filter_eq_nil_iff.mp spared entry member

omit [Window.Layer σ] [TextInput τ] in
theorem not_waiting_lookForPause {entry : Entry}
    (member : entry ∈ ((lookForPause host).run start).trace) : entry.isOfWait = false := by
  simpa using List.filter_eq_nil_iff.mp (spares_wait_lookForPause host start).2 entry member

theorem carriesOutOnce_advanceTicking (paused : start.phase = .paused)
    (due : start.carryOutDue = true) :
    CarriesOutOnce .ticking [] start ((advanceTicking host).run start).trace := by
  refine ⟨fun entry member => not_waiting_carryOutPause _ member, by simp,
    carryingOut_carryOutPause .ticking rfl paused due, ?_⟩
  have ticks : Avoids .carriedOut (tickOn start.config.pauseAudio host : Traced _ Phase) :=
    avoids_tickOn (by decide)
  rw [run_advanceTicking_of_paused paused, run_bind, run_carryOutDuePause _ due]
  exact ⟨_, rfl, ticks.not_mem _⟩

theorem carriesOutOnce_advanceSuspending (paused : start.phase = .paused)
    (due : start.carryOutDue = true) :
    CarriesOutOnce .suspending [] start ((advanceSuspending host).run start).trace := by
  refine ⟨fun entry member => not_waiting_carryOutPause _ member, by simp,
    carryingOut_carryOutPause .suspending rfl paused due, ?_⟩
  have waits : Avoids .carriedOut (waitOn host : Traced _ Phase) := avoids_waitOn (by decide)
  rw [run_advanceSuspending_of_paused paused, run_bind, run_carryOutDuePause _ due]
  exact ⟨_, rfl, waits.not_mem _⟩

omit [Window.Layer σ] [TextInput τ] in
/-- A look that leaves the lifecycle paused has made a pause final. -/
theorem committed_lookForPause (awake : start.phase ≠ .paused)
    (final : ((lookForPause host).run start).state.phase = .paused) :
    .milestone .committed ∈ ((lookForPause host).run start).trace := by
  have looking := looking_lookForPause host awake
  have paused : ((lookForPause host).run start).state.bearing.phase = .paused := final
  rw [← mem_milestones, looking.milestones, if_pos paused]
  exact List.mem_singleton.mpr rfl

/-- A suspending round makes a pause final in its look only. -/
theorem committed_advanceSuspending_iff :
    .milestone .committed ∈ ((advanceSuspending host).run start).trace ↔
      start.phase ≠ .paused ∧ ((lookForPause host).run start).state.phase = .paused := by
  have carries : Avoids .committed (carryOutDuePause true : Traced (Lifecycle γ σ α τ) Unit) :=
    avoids_carryOutDuePause (by decide)
  have waits : Avoids .committed (waitOn host : Traced (Lifecycle γ σ α τ) Phase) :=
    avoids_waitOn (by decide)
  have recovers : Avoids .committed (do
      let _ ← recoverAudio
      read Lifecycle.phase : Traced (Lifecycle γ σ α τ) Phase) :=
    spares_bind avoids_recoverAudio fun _ => spares_read _
  by_cases paused : start.phase = .paused
  · rw [run_advanceSuspending_of_paused paused, run_bind]
    simp [paused, carries.not_mem, waits.not_mem]
  by_cases final : ((lookForPause host).run start).state.phase = .paused
  · rw [run_advanceSuspending_of_final paused final, run_bind]
    simp [paused, final, committed_lookForPause paused final]
  · rw [run_advanceSuspending_of_unfinal paused final, run_bind]
    have looked : .milestone .committed ∉ ((lookForPause host).run start).trace := by
      intro member
      exact final ((looking_lookForPause host paused).final member).1
    simp [final, looked, recovers.not_mem]

/-- A suspending round that makes a pause final carries it out as well. -/
theorem carriesOutOnce_of_committed
    (committed : .milestone .committed ∈ ((advanceSuspending host).run start).trace) :
    .milestone .committed ∈ ((lookForPause host).run start).trace ∧
      CarriesOutOnce .suspending ((lookForPause host).run start).trace
        ((lookForPause host).run start).state ((advanceSuspending host).run start).trace := by
  obtain ⟨awake, final⟩ := committed_advanceSuspending_iff.mp committed
  have looked := committed_lookForPause awake final
  have due := ((looking_lookForPause host awake).final looked).2
  have looks : Avoids .carriedOut (lookForPause host : Traced (Lifecycle γ σ α τ) Unit) :=
    avoids_lookForPause (by decide)
  have waits : Avoids .carriedOut (waitOn host : Traced (Lifecycle γ σ α τ) Phase) :=
    avoids_waitOn (by decide)
  refine ⟨looked, fun entry member => ?_, looks.not_mem start,
    carryingOut_carryOutPause .suspending rfl final due, ?_⟩
  · rcases List.mem_append.mp member with there | there
    · exact not_waiting_lookForPause there
    · exact not_waiting_carryOutPause true there
  · rw [run_advanceSuspending_of_final awake final, run_bind, run_bind,
      run_carryOutDuePause true due, ← List.append_assoc]
    exact ⟨_, rfl, waits.not_mem _⟩

/-- A ticking round that makes a pause final looks for it and recovers stalled playback. -/
theorem looking_of_committed
    (committed : .milestone .committed ∈ ((advanceTicking host).run start).trace) :
    ∃ looked recovered, Looking start.bearing looked
        ((advanceTicking host).run start).state.bearing ∧
      Aside recovered ∧ .milestone .committed ∈ looked ∧
      ((advanceTicking host).run start).trace = looked ++ recovered := by
  by_cases paused : start.phase = .paused
  · have carries : Avoids .committed (carryOutDuePause start.config.pauseAudio :
        Traced (Lifecycle γ σ α τ) Unit) := avoids_carryOutDuePause (by decide)
    have ticks : Avoids .committed (tickOn start.config.pauseAudio host :
        Traced (Lifecycle γ σ α τ) Phase) := avoids_tickOn (by decide)
    rw [run_advanceTicking_of_paused paused, run_bind] at committed
    rcases List.mem_append.mp committed with there | there
    · exact absurd there (carries.not_mem _)
    · exact absurd there (ticks.not_mem _)
  · have looking := looking_lookForPause host paused
    obtain ⟨same, aside⟩ := aside_recoverAudio ((lookForPause host).run start).state
    have round : (advanceTicking host).run start =
        ⟨(recoverAudio.run ((lookForPause host).run start).state).state.phase,
          (recoverAudio.run ((lookForPause host).run start).state).state,
          ((lookForPause host).run start).trace ++
            (recoverAudio.run ((lookForPause host).run start).state).trace⟩ := by
      simp [run_advanceTicking_of_awake paused, run_bind]
    rw [round] at committed ⊢
    refine ⟨_, _, same ▸ looking, aside, ?_, rfl⟩
    rcases List.mem_append.mp committed with there | there
    · exact there
    · exact absurd there (avoids_recoverAudio.not_mem _)

/-- A ticking round that makes a pause final leaves it due. All it does to the collaborators is
to ask for the swap interval and to recover stalled playback. -/
theorem due_of_committed
    (committed : .milestone .committed ∈ ((advanceTicking host).run start).trace) :
    (((advanceTicking host).run start).state.phase = .paused ∧
      ((advanceTicking host).run start).state.carryOutDue = true) ∧
      (∀ context answer,
        .graphics (.makeCurrent context answer) ∉ ((advanceTicking host).run start).trace) ∧
      (∀ position answer,
        .audio position (.pause .fanOut answer) ∉ ((advanceTicking host).run start).trace) ∧
      .milestone .carriedOut ∉ ((advanceTicking host).run start).trace := by
  obtain ⟨looked, recovered, looking, aside, final, split⟩ := looking_of_committed committed
  refine ⟨looking.final final, ?_, ?_, ?_⟩
  · intro context answer member
    rw [split, ← mem_graphicsCalls, graphicsCalls_append, aside.rendering,
      List.append_nil] at member
    obtain ⟨interval, same⟩ := looking.rendering _ member
    cases same
  · intro position answer member
    rcases List.mem_append.mp (split ▸ member) with there | there
    · cases looking.not_follows there
    · cases aside.not_follows there
  · intro member
    rw [← mem_milestones, split, milestones_append, aside.milestones, looking.milestones] at member
    split at member <;> simp at member

omit [Graphics.Layer γ] [Window.Layer σ] [TextInput τ] in
theorem due_after_moves {now : Lifecycle γ σ α τ} (paused : now.phase = .paused)
    (due : now.carryOutDue = true) (moves : List (Move γ σ α τ)) :
    ((forAll perform moves).run now).state.phase = .paused ∧
      ((forAll perform moves).run now).state.carryOutDue = true := by
  have keeps : Keeps footing (forAll perform moves : Traced (Lifecycle γ σ α τ) (List Reply)) :=
    spares_forAll moves fun move _ => keeps_footing_perform move
  have same := (keeps now).1
  simp only [footing, Prod.mk.injEq] at same
  exact ⟨same.2.1.trans paused, same.2.2.trans due⟩

end Rounds

end Lifecycle

section Course

variable [Graphics.Layer γ] [Window.Layer σ] [TextInput τ] {permitted : Stage γ σ α τ → Prop}
  {start finish : Lifecycle γ σ α τ} {trace past later : List Entry} {entry : Entry}

theorem Course.cycled (course : Course permitted start trace finish)
    (running : start.phase = .running) (settled : start.carryOutDue = false) :
    Cycled trace finish.bearing := by
  have dealings : Dealings (fun _ => True) start.bearing trace finish.bearing :=
    Course.dealings any_mode course
  refine dealings.cycled (fun paused => ?_) settled
  have awake : start.phase = .paused := paused
  simp [running] at awake

/-- What follows the carrying out of a pause comes before the next milestone. -/
theorem Course.last_of_follows (course : Course permitted start trace finish)
    (running : start.phase = .running) (settled : start.carryOutDue = false)
    (split : trace = past ++ entry :: later) (follows : entry.followsCarryOut = true) :
    (milestones past).getLast? = some .carriedOut := by
  obtain ⟨earlier, head, tail, now, after, first, link, rfl⟩ := course.around split
  have dealing : Dealing (fun _ => True) now.bearing (head ++ entry :: tail) after.bearing :=
    link.dealing any_mode
  exact dealing.last_of_follows (Course.cycled first running settled) rfl follows

end Course

variable [Graphics.Layer γ] [Window.Layer σ] [TextInput τ]

/-- Every pause that is made final is carried out once before it ends, and no other is. A ticking
round that makes a pause final leaves it to the next round, of whichever kind, which carries
it out before it takes a resume, however long that is raised. A suspending round carries the
pause out itself before it waits. -/
theorem final_pause_is_carried_out_once_before_it_ends (config : Config) (keeper : Keeper γ σ)
    (outputs : List (Audio.Output α)) (audio : α) (textInput : Option τ) (run : Run γ σ α τ) :
    let outcome := (Lifecycle.play run).run (Lifecycle.fresh config keeper outputs audio textInput)
    let lifecycle := outcome.state
    (∃ cycles, milestones outcome.trace <+:
      (List.replicate cycles [.committed, .carriedOut, .ended]).flatten) ∧
    (∀ past entry later, outcome.trace = past ++ entry :: later →
      entry.followsCarryOut = true → (milestones past).getLast? = some .carriedOut) ∧
    (∀ host, let round := (Lifecycle.advanceTicking host).run lifecycle
      .milestone .committed ∈ round.trace →
        (∀ context answer, .graphics (.makeCurrent context answer) ∉ round.trace) ∧
        (∀ position answer, .audio position (.pause .fanOut answer) ∉ round.trace) ∧
        .milestone .carriedOut ∉ round.trace ∧
        ∀ moves next, let moved := ((forAll Lifecycle.perform moves).run round.state).state
          Lifecycle.CarriesOutOnce .ticking [] moved
              ((Lifecycle.advanceTicking next).run moved).trace ∧
            Lifecycle.CarriesOutOnce .suspending [] moved
              ((Lifecycle.advanceSuspending next).run moved).trace) ∧
    (∀ host, let round := (Lifecycle.advanceSuspending host).run lifecycle
      let looked := (Lifecycle.lookForPause host).run lifecycle
      .milestone .committed ∈ round.trace → .milestone .committed ∈ looked.trace ∧
        Lifecycle.CarriesOutOnce .suspending looked.trace looked.state round.trace) := by
  intro outcome lifecycle
  let start := Lifecycle.fresh config keeper outputs audio textInput
  have course : Course run.Has start outcome.trace lifecycle := Lifecycle.unfolds_play run
  refine ⟨?_, fun past entry later split follows => ?_, ?_, ?_⟩
  · obtain ⟨-, cycles, milestones⟩ := Course.cycled course rfl rfl
    refine ⟨cycles + 1, ?_⟩
    rw [milestones, List.replicate_succ', List.flatten_append, List.prefix_append_right_inj]
    unfold Bearing.cycle
    split
    · split <;> simp
    · exact List.nil_prefix
  · exact Course.last_of_follows course rfl rfl split follows
  · intro host round committed
    obtain ⟨⟨paused, due⟩, detached, silenced, kept⟩ := Lifecycle.due_of_committed committed
    refine ⟨detached, silenced, kept, fun moves next => ?_⟩
    obtain ⟨still, later⟩ := Lifecycle.due_after_moves paused due moves
    exact ⟨Lifecycle.carriesOutOnce_advanceTicking still later,
      Lifecycle.carriesOutOnce_advanceSuspending still later⟩
  · intro host round looked committed
    exact Lifecycle.carriesOutOnce_of_committed committed

/-- A resume is raised while a pause is still pending, which the app has seen by then. -/
def Rehearsal.resumedTooEarly : RehearsedRun where
  steps := [.around (.notify .pause 1), .ticking {}, .around (.notify .resume 1), .around .drain]

/-- A resume that was raised before a pause is final does not overtake the pause. -/
theorem early_resume_does_not_overtake_the_pause :
    let lifecycle := (Rehearsal.rehearse Rehearsal.resumedTooEarly).state
    let committing := (Lifecycle.advanceTicking {}).run lifecycle
    lifecycle.signals.resume.count = 1 ∧ .milestone .committed ∈ committing.trace ∧
      .milestone .carriedOut ∉ committing.trace ∧
      Lifecycle.CarriesOutOnce .ticking [] committing.state
        ((Lifecycle.advanceTicking {}).run committing.state).trace := by
  intro lifecycle committing
  obtain ⟨-, -, ticking, -⟩ := final_pause_is_carried_out_once_before_it_ends {}
    Rehearsal.opening [Rehearsal.Scripts.output .plain "speaker" 0] [{}] (some {})
    Rehearsal.resumedTooEarly
  have committed : .milestone .committed ∈ committing.trace := mem_milestones.mp (by decide)
  obtain ⟨-, -, kept, next⟩ := ticking {} committed
  exact ⟨by decide, committed, kept, (next [] {}).1⟩

end AppLifecycle
