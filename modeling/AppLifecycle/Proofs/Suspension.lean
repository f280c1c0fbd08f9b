import AppLifecycle.Proofs.Pace

/-! Where a main loop is suspended. A program that only goes through suspending rounds never sees
the background from outside a round: a pause that becomes final is carried out and waited for
in the same round, and the round comes back only with the resume that ends the pause. What the
host and the app do meanwhile changes nothing about that. -/
namespace AppLifecycle

open Traced Trace

variable {γ σ α τ : Type}

/-- How things stand in a wait: the pause is final and carried out, since it is final every
output was silenced and not called otherwise, and the context is saved unless it belongs to
the embedder. -/
structure AtRest (trace : List Entry) (now : Bearing) : Prop where
  paused : now.phase = .paused
  settled : now.due = false
  silenced : ∃ past since, trace = past ++ .milestone .committed :: since ∧
    .milestone .committed ∉ since ∧ ∀ position < now.outputs, ∃ answer,
      audioCalls position since = [.pause .fanOut answer]
  backedUp : now.config.contextExternal = false → now.snapshot.held = true

/-- How a round that waits goes: there is at most one suspension, during which the lifecycle
tells the app nothing, and then one resume is used up. What comes behind that uses up no other
and tells the app that it is back. -/
structure WaitsOnce (settled wait back : List Entry) : Prop where
  before : settled.filter Entry.isOfWait = []
  once : wait.filter Entry.isOfWait <+: [.suspended]
  silent : announcements wait = []
  after : back.filter Entry.isOfWait = []
  told : announcements back = Event.foregroundGroup

theorem WaitsOnce.announces {settled wait back : List Entry}
    (waiting : WaitsOnce settled wait back) :
    announcements (wait ++ .took .resume :: back) = Event.foregroundGroup := by
  rw [announcements_append, waiting.silent]
  exact waiting.told

/-- The entries in which the lifecycle tells the app something. -/
def Entry.isAnnouncement : Entry → Bool
  | .pushed .lifecycle _ => true
  | _ => false

theorem Trace.announcements_of_spared {trace : List Entry}
    (spared : trace.filter Entry.isAnnouncement = []) : announcements trace = [] := by
  refine filterMap_of_spared (fun entry other => ?_) spared
  cases entry with
  | pushed origin event => cases origin <;> first | rfl | cases other
  | _ => rfl

section Dealing

variable {now next after : Bearing} {past entries looked work : List Entry}

/-- Where the collaborators are left alone and no step of a cycle is made, a wait goes on. -/
theorem AtRest.append (rest : AtRest past now)
    (silent : entries.filter Entry.isDealing = []) : AtRest (past ++ entries) now := by
  obtain ⟨paused, settled, ⟨before, since, rfl, last, silenced⟩, backedUp⟩ := rest
  obtain ⟨still, -, uncalled⟩ := silent_of_spared silent
  have absent : .milestone .committed ∉ entries := by
    rw [← mem_milestones, milestones_of_still still]
    exact List.not_mem_nil
  refine ⟨paused, settled, ⟨before, since ++ entries, by simp, by simp [last, absent], ?_⟩,
    backedUp⟩
  intro position registered
  obtain ⟨answer, called⟩ := silenced position registered
  exact ⟨answer, by rw [audioCalls_append, called, uncalled]; rfl⟩

theorem Backup.held {external : Bool} {saved kept : Snapshot} {calls : List Graphics.Call}
    (backup : Backup external saved calls kept) (own : external = false) : kept.held = true := by
  rcases backup.made_or_left own with ⟨-, context, answer, -, rfl⟩ | ⟨held, -, rfl⟩
  · rfl
  · exact held

/-- A pause that is carried out right after the look that made it final can be waited for. -/
theorem Looking.atRest (looking : Looking now looked next) (final : next.phase = .paused)
    (working : CarryingOut (· = .suspending) next work after) :
    AtRest (past ++ (looked ++ .milestone .carriedOut :: work)) after := by
  have last : (Trace.milestones looked).getLast? = some .committed := by
    rw [looking.milestones, if_pos final]
    rfl
  obtain ⟨before, since, rfl, silent⟩ := split_of_last_milestone last
  have setUp : after.config = next.config ∧ after.outputs = next.outputs := by
    rw [working.next_eq]
    exact ⟨rfl, rfl⟩
  refine ⟨?_, ?_, ⟨past ++ before, since ++ .milestone .carriedOut :: work, by simp, ?_, ?_⟩, ?_⟩
  · rw [working.next_eq]
    exact final
  · rw [working.next_eq]
  · rw [← mem_milestones, milestones_append, silent, working.milestones]
    decide
  · intro position registered
    have uncalled : audioCalls position since = [] := by
      have none := looking.outputs position
      rw [audioCalls_append] at none
      exact (List.append_eq_nil_iff.mp none).2
    obtain ⟨mode, rfl, outputs⟩ := working.outputs
    obtain ⟨answer, called⟩ := outputs position
    rw [setUp.2] at registered
    have silenced : audioCalls position (.milestone .carriedOut :: work) =
        [.pause .fanOut answer] := by
      change audioCalls position work = _
      rw [called, if_pos ⟨rfl, registered⟩]
    exact ⟨answer, by rw [audioCalls_append, uncalled, silenced]; rfl⟩
  · intro own
    rw [setUp.1] at own
    exact working.rendering.held own

end Dealing

namespace Lifecycle

/-- Neither in the background nor with a pause that is still due. -/
def Awake (lifecycle : Lifecycle γ σ α τ) : Prop :=
  lifecycle.phase ≠ .paused ∧ lifecycle.carryOutDue = false

section Wait

theorem apart_from_announcement :
    ApartFromMoves (fun _ : Lifecycle γ σ α τ => ()) Entry.isAnnouncement :=
  ⟨fun _ _ => rfl, fun _ _ => rfl, fun _ _ _ _ _ => rfl, fun _ => rfl, fun _ => rfl, fun _ => rfl,
    fun _ => rfl⟩

theorem spares_untilResume {ε : Type} {view : Lifecycle γ σ α τ → ε} {kind : Entry → Bool}
    (host : HostActivity γ σ α τ) (apart : ApartFromMoves view kind)
    (suspended : kind .suspended = false) (released : ∀ replies, kind (.released replies) = false) :
    Spares view kind (untilResume host) :=
  spares_bind (spares_notifyAll apart _) fun _ => spares_bind (spares_read _) fun _ =>
    spares_whenever (spares_suspend apart host suspended released)

/-- There is at most one suspension in a wait, and no resume is used up before it is over. -/
theorem untilResume_once (host : HostActivity γ σ α τ) (start : Lifecycle γ σ α τ) :
    ((untilResume host).run start).trace.filter Entry.isOfWait <+: [.suspended] := by
  have posts := (spares_notifyAll apart_from_wait host.beforeResume start).2
  simp only [untilResume, run_bind, run_read, List.nil_append, List.filter_append, posts]
  generalize ((notifyAll host.beforeResume).run start).state = raised
  cases raised.signals.resume.count == 0 with
  | false => exact List.nil_prefix
  | true =>
    have moves : Spares (fun _ : Lifecycle γ σ α τ => ()) Entry.isOfWait (do
        let replies ← forAll perform host.whileSuspended
        let raised ← read fun lifecycle => lifecycle.signals.resume.count
        whenever (raised == 0) (notifyAll [.resume])
        tell (.released replies)) := by
      refine spares_bind (spares_forAll _ fun move _ => spares_perform apart_from_wait move)
        fun _ => spares_bind (spares_read _) fun _ => ?_
      exact spares_bind (spares_whenever (spares_notifyAll apart_from_wait _)) fun _ =>
        spares_tell rfl
    rw [whenever_true, suspend, run_bind, run_tell, List.filter_append, (moves raised).2]
    exact List.prefix_rfl

theorem silent_untilResume (host : HostActivity γ σ α τ) (start : Lifecycle γ σ α τ) :
    announcements ((untilResume host).run start).trace = [] :=
  announcements_of_spared
    (spares_untilResume host apart_from_announcement rfl (fun _ => rfl) start).2

end Wait

variable [Graphics.Layer γ] {host : HostActivity γ σ α τ} {start : Lifecycle γ σ α τ}

theorem run_settleDown_of_unfinal (awake : start.phase ≠ .paused)
    (unfinal : ((lookForPause host).run start).state.phase ≠ .paused) :
    (settleDown host).run start = (lookForPause host).run start := by
  have looks : (start.phase != .paused) = true := by simpa using awake
  have goes : (((lookForPause host).run start).state.phase == .paused) = false := by
    simpa using unfinal
  simp [settleDown, run_bind, looks, goes]

theorem run_settleDown_of_final (awake : start.phase ≠ .paused)
    (final : ((lookForPause host).run start).state.phase = .paused) :
    (settleDown host).run start = (do
      lookForPause host
      carryOutPause true
      note .waitingForResume).run start := by
  have looks : (start.phase != .paused) = true := by simpa using awake
  have committed := committed_lookForPause awake final
  have due := ((looking_lookForPause host awake).final committed).2
  have carries : (carryOutDuePause true).run ((lookForPause host).run start).state = _ :=
    run_carryOutDuePause true due
  simp [settleDown, run_bind, looks, final, carries]

theorem phase_settleDown (awake : start.phase ≠ .paused) :
    ((settleDown host).run start).state.phase = .paused ↔
      ((lookForPause host).run start).state.phase = .paused := by
  by_cases final : ((lookForPause host).run start).state.phase = .paused
  · have looks : (start.phase != .paused) = true := by simpa using awake
    have kept := footing_carryOutDuePause true ((lookForPause host).run start).state
    simp only [footing, Prod.mk.injEq] at kept
    simp [settleDown, run_bind, looks, final, kept]
  · rw [run_settleDown_of_unfinal awake final]

/-- Where a suspending round begins to wait, everything is at rest. -/
theorem atRest_settleDown (awake : start.Awake) (past : List Entry)
    (waits : ((settleDown host).run start).state.phase = .paused) :
    AtRest (past ++ ((settleDown host).run start).trace)
      ((settleDown host).run start).state.bearing := by
  have final := (phase_settleDown awake.1).mp waits
  have looking := looking_lookForPause host awake.1
  have due := (looking.final (committed_lookForPause awake.1 final)).2
  let looked := (lookForPause host).run start
  obtain ⟨work, split, working⟩ : ∃ work,
      ((carryOutPause true).run looked.state).trace = .milestone .carriedOut :: work ∧
        CarryingOut (· = .suspending) looked.state.bearing work
          ((carryOutPause true).run looked.state).state.bearing :=
    carryingOut_carryOutPause .suspending rfl final due
  have rest : AtRest (past ++ (looked.trace ++ .milestone .carriedOut :: work)) _ :=
    looking.atRest final working
  rw [← split] at rest
  have noted : [Entry.notice .waitingForResume].filter Entry.isDealing = [] := rfl
  rw [run_settleDown_of_final awake.1 final]
  simpa [run_bind, List.append_assoc] using rest.append noted

theorem unwaiting_settleDown (host : HostActivity γ σ α τ) (start : Lifecycle γ σ α τ) :
    ((settleDown host).run start).trace.filter Entry.isOfWait = [] := by
  have carries : Spares (fun _ : Lifecycle γ σ α τ => ()) Entry.isOfWait (carryOutDuePause true) :=
    spares_bind (spares_read _) fun _ =>
      spares_whenever (spares_carryOutPause work_apart_from_wait true rfl)
  have settles : Spares (fun _ : Lifecycle γ σ α τ => ()) Entry.isOfWait (settleDown host) := by
    refine spares_bind (spares_read _) fun _ => ?_
    refine spares_bind (spares_whenever (spares_wait_lookForPause host)) fun _ => ?_
    refine spares_bind (spares_read _) fun _ => spares_whenever ?_
    exact spares_bind carries fun _ => spares_note rfl
  exact (settles start).2

/-- A look that makes no pause final leaves nothing due. -/
theorem awake_settleDown (awake : start.Awake)
    (goes : ((settleDown host).run start).state.phase ≠ .paused) :
    ((settleDown host).run start).state.Awake := by
  have unfinal := mt (phase_settleDown awake.1).mpr goes
  have due := congrArg Bearing.due (looking_lookForPause host awake.1).next_eq
  refine ⟨goes, ?_⟩
  rw [run_settleDown_of_unfinal awake.1 unfinal]
  simpa [bearing, awake.2, unfinal] using due

variable [Window.Layer σ] [TextInput τ]

/-- A round that waits goes on with the resume that ends the pause. -/
theorem run_advanceSuspending_of_waiting
    (waits : ((settleDown host).run start).state.phase = .paused) :
    (advanceSuspending host).run start = (do
      settleDown host
      untilResume host
      (Stage.comeBack .suspending).act
      let _ ← recoverAudio
      read Lifecycle.phase).run start := by
  simp [advanceSuspending, comeBack, run_bind, waits, awaitResume_eq, Stage.act,
    Config.quietsAudio]

/-- A round that does not wait is over once stalled playback is recovered. -/
theorem run_advanceSuspending_of_going
    (goes : ((settleDown host).run start).state.phase ≠ .paused) :
    (advanceSuspending host).run start = (do
      settleDown host
      let _ ← recoverAudio
      read Lifecycle.phase).run start := by
  have on : (((settleDown host).run start).state.phase == .paused) = false := by simpa using goes
  simp [advanceSuspending, comeBack, run_bind, on]

omit [Graphics.Layer γ] [Window.Layer σ] [TextInput τ] in
theorem idle_recoverAudio (now : Lifecycle γ σ α τ) :
    (recoverAudio.run now).state.bearing = now.bearing ∧
      (recoverAudio.run now).trace.filter Entry.isOfWait = [] ∧
      announcements (recoverAudio.run now).trace = [] := by
  have unwaiting : Spares (fun _ : Lifecycle γ σ α τ => ()) Entry.isOfWait recoverAudio :=
    spares_recoverAudio (fun _ _ => rfl) (fun _ _ => rfl) fun _ => rfl
  have turns := congrArg announcements (spares_standing_recoverAudio now).2
  rw [announcements_turns] at turns
  exact ⟨(aside_recoverAudio now).1, (unwaiting now).2, turns⟩

omit [Graphics.Layer γ] [Window.Layer σ] [TextInput τ] in
theorem resumes_recoverAudio (now : Lifecycle γ σ α τ) :
    (recoverAudio.run now).state.signals.resume.count = now.signals.resume.count ∧
      raises (recoverAudio.run now).trace = [] := by
  obtain ⟨standing, turns⟩ := spares_standing_recoverAudio now
  refine ⟨congrArg (fun now : Standing => now.signals.resume.count) standing, ?_⟩
  rw [← raises_turns, turns]
  rfl

/-- The return from a wait: one resume is used up first, and then the app is told once. -/
theorem return_from_wait (paused : start.phase = .paused) (settled : start.carryOutDue = false)
    (raised : 0 < start.signals.resume.count) :
    let returned := (Stage.comeBack .suspending).act.run start
    ∃ back, returned.trace = .took .resume :: back ∧ back.filter Entry.isOfWait = [] ∧
      announcements back = Event.foregroundGroup ∧
      returned.state.signals.resume.count + 1 = start.signals.resume.count ∧
      returned.state.bearing.phase = .running ∧ returned.state.bearing.due = false := by
  intro returned
  have there : 0 < (start.signals.get .resume).count := raised
  obtain ⟨reset, -, standing, turns⟩ := comeBack_turns .suspending raised
  obtain ⟨work, -, ending⟩ : ∃ work, returned.trace = .took .resume :: .milestone .ended :: work ∧
      Ending (fun _ => True) start.bearing work returned.state.bearing :=
    ending_comeBack .suspending trivial paused settled raised
  let taken : Lifecycle γ σ α τ := { start with signals := start.signals.spend .resume }
  let back := ((endPause true).run taken).trace
  have split : returned.trace = .took .resume :: back := by
    simp [returned, Stage.act, run_bind, run_take, there, Config.quietsAudio, taken, back]
  have ends : Spares (fun _ : Lifecycle γ σ α τ => ()) Entry.isOfWait (endPause true) :=
    spares_endPause work_apart_from_wait true rfl
  refine ⟨back, split, (ends taken).2, ?_, ?_, ?_, ?_⟩
  · have told : announcements returned.trace = Event.foregroundGroup := by
      rw [← announcements_turns, turns, announcements_endingEntries]
    rwa [split] at told
  · have spent : returned.state.signals.resume.count = start.signals.resume.count - 1 :=
      congrArg (fun now : Standing => now.signals.resume.count) standing
    omega
  · rw [ending.next_eq]
  · rw [ending.next_eq]
    exact ending.settled

/-- A round that waits waits once and comes back to the foreground, with one resume less. -/
theorem waits_once (waits : ((settleDown host).run start).state.phase = .paused) :
    let settled := (settleDown host).run start
    let waited := (untilResume host).run settled.state
    let round := (advanceSuspending host).run start
    round.value = .running ∧ round.state.phase = .running ∧ round.state.carryOutDue = false ∧
      round.state.signals.resume.count + 1 = waited.state.signals.resume.count ∧
      ∃ back, round.trace = settled.trace ++ (waited.trace ++ .took .resume :: back) ∧
        WaitsOnce settled.trace waited.trace back := by
  intro settled waited round
  have reached : round = _ := run_advanceSuspending_of_waiting waits
  have unwaiting := unwaiting_settleDown host start
  have once := untilResume_once host settled.state
  have silent := silent_untilResume host settled.state
  have still := (keeps_footing_untilResume host settled.state).1
  simp only [footing, Prod.mk.injEq] at still
  obtain ⟨back, took, none, told, left, phase, due⟩ := return_from_wait
    (still.2.1.trans waits) (still.2.2.trans (settled_after_settleDown waits))
    (resume_raised_after_untilResume host settled.state)
  rw [reached]
  simp only [run_bind, run_read, List.append_nil]
  generalize (Stage.comeBack .suspending).act.run waited.state = returned at took left phase due ⊢
  obtain ⟨same, quiet, untold⟩ := idle_recoverAudio returned.state
  obtain ⟨counts, -⟩ := resumes_recoverAudio returned.state
  generalize recoverAudio.run returned.state = recovered at same quiet untold counts ⊢
  have running : recovered.state.phase = .running := (congrArg Bearing.phase same).trans phase
  refine ⟨running, running, (congrArg Bearing.due same).trans due,
    (congrArg (· + 1) counts).trans left, back ++ recovered.trace, ?_, unwaiting, once, silent,
    ?_, ?_⟩
  · rw [took]
    rfl
  · rw [List.filter_append, none, quiet]
    rfl
  · rw [announcements_append, told, untold, List.append_nil]

/-- A round that does not wait leaves the lifecycle awake, and uses up no resume. -/
theorem goes_on (awake : start.Awake)
    (goes : ((settleDown host).run start).state.phase ≠ .paused) :
    let round := (advanceSuspending host).run start
    round.state.Awake ∧ round.value = round.state.phase ∧
      round.trace.filter Entry.isOfWait = [] ∧
      round.state.signals.resume.count =
        start.signals.resume.count + (raises round.trace).count .resume := by
  intro round
  have reached : round = _ := run_advanceSuspending_of_going goes
  have unwaiting := unwaiting_settleDown host start
  have still := awake_settleDown awake goes
  have raised : ((settleDown host).run start).state.signals.resume.count =
      start.signals.resume.count +
        (raises ((settleDown host).run start).trace).count .resume := by
    rw [run_settleDown_of_unfinal awake.1 (mt (phase_settleDown awake.1).mpr goes)]
    exact resumes_lookForPause host awake.1
  rw [reached]
  simp only [run_bind, run_read, List.append_nil, List.filter_append, unwaiting, List.nil_append]
  generalize (settleDown host).run start = settling at still raised ⊢
  obtain ⟨same, quiet, -⟩ := idle_recoverAudio settling.state
  obtain ⟨counts, unraised⟩ := resumes_recoverAudio settling.state
  have phase := congrArg Bearing.phase same
  have due := congrArg Bearing.due same
  refine ⟨⟨fun paused => still.1 (phase.symm.trans paused), due.trans still.2⟩, trivial, quiet, ?_⟩
  rw [raises_append, unraised, List.append_nil]
  exact counts.trans raised

/-- Between suspending rounds the lifecycle is awake. -/
theorem awake_go {step : Step γ σ α τ} (other : step.mode? ≠ some .ticking)
    (awake : start.Awake) : ((go step).run start).state.Awake := by
  cases step with
  | around move =>
    have still := (keeps_footing_perform move start).1
    simp only [footing, Prod.mk.injEq] at still
    exact ⟨fun paused => awake.1 (still.2.1.symm.trans paused), still.2.2.trans awake.2⟩
  | suspending host =>
    by_cases waits : ((settleDown host).run start).state.phase = .paused
    · obtain ⟨-, running, settled, -⟩ := waits_once waits
      exact ⟨fun paused => Phase.noConfusion (running.symm.trans paused), settled⟩
    · exact (goes_on awake waits).1
  | ticking host => exact absurd rfl other

theorem awake_play {steps : List (Step γ σ α τ)}
    (suspending : ∀ step ∈ steps, step.mode? ≠ some .ticking) (awake : start.Awake) :
    ((play { steps }).run start).state.Awake := by
  induction steps generalizing start with
  | nil => exact awake
  | cons step rest ih =>
    have first := awake_go (suspending step List.mem_cons_self) awake
    rw [play_cons, run_bind]
    exact ih (fun later member => suspending later (List.mem_cons_of_mem _ member)) first

/-- A wait that is not over yet. -/
def waitSoFar (host : HostActivity γ σ α τ) : Traced (Lifecycle γ σ α τ) Unit := do
  notifyAll host.beforeResume
  let raised ← read fun lifecycle => lifecycle.signals.resume.count
  whenever (raised == 0) do
    tell .suspended
    let _ ← forAll perform host.whileSuspended
    pure ()

omit [Graphics.Layer γ] [Window.Layer σ] [TextInput τ] in
theorem spares_dealing_waitSoFar (host : HostActivity γ σ α τ) :
    Spares bearing Entry.isDealing (waitSoFar host) := by
  refine spares_bind (spares_notifyAll apart_from_dealing _) fun _ => ?_
  refine spares_bind (spares_read _) fun _ => spares_whenever (spares_bind (spares_tell rfl) ?_)
  intro _
  refine spares_bind (spares_forAll _ fun move _ => ?_) fun _ => spares_pure ()
  exact spares_perform apart_from_dealing move

omit [Window.Layer σ] [TextInput τ] in
/-- In the middle of a suspending round nothing is due, and while it waits everything is at
rest. -/
theorem atRest_standBy (host : HostActivity γ σ α τ) (awake : start.Awake) (past : List Entry) :
    let waiting := (standBy host).run start
    waiting.state.carryOutDue = false ∧
      (waiting.state.phase = .paused → AtRest (past ++ waiting.trace) waiting.state.bearing) := by
  intro waiting
  by_cases waits : ((settleDown host).run start).state.phase = .paused
  · have here : waiting = (do
        settleDown host
        waitSoFar host).run start := by
      simp [waiting, standBy, run_bind, waits, waitSoFar]
    obtain ⟨same, silent⟩ := spares_dealing_waitSoFar host ((settleDown host).run start).state
    have rest := (atRest_settleDown awake past waits).append silent
    rw [← same, List.append_assoc] at rest
    rw [here]
    exact ⟨rest.settled, fun _ => rest⟩
  · have reached : (((settleDown host).run start).state.phase == .paused) = false := by
      simpa using waits
    have here : waiting = (settleDown host).run start := by
      simp [waiting, standBy, run_bind, reached]
    rw [here]
    exact ⟨(awake_settleDown awake waits).2, fun paused => absurd paused waits⟩

theorem play_unfinished (steps : List (Step γ σ α τ)) (host : HostActivity γ σ α τ) :
    play { steps, unfinished := some host } = (do
      play { steps }
      standBy host) := by
  simp [play]

end Lifecycle

variable [Graphics.Layer γ] [Window.Layer σ] [TextInput τ]

/-- A program that only goes through suspending rounds is in the background only while a round
waits, and is at rest there throughout, whatever the host and the app do. A round that waits
does so once and comes back running: after the wait one resume is used up, which there is one
less of when the round is over, and after that there is one group of events for the app. A
round that does not wait uses no resume up, and there are as many more as were raised in it. -/
theorem suspending_rounds_wait_at_rest_and_come_back_running (config : Config)
    (keeper : Keeper γ σ) (outputs : List (Audio.Output α)) (audio : α) (textInput : Option τ)
    (run : Run γ σ α τ) (suspending : ∀ step ∈ run.allSteps, step.mode? ≠ some .ticking) :
    let outcome := (Lifecycle.play run).run (Lifecycle.fresh config keeper outputs audio textInput)
    let lifecycle := outcome.state
    lifecycle.carryOutDue = false ∧
      (lifecycle.phase = .paused →
        run.unfinished.isSome ∧ AtRest outcome.trace lifecycle.bearing) ∧
      (run.unfinished = none → ∀ host,
        let settled := (Lifecycle.settleDown host).run lifecycle
        let waited := (Lifecycle.untilResume host).run settled.state
        let round := (Lifecycle.advanceSuspending host).run lifecycle
        (settled.state.phase = .paused →
          AtRest (outcome.trace ++ settled.trace) settled.state.bearing ∧
            round.value = .running ∧ round.state.phase = .running ∧
            round.state.signals.resume.count + 1 = waited.state.signals.resume.count ∧
            ∃ back, round.trace = settled.trace ++ (waited.trace ++ .took .resume :: back) ∧
              WaitsOnce settled.trace waited.trace back) ∧
        (settled.state.phase ≠ .paused →
          (round.value = .running ∨ round.value = .pausing) ∧ round.state.phase = round.value ∧
            round.trace.filter Entry.isOfWait = [] ∧
            round.state.signals.resume.count =
              lifecycle.signals.resume.count + (raises round.trace).count .resume)) := by
  obtain ⟨steps, unfinished⟩ := run
  let start := Lifecycle.fresh config keeper outputs audio textInput
  have awake : ((Lifecycle.play { steps }).run start).state.Awake := by
    refine Lifecycle.awake_play (fun step member => suspending step ?_) ⟨Phase.noConfusion, rfl⟩
    exact List.mem_append_left _ member
  cases unfinished with
  | some host =>
    rw [Lifecycle.play_unfinished]
    intro outcome lifecycle
    obtain ⟨settled, rest⟩ := Lifecycle.atRest_standBy host awake
      ((Lifecycle.play { steps }).run start).trace
    exact ⟨settled, fun paused => ⟨rfl, rest paused⟩, fun finished => nomatch finished⟩
  | none =>
    intro outcome lifecycle
    refine ⟨awake.2, fun paused => absurd paused awake.1, ?_⟩
    intro _ host settled waited round
    constructor
    · intro waits
      obtain ⟨running, still, -, parts⟩ := Lifecycle.waits_once waits
      exact ⟨Lifecycle.atRest_settleDown awake _ waits, running, still, parts⟩
    · intro goes
      obtain ⟨still, value, unwaiting⟩ := Lifecycle.goes_on awake goes
      refine ⟨?_, value.symm, unwaiting⟩
      cases phase : round.value with
      | running => exact .inl rfl
      | pausing => exact .inr rfl
      | paused => exact absurd (value.symm.trans phase) still.1

/-- The app sees a pause between two rounds, and while the second waits the host raises another
pause. -/
def Rehearsal.longSuspension : RehearsedRun where
  steps := [.around (.notify .pause 1), .suspending {}, .around .drain]
  unfinished := some { whileSuspended := [.notify .pause 1, .push .quit 1] }

/-- The second round waits, and what happens meanwhile does not end the wait. -/
theorem suspension_outlasts_another_pause :
    (∀ step ∈ Rehearsal.longSuspension.allSteps, step.mode? ≠ some .ticking) ∧
      let outcome := Rehearsal.rehearse Rehearsal.longSuspension
      outcome.state.phase = .paused ∧ AtRest outcome.trace outcome.state.bearing := by
  have suspending : ∀ step ∈ Rehearsal.longSuspension.allSteps, step.mode? ≠ some .ticking := by
    decide
  obtain ⟨-, rest, -⟩ := suspending_rounds_wait_at_rest_and_come_back_running {}
    Rehearsal.opening [Rehearsal.Scripts.output .plain "speaker" 0] [{}] (some {})
    Rehearsal.longSuspension suspending
  have paused : (Rehearsal.rehearse Rehearsal.longSuspension).state.phase = .paused := by decide
  exact ⟨suspending, paused, (rest paused).2⟩

end AppLifecycle
