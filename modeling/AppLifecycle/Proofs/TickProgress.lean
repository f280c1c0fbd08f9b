import AppLifecycle.Proofs.PendingPause

/-! Progress of a loop that ticks. If the app takes all its events after every ticking round and
the host raises nothing more, every tick takes the lifecycle one step further through a
background cycle until the signals are used up, whatever the collaborators do. A cycle is three
steps, so the number of ticks it takes is known beforehand. -/
namespace AppLifecycle

open Traced Trace

variable {γ σ α τ : Type}

/-- What happens to the collaborators before a tick. -/
structure Tick (γ σ α τ : Type) where
  graphics : γ → γ := id
  window : σ → σ := id
  audio : α → α := id
  textInput : τ → τ := id

/-- A tick: a ticking round in which the host raises nothing, and then the app takes every
event. -/
def Tick.steps (tick : Tick γ σ α τ) : List (Step γ σ α τ) :=
  [.around (.adjust tick.graphics tick.window tick.audio tick.textInput), .ticking {},
    .around .drain]

/-- The lifecycle at the beginning of the round. -/
def Tick.begin (tick : Tick γ σ α τ) (now : Lifecycle γ σ α τ) : Lifecycle γ σ α τ :=
  { now with
    keeper := { now.keeper with
      graphics := tick.graphics now.keeper.graphics
      window := tick.window now.keeper.window }
    audio := tick.audio now.audio
    textInput := now.textInput.map tick.textInput }

/-- The moves of ticks. -/
def Move.isOfTick : Move γ σ α τ → Bool
  | .drain | .adjust .. => true
  | _ => false

/-- How many ticks a lifecycle has come in a background cycle. -/
def Standing.advanced (now : Standing) : Nat :=
  match now.phase with
  | .running => 0
  | .pausing => 1
  | .paused => if now.due then 2 else 3

/-- The accounts of the entries since signals were raised, and none afterwards. -/
structure Accounts (signals : HostSignals) (since : List Entry) (now : Standing) : Prop where
  counted : ∀ kind, (now.signals.get kind).count + (takes since).count kind =
    (signals.get kind).count
  running : now.phase = .running → (takes since).count .pause = (takes since).count .resume
  background : now.phase ≠ .running →
    (takes since).count .pause = (takes since).count .resume + 1
  paused_of_due : now.due = true → now.phase = .paused
  departures : (arrivals since).count .didEnterBackground = (takes since).count .pause
  returns : (arrivals since).count .didEnterForeground = (takes since).count .resume

namespace Accounts

variable {signals : HostSignals} {past entries : List Entry} {now next : Standing}

theorem announce (accounts : Accounts signals past now) (running : now.phase = .running)
    (raised : 0 < now.signals.pause.count) : Accounts signals (past ++ announcing) now.announce := by
  have even := accounts.running running
  constructor
  · intro kind
    have before := accounts.counted kind
    cases kind with
    | pause =>
      have there : 0 < (now.signals.get .pause).count := raised
      simp [Standing.announce]
      omega
    | resume => simpa [Standing.announce] using before
  · intro here
    cases here
  · intro away
    simp [even]
  · intro due
    exact absurd (accounts.paused_of_due due) (by simp [running])
  · simp [accounts.departures, Event.backgroundGroup]
  · simpa [Event.backgroundGroup] using accounts.returns

theorem comeBack (accounts : Accounts signals past now) (paused : now.phase = .paused)
    (settled : now.due = false) (raised : 0 < now.signals.resume.count) (reset : Bool) :
    Accounts signals (past ++ endingEntries reset) (now.comeBack reset) := by
  have odd := accounts.background (by simp [paused])
  constructor
  · intro kind
    have before := accounts.counted kind
    cases kind with
    | pause => simpa [Standing.comeBack] using before
    | resume =>
      have there : 0 < (now.signals.get .resume).count := raised
      simp [Standing.comeBack]
      omega
  · intro here
    simp [odd]
  · intro away
    exact absurd rfl away
  · intro due
    exact absurd settled (by simp [show now.due = true from due])
  · cases reset <;> simpa [Standing.farewell, Event.foregroundGroup] using accounts.departures
  · cases reset <;> simp [Standing.farewell, Event.foregroundGroup, accounts.returns]

/-- A turn in a tick keeps the accounts. -/
theorem turn (accounts : Accounts signals past now)
    (turn : Turn (fun move : Move γ σ α τ => move.isOfTick = true) now entries next) :
    Accounts signals (past ++ entries) next := by
  have silent {entry : Entry} (takes : Trace.takes [entry] = [])
      (arrivals : Trace.arrivals [entry] = []) (here : next.signals = now.signals)
      (phase : next.phase = .running ↔ now.phase = .running)
      (due : next.due = true → next.phase = .paused) : Accounts signals (past ++ [entry]) next := by
    obtain ⟨counted, running, background, -, departures, returns⟩ := accounts
    constructor <;> simpa [takes, arrivals, here, phase]
  cases turn with
  | raised kind times ok => cases ok
  | spent kind ok => cases ok
  | pushed event times ok some => cases ok
  | removed event rest oldest => exact silent rfl rfl rfl Iff.rfl accounts.paused_of_due
  | announced running raised => exact accounts.announce running raised
  | committed pausing few => exact silent rfl rfl rfl (by simp [Standing.commit, pausing]) fun _ => rfl
  | carriedOut paused due => exact silent rfl rfl rfl Iff.rfl fun _ => paused
  | ended reset paused settled raised restored => exact accounts.comeBack paused settled raised reset

theorem turns {start finish : Standing} {trace : List Entry}
    (accounts : Accounts signals past start)
    (turns : Turns (fun move : Move γ σ α τ => move.isOfTick = true) start trace finish) :
    Accounts signals (past ++ trace) finish := by
  induction turns with
  | rest => simpa using accounts
  | next before last ih =>
    rw [← List.append_assoc]
    exact ih.turn last

theorem of_turns {trace : List Entry}
    (accounts : Accounts signals (past ++ trace.filter Entry.isTurn) now) :
    Accounts signals (past ++ trace) now := by
  have takes : takes (past ++ trace.filter Entry.isTurn) = takes (past ++ trace) := by simp
  have arrivals : arrivals (past ++ trace.filter Entry.isTurn) = arrivals (past ++ trace) := by
    simp
  obtain ⟨counted, running, background, due, departures, returns⟩ := accounts
  rw [takes] at running background
  rw [takes, arrivals] at departures returns
  exact ⟨fun kind => takes ▸ counted kind, running, background, due, departures, returns⟩

end Accounts

namespace Lifecycle

variable [Graphics.Layer γ] {now : Lifecycle γ σ α τ}

omit [Graphics.Layer γ] in
/-- Once the counts are compared, a pause is pending or final. -/
theorem phase_settlePause (announced : Bool) (now : Lifecycle γ σ α τ) :
    ((settlePause announced).run now).state.phase ≠ .running := by
  by_cases unseen : now.signals.pause.count < now.keeper.events.count .didEnterBackground
  · cases announced <;> simp [settlePause, run_bind, unseen]
  · simp [settlePause, run_bind, unseen]

variable [Window.Layer σ] [TextInput τ]

/-- In the foreground a ticking round stands where its look does. -/
theorem standing_tick_of_awake (host : HostActivity γ σ α τ) (awake : now.phase ≠ .paused) :
    ((advanceTicking host).run now).state.standing =
      ((lookForPause host).run now).state.standing := by
  rw [run_advanceTicking_of_awake awake, run_bind, run_bind]
  exact standing_recoverAudio ((lookForPause host).run now).state

/-- A ticking round that finds a pause leads away from the foreground. -/
theorem tick_of_found {host : HostActivity γ σ α τ} (running : now.phase = .running)
    (found : host.findsPause now) : ((advanceTicking host).run now).state.phase ≠ .running := by
  have awake : now.phase ≠ .paused := by simp [running]
  have away : ((lookForPause host).run now).state.phase ≠ .running := by
    simp only [run_lookForPause_of_found found, takeUp, run_bind]
    exact phase_settlePause true _
  intro here
  exact away ((congrArg Standing.phase (standing_tick_of_awake host awake)).symm.trans here)

theorem tick_of_unraised (running : now.phase = .running) (none : now.signals.pause.count = 0) :
    ((advanceTicking {}).run now).state.phase = .running := by
  have awake : now.phase ≠ .paused := by simp [running]
  have same := congrArg Standing.phase (standing_tick_of_awake {} awake)
  exact same.trans (look_of_none {} running (by simp [none]))

/-- A ticking round that makes a pause final leaves it due. -/
theorem due_of_tick (awake : now.phase ≠ .paused)
    (paused : ((advanceTicking {}).run now).state.phase = .paused) :
    ((advanceTicking {}).run now).state.carryOutDue = true := by
  have same := standing_tick_of_awake {} awake
  have final := (congrArg Standing.phase same).symm.trans paused
  have looking := looking_lookForPause {} awake
  exact (congrArg Standing.due same).trans
    (looking.final (committed_lookForPause awake final)).2

/-- A ticking round makes a pause final that the app has seen. -/
theorem tick_of_pausing (pausing : now.phase = .pausing) (seen : now.keeper.events = .empty) :
    ((advanceTicking {}).run now).state.phase = .paused := by
  have awake : now.phase ≠ .paused := by simp [pausing]
  have same := congrArg Standing.phase (standing_tick_of_awake {} awake)
  have final := (look_of_pausing {} pausing).2
  rw [seen] at final
  exact same.trans (final.mpr (Nat.zero_le _))

/-- A ticking round in the background ends the pause, or has carried it out and finds no
resume. -/
theorem tick_of_paused {host : HostActivity γ σ α τ} (paused : now.phase = .paused) :
    let next := ((advanceTicking host).run now).state
    next.phase = .running ∨
      next.phase = .paused ∧ next.carryOutDue = false ∧ next.signals.resume.count = 0 := by
  intro next
  have carried := footing_carryOutDuePause now.config.pauseAudio now
  have reached : next = _ := congrArg Outcome.state (run_advanceTicking_of_paused paused)
  simp only [footing, Prod.mk.injEq] at carried
  simp only [run_bind] at reached
  generalize ((carryOutDuePause now.config.pauseAudio).run now).state = settled at carried reached
  rw [reached]
  rcases Nat.eq_zero_or_pos (settled.signals.resume.count + host.beforeResume.count .resume) with
    none | raised
  · right
    have same := standing_idleRound host.beforeResume settled
    rw [← run_tickOn_of_none now.config.pauseAudio none] at same
    have counted := HostSignals.count_raises host.beforeResume settled.signals .resume
    refine ⟨?_, ?_, ?_⟩
    · exact (congrArg Standing.phase same).trans (carried.2.1.trans paused)
    · exact (congrArg Standing.due same).trans carried.2.2
    · exact (congrArg (fun standing => standing.signals.resume.count) same).trans
        (counted.trans none)
  · exact .inl (phase_tickOn_of_raised now.config.pauseAudio raised)

/-- What a ticking round in which the host raises nothing makes of a lifecycle whose app has seen
all its events. -/
structure Progress (now next : Standing) : Prop where
  raised : now.phase = .running → 0 < now.signals.pause.count → next.phase ≠ .running
  unraised : now.phase = .running → now.signals.pause.count = 0 → next.phase = .running
  seen : now.phase = .pausing → next.phase = .paused
  due : now.phase ≠ .paused → next.phase = .paused → next.due = true
  background : now.phase = .paused →
    next.phase = .running ∨
      next.phase = .paused ∧ next.due = false ∧ next.signals.resume.count = 0

theorem progress_tick (now : Lifecycle γ σ α τ) (seen : now.keeper.events = .empty) :
    Progress now.standing ((advanceTicking {}).run now).state.standing where
  raised running raised :=
    tick_of_found running ⟨by simp [show now.phase = .running from running],
      Nat.add_pos_left raised _⟩
  unraised := tick_of_unraised
  seen pausing := tick_of_pausing pausing seen
  due := due_of_tick
  background := tick_of_paused

end Lifecycle

/-- How far a lifecycle has come after a number of ticks: it has used up what can be used up, or
come one step further with every tick. -/
structure Ticked (signals : HostSignals) (ticks : Nat) (since : List Entry) (now : Standing) :
    Prop extends Accounts signals since now where
  seen : now.events = .empty
  exhausted : now.phase = .paused → now.due = false → now.signals.resume.count = 0
  further : (now.phase = .running ∧ now.signals.pause.count = 0) ∨
    (now.phase = .paused ∧ now.due = false) ∨
    ticks ≤ 3 * (takes since).count .resume + now.advanced

theorem Standing.advanced_pos {now : Standing} (away : now.phase ≠ .running) :
    0 < now.advanced := by
  unfold Standing.advanced
  split
  · exact absurd ‹_› away
  · exact Nat.one_pos
  · split <;> decide

namespace Ticked

variable {signals : HostSignals} {ticks : Nat} {past later : List Entry} {now next : Standing}

theorem start (running : now.phase = .running) (settled : now.due = false)
    (seen : now.events = .empty) : Ticked now.signals 0 [] now := by
  refine ⟨⟨fun _ => rfl, fun _ => rfl, fun away => absurd running away, fun due => ?_, rfl, rfl⟩,
    seen, fun paused => ?_, .inr (.inr (Nat.zero_le _))⟩
  · cases settled.symm.trans due
  · cases running.symm.trans paused

theorem takes_pause (ticked : Ticked signals ticks past now) :
    now.signals.pause.count + (takes past).count .pause = signals.pause.count :=
  ticked.counted .pause

theorem takes_resume (ticked : Ticked signals ticks past now) :
    now.signals.resume.count + (takes past).count .resume = signals.resume.count :=
  ticked.counted .resume

section Progress

variable (ticked : Ticked signals ticks past now)
  (accounts : Accounts signals (past ++ later) { next with events := .empty })
  (progress : Lifecycle.Progress now next)

include ticked accounts progress

/-- In the foreground a tick starts a cycle if a pause is raised. -/
theorem of_running (here : now.phase = .running) :
    Ticked signals (ticks + 1) (past ++ later) { next with events := .empty } := by
  have pauses := ticked.takes_pause
  have pausesAfter : next.signals.pause.count + (takes (past ++ later)).count .pause =
      signals.pause.count := accounts.counted .pause
  have away : now.phase ≠ .paused := by simp [here]
  rw [takes_append, List.count_append] at pausesAfter
  by_cases none : now.signals.pause.count = 0
  · have stays := progress.unraised here none
    have left : next.signals.pause.count = 0 := by omega
    refine ⟨accounts, rfl, fun paused => ?_, .inl ⟨stays, left⟩⟩
    cases stays.symm.trans paused
  · have leaves := progress.raised here (Nat.pos_of_ne_zero none)
    have begun : 0 < Standing.advanced { next with events := .empty } :=
      Standing.advanced_pos leaves
    have before : now.advanced = 0 := by simp [Standing.advanced, here]
    refine ⟨accounts, rfl, fun paused settled => ?_, .inr (.inr ?_)⟩
    · cases (progress.due away paused).symm.trans settled
    · rw [takes_append, List.count_append]
      rcases ticked.further with ⟨-, idle⟩ | ⟨paused, -⟩ | further
      · exact absurd idle none
      · exact absurd paused away
      · omega

/-- A pending pause becomes final, since the app has seen it. -/
theorem of_pausing (here : now.phase = .pausing) :
    Ticked signals (ticks + 1) (past ++ later) { next with events := .empty } := by
  have away : now.phase ≠ .paused := by simp [here]
  have paused := progress.seen here
  have due := progress.due away paused
  have two : Standing.advanced { next with events := .empty } = 2 := by
    simp [Standing.advanced, paused, due]
  have before : now.advanced = 1 := by simp [Standing.advanced, here]
  refine ⟨accounts, rfl, fun _ settled => ?_, .inr (.inr ?_)⟩
  · cases due.symm.trans settled
  · rw [takes_append, List.count_append]
    rcases ticked.further with ⟨running, -⟩ | ⟨paused, -⟩ | further
    · cases here.symm.trans running
    · exact absurd paused away
    · omega

/-- In the background a tick ends the cycle if a resume is raised. -/
theorem of_paused (here : now.phase = .paused) :
    Ticked signals (ticks + 1) (past ++ later) { next with events := .empty } := by
  have pauses := ticked.takes_pause
  have resumes := ticked.takes_resume
  have odd : (takes past).count .pause = (takes past).count .resume + 1 :=
    ticked.background (by simp [here])
  rcases progress.background here with running | ⟨paused, settled, none⟩
  · have pausesAfter : next.signals.pause.count + (takes (past ++ later)).count .pause =
        signals.pause.count := accounts.counted .pause
    have resumesAfter : next.signals.resume.count + (takes (past ++ later)).count .resume =
        signals.resume.count := accounts.counted .resume
    have even : (takes (past ++ later)).count .pause = (takes (past ++ later)).count .resume :=
      accounts.running running
    rw [takes_append, List.count_append, List.count_append] at even
    rw [takes_append, List.count_append] at pausesAfter resumesAfter
    -- The resume that was used up was there, so the pause was still due.
    have due : now.due = true := by
      cases waits : now.due with
      | true => rfl
      | false =>
        have exhausted : now.signals.resume.count = 0 := ticked.exhausted here waits
        omega
    have before : now.advanced = 2 := by simp [Standing.advanced, here, due]
    refine ⟨accounts, rfl, fun paused => ?_, .inr (.inr ?_)⟩
    · cases running.symm.trans paused
    · rw [takes_append, List.count_append]
      rcases ticked.further with ⟨running, -⟩ | ⟨-, settled⟩ | further
      · cases here.symm.trans running
      · cases due.symm.trans settled
      · omega
  · exact ⟨accounts, rfl, fun _ _ => none, .inr (.inl ⟨paused, settled⟩)⟩

end Progress

section Enough

variable (ticked : Ticked signals ticks past now)
  (enough : 3 * min signals.pause.count (signals.resume.count + 1) ≤ ticks)

include ticked enough

/-- Ticks that are as many as the cycles to go through take are enough. -/
theorem used_up :
    (now.phase = .running ∧ now.signals.pause.count = 0) ∨
      (now.phase = .paused ∧ now.due = false ∧ now.signals.resume.count = 0) := by
  have pauses := ticked.takes_pause
  have resumes := ticked.takes_resume
  rcases ticked.further with idle | ⟨paused, settled⟩ | further
  · exact .inl idle
  · exact .inr ⟨paused, settled, ticked.exhausted paused settled⟩
  · cases here : now.phase with
    | running =>
      have even : (takes past).count .pause = (takes past).count .resume := ticked.running here
      have none : now.advanced = 0 := by simp [Standing.advanced, here]
      left
      exact ⟨rfl, by omega⟩
    | pausing =>
      have odd : (takes past).count .pause = (takes past).count .resume + 1 :=
        ticked.background (by simp [here])
      have one : now.advanced = 1 := by simp [Standing.advanced, here]
      omega
    | paused =>
      have odd : (takes past).count .pause = (takes past).count .resume + 1 :=
        ticked.background (by simp [here])
      cases due : now.due with
      | true =>
        have two : now.advanced = 2 := by simp [Standing.advanced, here, due]
        omega
      | false => exact .inr ⟨rfl, rfl, ticked.exhausted here due⟩

/-- Where the signals lead, and what the app has seen on the way, follows from how many there
were. -/
theorem outcome (delivered : removals past = arrivals past) :
    now.due = false ∧
      (signals.pause.count ≤ signals.resume.count → now.phase = .running ∧
        now.signals.pause.count = 0 ∧
        now.signals.resume.count = signals.resume.count - signals.pause.count) ∧
      (signals.resume.count < signals.pause.count → now.phase = .paused ∧
        now.signals.pause.count = signals.pause.count - signals.resume.count - 1 ∧
        now.signals.resume.count = 0) ∧
      (removals past).count .didEnterBackground =
        min signals.pause.count (signals.resume.count + 1) ∧
      (removals past).count .didEnterForeground =
        min signals.pause.count signals.resume.count := by
  have pauses := ticked.takes_pause
  have resumes := ticked.takes_resume
  rw [delivered, ticked.departures, ticked.returns]
  rcases ticked.used_up enough with ⟨here, none⟩ | ⟨paused, settled, none⟩
  · have even : (takes past).count .pause = (takes past).count .resume := ticked.running here
    have settled : now.due = false := by
      cases due : now.due with
      | false => rfl
      | true => cases here.symm.trans (ticked.paused_of_due due)
    refine ⟨settled, fun _ => ⟨here, none, ?_⟩, fun fewer => ?_, ?_, ?_⟩ <;> omega
  · have odd : (takes past).count .pause = (takes past).count .resume + 1 :=
      ticked.background (by simp [paused])
    refine ⟨settled, fun few => ?_, fun _ => ⟨paused, ?_, none⟩, ?_, ?_⟩ <;> omega

end Enough

end Ticked

section Ticks

variable [Graphics.Layer γ] [Window.Layer σ] [TextInput τ] {signals : HostSignals} {ticks : Nat}
  {past : List Entry} {now : Lifecycle γ σ α τ}

theorem Tick.standing_after (tick : Tick γ σ α τ) (now : Lifecycle γ σ α τ) :
    let round := ((Lifecycle.advanceTicking {}).run (tick.begin now)).state
    ((Lifecycle.play { steps := tick.steps }).run now).state.standing =
      { round.standing with events := round.keeper.events.drain.2 } := rfl

/-- A tick keeps the accounts, and leaves the queue empty. -/
theorem Ticked.accounts_after (ticked : Ticked signals ticks past now.standing)
    (tick : Tick γ σ α τ) :
    let after := (Lifecycle.play { steps := tick.steps }).run now
    Accounts signals (past ++ after.trace) after.state.standing ∧
      after.state.standing =
        { ((Lifecycle.advanceTicking {}).run (tick.begin now)).state.standing with
          events := .empty } := by
  intro after
  have turns : Turning (fun move : Move γ σ α τ => move.isOfTick = true)
      (Lifecycle.play { steps := tick.steps }) now := by
    refine Lifecycle.play_turns { steps := tick.steps } now fun move member => ?_
    have either : move = .adjust tick.graphics tick.window tick.audio tick.textInput ∨
        move = .drain := by
      simpa [Run.moves, Run.allSteps, Tick.steps, Step.moves, HostActivity.moves] using member
    rcases either with rfl | rfl <;> rfl
  refine ⟨(ticked.toAccounts.turns turns).of_turns, ?_⟩
  obtain ⟨left, storing, -⟩ := turns.removals_append_queued ticked.seen
  rw [tick.standing_after now] at storing
  rw [show after.state.standing = _ from tick.standing_after now]
  generalize ((Lifecycle.advanceTicking {}).run (tick.begin now)).state = round at storing ⊢
  cases queue : round.keeper.events with
  | storing events => rfl
  | discarding => simp [queue, EventQueue.drain] at storing

/-- With every tick the lifecycle comes a step further, until the signals are used up. -/
theorem Ticked.tick (ticked : Ticked signals ticks past now.standing) (tick : Tick γ σ α τ) :
    let after := (Lifecycle.play { steps := tick.steps }).run now
    Ticked signals (ticks + 1) (past ++ after.trace) after.state.standing := by
  intro after
  obtain ⟨accounts, stands⟩ := ticked.accounts_after tick
  have progress := Lifecycle.progress_tick (tick.begin now) ticked.seen
  rw [stands] at accounts ⊢
  generalize ((Lifecycle.advanceTicking {}).run (tick.begin now)).state.standing = round
    at accounts progress ⊢
  cases here : now.standing.phase with
  | running => exact ticked.of_running accounts progress here
  | pausing => exact ticked.of_pausing accounts progress here
  | paused => exact ticked.of_paused accounts progress here

/-- What holds of one tick adds up. -/
theorem Ticked.more (ticked : Ticked signals ticks past now.standing)
    (later : List (Tick γ σ α τ)) :
    let after := (Lifecycle.play { steps := later.flatMap Tick.steps }).run now
    Ticked signals (ticks + later.length) (past ++ after.trace) after.state.standing := by
  induction later generalizing ticks past now with
  | nil => simpa [Lifecycle.play, forAll] using ticked
  | cons tick rest ih =>
    intro after
    have onward := ih (ticked.tick tick)
    have split : after = (do
        Lifecycle.play { steps := tick.steps }
        Lifecycle.play { steps := rest.flatMap Tick.steps }).run now := by
      rw [← Lifecycle.play_append]
      rfl
    rw [split, List.length_cons, Nat.add_comm rest.length, ← Nat.add_assoc]
    simpa only [run_bind, List.append_assoc] using onward

end Ticks

variable [Graphics.Layer γ] [Window.Layer σ] [TextInput τ]

/-- If the app takes all its events in every tick, three ticks for every cycle that can be gone
through use the signals up. A pause for which there is a resume is ended, and the first one for
which there is none is carried out and lasts. The app has then seen as many departures and
returns as there were. -/
theorem ticks_go_through_every_cycle_that_is_raised (config : Config) (keeper : Keeper γ σ)
    (outputs : List (Audio.Output α)) (audio : α) (textInput : Option τ) (run : Run γ σ α τ)
    (ticks : List (Tick γ σ α τ)) :
    let reached :=
      ((Lifecycle.play run).run (Lifecycle.fresh config keeper outputs audio textInput)).state
    let pauses := reached.signals.pause.count
    let resumes := reached.signals.resume.count
    let outcome := (Lifecycle.play { steps := ticks.flatMap Tick.steps }).run reached
    let lifecycle := outcome.state
    reached.phase = .running → reached.keeper.events = .empty →
    3 * min pauses (resumes + 1) ≤ ticks.length →
      lifecycle.carryOutDue = false ∧
      (pauses ≤ resumes → lifecycle.phase = .running ∧
        lifecycle.signals.pause.count = 0 ∧
        lifecycle.signals.resume.count = resumes - pauses) ∧
      (resumes < pauses → lifecycle.phase = .paused ∧
        lifecycle.signals.pause.count = pauses - resumes - 1 ∧
        lifecycle.signals.resume.count = 0) ∧
      (removals outcome.trace).count .didEnterBackground = min pauses (resumes + 1) ∧
      (removals outcome.trace).count .didEnterForeground = min pauses resumes := by
  intro reached pauses resumes outcome lifecycle running seen enough
  have course : Course run.Has _ _ reached := Lifecycle.unfolds_play run
  have settled : reached.carryOutDue = false := by
    obtain ⟨paused_of_due, -⟩ := Course.cycled course rfl rfl
    cases due : reached.carryOutDue with
    | false => rfl
    | true => cases running.symm.trans (paused_of_due due)
  have ticked : Ticked reached.signals (0 + ticks.length) ([] ++ outcome.trace) lifecycle.standing :=
    (Ticked.start running settled seen).more ticks
  rw [Nat.zero_add, List.nil_append] at ticked
  have turns := Lifecycle.play_turns { steps := ticks.flatMap Tick.steps } reached
    fun _ _ => trivial
  obtain ⟨left, storing, kept⟩ := turns.removals_append_queued seen
  obtain rfl : [] = left := EventQueue.storing.inj (ticked.seen.symm.trans storing)
  have delivered : removals outcome.trace = arrivals outcome.trace := by simpa using kept
  exact ticked.outcome enough delivered

/-- Two pauses and one resume are raised at once. -/
def Rehearsal.crowdedSignals : RehearsedRun where
  steps := [.around (.notify .pause 2), .around (.notify .resume 1)]

/-- In six ticks the app leaves twice and returns once. -/
theorem second_pause_outlasts_the_only_resume :
    let reached := (Rehearsal.rehearse Rehearsal.crowdedSignals).state
    let ticks : List (Tick _ _ _ _) := List.replicate 6 {}
    let outcome := (Lifecycle.play { steps := ticks.flatMap Tick.steps }).run reached
    reached.phase = .running ∧ reached.signals.pause.count = 2 ∧
      (removals outcome.trace).count .didEnterBackground = 2 ∧
      (removals outcome.trace).count .didEnterForeground = 1 := by
  intro reached ticks outcome
  have running : reached.phase = .running := by decide
  have seen : reached.keeper.events = .empty := by decide
  have pauses : reached.signals.pause.count = 2 := by decide
  have resumes : reached.signals.resume.count = 1 := by decide
  have enough : 3 * min reached.signals.pause.count (reached.signals.resume.count + 1) ≤
      ticks.length := by
    rw [pauses, resumes]
    decide
  have goes := ticks_go_through_every_cycle_that_is_raised {} Rehearsal.opening
    [Rehearsal.Scripts.output .plain "speaker" 0] [{}] (some {}) Rehearsal.crowdedSignals ticks
  obtain ⟨-, -, -, departures, returns⟩ := goes running seen enough
  have two : min reached.signals.pause.count (reached.signals.resume.count + 1) = 2 := by
    rw [pauses, resumes]
    rfl
  have one : min reached.signals.pause.count reached.signals.resume.count = 1 := by
    rw [pauses, resumes]
    rfl
  exact ⟨running, pauses, departures.trans two, returns.trans one⟩

end AppLifecycle
