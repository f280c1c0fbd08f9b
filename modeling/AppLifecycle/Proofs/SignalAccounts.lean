import AppLifecycle.Proofs.History

/-! The accounts of the two signals. Every count of a signal that the lifecycle uses up is
used for one announcement and the other way round, whichever kind of round does it and
whenever the host raises more; announcements and final pauses follow each other. -/
namespace AppLifecycle

variable {γ σ α τ : Type}

/-- What the app is told when a signal is used up. -/
def SignalKind.announces : SignalKind → List Event
  | .pause => Event.backgroundGroup
  | .resume => Event.foregroundGroup

/-- The accounts of a trace agree with where it leads. -/
structure Balanced (trace : List Entry) (now : Standing) : Prop where
  announced : Trace.announcements trace = (Trace.takes trace).flatMap SignalKind.announces
  raised : ∀ kind, (Trace.raises trace).count kind =
    (now.signals.get kind).count + (Trace.takes trace).count kind
  running : now.phase = .running →
    (Trace.takes trace).count .pause = (Trace.takes trace).count .resume
  background : now.phase ≠ .running →
    (Trace.takes trace).count .pause = (Trace.takes trace).count .resume + 1
  committed : (Trace.milestones trace).count .committed =
    (Trace.takes trace).count .resume + if now.phase = .paused then 1 else 0

namespace Balanced

variable {past entries : List Entry} {now next : Standing}

section Counts

variable (balanced : Balanced past now) (counts : ∀ kind : SignalKind,
  (next.signals.get kind).count + (Trace.takes entries).count kind =
    (now.signals.get kind).count + (Trace.raises entries).count kind)

include balanced counts

theorem raised_append (kind : SignalKind) : (Trace.raises (past ++ entries)).count kind =
    (next.signals.get kind).count + (Trace.takes (past ++ entries)).count kind := by
  have before := balanced.raised kind
  have here := counts kind
  rw [Trace.raises_append, Trace.takes_append, List.count_append, List.count_append]
  omega

/-- What neither uses a signal up nor moves the phase keeps the accounts balanced. -/
theorem idle (silent : Trace.announcements entries = [] ∧ Trace.takes entries = [] ∧
      (Trace.milestones entries).count .committed = 0)
    (phase : next.phase = now.phase) : Balanced (past ++ entries) next := by
  obtain ⟨announcements, takes, commits⟩ := silent
  refine ⟨?_, balanced.raised_append counts, ?_, ?_, ?_⟩
  · simpa [announcements, takes] using balanced.announced
  · simpa [takes, phase] using balanced.running
  · simpa [takes, phase] using balanced.background
  · simpa [takes, phase, commits] using balanced.committed

end Counts

theorem announce (balanced : Balanced past now) (running : now.phase = .running)
    (counts : ∀ kind : SignalKind,
      (now.announce.signals.get kind).count + (Trace.takes announcing).count kind =
        (now.signals.get kind).count + (Trace.raises announcing).count kind) :
    Balanced (past ++ announcing) now.announce := by
  have even := balanced.running running
  have commits := balanced.committed
  refine ⟨?_, balanced.raised_append counts, ?_, ?_, ?_⟩
  · simp [balanced.announced, SignalKind.announces]
  · intro here
    cases here
  · intro away
    simp [even]
  · simpa [running, Standing.announce] using commits

theorem commit (balanced : Balanced past now) (pausing : now.phase = .pausing) :
    Balanced (past ++ [.milestone .committed]) now.commit := by
  have takes : Trace.takes [.milestone .committed] = [] := rfl
  have milestones : Trace.milestones [.milestone .committed] = [.committed] := rfl
  have announcements : Trace.announcements [.milestone .committed] = [] := rfl
  have background := balanced.background
  have commits := balanced.committed
  simp only [pausing] at background commits
  refine ⟨?_, balanced.raised_append fun kind => rfl, ?_, ?_, ?_⟩
  · simpa [announcements, takes] using balanced.announced
  · simp [Standing.commit]
  · simpa [takes, Standing.commit] using background
  · simpa [takes, milestones, Standing.commit] using commits

theorem comeBack (balanced : Balanced past now) (paused : now.phase = .paused) (reset : Bool)
    (counts : ∀ kind : SignalKind, ((now.comeBack reset).signals.get kind).count +
      (Trace.takes (endingEntries reset)).count kind =
        (now.signals.get kind).count + (Trace.raises (endingEntries reset)).count kind) :
    Balanced (past ++ endingEntries reset) (now.comeBack reset) := by
  have background := balanced.background
  have commits := balanced.committed
  simp only [paused] at background commits
  refine ⟨?_, balanced.raised_append counts, ?_, ?_, ?_⟩
  · simp [balanced.announced, SignalKind.announces]
  · simpa [Standing.comeBack] using background
  · simp [Standing.comeBack]
  · simpa [Standing.comeBack] using commits

/-- A turn keeps the accounts balanced, unless someone else uses a signal up. -/
theorem turn {allowed : Move γ σ α τ → Prop} (balanced : Balanced past now)
    (untouched : ∀ move, allowed move → move.takes = false) (turn : Turn allowed now entries next) :
    Balanced (past ++ entries) next := by
  have counts := turn.counts_balance untouched
  cases turn with
  | raised kind times ok => exact balanced.idle counts ⟨rfl, rfl, rfl⟩ rfl
  | spent kind ok => exact absurd (untouched _ ok) (by simp [Move.takes])
  | pushed event times ok some => exact balanced.idle counts ⟨rfl, rfl, rfl⟩ rfl
  | removed event rest oldest => exact balanced.idle counts ⟨rfl, rfl, rfl⟩ rfl
  | announced running there => exact balanced.announce running counts
  | committed pausing few => exact balanced.commit pausing
  | carriedOut paused due => exact balanced.idle counts ⟨rfl, rfl, rfl⟩ rfl
  | ended reset paused settled there restored => exact balanced.comeBack paused reset counts

theorem fresh {standing : Standing} (running : standing.phase = .running)
    (silent : standing.signals = {}) : Balanced [] standing := by
  constructor
  · rfl
  · intro kind
    rw [silent]
    cases kind <;> rfl
  · exact fun _ => rfl
  · exact fun away => absurd running away
  · simp [running, Trace.milestones, Trace.takes]

theorem of_turns {trace : List Entry} {now : Standing}
    (balanced : Balanced (trace.filter Entry.isTurn) now) : Balanced trace now := by
  obtain ⟨announced, raised, running, background, committed⟩ := balanced
  simp only [Trace.announcements_turns, Trace.takes_turns, Trace.raises_turns,
    Trace.milestones_turns] at announced raised running background committed
  exact ⟨announced, raised, running, background, committed⟩

theorem even_iff {trace : List Entry} (balanced : Balanced trace now) :
    (Trace.takes trace).count .pause = (Trace.takes trace).count .resume ↔
      now.phase = .running := by
  constructor
  · intro even
    by_cases here : now.phase = .running
    · exact here
    · have odd := balanced.background here
      omega
  · exact balanced.running

theorem odd_iff {trace : List Entry} (balanced : Balanced trace now) :
    (Trace.takes trace).count .pause = (Trace.takes trace).count .resume + 1 ↔
      now.phase ≠ .running := by
  constructor
  · intro odd here
    have even := balanced.running here
    omega
  · exact balanced.background

/-- From a fresh start the accounts stay balanced. -/
theorem of_fresh {allowed : Move γ σ α τ → Prop} {start finish : Standing} {trace : List Entry}
    (untouched : ∀ move, allowed move → move.takes = false) (running : start.phase = .running)
    (silent : start.signals = {}) (turns : Turns allowed start trace finish) :
    Balanced trace finish :=
  turns.invariant (.fresh running silent) fun balanced turn => balanced.turn untouched turn

end Balanced

variable [Graphics.Layer γ] [Window.Layer σ] [TextInput τ]

/-- Signals are neither lost nor duplicated. What the lifecycle pushes is one group of events
after another. Of each kind there are as many groups as signals that were raised and are no
longer there, the phase says whether one more group led away than back, and as many pauses
were made final as were ended, with one more while a final pause lasts. -/
theorem signals_are_neither_lost_nor_duplicated (config : Config) (keeper : Keeper γ σ)
    (outputs : List (Audio.Output α)) (audio : α) (textInput : Option τ) (run : Run γ σ α τ)
    (untouched : ∀ move ∈ run.moves, move.takes = false) :
    let outcome := (Lifecycle.play run).run (Lifecycle.fresh config keeper outputs audio textInput)
    let lifecycle := outcome.state
    ∃ groups : List SignalKind,
      Trace.announcements outcome.trace = groups.flatMap SignalKind.announces ∧
      (∀ kind, (Trace.raises outcome.trace).count kind =
        (lifecycle.signals.get kind).count + groups.count kind) ∧
      (groups.count .pause = groups.count .resume ↔ lifecycle.phase = .running) ∧
      (groups.count .pause = groups.count .resume + 1 ↔
        lifecycle.phase = .pausing ∨ lifecycle.phase = .paused) ∧
      (Trace.milestones outcome.trace).count .committed =
        groups.count .resume + if lifecycle.phase = .paused then 1 else 0 := by
  intro outcome lifecycle
  have balanced : Balanced outcome.trace lifecycle.standing := by
    have turns := Lifecycle.play_turns run
      (Lifecycle.fresh config keeper outputs audio textInput) untouched
    exact (Balanced.of_fresh (fun _ kept => kept) rfl rfl turns).of_turns
  exact ⟨Trace.takes outcome.trace, balanced.announced, balanced.raised, balanced.even_iff,
    balanced.odd_iff.trans (Phase.ne_running_iff _), balanced.committed⟩

/-- Two pauses that are raised together, the first of which is ended. -/
def Rehearsal.twoPauses : RehearsedRun where
  steps := [.around (.notify .pause 2), .ticking {}, .suspending {}, .ticking {}]

/-- Two pauses are announced twice, even if they were raised together. -/
theorem two_pauses_are_announced_twice :
    (∀ move ∈ Rehearsal.twoPauses.moves, move.takes = false) ∧
      ∃ groups : List SignalKind,
        Trace.announcements (Rehearsal.rehearse Rehearsal.twoPauses).trace =
          groups.flatMap SignalKind.announces ∧
        groups.count .pause = 2 ∧ groups.count .resume = 1 := by
  have untouched : ∀ move ∈ Rehearsal.twoPauses.moves, move.takes = false := by decide
  obtain ⟨groups, announced, -, -, odd, committed⟩ := signals_are_neither_lost_nor_duplicated {}
    Rehearsal.opening [Rehearsal.Scripts.output .plain "speaker" 0] [{}] (some {})
    Rehearsal.twoPauses untouched
  have pending : (Rehearsal.rehearse Rehearsal.twoPauses).state.phase = .pausing := by decide
  have once : (Trace.milestones (Rehearsal.rehearse Rehearsal.twoPauses).trace).count .committed =
    1 := by decide
  have resumes : groups.count .resume = 1 := by
    change (Trace.milestones (Rehearsal.rehearse Rehearsal.twoPauses).trace).count .committed = _
      at committed
    rw [once] at committed
    exact committed.symm
  have pauses : groups.count .pause = 2 := by
    rw [odd.mpr (.inl pending), resumes]
  exact ⟨untouched, groups, announced, pauses, resumes⟩

end AppLifecycle
