import AppLifecycle.Proofs.QuietAudio

/-! Orders to the audio outputs come in pairs. Apart from the recovery of stalled playback,
an output is only called when a pause is carried out and when one ends, and the milestones of
a run come round in their order. As long as all rounds agree on whether audio is theirs to
silence, every order to be silent is therefore followed by one to play before the next. -/
namespace AppLifecycle

open Traced Trace

variable {γ σ α τ : Type}

namespace Audio

/-- What all outputs are told together. -/
inductive Order where
  | pause
  | resume
  deriving DecidableEq

/-- The call that tells an output an order. -/
def Order.call : Order → Except Error Unit → Call
  | pause, answer => .pause .fanOut answer
  | resume, answer => .resume .fanOut answer

/-- The calls on an output that is told orders, one after the other, and is at most recovered
before, between and after them. -/
inductive Ordered : List Order → List Call → Prop where
  | none : Ordered [] []
  | recovered {orders : List Order} {calls more : List Call} (before : Ordered orders calls)
      (recoveries : Recoveries more) : Ordered orders (calls ++ more)
  | told {orders : List Order} {calls : List Call} (before : Ordered orders calls)
      (order : Order) (answer : Except Error Unit) :
      Ordered (orders ++ [order]) (calls ++ [order.call answer])

/-- Without orders, all that is left is recoveries. -/
theorem Ordered.recoveries {orders : List Order} {calls : List Call}
    (ordered : Ordered orders calls) (none : orders = []) : Recoveries calls := by
  induction ordered with
  | none => exact .none
  | recovered before recoveries ih => exact (ih none).append recoveries
  | told before order answer ih => simp at none

end Audio

/-- What the outputs are told at a milestone, if rounds silence audio. -/
def Milestone.order? : Milestone → Option Audio.Order
  | .committed => none
  | .carriedOut => some .pause
  | .ended => some .resume

/-- The orders that go with the milestones of a trace. -/
def Trace.orders (trace : List Entry) : List Audio.Order :=
  (milestones trace).filterMap Milestone.order?

@[simp] theorem Trace.orders_append (before after : List Entry) :
    orders (before ++ after) = orders before ++ orders after := by
  simp [orders]

/-- An order to be silent for every pause that is carried out, one to play for every one that
ends. -/
theorem Trace.count_orders (trace : List Entry) :
    (orders trace).count .pause = (milestones trace).count .carriedOut ∧
      (orders trace).count .resume = (milestones trace).count .ended := by
  unfold orders
  induction milestones trace with
  | nil => exact ⟨rfl, rfl⟩
  | cons milestone rest ih =>
    cases milestone <;> simp [List.filterMap_cons, Milestone.order?, ih]

section Dealing

variable {modes : LoopMode → Prop} {start now next finish : Bearing} {entries trace : List Entry}
  {position : Nat} {told : Bool}

/-- Whether the rounds of the given kinds tell the output at a position to be silent or to
play. -/
def Bearing.Tells (modes : LoopMode → Prop) (position : Nat) (told : Bool) (now : Bearing) :
    Prop :=
  ∀ mode, modes mode → (now.config.quietsAudio mode = true ∧ position < now.outputs ↔ told = true)

/-- Work in which every output is told an order once tells it to the one at a position, if
that is told anything. -/
private theorem ordered_of_called {mode : LoopMode} {work : List Entry} {answer : Except _ Unit}
    {before : List Audio.Order} {calls : List Audio.Call}
    (tells : now.Tells modes position told) (ok : modes mode) (order : Audio.Order)
    (called : audioCalls position work =
      if now.config.quietsAudio mode ∧ position < now.outputs then [order.call answer] else [])
    (ordered : Audio.Ordered before calls) :
    Audio.Ordered (before ++ if told then [order] else [])
      (calls ++ audioCalls position work) := by
  simp only [called, tells mode ok]
  cases told with
  | false => simpa using ordered
  | true => exact ordered.told order answer

/-- A dealing tells an output what goes with its milestones, or recovers it. -/
theorem Dealing.ordered (dealing : Dealing modes now entries next)
    (tells : now.Tells modes position told) {before : List Audio.Order} {calls : List Audio.Call}
    (ordered : Audio.Ordered before calls) :
    Audio.Ordered (before ++ if told then orders entries else [])
      (calls ++ audioCalls position entries) := by
  cases dealing with
  | aside aside =>
    have silent : orders entries = [] := by simp [orders, aside.milestones]
    simpa [silent] using ordered.recovered (aside.outputs position)
  | looked looking =>
    have silent : orders entries = [] := by
      rw [orders, looking.milestones]
      split <;> rfl
    simpa [silent, looking.outputs] using ordered
  | @carriedOut work _ working =>
    obtain ⟨mode, ok, outputs⟩ := working.outputs
    obtain ⟨answer, called⟩ := outputs position
    have pauses : orders (.milestone .carriedOut :: work) = [.pause] := by
      rw [orders, working.milestones]
      rfl
    rw [pauses]
    exact ordered_of_called tells ok .pause called ordered
  | @ended work _ ending =>
    obtain ⟨mode, ok, outputs⟩ := ending.outputs
    obtain ⟨answer, called⟩ := outputs position
    have resumes : orders (.took .resume :: .milestone .ended :: work) = [.resume] := by
      rw [orders, ending.milestones]
      rfl
    rw [resumes]
    exact ordered_of_called tells ok .resume called ordered

/-- A run tells an output what goes with its milestones, and recovers it in between. -/
theorem Dealings.ordered (dealings : Dealings modes start trace finish)
    (tells : start.Tells modes position told) :
    Audio.Ordered (if told then orders trace else []) (audioCalls position trace) := by
  induction dealings with
  | rest => cases told <;> exact .none
  | @next past entries now after before last ih =>
    obtain ⟨config, outputs⟩ := Dealings.setUp before
    have still : now.Tells modes position told := by
      unfold Bearing.Tells
      rw [config, outputs]
      exact tells
    have more := last.ordered still ih
    rw [audioCalls_append]
    cases told with
    | false => simpa using more
    | true => simpa using more

/-- The orders that go with the milestones of a run are to be silent and to play by turns. -/
theorem Cycled.orders_prefix (cycled : Cycled trace now) :
    ∃ cycles, orders trace <+: (List.replicate cycles [.pause, .resume]).flatten := by
  obtain ⟨-, cycles, milestones⟩ := cycled
  have whole : ((List.replicate cycles [.committed, .carriedOut, .ended]).flatten).filterMap
      Milestone.order? = (List.replicate cycles [.pause, .resume]).flatten := by
    rw [List.filterMap_flatten, List.map_replicate]
    rfl
  have rest : now.cycle.filterMap Milestone.order? <+: [.pause, .resume] := by
    unfold Bearing.cycle
    split
    · split <;> simp [List.filterMap_cons, Milestone.order?]
    · exact List.nil_prefix
  refine ⟨cycles + 1, ?_⟩
  rw [orders, milestones, List.filterMap_append, whole, List.replicate_succ', List.flatten_append]
  simpa using rest

end Dealing

/-- The app is told that it is in the foreground once for every pause that ends. -/
theorem Turns.count_didEnterForeground {allowed : Move γ σ α τ → Prop} {start finish : Standing}
    {trace : List Entry} (turns : Turns allowed start trace finish) :
    (announcements trace).count .didEnterForeground = (milestones trace).count .ended := by
  induction turns with
  | rest => rfl
  | next before turn ih =>
    rw [announcements_append, milestones_append, List.count_append, List.count_append, ih]
    congr 1
    cases turn with
    | announced running raised => rfl
    | ended reset paused settled raised restored =>
      rw [announcements_endingEntries, milestones_endingEntries]
      rfl
    | _ => rfl

variable [Graphics.Layer γ] [Window.Layer σ] [TextInput τ]

/-- In a run all of whose rounds silence audio, which suspending rounds always do and ticking
ones if they are set up to, the orders to every registered output are to be silent and to play
by turns, one for each pause that is carried out and one for each time that the app is told of
the foreground; otherwise it is only recovered. In a run none of whose rounds silences audio,
every call on an output is part of a recovery. -/
theorem orders_to_audio_are_paired (config : Config) (keeper : Keeper γ σ)
    (outputs : List (Audio.Output α)) (audio : α) (textInput : Option τ) (run : Run γ σ α τ) :
    let trace := ((Lifecycle.play run).run
      (Lifecycle.fresh config keeper outputs audio textInput)).trace
    ((∀ mode, run.modes mode → config.quietsAudio mode = true) →
      ∀ position < outputs.length, ∃ orders cycles,
        Audio.Ordered orders (audioCalls position trace) ∧
        orders <+: (List.replicate cycles [.pause, .resume]).flatten ∧
        orders.count .pause = (milestones trace).count .carriedOut ∧
        orders.count .resume = (announcements trace).count .didEnterForeground) ∧
    ((∀ mode, run.modes mode → config.quietsAudio mode = false) →
      ∀ position, Audio.Recoveries (audioCalls position trace)) := by
  intro trace
  let start := Lifecycle.fresh config keeper outputs audio textInput
  have course : Course run.Has start trace _ := Lifecycle.unfolds_play run
  have dealings := course.dealings Run.modes_of_has
  constructor
  · intro quiet position registered
    have tells : start.bearing.Tells run.modes position true :=
      fun mode ok => ⟨fun _ => rfl, fun _ => ⟨quiet mode ok, registered⟩⟩
    have cycled := dealings.cycled (by simp [start, Lifecycle.bearing, Lifecycle.fresh]) rfl
    obtain ⟨cycles, alternating⟩ := cycled.orders_prefix
    -- That the app is told at the end of every pause is known of turns, not of dealings.
    have turns : Turns (· ∈ run.moves) start.standing (trace.filter Entry.isTurn) _ :=
      Lifecycle.play_turns run start fun _ member => member
    have returns := turns.count_didEnterForeground
    rw [announcements_turns, milestones_turns] at returns
    obtain ⟨pauses, resumes⟩ := count_orders trace
    exact ⟨orders trace, cycles, dealings.ordered tells, alternating, pauses,
      resumes.trans returns.symm⟩
  · intro loud position
    have tells : start.bearing.Tells run.modes position false := by
      intro mode ok
      simp [start, Lifecycle.bearing, Lifecycle.fresh, loud mode ok]
    exact (dealings.ordered tells).recoveries rfl

/-- One pause in ticking rounds, from its announcement to its end and beyond. -/
def Rehearsal.ticksThroughPause : RehearsedRun where
  steps := ticksToBackground.steps ++
    [.ticking {}, .around (.notify .resume 1), .ticking {}, .ticking {}]

/-- Goes through that run with an output that stalls in the background and refuses to be
silent. -/
def Rehearsal.rehearsePairs (config : Config) : Outcome RehearsedLifecycle Unit :=
  (Lifecycle.play ticksThroughPause).run
    (Lifecycle.fresh config opening [Scripts.output .probing "speaker" 0]
      [{ failPause := some .disconnected, stalls := [false, false, true] }] none)

/-- A pause in which an output refuses to be silent and stalls: whether or not audio is
silenced, the recovery is no part of the orders. -/
theorem orders_to_a_stalled_output_are_paired :
    (∀ mode, Rehearsal.ticksThroughPause.modes mode → Config.ticking.quietsAudio mode = true) ∧
      (∃ orders, Audio.Ordered orders
          (audioCalls 0 (Rehearsal.rehearsePairs .ticking).trace) ∧
        orders.count .pause = 1 ∧ orders.count .resume = 1) ∧
      (∀ mode, Rehearsal.ticksThroughPause.modes mode →
        ({ Config.ticking with pauseAudio := false }).quietsAudio mode = false) ∧
      Audio.Recoveries (audioCalls 0
        (Rehearsal.rehearsePairs { Config.ticking with pauseAudio := false }).trace) := by
  have ticks : ∀ step ∈ Rehearsal.ticksThroughPause.allSteps, step.mode? ≠ some .suspending := by
    decide
  have quiet (mode : LoopMode) (_ : Rehearsal.ticksThroughPause.modes mode) :
      Config.ticking.quietsAudio mode = true := by
    cases mode <;> rfl
  have loud (mode : LoopMode) (among : Rehearsal.ticksThroughPause.modes mode) :
      ({ Config.ticking with pauseAudio := false }).quietsAudio mode = false := by
    obtain ⟨step, member, same⟩ := among
    cases mode with
    | suspending => exact absurd same (ticks step member)
    | ticking => rfl
  let outputs := [Rehearsal.Scripts.output .probing "speaker" 0]
  let scripts : Rehearsal.Scripts :=
    [{ failPause := some .disconnected, stalls := [false, false, true] }]
  obtain ⟨paired, -⟩ := orders_to_audio_are_paired .ticking Rehearsal.opening outputs scripts none
    Rehearsal.ticksThroughPause
  obtain ⟨-, recovered⟩ := orders_to_audio_are_paired { Config.ticking with pauseAudio := false }
    Rehearsal.opening outputs scripts none Rehearsal.ticksThroughPause
  obtain ⟨orders, -, ordered, -, pauses, resumes⟩ := paired quiet 0 (by decide)
  have carriedOut : (milestones (Rehearsal.rehearsePairs .ticking).trace).count
      .carriedOut = 1 := by
    decide
  have returned : (announcements (Rehearsal.rehearsePairs .ticking).trace).count
      .didEnterForeground = 1 := by
    decide
  exact ⟨quiet, ⟨orders, ordered, pauses.trans carriedOut, resumes.trans returned⟩, loud,
    recovered loud 0⟩

end AppLifecycle
