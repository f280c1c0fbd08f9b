import AppLifecycle.Proofs.Rounds

/-! Where a lifecycle stands, without its collaborators, and how that changes. Whatever the
collaborators answer, a run turns the standing in eight ways only, and the part of the
trace that tells of events, signals and milestones is fixed by them. A pause counts as
pending from its announcement on; the code records that only once it has counted. -/
namespace AppLifecycle

open Traced

variable {γ σ α τ : Type}

/-- A lifecycle without its collaborators. -/
structure Standing where
  /-- Whether the rendering context belongs to the embedder. -/
  external : Bool
  phase : Phase
  /-- Whether a final pause still has to be carried out. -/
  due : Bool
  signals : HostSignals
  events : EventQueue
  /-- Whether a backup of the context is held. -/
  held : Bool

/-- Appends events at the back of a queue, in order. -/
def EventQueue.pushAll (queue : EventQueue) (events : List Event) : EventQueue :=
  events.foldl EventQueue.push queue

/-- What a keeper shows of itself. -/
def Keeper.holding (keeper : Keeper γ σ) : EventQueue × Bool :=
  (keeper.events, keeper.snapshot.held)

def Lifecycle.standing (lifecycle : Lifecycle γ σ α τ) : Standing where
  external := lifecycle.config.contextExternal
  phase := lifecycle.phase
  due := lifecycle.carryOutDue
  signals := lifecycle.signals
  events := lifecycle.keeper.events
  held := lifecycle.keeper.snapshot.held

/-- The entries that tell how the standing turned. -/
def Entry.isTurn : Entry → Bool
  | .pushed .. | .removed _ | .raised _ | .took _ | .milestone _ => true
  | _ => false

namespace Standing

/-- Whether the end of a pause brings rendering back. -/
def restores (standing : Standing) : Bool :=
  !standing.external && !standing.events.has .quit

/-- The standing once a pause is announced. -/
def announce (standing : Standing) : Standing :=
  { standing with
    phase := .pausing
    signals := standing.signals.spend .pause
    events := standing.events.pushAll Event.backgroundGroup }

/-- The standing once a pause is final. -/
def commit (standing : Standing) : Standing := { standing with phase := .paused, due := true }

/-- The standing once a pause is carried out. -/
def carryOut (standing : Standing) : Standing :=
  { standing with due := false, held := standing.held || !standing.external }

/-- What the app is told when a pause ends. -/
def farewell (reset : Bool) : List Event :=
  Event.foregroundGroup ++ if reset then [.renderDeviceReset] else []

/-- The standing once a pause has ended. -/
def comeBack (standing : Standing) (reset : Bool) : Standing :=
  { standing with
    phase := .running
    signals := standing.signals.spend .resume
    events := standing.events.pushAll (farewell reset)
    held := standing.held && !standing.restores }

end Standing

/-- The entries of a pause that is taken and announced. -/
def announcing : List Entry := .took .pause :: Event.backgroundGroup.map (.pushed .lifecycle)

/-- The entries of a pause that ends. -/
def endingEntries (reset : Bool) : List Entry :=
  .took .resume :: .milestone .ended :: Event.foregroundGroup.map (.pushed .lifecycle) ++
    if reset then [.pushed .keeper .renderDeviceReset] else []

/-- One change of the standing, with the entries that tell of it. -/
inductive Turn (allowed : Move γ σ α τ → Prop) : Standing → List Entry → Standing → Prop where
  | raised {now : Standing} (kind : SignalKind) (times : Nat) (ok : allowed (.notify kind times)) :
      Turn allowed now [.raised kind] { now with signals := now.signals.raise kind }
  | spent {now : Standing} (kind : SignalKind) (ok : allowed (.take kind)) :
      Turn allowed now [] { now with signals := now.signals.spend kind }
  | pushed {now : Standing} (event : Event) (times : Nat) (ok : allowed (.push event times))
      (some : 0 < times) :
      Turn allowed now [.pushed .app event] { now with events := now.events.push event }
  | removed {now : Standing} (event : Event) (rest : List Event)
      (oldest : now.events = .storing (event :: rest)) :
      Turn allowed now [.removed event] { now with events := .storing rest }
  | announced {now : Standing} (running : now.phase = .running)
      (raised : 0 < now.signals.pause.count) : Turn allowed now announcing now.announce
  | committed {now : Standing} (pausing : now.phase = .pausing)
      (few : now.events.count .didEnterBackground ≤ now.signals.pause.count) :
      Turn allowed now [.milestone .committed] now.commit
  | carriedOut {now : Standing} (paused : now.phase = .paused) (due : now.due = true) :
      Turn allowed now [.milestone .carriedOut] now.carryOut
  | ended {now : Standing} (reset : Bool) (paused : now.phase = .paused)
      (settled : now.due = false) (raised : 0 < now.signals.resume.count)
      (restored : reset = true → now.held = true ∧ now.restores = true) :
      Turn allowed now (endingEntries reset) (now.comeBack reset)

/-- One turn after another. -/
abbrev Turns (allowed : Move γ σ α τ → Prop) := Chain (Turn allowed)

/-- An action, taken from a lifecycle, turns its standing in the known ways. -/
def Turning {β : Type} (allowed : Move γ σ α τ → Prop)
    (action : Traced (Lifecycle γ σ α τ) β) (start : Lifecycle γ σ α τ) : Prop :=
  Turns allowed start.standing ((action.run start).trace.filter Entry.isTurn)
    (action.run start).state.standing

section Turning

variable {allowed : Move γ σ α τ → Prop} {start : Lifecycle γ σ α τ} {β δ : Type}

theorem turning_of_spares {action : Traced (Lifecycle γ σ α τ) β}
    (spared : Spares Lifecycle.standing Entry.isTurn action) : Turning allowed action start := by
  unfold Turning
  rw [(spared start).1, (spared start).2]
  exact .rest

theorem turning_bind {first : Traced (Lifecycle γ σ α τ) β}
    {next : β → Traced (Lifecycle γ σ α τ) δ} (before : Turning allowed first start)
    (after : Turning allowed (next (first.run start).value) (first.run start).state) :
    Turning allowed (first >>= next) start := by
  unfold Turning
  rw [run_bind, List.filter_append]
  exact before.trans after

theorem turning_read {view : Lifecycle γ σ α τ → β}
    {next : β → Traced (Lifecycle γ σ α τ) δ} (after : Turning allowed (next (view start)) start) :
    Turning allowed (read view >>= next) start := turning_bind .rest after

theorem turning_repeated {action : Traced (Lifecycle γ σ α τ) β} (times : Nat)
    (turning : ∀ start, Turning allowed action start) :
    Turning allowed (repeated action times) start := by
  induction times generalizing start with
  | zero => exact .rest
  | succ times ih => exact turning_bind (turning start) (turning_bind ih .rest)

end Turning

end AppLifecycle
