import AppLifecycle.Trace.Entry

/-! Actions that leave a trace. An action takes a state and gives an answer, the next
state and what it did; one action after another does first what the first does and
then what the second does. -/
namespace AppLifecycle

/-- What an action leaves behind. -/
structure Outcome (s β : Type) where
  value : β
  state : s
  trace : List Entry

/-- An action on states `s` that answers with a `β`. -/
def Traced (s β : Type) := s → Outcome s β

namespace Traced

variable {s t β δ : Type}

/-- Runs an action from a state. -/
def run (action : Traced s β) (state : s) : Outcome s β := action state

instance : Monad (Traced s) where
  pure value := fun state => ⟨value, state, []⟩
  bind first next := fun state =>
    let before := first state
    let after := next before.value before.state
    ⟨after.value, after.state, before.trace ++ after.trace⟩

@[simp] theorem run_pure (value : β) (state : s) :
    (pure value : Traced s β).run state = ⟨value, state, []⟩ := rfl

theorem run_bind (first : Traced s β) (next : β → Traced s δ) (state : s) :
    (first >>= next).run state =
      ⟨((next (first.run state).value).run (first.run state).state).value,
        ((next (first.run state).value).run (first.run state).state).state,
        (first.run state).trace ++
          ((next (first.run state).value).run (first.run state).state).trace⟩ := rfl

instance : LawfulMonad (Traced s) := LawfulMonad.mk' (Traced s)
  (fun action => funext fun state =>
    congrArg (Outcome.mk (action state).value (action state).state) (List.append_nil _))
  (fun _ _ => rfl)
  (fun _ _ _ => funext fun _ => congrArg (Outcome.mk _ _) (List.append_assoc _ _ _))

/-- Answers with a reading of the state. -/
def read (view : s → β) : Traced s β := fun state => ⟨view state, state, []⟩

/-- Changes the state in silence. -/
def update (change : s → s) : Traced s Unit := fun state => ⟨(), change state, []⟩

/-- Adds one entry to the trace. -/
def tell (entry : Entry) : Traced s Unit := fun state => ⟨(), state, [entry]⟩

/-- Leaves a notice. -/
def note (notice : Notice) : Traced s Unit := tell (.notice notice)

/-- Asks a collaborator and records the call with its answer. -/
def ask (call : s → β × s) (record : β → Entry) : Traced s β := fun state =>
  let (answer, next) := call state
  ⟨answer, next, [record answer]⟩

/-- Tells a collaborator something and records that. -/
def command (call : s → s) (record : Entry) : Traced s Unit := fun state =>
  ⟨(), call state, [record]⟩

/-- Runs an action on a part of a larger state. -/
def within (part : t → s) (put : s → t → t) (action : Traced s β) : Traced t β := fun whole =>
  let outcome := action (part whole)
  ⟨outcome.value, put outcome.state whole, outcome.trace⟩

@[simp] theorem run_read (view : s → β) (state : s) :
    (read view).run state = ⟨view state, state, []⟩ := rfl

@[simp] theorem run_update (change : s → s) (state : s) :
    (update change).run state = ⟨(), change state, []⟩ := rfl

@[simp] theorem run_tell (entry : Entry) (state : s) :
    (tell entry : Traced s Unit).run state = ⟨(), state, [entry]⟩ := rfl

@[simp] theorem run_note (notice : Notice) (state : s) :
    (note notice : Traced s Unit).run state = ⟨(), state, [.notice notice]⟩ := rfl

@[simp] theorem run_ask (call : s → β × s) (record : β → Entry) (state : s) :
    (ask call record).run state = ⟨(call state).1, (call state).2, [record (call state).1]⟩ := rfl

@[simp] theorem run_command (call : s → s) (record : Entry) (state : s) :
    (command call record).run state = ⟨(), call state, [record]⟩ := rfl

@[simp] theorem run_within (part : t → s) (put : s → t → t) (action : Traced s β) (whole : t) :
    (action.within part put).run whole =
      ⟨(action.run (part whole)).value, put (action.run (part whole)).state whole,
        (action.run (part whole)).trace⟩ := rfl

/-- Runs an action if a condition holds. -/
def whenever (condition : Bool) (action : Traced s Unit) : Traced s Unit :=
  if condition then action else pure ()

@[simp] theorem whenever_true (action : Traced s Unit) : whenever true action = action := rfl

@[simp] theorem whenever_false (action : Traced s Unit) :
    whenever false action = pure () := rfl

/-- Runs an action for every element of a list, in order, and collects the answers. -/
def forAll (action : t → Traced s β) : List t → Traced s (List β)
  | [] => pure []
  | item :: rest => do
    let first ← action item
    let others ← forAll action rest
    pure (first :: others)

/-- Runs an action several times and collects the answers. -/
def repeated (action : Traced s β) : Nat → Traced s (List β)
  | 0 => pure []
  | times + 1 => do
    let first ← action
    let others ← action.repeated times
    pure (first :: others)

end Traced

end AppLifecycle
