import AppLifecycle.Text.Quoted
import AppLifecycle.Trace.Traced

/-! Counting signals, which a host raises on its own thread. A signal keeps a count,
so raising it twice before anyone looks is not the same as raising it once. -/
namespace AppLifecycle

/-- A named count of how often something was asked for and not yet done. -/
structure Signal where
  name : String
  count : Nat := 0
  deriving DecidableEq

namespace Signal

/-- Raises the signal once. -/
def post : Traced Signal Unit := do
  Traced.update fun signal => { signal with count := signal.count + 1 }
  let raised ← Traced.read id
  Traced.note (.signalRaised raised.name raised.count)

/-- Uses up one count if there is one and says whether there was. -/
def tryTake : Traced Signal Bool := fun signal =>
  match signal.count with
  | 0 => ⟨false, signal, []⟩
  | left + 1 => ⟨true, { signal with count := left }, []⟩

/-- Uses up every count and says how many there were. -/
def takeAll : Traced Signal Nat := do
  let before ← Traced.read count
  Traced.update fun signal => { signal with count := 0 }
  pure before

/-- The signal as it is shown to people. -/
def describe (signal : Signal) : String :=
  "Signal \x7b name: " ++ Text.quoted signal.name ++ ", value: " ++ toString signal.count ++ " \x7d"

@[simp] theorem run_post (signal : Signal) :
    post.run signal = ⟨(), { signal with count := signal.count + 1 },
      [.notice (.signalRaised signal.name (signal.count + 1))]⟩ := rfl

@[simp] theorem run_tryTake (signal : Signal) :
    tryTake.run signal =
      ⟨decide (0 < signal.count), { signal with count := signal.count - 1 }, []⟩ := by
  obtain ⟨name, count⟩ := signal
  cases count <;> simp [tryTake, Traced.run]

end Signal

/-- The two signals between a host and a lifecycle. -/
structure HostSignals where
  pause : Signal := { name := "pause" }
  resume : Signal := { name := "resume" }
  deriving DecidableEq

namespace HostSignals

/-- One of the two signals. -/
def get (signals : HostSignals) : SignalKind → Signal
  | .pause => signals.pause
  | .resume => signals.resume

/-- Replaces one of the two signals. -/
def set (signals : HostSignals) (signal : Signal) : SignalKind → HostSignals
  | .pause => { signals with pause := signal }
  | .resume => { signals with resume := signal }

/-- Acts on one of the two signals. -/
def on {β : Type} (kind : SignalKind) (action : Traced Signal β) : Traced HostSignals β :=
  action.within (fun signals => signals.get kind) (fun signal signals => signals.set signal kind)

/-- Raises one of the two signals. -/
def notify (kind : SignalKind) : Traced HostSignals Unit := do
  Traced.tell (.raised kind)
  on kind Signal.post

/-- The pair as it is shown to people. -/
def describe (signals : HostSignals) : String :=
  "SignalPair \x7b pause: " ++ signals.pause.describe ++ ", resume: " ++
    signals.resume.describe ++ " \x7d"

end HostSignals

end AppLifecycle
