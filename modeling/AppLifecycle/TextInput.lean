/-! On-screen text entry, which is shown again when the app returns. -/
namespace AppLifecycle

/-- A text input with states `τ`. -/
class TextInput (τ : Type) where
  /-- Whether text was being entered before the app left the foreground. -/
  isActive : τ → Bool × τ
  /-- Shows the keyboard again. -/
  activate : τ → τ

/-- A call on the text input and its answer. -/
inductive TextInput.Call where
  | isActive (answer : Bool)
  | activate
  deriving DecidableEq

end AppLifecycle
