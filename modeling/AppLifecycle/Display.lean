/-! Displays and the refresh rate to render at. The rate is the highest positive
one that the display reports; a display that reports none is driven at 60 Hz. -/
namespace AppLifecycle

/-- One mode of a display. A rate that is not positive is unknown. -/
structure Display.Mode where
  width : Int32
  height : Int32
  refreshRate : Int32
  deriving DecidableEq, Inhabited

/-- A display: the mode it is in and the modes it lists. -/
structure Display where
  currentMode : Display.Mode
  modes : List Display.Mode := []
  deriving DecidableEq, Inhabited

namespace Display

/-- The rate assumed when none is reported. -/
def assumedRate : Int32 := 60

/-- The known rates, the current mode's first. -/
def knownRates (display : Display) : List Int32 :=
  ((display.currentMode :: display.modes).map Display.Mode.refreshRate).filter (0 < ·)

/-- The highest known rate. -/
def highestRate? (display : Display) : Option Int32 := display.knownRates.max?

/-- The rate to render at on the display a window is on, if it is on one. -/
def refreshRate (display : Option Display) : Int32 :=
  (display.bind highestRate?).getD assumedRate

/-- The greater of two rates is one of them. -/
instance : Std.MaxEqOr Int32 where
  max_eq_or first second := by
    by_cases le : first ≤ second
    · exact .inr (if_pos le)
    · exact .inl (if_neg le)

/-- A display is driven at a positive rate, whatever it reports. -/
theorem refreshRate_pos (display : Option Display) : 0 < refreshRate display := by
  cases highest : display.bind highestRate? with
  | none => simp [refreshRate, highest, assumedRate]
  | some rate =>
    obtain ⟨known, -, listed⟩ := Option.bind_eq_some_iff.mp highest
    have member : rate ∈ known.knownRates := List.max?_mem listed
    have positive : 0 < rate := by simpa using (List.mem_filter.mp member).2
    simpa [refreshRate, highest] using positive

end Display

end AppLifecycle
