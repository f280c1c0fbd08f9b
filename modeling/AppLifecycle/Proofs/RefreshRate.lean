import AppLifecycle.Display
import Mathlib.Logic.Relation
import Mathlib.Tactic.Tauto

/-! The rate that a window is driven at. It is the greatest of the known rates that the display
reports, so it depends on which of them are reported and not on where or how often. Rates that are
unknown count for nothing, and where no rate is known the window is driven at an assumed one. -/
namespace AppLifecycle

namespace Display

/-- The greater of two rates is the least bound of both. -/
instance : Std.LawfulOrderSup Int32 where
  max_le_iff first second bound := by
    by_cases le : first ≤ second
    · rw [show max first second = second from if_pos le]
      exact ⟨fun below => ⟨Int32.le_trans le below, below⟩, fun below => below.2⟩
    · rw [show max first second = first from if_neg le]
      have ge : second ≤ first := (Int32.le_total first second).resolve_left le
      exact ⟨fun below => ⟨below, Int32.le_trans ge below⟩, fun below => below.1⟩

/-- The rates that a display reports, known or not; none without a display. -/
def reportedRates : Option Display → List Int32
  | none => []
  | some display => (display.currentMode :: display.modes).map Display.Mode.refreshRate

/-- One display lists the modes of another in some other way: in another order, with another one
of them as its current mode, one of them once more, or one more whose rate is unknown. -/
inductive Relists : Display → Display → Prop where
  | shuffled (current : Display.Mode) {modes others : List Display.Mode}
      (shuffles : modes.Perm others) : Relists ⟨current, modes⟩ ⟨current, others⟩
  | swapped (current mode : Display.Mode) (before after : List Display.Mode) :
      Relists ⟨current, before ++ mode :: after⟩ ⟨mode, before ++ current :: after⟩
  | repeated (current : Display.Mode) {mode : Display.Mode} {modes : List Display.Mode}
      (listed : mode ∈ modes) : Relists ⟨current, modes⟩ ⟨current, mode :: modes⟩
  | unknown (current : Display.Mode) {mode : Display.Mode} (modes : List Display.Mode)
      (unknown : mode.refreshRate ≤ 0) : Relists ⟨current, modes⟩ ⟨current, mode :: modes⟩

section Known

variable {display : Option Display} {rate : Int32}

theorem refreshRate_eq (display : Option Display) :
    refreshRate display = ((reportedRates display).filter (0 < ·)).max?.getD assumedRate := by
  cases display <;> rfl

theorem refreshRate_of_unknown (unknown : ∀ rate ∈ reportedRates display, rate ≤ 0) :
    refreshRate display = assumedRate := by
  have none : (reportedRates display).filter (0 < ·) = [] :=
    List.filter_eq_nil_iff.mpr fun rate member => by simpa using unknown rate member
  rw [refreshRate_eq, none]
  rfl

/-- Where a rate is known, the window is driven at one that is reported and that no other
exceeds. -/
theorem refreshRate_greatest (known : ∃ rate ∈ reportedRates display, 0 < rate) :
    refreshRate display ∈ reportedRates display ∧
      ∀ rate ∈ reportedRates display, rate ≤ refreshRate display := by
  obtain ⟨rate, reported, positive⟩ := known
  have listed : rate ∈ (reportedRates display).filter (0 < ·) :=
    List.mem_filter.mpr ⟨reported, by simpa using positive⟩
  obtain ⟨greatest, highest⟩ := Option.isSome_iff_exists.mp
    (List.isSome_max?_iff.mpr (List.ne_nil_of_mem listed))
  obtain ⟨member, bound⟩ := List.max?_eq_some_iff.mp highest
  rw [refreshRate_eq, highest, Option.getD_some]
  refine ⟨(List.mem_filter.mp member).1, fun other reported => ?_⟩
  by_cases positive : 0 < other
  · exact bound other (List.mem_filter.mpr ⟨reported, by simpa using positive⟩)
  · exact Int32.le_trans (Int32.not_lt.mp positive) (Int32.le_of_lt
      (by simpa using (List.mem_filter.mp member).2))

end Known

section Relisted

variable {first second : Display}

/-- However modes are listed, the same known rates are reported. -/
theorem Relists.known (relists : Relists first second) (rate : Int32) (known : 0 < rate) :
    rate ∈ reportedRates (some first) ↔ rate ∈ reportedRates (some second) := by
  cases relists with
  | shuffled current shuffles =>
    simp only [reportedRates, List.map_cons, List.mem_cons,
      (shuffles.map Display.Mode.refreshRate).mem_iff]
  | swapped current mode before after =>
    simp only [reportedRates, List.map_cons, List.map_append, List.mem_cons, List.mem_append]
    tauto
  | @repeated current mode modes listed =>
    have reported : mode.refreshRate ∈ modes.map Display.Mode.refreshRate :=
      List.mem_map_of_mem listed
    simp only [reportedRates, List.map_cons, List.mem_cons]
    constructor
    · tauto
    · rintro (current | rfl | other)
      · exact .inl current
      · exact .inr reported
      · exact .inr other
  | @unknown current mode modes unknown =>
    have other : rate ≠ mode.refreshRate := fun same => Int32.not_lt.mpr unknown (same ▸ known)
    simp [reportedRates, other]

/-- Displays that report the same known rates drive their windows alike. -/
theorem refreshRate_congr {first second : Option Display}
    (same : ∀ rate, 0 < rate → (rate ∈ reportedRates first ↔ rate ∈ reportedRates second)) :
    refreshRate first = refreshRate second := by
  have known (rate : Int32) : rate ∈ (reportedRates first).filter (0 < ·) ↔
      rate ∈ (reportedRates second).filter (0 < ·) := by
    simp only [List.mem_filter, decide_eq_true_eq]
    exact and_congr_left (same rate)
  have highest : ((reportedRates first).filter (0 < ·)).max? =
      ((reportedRates second).filter (0 < ·)).max? := by
    refine Option.ext fun rate => ?_
    rw [List.max?_eq_some_iff, List.max?_eq_some_iff, known rate]
    simp only [known]
  rw [refreshRate_eq, refreshRate_eq, highest]

end Relisted

/-- Modes may be listed anew as often as one likes. -/
theorem refreshRate_of_relisted {first second : Display}
    (relisted : Relation.EqvGen Relists first second) :
    refreshRate (some first) = refreshRate (some second) := by
  induction relisted with
  | rel first second relists => exact refreshRate_congr relists.known
  | refl display => rfl
  | symm first second _ ih => exact ih.symm
  | trans first second third _ _ before after => exact before.trans after

end Display

open Display

/-- A window is driven at a positive rate: at the greatest one that its display reports if any of
these is known, and at 60 Hz if not. In what order and how often modes are listed, which of them
is the current one, and whether there are others of unknown rate makes no difference. -/
theorem window_is_driven_at_the_greatest_known_rate (display : Option Display) :
    0 < refreshRate display ∧
    ((∃ rate ∈ reportedRates display, 0 < rate) →
      refreshRate display ∈ reportedRates display ∧
        ∀ rate ∈ reportedRates display, rate ≤ refreshRate display) ∧
    (¬ (∃ rate ∈ reportedRates display, 0 < rate) → refreshRate display = 60) ∧
    ∀ listed ∈ display, ∀ relisted, Relation.EqvGen Relists listed relisted →
      refreshRate (some relisted) = refreshRate display := by
  refine ⟨refreshRate_pos display, refreshRate_greatest, fun unknown => ?_, ?_⟩
  · exact refreshRate_of_unknown fun rate reported => Int32.not_lt.mp fun known =>
      unknown ⟨rate, reported, known⟩
  · rintro listed rfl relisted relists
    exact (refreshRate_of_relisted relists).symm

namespace Rehearsal

/-- A display in a mode of unknown rate, whose fastest mode is in the middle of its list. -/
def panel : Display := ⟨⟨1080, 2400, -1⟩, [⟨1080, 2400, 90⟩, ⟨720, 1600, 120⟩, ⟨1080, 2400, 0⟩]⟩

/-- The same display in its fastest mode, with a mode listed twice. -/
def fastPanel : Display :=
  ⟨⟨720, 1600, 120⟩,
    [⟨1080, 2400, 90⟩, ⟨1080, 2400, 90⟩, ⟨1080, 2400, -1⟩, ⟨1080, 2400, 0⟩]⟩

theorem panel_relisted : Relation.EqvGen Relists panel fastPanel := by
  have swapped := Relists.swapped ⟨1080, 2400, -1⟩ ⟨720, 1600, 120⟩ [⟨1080, 2400, 90⟩]
    [⟨1080, 2400, 0⟩]
  have repeated := Relists.repeated ⟨720, 1600, 120⟩
    (List.mem_cons_self (a := (⟨1080, 2400, 90⟩ : Display.Mode))
      (l := [⟨1080, 2400, -1⟩, ⟨1080, 2400, 0⟩]))
  exact .trans _ _ _ (.rel _ _ swapped) (.rel _ _ repeated)

end Rehearsal

/-- A display is driven at the rate of its fastest mode, also when it is in that mode; without a
display the rate is assumed. -/
theorem fastest_mode_sets_the_rate :
    refreshRate (some Rehearsal.panel) ∈ reportedRates (some Rehearsal.panel) ∧
      120 ≤ refreshRate (some Rehearsal.panel) ∧
      refreshRate (some Rehearsal.fastPanel) = refreshRate (some Rehearsal.panel) ∧
      refreshRate none = 60 := by
  obtain ⟨-, known, -, relisted⟩ :=
    window_is_driven_at_the_greatest_known_rate (some Rehearsal.panel)
  obtain ⟨-, -, unknown, -⟩ := window_is_driven_at_the_greatest_known_rate none
  obtain ⟨reported, greatest⟩ := known ⟨120, by decide, by decide⟩
  exact ⟨reported, greatest 120 (by decide),
    relisted Rehearsal.panel rfl Rehearsal.fastPanel Rehearsal.panel_relisted,
    unknown (by decide)⟩

end AppLifecycle
