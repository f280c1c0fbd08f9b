import AppLifecycle.Json.Write
import AppLifecycle.Proofs.JsonScalars
import AppLifecycle.Proofs.JsonSkip

/-! Integers as they are written and read. The digits of a number are read as the number, as long
as it fits into a significand, and so an integer of 32 bits comes back as itself, the least and
the greatest included: with a sign if it is negative, and zero without one. -/
namespace AppLifecycle.Json

open Decimal

section Digits

variable {c : Char} {text rest : List Char}

theorem digit?_of (digit : IsDigit c) : digit? c = some (c.toNat - '0'.toNat) := if_pos digit

theorem isDigit_iff : isDigit c = true ↔ IsDigit c := by
  by_cases digit : IsDigit c
  · simp [isDigit_of digit, digit]
  · simp [isDigit, digit?, digit, if_neg (show ¬ ('0' ≤ c ∧ c ≤ '9') from digit)]

theorem digit?_none (other : isDigit c = false) : digit? c = none := by
  simpa [isDigit] using other

theorem isDigit_of_mem_digitsOf {value : Nat} (member : c ∈ digitsOf value) : IsDigit c := by
  have digit : c.isDigit = true := Nat.isDigit_of_mem_toDigits (by decide) (by decide) member
  simpa [Char.isDigit, IsDigit, Char.le_def] using digit

/-- More digits do not make a number smaller. -/
theorem le_ofDigitChars (text : List Char) (value : Nat) :
    value ≤ Nat.ofDigitChars 10 text value := by
  rw [Nat.ofDigitChars_eq_ofDigitChars_zero]
  have grows : 1 * value ≤ 10 ^ text.length * value :=
    Nat.mul_le_mul_right value (Nat.one_le_pow _ _ (by decide))
  omega

/-- Digits are taken up as the number that they write, as long as it fits. -/
theorem takeDigits_append (digits : ∀ c ∈ text, IsDigit c) (stops : startsWithDigit rest = false)
    (significand : Significand)
    (fits : Nat.ofDigitChars 10 text significand.value ≤ Significand.limit) :
    Significand.takeDigits 0 significand (text ++ rest) =
      ({ significand with value := Nat.ofDigitChars 10 text significand.value }, rest) := by
  induction text generalizing significand with
  | nil =>
    cases rest with
    | nil => rfl
    | cons c more => simp [Significand.takeDigits, digit?_none stops]
  | cons c more ih =>
    have here := digit?_of (digits c List.mem_cons_self)
    rw [Nat.ofDigitChars_cons, Nat.mul_comm] at fits
    have small : ¬ Significand.limit < significand.value * 10 + (c.toNat - '0'.toNat) :=
      Nat.not_lt.mpr (Nat.le_trans (le_ofDigitChars more _) fits)
    have onward := ih (fun d member => digits d (List.mem_cons_of_mem _ member))
      { significand with value := significand.value * 10 + (c.toNat - '0'.toNat) } fits
    simp only [List.cons_append, Significand.takeDigits, here, small, ↓reduceIte, Int.add_zero,
      onward, Nat.ofDigitChars_cons, Nat.mul_comm]

theorem digitsOf_append_ne {value : Nat} (other : ¬ IsDigit c) (rest more : List Char) :
    digitsOf value ++ rest ≠ c :: more := by
  intro same
  cases split : digitsOf value with
  | nil => exact absurd split Nat.toDigits_ne_nil
  | cons first digits =>
    rw [split] at same
    have digit := isDigit_of_mem_digitsOf (split ▸ List.mem_cons_self)
    exact digit.ne other (List.cons.inj same).1

theorem digitsOf_pos {value : Nat} (positive : 0 < value) :
    ∃ first more, digitsOf value = first :: more ∧ first ≠ '0' := by
  induction value using Nat.strongRecOn with
  | ind value ih =>
    by_cases single : value < 10
    · refine ⟨value.digitChar, [], Nat.toDigits_of_lt_base single, fun zero => ?_⟩
      exact absurd (Nat.digitChar_eq_zero.mp zero) (by omega)
    · obtain ⟨first, more, same, other⟩ := ih (value / 10) (by omega) (by omega)
      refine ⟨first, more ++ [(value % 10).digitChar], ?_, other⟩
      have split : digitsOf value = digitsOf (value / 10) ++ [(value % 10).digitChar] :=
        Nat.toDigits_of_base_le (by decide) (by omega)
      rw [split, same, List.cons_append]

/-- The digits of a number are those that may stand in front of a point. -/
theorem whole_digitsOf (value : Nat) : Whole (digitsOf value) := by
  by_cases zero : value = 0
  · subst zero
    exact .zero
  · obtain ⟨first, more, same, other⟩ := digitsOf_pos (Nat.pos_of_ne_zero zero)
    rw [same]
    exact .digits other fun c member => isDigit_of_mem_digitsOf (same ▸ member)

end Digits

section Integers

variable {text rest : List Char}

/-- Where a number is over, so is what follows its digits. -/
theorem readTail_of_ends (negative : Bool) (significand : Significand)
    (room : significand.full = false) (ends : Ends rest) :
    readTail negative significand rest = .ok (wholeNumber negative significand.value, rest) := by
  unfold readTail
  split
  · simp [Ends] at ends
  · simp [Ends] at ends
  · simp [Ends] at ends
  · simp [room]

/-- Digits that are a number by themselves are read as that number. -/
theorem readUnsigned_whole (negative : Bool) (whole : Whole text)
    (fits : Nat.ofDigitChars 10 text 0 ≤ Significand.limit) (ends : Ends rest) :
    readUnsigned negative (text ++ rest) =
      .ok (wholeNumber negative (Nat.ofDigitChars 10 text 0), rest) := by
  have stops := not_startsWithDigit_of_ends ends
  cases whole with
  | zero =>
    have tail := readTail_of_ends negative { value := 0 } rfl ends
    simpa [readUnsigned, digit?, stops, Nat.ofDigitChars_cons] using tail
  | @digits first more positive digits =>
    have here := digit?_of (digits first List.mem_cons_self)
    have nonzero : first.toNat - '0'.toNat ≠ 0 := by
      intro zero
      have least : '0'.toNat ≤ first.toNat := (digits first List.mem_cons_self).1
      exact positive (Char.toNat_inj.mp (by omega))
    rw [Nat.ofDigitChars_cons, Nat.mul_zero, Nat.zero_add] at fits ⊢
    have taken := takeDigits_append (fun c member => digits c (List.mem_cons_of_mem _ member))
      stops { value := first.toNat - '0'.toNat } fits
    have none : rest.takeWhile isDigit = [] := by
      cases rest with
      | nil => rfl
      | cons c more => exact List.takeWhile_cons_of_neg (by simpa [startsWithDigit] using stops)
    have left : skipDigits rest = rest := skipDigits_append (List.forall_mem_nil _) stops
    have tail := readTail_of_ends negative
      { value := Nat.ofDigitChars 10 more (first.toNat - '0'.toNat) } rfl ends
    unfold readUnsigned
    simp only [List.cons_append, here, taken, none, left, List.length_nil]
    exact tail

/-- An integer is read as itself if it fits into 64 bits with a sign. -/
theorem readNumber_writeInt {value : Int} (bound : value.natAbs ≤ Nat.pow 2 63)
    (ends : Ends rest) : readNumber (writeInt value ++ rest) = .ok (.integer value, rest) := by
  simp only [Nat.pow_eq, Nat.reducePow] at bound
  have digits : Nat.ofDigitChars 10 (digitsOf value.natAbs) 0 = value.natAbs :=
    Nat.ofDigitChars_ten_toDigits
  have fits : Nat.ofDigitChars 10 (digitsOf value.natAbs) 0 ≤ Significand.limit := by
    simp only [digits, Significand.limit, Nat.pow_eq, Nat.reducePow]
    omega
  have whole := whole_digitsOf value.natAbs
  by_cases negative : value < 0
  · have read := readUnsigned_whole true whole fits ends
    have small : 0 < value.natAbs ∧ value.natAbs ≤ Nat.pow 2 63 := by
      simp only [Nat.pow_eq, Nat.reducePow]
      omega
    have back : -(value.natAbs : Int) = value := by omega
    simp only [writeInt, negative, ↓reduceIte, List.cons_append, readNumber, read, digits,
      wholeNumber, small, and_self, back]
  · have read := readUnsigned_whole false whole fits ends
    have back : (value.natAbs : Int) = value := by omega
    simp only [writeInt, negative, ↓reduceIte]
    unfold readNumber
    split
    · next more same => exact absurd same (digitsOf_append_ne (by decide) rest more)
    · simp [read, digits, wholeNumber, back]

/-- Where a number starts, a value does. -/
theorem starts_of_startsNumber (number : startsNumber text = true) :
    ∃ c more, text = c :: more ∧ Starts c := by
  unfold startsNumber at number
  split at number
  · exact ⟨_, _, rfl, rfl, by decide, by decide⟩
  · cases text with
    | nil => cases number
    | cons c more =>
      exact ⟨c, more, rfl, starts_of_digit (isDigit_iff.mp number)⟩

/-- An integer starts with its sign or with a digit. -/
theorem startsNumber_writeInt (value : Int) (rest : List Char) :
    startsNumber (writeInt value ++ rest) = true := by
  unfold writeInt
  split
  · rfl
  · cases split : digitsOf value.natAbs with
    | nil => exact absurd split Nat.toDigits_ne_nil
    | cons first digits =>
      unfold startsNumber
      split
      · rfl
      · exact isDigit_of (isDigit_of_mem_digitsOf (split ▸ List.mem_cons_self))

theorem readNumberAs_of {β : Type} {wanted : Wanted} {accept : Number → Except Cause β}
    {number : Number} {value : β} (starts : startsNumber text = true)
    (read : readNumber text = .ok (number, rest)) (accepted : accept number = .ok value) :
    readNumberAs wanted accept text = .ok (value, rest) := by
  obtain ⟨c, more, rfl, solid⟩ := starts_of_startsNumber starts
  simp [readNumberAs, skipWhite_solid solid.solid, starts, read, accepted, bind, Except.bind]

/-- An integer of 32 bits is read as itself. -/
theorem readInt32_takes (value : Int32) : readInt32.Takes (writeInt32 value) value :=
    fun rest ends => by
  have least := value.le_toInt
  have greatest := value.toInt_lt
  have read : readNumber (writeInt32 value ++ rest) = .ok (.integer value.toInt, rest) :=
    readNumber_writeInt (by simp only [Nat.pow_eq, Nat.reducePow]; omega) ends
  refine readNumberAs_of (startsNumber_writeInt _ rest) read ?_
  exact (if_pos ⟨value.minValue_le_toInt, value.toInt_le⟩).trans (by rw [value.ofInt_toInt])

end Integers

end AppLifecycle.Json
