import AppLifecycle.Proofs.JsonTokens

/-! Values that are passed over. However deep its brackets are nested, a text that the grammar
calls a value is skipped up to its end and no further. The induction is on its derivation; of a
bracket it goes through the items one by one, with the outer brackets still open, and counts the
stages, of which there are fewer than two for each character. -/
namespace AppLifecycle.Json

section Numbers

variable {fraction exponent rest : List Char}

theorem skipExponent_of {sign text : List Char} (signed : sign ∈ [[], ['+'], ['-']])
    (digits : Digits text) (stops : startsWithDigit rest = false) :
    skipExponent (sign ++ (text ++ rest)) = .ok rest := by
  have dropped := skipDigits_append digits.2 stops
  have starts := startsWithDigit_of_digits digits rest
  simp only [List.mem_cons, List.not_mem_nil, or_false] at signed
  rcases signed with rfl | rfl | rfl
  · unfold skipExponent
    simp only [List.nil_append]
    split
    · next more same => simp [same, startsWithDigit, isDigit, digit?] at starts
    · next more same => simp [same, startsWithDigit, isDigit, digit?] at starts
    · simp [starts, dropped]
  · simp [skipExponent, starts, dropped]
  · simp [skipExponent, starts, dropped]

theorem skipOptionalExponent_of (power : Exponent exponent) (ends : Ends rest) :
    skipOptionalExponent (exponent ++ rest) = .ok rest ∧
      startsWithDigit (exponent ++ rest) = false := by
  cases power with
  | none =>
    refine ⟨?_, not_startsWithDigit_of_ends ends⟩
    rw [List.nil_append]
    unfold skipOptionalExponent
    split
    · simp [Ends] at ends
    · simp [Ends] at ends
    · rfl
  | power marked signed digits =>
    have skipped := skipExponent_of signed digits (not_startsWithDigit_of_ends ends)
    simp only [List.mem_cons, List.not_mem_nil, or_false] at marked
    rcases marked with rfl | rfl
    · exact ⟨by simpa [skipOptionalExponent] using skipped, rfl⟩
    · exact ⟨by simpa [skipOptionalExponent] using skipped, rfl⟩

theorem skipTail_of (decimals : Fraction fraction) (power : Exponent exponent) (ends : Ends rest) :
    skipTail (fraction ++ (exponent ++ rest)) = .ok rest ∧
      startsWithDigit (fraction ++ (exponent ++ rest)) = false := by
  obtain ⟨skipped, stops⟩ := skipOptionalExponent_of power ends
  cases decimals with
  | none =>
    refine ⟨?_, stops⟩
    rw [List.nil_append]
    unfold skipTail
    split
    · next more same =>
      cases power with
      | none =>
        rw [show rest = '.' :: more from same] at ends
        simp [Ends] at ends
      | power marked signed digits =>
        obtain ⟨rfl, -⟩ := List.cons.inj same
        simp at marked
    · exact skipped
  | digits digits =>
    have starts := startsWithDigit_of_digits digits (exponent ++ rest)
    exact ⟨by simp [skipTail, starts, skipDigits_append digits.2 stops, skipped], rfl⟩

theorem skipUnsigned_of {text : List Char} (number : Unsigned text) (ends : Ends rest) :
    skipUnsigned (text ++ rest) = .ok rest := by
  cases number with
  | @parts whole fraction exponent integer decimals power =>
    obtain ⟨skipped, stops⟩ := skipTail_of decimals power ends
    cases integer with
    | zero => simp [skipUnsigned, stops, skipped]
    | @digits first more positive digits =>
      have digit : isDigit first = true := isDigit_of (digits first List.mem_cons_self)
      have dropped := skipDigits_append digits stops
      simp only [List.append_assoc, List.cons_append] at dropped ⊢
      unfold skipUnsigned
      split
      · next same => exact absurd (List.cons.inj same).1 positive
      · simp [startsWithDigit, digit, dropped, skipped]

end Numbers

section Scalars

theorem Unsigned.starts {text : List Char} (number : Unsigned text) :
    ∃ c more, text = c :: more ∧ IsDigit c := by
  cases number with
  | @parts whole fraction exponent integer decimals power =>
    cases integer with
    | zero => exact ⟨'0', fraction ++ exponent, rfl, by decide⟩
    | @digits first more positive digits =>
      exact ⟨first, more ++ fraction ++ exponent, rfl, digits first List.mem_cons_self⟩

theorem skipScalar_digit {c : Char} (digit : IsDigit c) (more : List Char) :
    skipScalar (c :: more) = skipUnsigned (c :: more) := by
  unfold skipScalar
  split
  · next same => exact absurd (List.cons.inj same).1 (digit.ne (by decide))
  · next same => exact absurd (List.cons.inj same).1 (digit.ne (by decide))
  · next same => exact absurd (List.cons.inj same).1 (digit.ne (by decide))
  · next same => exact absurd (List.cons.inj same).1 (digit.ne (by decide))
  · next same => exact absurd (List.cons.inj same).1 (digit.ne (by decide))
  · simp [startsWithDigit, isDigit_of digit]

end Scalars

section Stages

variable {fuel : Nat} {opened outer : List Bracket} {bracket : Bracket} {before after : List Char}

theorem skipOpen_skipWhite (input : List Char) :
    skipOpen fuel .value opened (skipWhite input) = skipOpen fuel .value opened input := by
  cases fuel with
  | zero => rfl
  | succ fuel => rw [skipOpen, skipOpen, skipWhite_idem]

theorem skipOpen_blank (blank : Blank before) (input : List Char) :
    skipOpen fuel .value opened (before ++ input) = skipOpen fuel .value opened input := by
  rw [← skipOpen_skipWhite, skipWhite_blank blank, skipOpen_skipWhite]

theorem skipOpen_scalar {c : Char} {more rest : List Char} (solid : isWhite c = false)
    (list : c ≠ '[') (object : c ≠ '\x7b') (skipped : skipScalar (c :: more) = .ok rest) :
    skipOpen (fuel + 1) .value opened (c :: more) = skipOpen fuel (.inside true) opened rest := by
  rw [skipOpen, skipWhite_solid solid]
  split
  · contradiction
  · next same => exact absurd (List.cons.inj same).1 list
  · next same => exact absurd (List.cons.inj same).1 object
  · simp [skipped, bind, Except.bind]

theorem skipOpen_opener (input : List Char) :
    skipOpen (fuel + 1) .value opened (bracket.opener :: input) =
      skipOpen fuel (.inside false) (bracket :: opened) input := by
  cases bracket <;> rfl

theorem solid_closer (bracket : Bracket) : isWhite bracket.closer = false := by
  cases bracket <;> rfl

theorem skipOpen_closer (afterItem : Bool) (blank : Blank after) (rest : List Char) :
    skipOpen (fuel + 1) (.inside afterItem) (bracket :: outer) (after ++ bracket.closer :: rest) =
      skipOpen fuel (.inside true) outer rest := by
  rw [skipOpen, skipWhite_padded blank (solid_closer bracket)]
  simp

theorem skipOpen_comma (blank : Blank after) (rest : List Char) :
    skipOpen (fuel + 1) (.inside true) (bracket :: outer) (after ++ ',' :: rest) = (do
      let rest ← skipToValue bracket rest
      skipOpen fuel .value (bracket :: outer) rest) := by
  have other : ',' ≠ bracket.closer := by cases bracket <;> decide
  rw [skipOpen, skipWhite_padded blank rfl]
  simp [other]

/-- The first item of a bracket needs no comma. -/
theorem skipOpen_first {input : List Char} {c : Char} {more : List Char}
    (starts : skipWhite input = c :: more) (other : c ≠ bracket.closer) :
    skipOpen (fuel + 1) (.inside false) (bracket :: outer) input = (do
      let rest ← skipToValue bracket input
      skipOpen fuel .value (bracket :: outer) rest) := by
  have same : (do
      let rest ← skipToValue bracket (c :: more)
      skipOpen fuel .value (bracket :: outer) rest) = (do
      let rest ← skipToValue bracket input
      skipOpen fuel .value (bracket :: outer) rest) := by
    rw [← starts]
    cases bracket with
    | list => exact skipOpen_skipWhite input
    | object => simp only [skipToValue, skipKey, skipWhite_idem]
  rw [skipOpen, starts]
  simpa [other] using same

end Stages

section Derivations

variable {part : Part} {bracket : Bracket} {head text rest : List Char}

/-- A character with which a value can start. -/
structure Starts (c : Char) : Prop where
  solid : isWhite c = false
  list : c ≠ Bracket.list.closer
  object : c ≠ Bracket.object.closer

theorem starts_of_digit {c : Char} (digit : IsDigit c) : Starts c := by
  refine ⟨Bool.eq_false_iff.mpr fun white => ?_, digit.ne (by decide), digit.ne (by decide)⟩
  have undigit : [' ', '\n', '\t', '\r'].all (fun c => !isDigit c) = true := by decide
  simpa [isDigit_of digit] using List.all_eq_true.mp undigit c (isWhite_iff.mp white)

theorem starts_opener (bracket : Bracket) : Starts bracket.opener := by
  cases bracket with
  | list => exact ⟨rfl, by decide, by decide⟩
  | object => exact ⟨rfl, by decide, by decide⟩

theorem Derives.starts (value : Derives .value text) : ∃ c more, text = c :: more ∧ Starts c := by
  cases value with
  | null => exact ⟨_, _, rfl, rfl, by decide, by decide⟩
  | yes => exact ⟨_, _, rfl, rfl, by decide, by decide⟩
  | no => exact ⟨_, _, rfl, rfl, by decide, by decide⟩
  | string inside => exact ⟨_, _, rfl, rfl, by decide, by decide⟩
  | positive number =>
    obtain ⟨c, more, same, digit⟩ := number.starts
    exact ⟨c, more, same, starts_of_digit digit⟩
  | negative number => exact ⟨_, _, rfl, rfl, by decide, by decide⟩
  | empty bracket nothing => exact ⟨_, _, rfl, starts_opener bracket⟩
  | filled bracket items => exact ⟨_, _, rfl, starts_opener bracket⟩

/-- The items of a bracket do not start with its closer. -/
theorem Derives.items_start (items : Derives (.items bracket) text) (rest : List Char) :
    ∃ c more, skipWhite (text ++ rest) = c :: more ∧ c ≠ bracket.closer := by
  have front {head text : List Char} (front : Head bracket head) (value : Derives .value text)
      (rest : List Char) :
      ∃ c more, skipWhite (head ++ (text ++ rest)) = c :: more ∧ c ≠ bracket.closer := by
    cases front with
    | list blank =>
      obtain ⟨c, more, rfl, starts⟩ := value.starts
      exact ⟨c, more ++ rest, skipWhite_padded blank starts.solid _, starts.list⟩
    | object blank inside gap pad =>
      simp only [List.append_assoc, List.cons_append]
      exact ⟨'"', _, skipWhite_padded blank rfl _, by decide⟩
  cases items with
  | last first value blank => simpa only [List.append_assoc] using front first value _
  | more first value blank others => simpa only [List.append_assoc] using front first value _

/-- Of what stands in front of a value, at most a blank is left. -/
theorem skipToValue_of_head (front : Head bracket head) :
    ∃ blank, Blank blank ∧ ∀ rest, skipToValue bracket (head ++ rest) = .ok (blank ++ rest) := by
  cases front with
  | list blank => exact ⟨_, blank, fun rest => rfl⟩
  | @object before key between after blank inside gap pad =>
    have mark := skipWhite_padded (c := '"') blank rfl
    have colon := skipWhite_padded (c := ':') gap rfl
    refine ⟨after, pad, fun rest => ?_⟩
    simp [skipToValue, skipKey, mark, skipString_of_inside inside, colon, bind, Except.bind]

/-- Up to the stages that a value takes, an item is skipped with what stands in front of it. -/
theorem skipToValue_skipOpen {fuel : Nat} {opened : List Bracket} (front : Head bracket head)
    (input : List Char) :
    (do
      let rest ← skipToValue bracket (head ++ input)
      skipOpen fuel .value opened rest) = skipOpen fuel .value opened input := by
  obtain ⟨blank, white, reached⟩ := skipToValue_of_head front
  rw [reached]
  exact skipOpen_blank white input

theorem ends_closer {after : List Char} (bracket : Bracket) (blank : Blank after)
    (rest : List Char) : Ends (after ++ bracket.closer :: rest) := by
  refine ends_padded blank ?_
  cases bracket with
  | list => simp [Ends, Bracket.closer]
  | object => simp [Ends, Bracket.closer]

theorem ends_comma {after : List Char} (blank : Blank after) (rest : List Char) :
    Ends (after ++ ',' :: rest) := ends_padded blank (by simp [Ends])

/-- A part of a text is skipped in a number of stages. -/
def Skipped : Part → List Char → Nat → Prop
  | .value, text, stages => ∀ fuel opened rest, Ends rest →
    skipOpen (fuel + stages) .value opened (text ++ rest) =
      skipOpen fuel (.inside true) opened rest
  | .items bracket, text, stages => ∀ fuel outer rest,
    (do
      let rest ← skipToValue bracket (text ++ bracket.closer :: rest)
      skipOpen (fuel + stages) .value (bracket :: outer) rest) =
      skipOpen fuel (.inside true) outer rest

/-- Fewer than two stages for each character skip a value, and at most two for each the items of
a bracket together with its closer. -/
def Part.bound : Part → List Char → Nat
  | .value, text => 2 * text.length - 1
  | .items _, text => 2 * text.length

theorem Derives.skipped (derives : Derives part text) :
    ∃ stages ≤ part.bound text, Skipped part text stages := by
  induction derives with
  | null =>
    refine ⟨1, by decide, fun fuel opened rest ends => ?_⟩
    exact skipOpen_scalar rfl (by decide) (by decide) (readWord_append ['u', 'l', 'l'] rest)
  | yes =>
    refine ⟨1, by decide, fun fuel opened rest ends => ?_⟩
    exact skipOpen_scalar rfl (by decide) (by decide) (readWord_append ['r', 'u', 'e'] rest)
  | no =>
    refine ⟨1, by decide, fun fuel opened rest ends => ?_⟩
    exact skipOpen_scalar rfl (by decide) (by decide) (readWord_append ['a', 'l', 's', 'e'] rest)
  | @string text inside =>
    refine ⟨1, by simp [Part.bound]; omega, fun fuel opened rest ends => ?_⟩
    have skipped := skipString_of_inside inside rest
    rw [List.append_assoc]
    exact skipOpen_scalar rfl (by decide) (by decide) skipped
  | positive number =>
    obtain ⟨c, more, rfl, digit⟩ := number.starts
    refine ⟨1, by simp [Part.bound]; omega, fun fuel opened rest ends => ?_⟩
    have skipped := skipUnsigned_of number ends
    rw [List.cons_append, ← skipScalar_digit digit] at skipped
    exact skipOpen_scalar (starts_of_digit digit).solid (digit.ne (by decide))
      (digit.ne (by decide)) skipped
  | negative number =>
    refine ⟨1, by simp [Part.bound]; omega, fun fuel opened rest ends => ?_⟩
    exact skipOpen_scalar rfl (by decide) (by decide) (skipUnsigned_of number ends)
  | @empty blank bracket nothing =>
    refine ⟨2, by simp [Part.bound]; omega, fun fuel opened rest ends => ?_⟩
    calc
      _ = skipOpen (fuel + 1) (.inside false) (bracket :: opened)
            (blank ++ bracket.closer :: rest) := by
          rw [← skipOpen_opener]
          simp
      _ = skipOpen fuel (.inside true) opened rest := skipOpen_closer false nothing rest
  | @filled text bracket items ih =>
    obtain ⟨stages, few, skipped⟩ := ih
    simp only [Part.bound] at few
    refine ⟨stages + 2, by simp [Part.bound]; omega, fun fuel opened rest ends => ?_⟩
    obtain ⟨c, more, starts, other⟩ := items.items_start (bracket.closer :: rest)
    calc
      _ = skipOpen (fuel + stages + 1) (.inside false) (bracket :: opened)
            (text ++ bracket.closer :: rest) := by
          rw [← skipOpen_opener]
          simp [Nat.add_assoc]
      _ = skipOpen fuel (.inside true) opened rest := by
          rw [skipOpen_first starts other]
          exact skipped fuel opened rest
  | @last bracket head text after front value blank ih =>
    obtain ⟨stages, few, skipped⟩ := ih
    obtain ⟨c, more, nonempty, -⟩ := value.starts
    have long : 0 < text.length := by simp [nonempty]
    simp only [Part.bound] at few
    refine ⟨stages + 1, by simp [Part.bound]; omega, fun fuel outer rest => ?_⟩
    have order : fuel + (stages + 1) = fuel + 1 + stages := by omega
    calc
      _ = skipOpen (fuel + 1 + stages) .value (bracket :: outer)
            (text ++ (after ++ bracket.closer :: rest)) := by
          rw [← skipToValue_skipOpen front, ← order]
          simp
      _ = skipOpen (fuel + 1) (.inside true) (bracket :: outer)
            (after ++ bracket.closer :: rest) :=
          skipped _ _ _ (ends_closer bracket blank rest)
      _ = skipOpen fuel (.inside true) outer rest := skipOpen_closer true blank rest
  | @more bracket head text after later front value blank others ihValue ihOthers =>
    obtain ⟨stages, few, skipped⟩ := ihValue
    obtain ⟨stagesLater, fewLater, skippedLater⟩ := ihOthers
    obtain ⟨c, more, nonempty, -⟩ := value.starts
    have long : 0 < text.length := by simp [nonempty]
    simp only [Part.bound] at few fewLater
    refine ⟨stages + 1 + stagesLater, by simp [Part.bound]; omega, fun fuel outer rest => ?_⟩
    have order : fuel + (stages + 1 + stagesLater) = fuel + stagesLater + 1 + stages := by omega
    calc
      _ = skipOpen (fuel + stagesLater + 1 + stages) .value (bracket :: outer)
            (text ++ (after ++ ',' :: (later ++ bracket.closer :: rest))) := by
          rw [← skipToValue_skipOpen front, ← order]
          simp
      _ = skipOpen (fuel + stagesLater + 1) (.inside true) (bracket :: outer)
            (after ++ ',' :: (later ++ bracket.closer :: rest)) :=
          skipped _ _ _ (ends_comma blank _)
      _ = skipOpen fuel (.inside true) outer rest := by
          rw [skipOpen_comma blank]
          exact skippedLater fuel outer rest

/-- A value is skipped with the blank in front of it, and nothing else is. -/
theorem skipValue_of (value : Derives .value text) {blank : List Char} (white : Blank blank)
    (ends : Ends rest) : skipValue (blank ++ (text ++ rest)) = .ok rest := by
  obtain ⟨stages, few, skipped⟩ := value.skipped
  simp only [Part.bound] at few
  have enough : 2 * (blank ++ (text ++ rest)).length + 2 =
      2 * (blank ++ (text ++ rest)).length + 1 - stages + 1 + stages := by
    simp only [List.length_append]
    omega
  rw [skipValue, skipOpen_blank white, enough, skipped _ _ _ ends]
  rfl

end Derivations

end AppLifecycle.Json
