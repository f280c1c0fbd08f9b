import AppLifecycle.Proofs.JsonGrammar

/-! The tokens of JSON as they are read. What the grammar calls a blank, a word, a string or a
number is taken off the front of a text as a whole, and what follows it is left. -/
namespace AppLifecycle.Json

section Blanks

theorem isWhite_iff {c : Char} : isWhite c = true ↔ c ∈ [' ', '\n', '\t', '\r'] := by
  simp [isWhite, or_assoc]

theorem skipWhite_blank {text : List Char} (blank : Blank text) (rest : List Char) :
    skipWhite (text ++ rest) = skipWhite rest :=
  List.dropWhile_append_of_pos fun c member => isWhite_iff.mpr (blank c member)

theorem skipWhite_solid {c : Char} (solid : isWhite c = false) (rest : List Char) :
    skipWhite (c :: rest) = c :: rest :=
  List.dropWhile_cons_of_neg (by simp [solid])

/-- A blank in front of something else is dropped. -/
theorem skipWhite_padded {text : List Char} (blank : Blank text) {c : Char}
    (solid : isWhite c = false) (rest : List Char) :
    skipWhite (text ++ c :: rest) = c :: rest := by
  rw [skipWhite_blank blank, skipWhite_solid solid]

theorem skipWhite_idem (input : List Char) : skipWhite (skipWhite input) = skipWhite input := by
  induction input with
  | nil => rfl
  | cons c rest ih =>
    by_cases white : isWhite c = true
    · simpa [skipWhite, white] using ih
    · simp [skipWhite, white]

theorem ends_padded {text rest : List Char} (blank : Blank text) (ends : Ends rest) :
    Ends (text ++ rest) := by
  cases text with
  | nil => exact ends
  | cons c more =>
    have white := blank c List.mem_cons_self
    exact List.mem_append_left [',', ']', '\x7d'] white

end Blanks

theorem readWord_append (word rest : List Char) : readWord word (word ++ rest) = .ok rest := by
  induction word with
  | nil => rfl
  | cons c more ih => simpa [readWord] using ih

section Strings

theorem hexDigit?_of_isHex {c : Char} {value : Nat} (hex : IsHex c value) :
    hexDigit? c = some value := by
  have lowers : ∀ value : Fin 16, hexDigit? lowerHex[value] = some value.val := by decide
  have uppers : ∀ value : Fin 16, hexDigit? upperHex[value] = some value.val := by decide
  rcases hex with lower | upper
  · obtain ⟨bound, rfl⟩ := List.getElem?_eq_some_iff.mp lower
    exact lowers ⟨value, bound⟩
  · obtain ⟨bound, rfl⟩ := List.getElem?_eq_some_iff.mp upper
    exact uppers ⟨value, bound⟩

theorem readHexFour_of_codeUnit {digits : List Char} {unit : Nat} (escaped : CodeUnit digits unit)
    (rest : List Char) : readHexFour (digits ++ rest) = .ok (unit, rest) := by
  cases escaped with
  | digits first second third fourth =>
    simp [readHexFour, hexFour?, hexDigit?_of_isHex first, hexDigit?_of_isHex second,
      hexDigit?_of_isHex third, hexDigit?_of_isHex fourth]

theorem shortEscape?_of_mem {letter meant : Char} (known : (letter, meant) ∈ shortEscapes) :
    letter ≠ 'u' ∧ shortEscape? letter = some meant := by
  have all : ∀ pair ∈ shortEscapes, pair.1 ≠ 'u' ∧ shortEscape? pair.1 = some pair.2 := by decide
  exact all _ known

theorem skipEscape_short {letter meant : Char} (known : (letter, meant) ∈ shortEscapes)
    (rest : List Char) : skipEscape (letter :: rest) = .ok rest := by
  obtain ⟨other, escape⟩ := shortEscape?_of_mem known
  unfold skipEscape
  split
  · contradiction
  · simp_all
  · simp_all

theorem readEscape_short {letter meant : Char} (known : (letter, meant) ∈ shortEscapes)
    (rest : List Char) : readEscape (letter :: rest) = .ok (meant, rest) := by
  obtain ⟨other, escape⟩ := shortEscape?_of_mem known
  unfold readEscape
  split
  · contradiction
  · simp_all
  · simp_all

/-- A string that nobody asks for its characters is passed over with its closing mark. -/
theorem skipCharacters_of_inside {text : List Char} (inside : Inside text) (rest : List Char)
    (fuel : Nat) (enough : text.length < fuel) :
    skipCharacters fuel (text ++ '"' :: rest) = .ok rest := by
  induction inside generalizing fuel with
  | nil =>
    obtain ⟨fuel, rfl⟩ := Nat.exists_eq_add_one_of_ne_zero (Nat.ne_zero_of_lt enough)
    rfl
  | @plain c more plain others ih =>
    obtain ⟨fuel, rfl⟩ := Nat.exists_eq_add_one_of_ne_zero (Nat.ne_zero_of_lt enough)
    obtain ⟨unmarked, unescaped, printable⟩ := plain
    simp only [List.length_cons] at enough
    have onward := ih fuel (by omega)
    simp [skipCharacters, unmarked, unescaped, Nat.not_lt.mpr printable, onward]
  | @short letter meant more known others ih =>
    obtain ⟨fuel, rfl⟩ := Nat.exists_eq_add_one_of_ne_zero (Nat.ne_zero_of_lt enough)
    simp only [List.length_cons] at enough
    have onward := ih fuel (by omega)
    simp [skipCharacters, skipEscape_short known, bind, Except.bind, onward]
  | @unit digits more unit escaped others ih =>
    obtain ⟨fuel, rfl⟩ := Nat.exists_eq_add_one_of_ne_zero (Nat.ne_zero_of_lt enough)
    simp only [List.length_cons, List.length_append] at enough
    have onward := ih fuel (by omega)
    simp [skipCharacters, skipEscape, readHexFour_of_codeUnit escaped, bind, Except.bind, onward]

theorem skipString_of_inside {text : List Char} (inside : Inside text) (rest : List Char) :
    skipString (text ++ '"' :: rest) = .ok rest :=
  have enough : text.length < (text ++ '"' :: rest).length + 1 := by
    simp only [List.length_append]
    omega
  skipCharacters_of_inside inside rest _ enough

theorem readUnicode_scalar {digits : List Char} {unit : Nat} (escaped : CodeUnit digits unit)
    (alone : unit < 0xd800 ∨ 0xdfff < unit) (rest : List Char) :
    readUnicode (digits ++ rest) = .ok (Char.ofNat unit, rest) := by
  have trails : isTrailing unit = false := by simp [isTrailing]; omega
  have leads : isLeading unit = false := by simp [isLeading]; omega
  simp [readUnicode, readHexFour_of_codeUnit escaped, bind, Except.bind, trails, leads]

theorem readUnicode_pair {leading trailing : List Char} {high low : Nat}
    (first : CodeUnit leading high) (second : CodeUnit trailing low)
    (opens : 0xd800 ≤ high ∧ high ≤ 0xdbff) (closes : 0xdc00 ≤ low ∧ low ≤ 0xdfff)
    (rest : List Char) :
    readUnicode (leading ++ '\\' :: 'u' :: (trailing ++ rest)) =
      .ok (Char.ofNat (0x10000 + (high - 0xd800) * 0x400 + (low - 0xdc00)), rest) := by
  have trails : isTrailing high = false := by simp [isTrailing]; omega
  have leads : isLeading high = true := by simp [isLeading]; omega
  have ends : isTrailing low = true := by simp [isTrailing]; omega
  simp [readUnicode, readTrailing, readHexFour_of_codeUnit first, readHexFour_of_codeUnit second,
    bind, Except.bind, trails, leads, ends]

/-- A string is read as the characters that it spells. -/
theorem readCharacters_of_spells {text meant : List Char} (spells : Spells text meant)
    (rest : List Char) (fuel : Nat) (enough : text.length < fuel) :
    readCharacters fuel (text ++ '"' :: rest) = .ok (meant, rest) := by
  induction spells generalizing fuel with
  | nil =>
    obtain ⟨fuel, rfl⟩ := Nat.exists_eq_add_one_of_ne_zero (Nat.ne_zero_of_lt enough)
    rfl
  | @plain c more meant plain others ih =>
    obtain ⟨fuel, rfl⟩ := Nat.exists_eq_add_one_of_ne_zero (Nat.ne_zero_of_lt enough)
    obtain ⟨unmarked, unescaped, printable⟩ := plain
    simp only [List.length_cons] at enough
    have onward := ih fuel (by omega)
    simp [readCharacters, unmarked, unescaped, Nat.not_lt.mpr printable, bind, Except.bind, onward]
  | @short letter first more meant known others ih =>
    obtain ⟨fuel, rfl⟩ := Nat.exists_eq_add_one_of_ne_zero (Nat.ne_zero_of_lt enough)
    simp only [List.length_cons] at enough
    have onward := ih fuel (by omega)
    simp [readCharacters, readEscape_short known, bind, Except.bind, onward]
  | @scalar digits more meant unit escaped alone others ih =>
    obtain ⟨fuel, rfl⟩ := Nat.exists_eq_add_one_of_ne_zero (Nat.ne_zero_of_lt enough)
    simp only [List.length_cons, List.length_append] at enough
    have onward := ih fuel (by omega)
    simp [readCharacters, readEscape, readUnicode_scalar escaped alone, bind, Except.bind, onward]
  | @pair leading trailing more meant high low first second opens closes others ih =>
    obtain ⟨fuel, rfl⟩ := Nat.exists_eq_add_one_of_ne_zero (Nat.ne_zero_of_lt enough)
    simp only [List.length_cons, List.length_append] at enough
    have onward := ih fuel (by omega)
    simp [readCharacters, readEscape, readUnicode_pair first second opens closes, bind,
      Except.bind, onward]

theorem readString_of_spells {text meant : List Char} (spells : Spells text meant)
    (rest : List Char) :
    readString (text ++ '"' :: rest) = .ok (String.ofList meant, rest) := by
  have enough : text.length < (text ++ '"' :: rest).length + 1 := by
    simp only [List.length_append]
    omega
  simp only [readString, Reader.map, readCharacters_of_spells spells rest _ enough, bind,
    Except.bind]

end Strings

section Numbers

theorem isDigit_of {c : Char} (digit : IsDigit c) : isDigit c = true := by
  simp [isDigit, digit?, if_pos (show '0' ≤ c ∧ c ≤ '9' from digit)]

theorem not_startsWithDigit_of_ends {rest : List Char} (ends : Ends rest) :
    startsWithDigit rest = false := by
  cases rest with
  | nil => rfl
  | cons c more =>
    have undigit : [' ', '\n', '\t', '\r', ',', ']', '\x7d'].all (fun c => !isDigit c) = true := by
      decide
    simpa [startsWithDigit] using List.all_eq_true.mp undigit c ends

theorem startsWithDigit_of_digits {text : List Char} (digits : Digits text) (rest : List Char) :
    startsWithDigit (text ++ rest) = true := by
  obtain ⟨nonempty, all⟩ := digits
  cases text with
  | nil => contradiction
  | cons c more => exact isDigit_of (all c List.mem_cons_self)

/-- Digits are dropped up to where they end. -/
theorem skipDigits_append {text rest : List Char} (digits : ∀ c ∈ text, IsDigit c)
    (stops : startsWithDigit rest = false) : skipDigits (text ++ rest) = rest := by
  rw [skipDigits, List.dropWhile_append_of_pos fun c member => isDigit_of (digits c member)]
  cases rest with
  | nil => rfl
  | cons c more =>
    have stop : isDigit c = false := stops
    exact List.dropWhile_cons_of_neg (by simp [stop])

end Numbers

end AppLifecycle.Json
