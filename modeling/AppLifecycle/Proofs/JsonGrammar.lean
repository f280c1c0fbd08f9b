import AppLifecycle.Json.Skip

/-! The grammar of JSON, apart from any reader. It says which texts are values, and which
characters a string spells. A string that is only passed over may escape any code unit; one
that is asked for its characters pairs the surrogates. Lists and objects differ in their
brackets and in what stands in front of an item, and in nothing else. -/
namespace AppLifecycle.Json

/-- White space and nothing else. -/
def Blank (text : List Char) : Prop := ∀ c ∈ text, c ∈ [' ', '\n', '\t', '\r']

instance : DecidablePred Blank := List.decidableBAll (· ∈ [' ', '\n', '\t', '\r'])

theorem blank_nil : Blank [] := by decide

/-- Whether a value is over where this text goes on. -/
def Ends : List Char → Prop
  | [] => True
  | c :: _ => c ∈ [' ', '\n', '\t', '\r', ',', ']', '\x7d']

section Numbers

/-- A decimal digit. -/
def IsDigit (c : Char) : Prop := '0' ≤ c ∧ c ≤ '9'

instance : DecidablePred IsDigit := fun c => inferInstanceAs (Decidable ('0' ≤ c ∧ c ≤ '9'))

theorem IsDigit.ne {c letter : Char} (digit : IsDigit c) (undigit : ¬ IsDigit letter) :
    c ≠ letter := fun same => undigit (same ▸ digit)

/-- One or more decimal digits. -/
def Digits (text : List Char) : Prop := text ≠ [] ∧ ∀ c ∈ text, IsDigit c

instance : DecidablePred Digits := fun text =>
  letI := List.decidableBAll IsDigit text
  inferInstanceAs (Decidable (text ≠ [] ∧ ∀ c ∈ text, IsDigit c))

/-- The digits in front of the point: a zero stands alone. -/
inductive Whole : List Char → Prop where
  | zero : Whole ['0']
  | digits {first : Char} {more : List Char} (positive : first ≠ '0')
      (digits : ∀ c ∈ first :: more, IsDigit c) : Whole (first :: more)

/-- The point and the digits behind it, or nothing. -/
inductive Fraction : List Char → Prop where
  | none : Fraction []
  | digits {text : List Char} (digits : Digits text) : Fraction ('.' :: text)

/-- The power of ten, or nothing. -/
inductive Exponent : List Char → Prop where
  | none : Exponent []
  | power {mark : Char} {sign text : List Char} (marked : mark ∈ ['e', 'E'])
      (signed : sign ∈ [[], ['+'], ['-']]) (digits : Digits text) :
      Exponent (mark :: (sign ++ text))

/-- A number without its sign. -/
inductive Unsigned : List Char → Prop where
  | parts {whole fraction exponent : List Char} (whole_ok : Whole whole)
      (fraction_ok : Fraction fraction) (exponent_ok : Exponent exponent) :
      Unsigned (whole ++ fraction ++ exponent)

end Numbers

section Strings

/-- The sixteen digits, in lower case. -/
def lowerHex : List Char :=
  ['0', '1', '2', '3', '4', '5', '6', '7', '8', '9', 'a', 'b', 'c', 'd', 'e', 'f']

/-- The sixteen digits, in upper case. -/
def upperHex : List Char :=
  ['0', '1', '2', '3', '4', '5', '6', '7', '8', '9', 'A', 'B', 'C', 'D', 'E', 'F']

/-- The hexadecimal digit of a value, in either case. -/
def IsHex (c : Char) (value : Nat) : Prop :=
  lowerHex[value]? = some c ∨ upperHex[value]? = some c

/-- Four hexadecimal digits and the code unit that they are. -/
inductive CodeUnit : List Char → Nat → Prop where
  | digits {a b c d : Char} {k l m n : Nat} (first : IsHex a k) (second : IsHex b l)
      (third : IsHex c m) (fourth : IsHex d n) :
      CodeUnit [a, b, c, d] (((k * 16 + l) * 16 + m) * 16 + n)

/-- A character that stands for itself in a string. -/
def IsPlain (c : Char) : Prop := c ≠ '"' ∧ c ≠ '\\' ∧ 0x20 ≤ c.toNat

instance : DecidablePred IsPlain := fun c =>
  inferInstanceAs (Decidable (c ≠ '"' ∧ c ≠ '\\' ∧ 0x20 ≤ c.toNat))

/-- Characters that stand for themselves. -/
def Plain (text : List Char) : Prop := ∀ c ∈ text, IsPlain c

instance : DecidablePred Plain := List.decidableBAll IsPlain

/-- The letters of the short escapes and what they stand for. -/
def shortEscapes : List (Char × Char) :=
  [('"', '"'), ('\\', '\\'), ('/', '/'), ('b', '\x08'), ('f', '\x0c'), ('n', '\n'), ('r', '\r'),
    ('t', '\t')]

/-- What may stand between the marks of a string that nobody asks for its characters. -/
inductive Inside : List Char → Prop where
  | nil : Inside []
  | plain {c : Char} {more : List Char} (plain : IsPlain c) (others : Inside more) :
      Inside (c :: more)
  | short {letter meant : Char} {more : List Char} (known : (letter, meant) ∈ shortEscapes)
      (others : Inside more) : Inside ('\\' :: letter :: more)
  | unit {digits more : List Char} {unit : Nat} (escaped : CodeUnit digits unit)
      (others : Inside more) : Inside ('\\' :: 'u' :: (digits ++ more))

/-- What stands between the marks of a string, and the characters that it spells. -/
inductive Spells : List Char → List Char → Prop where
  | nil : Spells [] []
  | plain {c : Char} {more meant : List Char} (plain : IsPlain c) (others : Spells more meant) :
      Spells (c :: more) (c :: meant)
  | short {letter first : Char} {more meant : List Char} (known : (letter, first) ∈ shortEscapes)
      (others : Spells more meant) : Spells ('\\' :: letter :: more) (first :: meant)
  | scalar {digits more meant : List Char} {unit : Nat} (escaped : CodeUnit digits unit)
      (alone : unit < 0xd800 ∨ 0xdfff < unit) (others : Spells more meant) :
      Spells ('\\' :: 'u' :: (digits ++ more)) (Char.ofNat unit :: meant)
  | pair {leading trailing more meant : List Char} {high low : Nat}
      (first : CodeUnit leading high) (second : CodeUnit trailing low)
      (opens : 0xd800 ≤ high ∧ high ≤ 0xdbff) (closes : 0xdc00 ≤ low ∧ low ≤ 0xdfff)
      (others : Spells more meant) :
      Spells ('\\' :: 'u' :: (leading ++ '\\' :: 'u' :: (trailing ++ more)))
        (Char.ofNat (0x10000 + (high - 0xd800) * 0x400 + (low - 0xdc00)) :: meant)

/-- A text without marks, backslashes and controls spells itself. -/
theorem Spells.of_plain {text : List Char} (plain : Plain text) : Spells text text := by
  induction text with
  | nil => exact .nil
  | cons c more ih =>
    exact .plain (plain c List.mem_cons_self) (ih fun d member =>
      plain d (List.mem_cons_of_mem _ member))

/-- The key of a member with its colon. -/
inductive Key (name : List Char) : List Char → Prop where
  | spelled {before key between : List Char} (blank : Blank before) (spells : Spells key name)
      (gap : Blank between) : Key name (before ++ '"' :: key ++ '"' :: between ++ [':'])

theorem Key.of_plain {name : List Char} (plain : Plain name) :
    Key name ('"' :: name ++ ['"'] ++ [':']) := .spelled blank_nil (.of_plain plain) blank_nil

end Strings

/-- The character that opens a bracket. -/
def Bracket.opener : Bracket → Char
  | list => '['
  | object => '\x7b'

/-- What stands in front of a value inside a bracket: in an object, its key and a colon. -/
inductive Head : Bracket → List Char → Prop where
  | list {before : List Char} (blank : Blank before) : Head .list before
  | object {before key between after : List Char} (blank : Blank before) (inside : Inside key)
      (gap : Blank between) (pad : Blank after) :
      Head .object (before ++ '"' :: key ++ '"' :: between ++ ':' :: after)

/-- A part of a text. -/
inductive Part where
  | value
  /-- The items of a bracket, of which there is at least one. -/
  | items (bracket : Bracket)

/-- The word for a truth value. -/
def truthWord : Bool → List Char
  | true => ['t', 'r', 'u', 'e']
  | false => ['f', 'a', 'l', 's', 'e']

/-- A name where one of several is wanted: as a string, or as the only key of an object, with a
null for its value. -/
inductive Choice (name : List Char) : List Char → Prop where
  | plain {text : List Char} (spells : Spells text name) : Choice name ('"' :: text ++ ['"'])
  | tagged {key before after : List Char} (named : Key name key) (pad : Blank before)
      (blank : Blank after) :
      Choice name ('\x7b' :: key ++ before ++ ['n', 'u', 'l', 'l'] ++ after ++ ['\x7d'])

/-- The texts of a part. -/
inductive Derives : Part → List Char → Prop where
  | null : Derives .value ['n', 'u', 'l', 'l']
  | yes : Derives .value ['t', 'r', 'u', 'e']
  | no : Derives .value ['f', 'a', 'l', 's', 'e']
  | string {text : List Char} (inside : Inside text) : Derives .value ('"' :: text ++ ['"'])
  | positive {text : List Char} (number : Unsigned text) : Derives .value text
  | negative {text : List Char} (number : Unsigned text) : Derives .value ('-' :: text)
  | empty {blank : List Char} (bracket : Bracket) (nothing : Blank blank) :
      Derives .value (bracket.opener :: blank ++ [bracket.closer])
  | filled {text : List Char} (bracket : Bracket) (items : Derives (.items bracket) text) :
      Derives .value (bracket.opener :: text ++ [bracket.closer])
  | last {bracket : Bracket} {head text after : List Char} (front : Head bracket head)
      (value : Derives .value text) (blank : Blank after) :
      Derives (.items bracket) (head ++ text ++ after)
  | more {bracket : Bracket} {head text after rest : List Char} (front : Head bracket head)
      (value : Derives .value text) (blank : Blank after)
      (others : Derives (.items bracket) rest) :
      Derives (.items bracket) (head ++ text ++ after ++ ',' :: rest)

end AppLifecycle.Json
