import AppLifecycle.Json.Fault

/-! White space, words and strings of JSON. -/
namespace AppLifecycle.Json

def isWhite (c : Char) : Bool := c = ' ' || c = '\n' || c = '\t' || c = '\r'

/-- Drops white space. -/
def skipWhite (input : List Char) : List Char := input.dropWhile isWhite

/-- Reads the given characters and nothing else. -/
def readWord : List Char → List Char → Except Fault (List Char)
  | [], input => .ok input
  | _ :: _, [] => refuseEnd .value
  | wanted :: more, c :: rest =>
    if c = wanted then readWord more rest else refuseNext .expectedWord (c :: rest)

/-- The value of a hexadecimal digit. -/
def hexDigit? (c : Char) : Option Nat :=
  if '0' ≤ c ∧ c ≤ '9' then some (c.toNat - '0'.toNat)
  else if 'a' ≤ c ∧ c ≤ 'f' then some (c.toNat - 'a'.toNat + 10)
  else if 'A' ≤ c ∧ c ≤ 'F' then some (c.toNat - 'A'.toNat + 10)
  else none

/-- Four hexadecimal digits at the front of a text. -/
def hexFour? : List Char → Option (Nat × List Char)
  | a :: b :: c :: d :: rest => do
    let a ← hexDigit? a
    let b ← hexDigit? b
    let c ← hexDigit? c
    let d ← hexDigit? d
    some (((a * 16 + b) * 16 + c) * 16 + d, rest)
  | _ => none

/-- Reads four hexadecimal digits. Four bytes are used up even if they are not digits. -/
def readHexFour : Reader Nat := fun input =>
  match hexFour? input with
  | some (value, rest) => .ok (value, rest)
  | none =>
    if byteLength input < 4 then refuseEnd .string
    else .error ⟨.invalidEscape, byteLength input - 4⟩

/-- Whether a code unit opens a surrogate pair. -/
def isLeading (unit : Nat) : Bool := 0xd800 ≤ unit && unit ≤ 0xdbff

/-- Whether a code unit closes a surrogate pair. -/
def isTrailing (unit : Nat) : Bool := 0xdc00 ≤ unit && unit ≤ 0xdfff

/-- Reads the second half of a surrogate pair. -/
def readTrailing (leading : Nat) : Reader Char
  | [] => refuseEnd .string
  | '\\' :: [] => refuseEnd .string
  | '\\' :: 'u' :: rest => do
    let (unit, rest) ← readHexFour rest
    if isTrailing unit then
      .ok (Char.ofNat (0x10000 + (leading - 0xd800) * 0x400 + (unit - 0xdc00)), rest)
    else refuse .loneSurrogate rest
  | '\\' :: rest => refuseNext .unfinishedSurrogate rest
  | rest => refuseNext .unfinishedSurrogate rest

/-- Reads the character that an escape with four digits stands for. -/
def readUnicode : Reader Char := fun input => do
  let (unit, rest) ← readHexFour input
  if isTrailing unit then refuse .loneSurrogate rest
  else if isLeading unit then readTrailing unit rest
  else .ok (Char.ofNat unit, rest)

/-- The character that a one letter escape stands for. -/
def shortEscape? : Char → Option Char
  | '"' => some '"'
  | '\\' => some '\\'
  | '/' => some '/'
  | 'b' => some '\x08'
  | 'f' => some '\x0c'
  | 'n' => some '\n'
  | 'r' => some '\r'
  | 't' => some '\t'
  | _ => none

/-- Reads what follows the backslash of an escape. -/
def readEscape : Reader Char
  | [] => refuseEnd .string
  | 'u' :: rest => readUnicode rest
  | c :: rest =>
    match shortEscape? c with
    | some meant => .ok (meant, rest)
    | none => refuseNext .invalidEscape (c :: rest)

/-- Reads the characters of a string up to the closing mark. The fuel bounds their
number. -/
def readCharacters : Nat → Reader (List Char)
  | 0, _ => refuseEnd .string
  | _ + 1, [] => refuseEnd .string
  | fuel + 1, c :: rest =>
    if c = '"' then .ok ([], rest)
    else if c = '\\' then do
      let (meant, rest) ← readEscape rest
      let (others, rest) ← readCharacters fuel rest
      .ok (meant :: others, rest)
    else if c.toNat < 0x20 then refuseNext .controlCharacter (c :: rest)
    else do
      let (others, rest) ← readCharacters fuel rest
      .ok (c :: others, rest)

/-- Reads a string whose opening mark has been read. -/
def readString : Reader String := fun input =>
  (readCharacters (input.length + 1)).map String.ofList input

end AppLifecycle.Json
