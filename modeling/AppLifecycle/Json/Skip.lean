import AppLifecycle.Json.Number

/-! Values that nobody asked for. They are read for their form alone: numbers may be of
any size, surrogates may stand alone, and brackets may be nested to any depth, because
the open ones are kept on a list. -/
namespace AppLifecycle.Json

/-- Skips the digits of an exponent whose letter has been read. -/
def skipExponent (input : List Char) : Except Fault (List Char) :=
  let input := match input with
    | '+' :: rest => rest
    | '-' :: rest => rest
    | rest => rest
  if startsWithDigit input then .ok (skipDigits input) else refuseNext .invalidNumber input

/-- Skips an exponent if there is one. -/
def skipOptionalExponent : List Char → Except Fault (List Char)
  | 'e' :: rest => skipExponent rest
  | 'E' :: rest => skipExponent rest
  | rest => .ok rest

/-- Skips what may follow the digits in front of the point. -/
def skipTail : List Char → Except Fault (List Char)
  | '.' :: rest =>
    if startsWithDigit rest then skipOptionalExponent (skipDigits rest)
    else refuseNext .invalidNumber rest
  | rest => skipOptionalExponent rest

/-- Skips a number whose sign has been read. -/
def skipUnsigned : List Char → Except Fault (List Char)
  | '0' :: rest => if startsWithDigit rest then refuseNext .invalidNumber rest else skipTail rest
  | input =>
    if startsWithDigit input then skipTail (skipDigits input) else refuseNext .invalidNumber input

/-- Skips what follows the backslash of an escape. -/
def skipEscape : List Char → Except Fault (List Char)
  | [] => refuseEnd .string
  | 'u' :: rest => do
    let (_, rest) ← readHexFour rest
    .ok rest
  | c :: rest => if (shortEscape? c).isSome then .ok rest else refuseNext .invalidEscape (c :: rest)

/-- Skips the characters of a string and the closing mark. -/
def skipCharacters : Nat → List Char → Except Fault (List Char)
  | 0, _ => refuseEnd .string
  | _ + 1, [] => refuseEnd .string
  | fuel + 1, c :: rest =>
    if c = '"' then .ok rest
    else if c = '\\' then do
      let rest ← skipEscape rest
      skipCharacters fuel rest
    else if c.toNat < 0x20 then refuse .controlCharacter (c :: rest)
    else skipCharacters fuel rest

/-- Skips a string whose opening mark has been read. -/
def skipString (input : List Char) : Except Fault (List Char) :=
  skipCharacters (input.length + 1) input

/-- Skips a value without brackets. -/
def skipScalar : List Char → Except Fault (List Char)
  | 'n' :: rest => readWord ['u', 'l', 'l'] rest
  | 't' :: rest => readWord ['r', 'u', 'e'] rest
  | 'f' :: rest => readWord ['a', 'l', 's', 'e'] rest
  | '"' :: rest => skipString rest
  | '-' :: rest => skipUnsigned rest
  | input => if startsWithDigit input then skipUnsigned input else refuseNext .expectedValue input

/-- An open bracket. -/
inductive Bracket where
  | list
  | object
  deriving DecidableEq

namespace Bracket

/-- The character that closes it. -/
def closer : Bracket → Char
  | list => ']'
  | object => '\x7d'

/-- What is unfinished while it is open. -/
def unfinished : Bracket → Unfinished
  | list => .list
  | object => .object

/-- The complaint when neither a comma nor the closer follows an item. -/
def expectedComma : Bracket → Cause
  | list => .expectedCommaOrBracket
  | object => .expectedCommaOrBrace

end Bracket

/-- Skips a key and the colon behind it. -/
def skipKey (input : List Char) : Except Fault (List Char) :=
  match skipWhite input with
  | [] => refuseEnd .object
  | '"' :: rest => do
    let rest ← skipString rest
    match skipWhite rest with
    | [] => refuseEnd .object
    | ':' :: rest => .ok rest
    | rest => refuseNext .expectedColon rest
  | rest => refuseNext .keyNotString rest

/-- Skips what stands in front of a value inside a bracket. -/
def skipToValue : Bracket → List Char → Except Fault (List Char)
  | .list, input => .ok input
  | .object, input => skipKey input

/-- What is skipped next. -/
inductive Stage where
  /-- A value. -/
  | value
  /-- An item of the innermost open bracket or its end. -/
  | inside (afterItem : Bool)

/-- Skips values until every open bracket is closed, the innermost of which comes first. -/
def skipOpen : Nat → Stage → List Bracket → List Char → Except Fault (List Char)
  | 0, _, _, _ => refuseEnd .value
  | fuel + 1, .value, opened, input =>
    match skipWhite input with
    | [] => refuseEnd .value
    | '[' :: rest => skipOpen fuel (.inside false) (.list :: opened) rest
    | '\x7b' :: rest => skipOpen fuel (.inside false) (.object :: opened) rest
    | rest => do
      let rest ← skipScalar rest
      skipOpen fuel (.inside true) opened rest
  | _ + 1, .inside _, [], input => .ok input
  | fuel + 1, .inside afterItem, bracket :: outer, input =>
    match skipWhite input with
    | [] => refuseEnd bracket.unfinished
    | c :: rest =>
      if c = bracket.closer then skipOpen fuel (.inside true) outer rest
      else if afterItem = false then do
        let rest ← skipToValue bracket (c :: rest)
        skipOpen fuel .value (bracket :: outer) rest
      else if c = ',' then do
        let rest ← skipToValue bracket rest
        skipOpen fuel .value (bracket :: outer) rest
      else refuseNext bracket.expectedComma (c :: rest)

/-- Skips a value. Each character is looked at in at most two stages. -/
def skipValue (input : List Char) : Except Fault (List Char) :=
  skipOpen (2 * input.length + 2) .value [] input

end AppLifecycle.Json
