import AppLifecycle.Decimal.Notation
import AppLifecycle.Text.Quoted

/-! What can be wrong with a JSON text, where, and in which words that is said. A fault
knows how many bytes were still to be read when it was found; line and column follow
from that and the whole text. -/
namespace AppLifecycle.Json

/-- What was being read when the text ended. -/
inductive Unfinished where
  | value
  | string
  | list
  | object
  deriving DecidableEq

/-- What was found where something else was wanted. -/
inductive Found where
  | null
  | boolean (value : Bool)
  | integer (value : Int)
  | decimal (value : Decimal.Binary)
  | string (value : String)
  | sequence
  | map
  deriving DecidableEq

/-- What was wanted. -/
inductive Wanted where
  | boolean
  | int32
  | single
  | unit
  | sequence
  | record (name : String)
  deriving DecidableEq

/-- Why a text is refused. -/
inductive Cause where
  | unexpectedEnd (unfinished : Unfinished)
  | expectedValue
  | expectedWord
  | expectedColon
  | expectedCommaOrBracket
  | expectedCommaOrBrace
  | keyNotString
  | trailingComma
  | trailingCharacters
  | invalidNumber
  | numberOutOfRange
  | controlCharacter
  | invalidEscape
  | loneSurrogate
  | unfinishedSurrogate
  | unknownVariant (name : String) (known : List String)
  | wrongType (found : Found) (wanted : Wanted)
  | wrongValue (found : Found) (wanted : Wanted)
  | wrongLength (length : Nat) (record : String) (fields : Nat)
  | missingField (name : String)
  | duplicateField (name : String)
  deriving DecidableEq

/-- A cause and the number of bytes that were left when it was found. -/
structure Fault where
  cause : Cause
  left : Nat
  deriving DecidableEq

def Unfinished.words : Unfinished → String
  | value => "a value"
  | string => "a string"
  | list => "a list"
  | object => "an object"

/-- A number as it is shown in a complaint. -/
def decimalText (value : Decimal.Binary) : String :=
  String.ofList ((value.write? .double .double).getD [])

def Found.words : Found → String
  | null => "null"
  | boolean value => "boolean `" ++ (if value then "true" else "false") ++ "`"
  | integer value => "integer `" ++ toString value ++ "`"
  | decimal value => "floating point `" ++ decimalText value ++ "`"
  | string value => "string " ++ Text.quoted value
  | sequence => "sequence"
  | map => "map"

def Wanted.words : Wanted → String
  | boolean => "a boolean"
  | int32 => "i32"
  | single => "f32"
  | unit => "unit"
  | sequence => "a sequence"
  | record name => "struct " ++ name

/-- The known variants in the words of a complaint. -/
def choices (known : List String) : String :=
  match known.map fun name => "`" ++ name ++ "`" with
  | [] => "there are no variants"
  | [only] => "expected " ++ only
  | [first, second] => "expected " ++ first ++ " or " ++ second
  | all => "expected one of " ++ ", ".intercalate all

/-- How many elements a record has, in words. -/
def elements (count : Nat) : String :=
  if count = 1 then "1 element" else toString count ++ " elements"

/-- The words of a complaint, without its place. -/
def Cause.words : Cause → String
  | unexpectedEnd unfinished => "EOF while parsing " ++ unfinished.words
  | expectedValue => "expected value"
  | expectedWord => "expected ident"
  | expectedColon => "expected `:`"
  | expectedCommaOrBracket => "expected `,` or `]`"
  | expectedCommaOrBrace => "expected `,` or `\x7d`"
  | keyNotString => "key must be a string"
  | trailingComma => "trailing comma"
  | trailingCharacters => "trailing characters"
  | invalidNumber => "invalid number"
  | numberOutOfRange => "number out of range"
  | controlCharacter => "control character (\\u0000-\\u001F) found while parsing a string"
  | invalidEscape => "invalid escape"
  | loneSurrogate => "lone leading surrogate in hex escape"
  | unfinishedSurrogate => "unexpected end of hex escape"
  | unknownVariant name known => "unknown variant `" ++ name ++ "`, " ++ choices known
  | wrongType found wanted => "invalid type: " ++ found.words ++ ", expected " ++ wanted.words
  | wrongValue found wanted => "invalid value: " ++ found.words ++ ", expected " ++ wanted.words
  | wrongLength length record fields =>
    "invalid length " ++ toString length ++ ", expected struct " ++ record ++ " with " ++
      elements fields
  | missingField name => "missing field `" ++ name ++ "`"
  | duplicateField name => "duplicate field `" ++ name ++ "`"

/-- The number of bytes that a text takes. -/
def byteLength (text : List Char) : Nat := text.foldr (fun c bytes => c.utf8Size + bytes) 0

/-- A place in a text: the line, counted from one, and the bytes since it began. -/
structure Place where
  line : Nat
  column : Nat
  deriving DecidableEq

/-- The place that is reached after a number of bytes of the text. -/
def Place.advance (place : Place) (bytes : Nat) : List Char → Place
  | [] => place
  | c :: rest =>
    if bytes < c.utf8Size then { place with column := place.column + bytes }
    else if c = '\n' then advance ⟨place.line + 1, 0⟩ (bytes - 1) rest
    else advance ⟨place.line, place.column + c.utf8Size⟩ (bytes - c.utf8Size) rest

/-- The place of a fault in the text in which it was found. -/
def Fault.place (fault : Fault) (text : List Char) : Place :=
  Place.advance ⟨1, 0⟩ (byteLength text - fault.left) text

/-- The words of a complaint and its place. -/
def Fault.message (fault : Fault) (text : List Char) : String :=
  let place := fault.place text
  fault.cause.words ++ " at line " ++ toString place.line ++ " column " ++ toString place.column

/-- Refuses a text about what has been read so far. -/
def refuse {β : Type} (cause : Cause) (rest : List Char) : Except Fault β :=
  .error ⟨cause, byteLength rest⟩

/-- Refuses a text about its next byte. -/
def refuseNext {β : Type} (cause : Cause) (rest : List Char) : Except Fault β :=
  .error ⟨cause, byteLength rest - 1⟩

/-- Refuses a text that ended too early. -/
def refuseEnd {β : Type} (unfinished : Unfinished) : Except Fault β :=
  .error ⟨.unexpectedEnd unfinished, 0⟩

/-- A way to read a value from the front of a text; what follows it is left over. -/
abbrev Reader (β : Type) := List Char → Except Fault (β × List Char)

namespace Reader

/-- Reads and changes the value. -/
def map {β δ : Type} (change : β → δ) (reader : Reader β) : Reader δ := fun input => do
  let (value, rest) ← reader input
  .ok (change value, rest)

end Reader

end AppLifecycle.Json
