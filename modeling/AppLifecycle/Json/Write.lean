import AppLifecycle.Decimal.Notation

/-! Writing JSON without white space. A record can be written in two ways: as an object
with its members in the order of the fields, or as a list of the values alone. -/
namespace AppLifecycle.Json

/-- The two ways to write a record. -/
inductive Layout where
  | object
  | list
  deriving DecidableEq

/-- A name between quotation marks. Only for names that need no escapes. -/
def writeName (name : String) : List Char := '"' :: name.toList ++ ['"']

def writeBoolean (value : Bool) : List Char :=
  if value then ['t', 'r', 'u', 'e'] else ['f', 'a', 'l', 's', 'e']

/-- An integer, with a sign only if it is negative. -/
def writeInt (value : Int) : List Char :=
  if value < 0 then '-' :: Decimal.digitsOf value.natAbs else Decimal.digitsOf value.natAbs

def writeInt32 (value : Int32) : List Char := writeInt value.toInt

/-- A single precision number in the fewest digits that read back, null if infinite. -/
def writeSingle (value : Decimal.Binary) : List Char :=
  (value.write? .single .single).getD ['n', 'u', 'l', 'l']

/-- Texts with commas between them. -/
def separated : List (List Char) → List Char
  | [] => []
  | [only] => only
  | first :: rest => first ++ ',' :: separated rest

def writeList (items : List (List Char)) : List Char := '[' :: separated items ++ [']']

def writeMember (member : String × List Char) : List Char :=
  writeName member.1 ++ ':' :: member.2

/-- A record in the given layout. -/
def writeRecord (layout : Layout) (members : List (String × List Char)) : List Char :=
  match layout with
  | .object => '\x7b' :: separated (members.map writeMember) ++ ['\x7d']
  | .list => writeList (members.map Prod.snd)

end AppLifecycle.Json
