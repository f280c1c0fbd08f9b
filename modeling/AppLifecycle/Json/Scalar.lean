import AppLifecycle.Json.Number

/-! Scalars of a wanted type. A value of another type is read as far as it takes to name
it in the complaint: scalars up to their end, lists and objects not at all. -/
namespace AppLifecycle.Json

/-- Refuses a value because it is not what was wanted. -/
def refuseType {β : Type} (wanted : Wanted) (input : List Char) : Except Fault β :=
  match input with
  | 'n' :: rest => do
    let rest ← readWord ['u', 'l', 'l'] rest
    refuse (.wrongType .null wanted) rest
  | 't' :: rest => do
    let rest ← readWord ['r', 'u', 'e'] rest
    refuse (.wrongType (.boolean true) wanted) rest
  | 'f' :: rest => do
    let rest ← readWord ['a', 'l', 's', 'e'] rest
    refuse (.wrongType (.boolean false) wanted) rest
  | '"' :: rest => do
    let (text, rest) ← readString rest
    refuse (.wrongType (.string text) wanted) rest
  | '[' :: rest => refuse (.wrongType .sequence wanted) ('[' :: rest)
  | '\x7b' :: rest => refuse (.wrongType .map wanted) ('\x7b' :: rest)
  | '-' :: rest => do
    let (number, rest) ← readUnsigned true rest
    refuse (.wrongType number.found wanted) rest
  | input =>
    if startsWithDigit input then do
      let (number, rest) ← readUnsigned false input
      refuse (.wrongType number.found wanted) rest
    else refuseNext .expectedValue input

/-- Whether a number starts here. -/
def startsNumber : List Char → Bool
  | '-' :: _ => true
  | input => startsWithDigit input

/-- Reads a truth value. -/
def readBoolean : Reader Bool := fun input =>
  match skipWhite input with
  | [] => refuseEnd .value
  | 't' :: rest => do
    let rest ← readWord ['r', 'u', 'e'] rest
    .ok (true, rest)
  | 'f' :: rest => do
    let rest ← readWord ['a', 'l', 's', 'e'] rest
    .ok (false, rest)
  | rest => refuseType .boolean rest

/-- Reads a null. -/
def readNull : Reader Unit := fun input =>
  match skipWhite input with
  | [] => refuseEnd .value
  | 'n' :: rest => do
    let rest ← readWord ['u', 'l', 'l'] rest
    .ok ((), rest)
  | rest => refuseType .unit rest

/-- Reads a number and hands it to `accept`, which may refuse it. -/
def readNumberAs {β : Type} (wanted : Wanted) (accept : Number → Except Cause β) : Reader β :=
  fun input =>
    match skipWhite input with
    | [] => refuseEnd .value
    | rest =>
      if startsNumber rest then do
        let (number, rest) ← readNumber rest
        match accept number with
        | .ok value => .ok (value, rest)
        | .error cause => refuse cause rest
      else refuseType wanted rest

/-- Reads an integer of 32 bits. A number with a fraction or an exponent is none, even
if its value is whole. -/
def readInt32 : Reader Int32 := readNumberAs .int32 fun
  | .integer value =>
    if Int32.minValue.toInt ≤ value ∧ value ≤ Int32.maxValue.toInt then .ok (Int32.ofInt value)
    else .error (.wrongValue (.integer value) .int32)
  | .decimal value => .error (.wrongType (.decimal value) .int32)

/-- Reads a single precision number: an integer rounded once, any other number rounded
from double precision. -/
def readSingle : Reader Decimal.Binary := readNumberAs .single fun
  | .integer value => .ok (Decimal.Binary.ofInt .single value)
  | .decimal value => .ok (value.convert .single)

/-- Finds the variant with a name, and refuses an unknown name. -/
def findVariant {β : Type} (variants : List (String × β)) (name : String) : Except Cause β :=
  match variants.lookup name with
  | some value => .ok value
  | none => .error (.unknownVariant name (variants.map Prod.fst))

/-- Reads the name of a variant whose opening mark has been read. -/
def readVariant {β : Type} (variants : List (String × β)) : Reader β := fun input => do
  let (name, rest) ← readString input
  match findVariant variants name with
  | .ok value => .ok (value, rest)
  | .error cause => refuse cause rest

/-- Reads the colon behind a key. -/
def readColon (input : List Char) : Except Fault (List Char) :=
  match skipWhite input with
  | [] => refuseEnd .object
  | ':' :: rest => .ok rest
  | rest => refuseNext .expectedColon rest

/-- Reads a variant written as an object whose brace has been read: the name is the only
key and its value is null. -/
def readTaggedVariant {β : Type} (variants : List (String × β)) : Reader β := fun input =>
  match skipWhite input with
  | [] => refuseEnd .object
  | '"' :: rest => do
    let (value, rest) ← readVariant variants rest
    let rest ← readColon rest
    let (_, rest) ← readNull rest
    match skipWhite rest with
    | [] => refuseEnd .object
    | '\x7d' :: rest => .ok (value, rest)
    | rest => refuse .expectedValue rest
  | '\x7d' :: rest => refuseNext .expectedValue ('\x7d' :: rest)
  | rest => refuseNext .keyNotString rest

/-- Reads one of several named variants: its name, or an object with the name as key. -/
def readOneOf {β : Type} (variants : List (String × β)) : Reader β := fun input =>
  match skipWhite input with
  | [] => refuseEnd .value
  | '"' :: rest => readVariant variants rest
  | '\x7b' :: rest => readTaggedVariant variants rest
  | rest => refuseNext .expectedValue rest

end AppLifecycle.Json
