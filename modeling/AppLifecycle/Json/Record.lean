import AppLifecycle.Json.Scalar
import AppLifecycle.Json.Skip

/-! Records. A record is written as an object, whose members may come in any order and
among others that are skipped, or as a list of the values in the order of the fields. A
field may be left out if it is not required. The values read so far are kept in a draft. -/
namespace AppLifecycle.Json

/-- A field of a record that is read into drafts `δ`. -/
structure Field (δ : Type) where
  name : String
  required : Bool
  /-- Whether the draft has a value for the field. -/
  isFilled : δ → Bool
  /-- Reads a value and says what it does to the draft. -/
  read : Reader (δ → δ)

/-- The shape of a record that is read into drafts `δ`. -/
structure Record (δ : Type) where
  name : String
  fields : List (Field δ)
  /-- The draft before anything was read. -/
  blank : δ

namespace Record

variable {δ : Type}

/-- The first required field without a value, with its place among the fields. -/
def firstMissing? (record : Record δ) (draft : δ) : Option (Nat × Field δ) :=
  (record.fields.zipIdx.find? fun (field, _) => field.required && !field.isFilled draft).map
    fun (field, index) => (index, field)

/-- The draft of an object, unless a required field is missing. -/
def finishObject (record : Record δ) (draft : δ) : Except Cause δ :=
  match record.firstMissing? draft with
  | some (_, field) => .error (.missingField field.name)
  | none => .ok draft

/-- The draft of a list, unless a required field is missing. -/
def finishList (record : Record δ) (draft : δ) : Except Cause δ :=
  match record.firstMissing? draft with
  | some (index, _) => .error (.wrongLength index record.name record.fields.length)
  | none => .ok draft

/-- Goes to the next key of an object and reads its opening mark; none at the end. -/
def nextKey? (first : Bool) (input : List Char) : Except Fault (Option (List Char)) :=
  match skipWhite input with
  | [] => refuseEnd .object
  | '\x7d' :: _ => .ok none
  | c :: rest =>
    if first then
      if c = '"' then .ok (some rest) else refuseNext .keyNotString (c :: rest)
    else if c = ',' then
      match skipWhite rest with
      | [] => refuseEnd .value
      | '"' :: rest => .ok (some rest)
      | '\x7d' :: rest => refuseNext .trailingComma ('\x7d' :: rest)
      | rest => refuseNext .keyNotString rest
    else refuseNext .expectedCommaOrBrace (c :: rest)

/-- Reads the members of an object up to its brace. A complaint about the whole object
is handed on, because its place is found only when the object is closed. -/
def readMembers (record : Record δ) : Nat → Bool → δ → Reader (Except Cause δ)
  | 0, _, _, _ => refuseEnd .object
  | fuel + 1, first, draft, input => do
    match ← nextKey? first input with
    | none => .ok (record.finishObject draft, input)
    | some rest =>
      let (key, rest) ← readString rest
      match record.fields.find? fun field => field.name = key with
      | none =>
        let rest ← readColon rest
        let rest ← skipValue rest
        record.readMembers fuel false draft rest
      | some field =>
        if field.isFilled draft then .ok (.error (.duplicateField field.name), rest)
        else do
          let rest ← readColon rest
          let (fill, rest) ← field.read rest
          record.readMembers fuel false (fill draft) rest

/-- Closes an object. A complaint about it is placed behind its brace, or in front of
what stands there instead. -/
def closeObject (answer : Except Cause δ) : Reader δ := fun input =>
  match answer, skipWhite input with
  | .ok draft, '\x7d' :: rest => .ok (draft, rest)
  | .ok _, [] => refuseEnd .object
  | .ok _, rest => refuseNext .trailingCharacters rest
  | .error cause, '\x7d' :: rest => refuse cause rest
  | .error cause, rest => refuse cause rest

/-- Goes to the next element of a list; none at the end. -/
def nextElement? (first : Bool) (input : List Char) : Except Fault (Option (List Char)) :=
  match skipWhite input with
  | [] => refuseEnd .list
  | ']' :: _ => .ok none
  | c :: rest =>
    if first then .ok (some (c :: rest))
    else if c = ',' then
      match skipWhite rest with
      | [] => refuseEnd .value
      | ']' :: rest => refuseNext .trailingComma (']' :: rest)
      | rest => .ok (some rest)
    else refuseNext .expectedCommaOrBracket (c :: rest)

/-- Reads one element for each of the fields, or fewer if the list ends. -/
def readElements : List (Field δ) → Bool → δ → Reader δ
  | [], _, draft, input => .ok (draft, input)
  | field :: fields, first, draft, input => do
    match ← nextElement? first input with
    | none => .ok (draft, input)
    | some rest =>
      let (fill, rest) ← field.read rest
      readElements fields false (fill draft) rest

/-- Closes a list. A complaint about it is placed behind its bracket. -/
def closeList (answer : Except Cause δ) : Reader δ := fun input =>
  match answer, skipWhite input with
  | .ok draft, ']' :: rest => .ok (draft, rest)
  | .ok _, [] => refuseEnd .list
  | .ok _, ',' :: rest =>
    match skipWhite rest with
    | ']' :: rest => refuseNext .trailingComma (']' :: rest)
    | rest => refuseNext .trailingCharacters rest
  | .ok _, rest => refuseNext .trailingCharacters rest
  | .error cause, ']' :: rest => refuse cause rest
  | .error cause, rest => refuse cause rest

/-- Reads a record in either form. -/
def read (record : Record δ) : Reader δ := fun input =>
  match skipWhite input with
  | [] => refuseEnd .value
  | '\x7b' :: rest => do
    let (answer, rest) ← record.readMembers (rest.length + 1) true record.blank rest
    closeObject answer rest
  | '[' :: rest => do
    let (draft, rest) ← readElements record.fields true record.blank rest
    closeList (record.finishList draft) rest
  | rest => refuseType (.record record.name) rest

end Record

/-- Reads the elements of a list up to its bracket. -/
def readItems {β : Type} (item : Reader β) : Nat → Bool → Reader (List β)
  | 0, _, _ => refuseEnd .list
  | fuel + 1, first, input => do
    match ← Record.nextElement? first input with
    | none => .ok ([], input)
    | some rest =>
      let (value, rest) ← item rest
      let (others, rest) ← readItems item fuel false rest
      .ok (value :: others, rest)

/-- Reads a list whose elements are all read alike. -/
def readList {β : Type} (item : Reader β) : Reader (List β) := fun input =>
  match skipWhite input with
  | [] => refuseEnd .value
  | '[' :: rest => do
    let (values, rest) ← readItems item (rest.length + 1) true rest
    Record.closeList (.ok values) rest
  | rest => refuseType .sequence rest

/-- Reads a text that holds one value and nothing else but white space. -/
def readText {β : Type} (reader : Reader β) (text : List Char) : Except Fault β := do
  let (value, rest) ← reader text
  match skipWhite rest with
  | [] => .ok value
  | rest => refuseNext .trailingCharacters rest

end AppLifecycle.Json
