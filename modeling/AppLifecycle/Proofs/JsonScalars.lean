import AppLifecycle.Json.Scalar
import AppLifecycle.Proofs.JsonTokens

/-! Scalars of a wanted type, as they are read. A reader of scalars takes each of the texts that
write a value of its type, with the white space in front of it, and leaves what follows. -/
namespace AppLifecycle.Json

/-- A reader takes a text off the front of an input, wherever a value may end behind it. -/
def Reader.Takes {β : Type} (reader : Reader β) (text : List Char) (value : β) : Prop :=
  ∀ rest, Ends rest → reader (text ++ rest) = .ok (value, rest)

theorem Reader.Takes.map {β δ : Type} {reader : Reader β} {text : List Char} {value : β}
    (takes : reader.Takes text value) (change : β → δ) :
    (reader.map change).Takes text (change value) := fun rest ends => by
  simp [Reader.map, takes rest ends, bind, Except.bind]

variable {before : List Char}

theorem readColon_of (blank : Blank before) (rest : List Char) :
    readColon (before ++ ':' :: rest) = .ok rest := by
  simp [readColon, skipWhite_padded (c := ':') blank rfl]

theorem readNull_of (blank : Blank before) (rest : List Char) :
    readNull (before ++ 'n' :: 'u' :: 'l' :: 'l' :: rest) = .ok ((), rest) := by
  have word := readWord_append ['u', 'l', 'l'] rest
  simp only [List.cons_append, List.nil_append] at word
  simp [readNull, skipWhite_padded (c := 'n') blank rfl, word, bind, Except.bind]

theorem readBoolean_takes (blank : Blank before) (flag : Bool) :
    readBoolean.Takes (before ++ truthWord flag) flag := fun rest ends => by
  cases flag with
  | true =>
    have word := readWord_append ['r', 'u', 'e'] rest
    simp only [List.cons_append, List.nil_append] at word
    simp [readBoolean, truthWord, skipWhite_padded (c := 't') blank rfl, word, bind, Except.bind]
  | false =>
    have word := readWord_append ['a', 'l', 's', 'e'] rest
    simp only [List.cons_append, List.nil_append] at word
    simp [readBoolean, truthWord, skipWhite_padded (c := 'f') blank rfl, word, bind, Except.bind]

section Choices

variable {β : Type} {variants : List (String × β)} {name text : List Char} {value : β}

theorem readVariant_of (known : variants.lookup (String.ofList name) = some value)
    (spells : Spells text name) (rest : List Char) :
    readVariant variants (text ++ '"' :: rest) = .ok (value, rest) := by
  simp [readVariant, readString_of_spells spells, findVariant, known, bind, Except.bind]

/-- One of several names is taken in either form. -/
theorem readOneOf_takes (known : variants.lookup (String.ofList name) = some value)
    (blank : Blank before) (choice : Choice name text) :
    (readOneOf variants).Takes (before ++ text) value := fun rest ends => by
  cases choice with
  | plain spells =>
    simp [readOneOf, skipWhite_padded (c := '"') blank rfl, readVariant_of known spells]
  | tagged named pad closing =>
    cases named with
    | spelled first spells gap =>
      simp [readOneOf, readTaggedVariant, skipWhite_padded (c := '\x7b') blank rfl,
        skipWhite_padded (c := '"') first rfl, readVariant_of known spells, readColon_of gap,
        readNull_of pad, skipWhite_padded (c := '\x7d') closing rfl, bind, Except.bind]

end Choices

end AppLifecycle.Json
