import AppLifecycle.Json.Record
import AppLifecycle.Proofs.JsonScalars
import AppLifecycle.Proofs.JsonSkip

/-! Objects as records read them. The members of an object are read one after the other, in
whatever order they come. What comes of them is what their fields do to the draft in that order,
unless a field is given again; members that belong to no field make no difference. -/
namespace AppLifecycle.Json

namespace Record

variable {δ : Type} {record : Record δ}

/-- What stands in front of a member: nothing, or the comma behind the one before. -/
inductive Lead : Bool → List Char → Prop where
  | first : Lead true []
  | later {blank : List Char} (white : Blank blank) : Lead false (blank ++ [','])

theorem nextKey?_of {first : Bool} {lead before : List Char} (leads : Lead first lead)
    (blank : Blank before) (rest : List Char) :
    nextKey? first (lead ++ (before ++ '"' :: rest)) = .ok (some rest) := by
  have mark := skipWhite_padded (c := '"') blank rfl
  cases leads with
  | first => simp [nextKey?, mark]
  | later white =>
    have comma := skipWhite_padded (c := ',') white rfl
    simp [nextKey?, comma, mark]

theorem nextKey?_close {blank : List Char} (white : Blank blank) (first : Bool)
    (rest : List Char) : nextKey? first (blank ++ '\x7d' :: rest) = .ok none := by
  simp [nextKey?, skipWhite_padded (c := '\x7d') white rfl]

/-- What is said by a member that belongs to a field: what it does to the draft. -/
abbrev Saying (δ : Type) := Field δ × (δ → δ)

/-- A member of an object: it belongs to a field, or to none and is any value. -/
inductive Member (record : Record δ) : Option (Saying δ) → List Char → Prop where
  | field {field : Field δ} {fill : δ → δ} {name key value : List Char} (named : Key name key)
      (known : record.fields.find? (fun field => field.name = String.ofList name) = some field)
      (taken : field.read.Takes value fill) : Member record (some (field, fill)) (key ++ value)
  | other {name key blank value : List Char} (named : Key name key)
      (unknown : record.fields.find? (fun field => field.name = String.ofList name) = none)
      (white : Blank blank) (any : Derives .value value) :
      Member record none (key ++ (blank ++ value))

/-- The members of an object and what they say. -/
inductive Members (record : Record δ) : List (Saying δ) → List Char → Prop where
  | last {said : Option (Saying δ)} {text after : List Char} (member : record.Member said text)
      (blank : Blank after) : Members record said.toList (text ++ after)
  | more {said : Option (Saying δ)} {others : List (Saying δ)} {text after rest : List Char}
      (member : record.Member said text) (blank : Blank after)
      (later : Members record others rest) :
      Members record (said.toList ++ others) (text ++ (after ++ ',' :: rest))

/-- What stands between the braces of an object. -/
inductive Body (record : Record δ) : List (Saying δ) → List Char → Prop where
  | empty {text : List Char} (blank : Blank text) : Body record [] text
  | members {said : List (Saying δ)} {text : List Char} (members : record.Members said text) :
      Body record said text

/-- The draft once everything said is taken up, unless a field is given again. -/
def takeUp : List (Saying δ) → δ → Except Cause δ
  | [], draft => .ok draft
  | (field, fill) :: more, draft =>
    if field.isFilled draft then .error (.duplicateField field.name) else takeUp more (fill draft)

theorem takeUp_append (before after : List (Saying δ)) (draft : δ) :
    takeUp (before ++ after) draft = (takeUp before draft >>= takeUp after) := by
  induction before generalizing draft with
  | nil => rfl
  | cons said rest ih =>
    by_cases filled : said.1.isFilled draft = true
    · simp [takeUp, filled, bind, Except.bind]
    · simp [takeUp, filled, ih]

section Reading

variable {first : Bool} {lead text rest : List Char}

/-- A key is read, and then its colon. -/
theorem read_key {name key : List Char} (named : Key name key) (leads : Lead first lead)
    (rest : List Char) :
    ∃ behind colon, nextKey? first (lead ++ (key ++ rest)) = .ok (some behind) ∧
      readString behind = .ok (String.ofList name, colon) ∧ readColon colon = .ok rest := by
  cases named with
  | @spelled before key between blank spells gap =>
    refine ⟨_, _, ?_, readString_of_spells spells (between ++ ':' :: rest), readColon_of gap rest⟩
    simpa using nextKey?_of leads blank (key ++ '"' :: (between ++ ':' :: rest))

/-- One member is read: what it says is taken up, unless its field is given again. -/
theorem readMembers_member {said : Option (Saying δ)} (member : record.Member said text)
    (leads : Lead first lead) (ends : Ends rest) (fuel : Nat) (draft : δ) :
    ∃ colon, record.readMembers (fuel + 1) first draft (lead ++ (text ++ rest)) =
      match takeUp said.toList draft with
      | .ok next => record.readMembers fuel false next rest
      | .error cause => .ok (.error cause, colon) := by
  cases member with
  | @field field fill name key value named known taken =>
    obtain ⟨behind, colon, opens, spelled, parted⟩ := read_key named leads (value ++ rest)
    refine ⟨colon, ?_⟩
    by_cases filled : field.isFilled draft = true
    · simp [readMembers, opens, spelled, known, takeUp, filled, bind, Except.bind]
    · simp [readMembers, opens, spelled, known, takeUp, filled, parted, taken rest ends, bind,
        Except.bind]
  | @other name key blank value named unknown white any =>
    obtain ⟨behind, colon, opens, spelled, parted⟩ :=
      read_key named leads (blank ++ (value ++ rest))
    refine ⟨colon, ?_⟩
    simp [readMembers, opens, spelled, unknown, takeUp, parted, skipValue_of any white ends, bind,
      Except.bind]

theorem Member.length_pos {said : Option (Saying δ)} (member : record.Member said text) :
    0 < text.length := by
  cases member with
  | field named known taken =>
    cases named
    simp only [List.length_append, List.length_cons]
    omega
  | other named unknown white any =>
    cases named
    simp only [List.length_append, List.length_cons]
    omega

/-- At the closing brace the draft is finished. -/
theorem readMembers_close {blank : List Char} (white : Blank blank) (first : Bool) (fuel : Nat)
    (draft : δ) (rest : List Char) :
    record.readMembers (fuel + 1) first draft (blank ++ '\x7d' :: rest) =
      .ok (record.finishObject draft, blank ++ '\x7d' :: rest) := by
  simp [readMembers, nextKey?_close white, bind, Except.bind]

/-- The members of an object are read up to its brace, and what they say is taken up. -/
theorem readMembers_of {said : List (Saying δ)} (members : record.Members said text)
    (leads : Lead first lead) (rest : List Char) (fuel : Nat) (enough : text.length < fuel)
    (draft : δ) :
    ∃ left, record.readMembers fuel first draft (lead ++ (text ++ '\x7d' :: rest)) =
        .ok (takeUp said draft >>= record.finishObject, left) ∧
      ∀ taken, takeUp said draft = .ok taken → skipWhite left = '\x7d' :: rest := by
  induction members generalizing first lead fuel draft with
  | @last said text after member blank =>
    obtain ⟨fuel, rfl⟩ : ∃ least, fuel = least + 1 + 1 := by
      have long := member.length_pos
      simp only [List.length_append] at enough
      exact ⟨fuel - 2, by omega⟩
    obtain ⟨colon, read⟩ := readMembers_member member leads (ends_closer .object blank rest)
      (fuel + 1) draft
    simp only [Bracket.closer] at read
    rw [List.append_assoc, read]
    cases takeUp said.toList draft with
    | error cause => exact ⟨colon, rfl, fun taken same => by cases same⟩
    | ok next =>
      refine ⟨_, readMembers_close blank false fuel next rest, fun taken same => ?_⟩
      exact skipWhite_padded blank rfl rest
  | @more said others text after later member blank members ih =>
    obtain ⟨fuel, rfl⟩ : ∃ least, fuel = least + 1 := ⟨fuel - 1, by omega⟩
    have long := member.length_pos
    simp only [List.length_append, List.length_cons] at enough
    obtain ⟨colon, read⟩ := readMembers_member member leads
      (ends_comma blank (later ++ '\x7d' :: rest)) fuel draft
    have split : text ++ (after ++ ',' :: later) ++ '\x7d' :: rest =
        text ++ (after ++ ',' :: (later ++ '\x7d' :: rest)) := by simp
    rw [split, read, takeUp_append]
    cases takeUp said.toList draft with
    | error cause => exact ⟨colon, rfl, fun taken same => by cases same⟩
    | ok next =>
      have onward := ih (.later blank) fuel (by omega) next
      simp only [List.append_assoc, List.singleton_append] at onward
      exact onward

theorem closeObject_of {input : List Char} (closes : skipWhite input = '\x7d' :: rest)
    (draft : δ) : closeObject (.ok draft) input = .ok (draft, rest) := by
  simp [closeObject, closes]

theorem closeObject_error (cause : Cause) (input : List Char) :
    ∃ left, closeObject (.error cause : Except Cause δ) input = .error ⟨cause, left⟩ := by
  unfold closeObject
  split
  · contradiction
  · contradiction
  · contradiction
  · next same _ =>
    cases same
    exact ⟨_, rfl⟩
  · next same _ =>
    cases same
    exact ⟨_, rfl⟩

/-- An object is read as the draft that comes of its members. -/
theorem read_object {said : List (Saying δ)} {before : List Char} (blank : Blank before)
    (body : record.Body said text) (rest : List Char) :
    ∃ left, record.read (before ++ '\x7b' :: (text ++ '\x7d' :: rest)) =
      match takeUp said record.blank >>= record.finishObject with
      | .ok draft => .ok (draft, rest)
      | .error cause => .error ⟨cause, left⟩ := by
  obtain ⟨behind, read, closes⟩ : ∃ behind,
      record.readMembers ((text ++ '\x7d' :: rest).length + 1) true record.blank
          (text ++ '\x7d' :: rest) =
        .ok (takeUp said record.blank >>= record.finishObject, behind) ∧
      ∀ taken, takeUp said record.blank = .ok taken → skipWhite behind = '\x7d' :: rest := by
    cases body with
    | empty white =>
      refine ⟨_, readMembers_close white true _ record.blank rest, fun _ _ => ?_⟩
      exact skipWhite_padded white rfl rest
    | members members =>
      have enough : text.length < (text ++ '\x7d' :: rest).length + 1 := by
        simp only [List.length_append]
        omega
      exact readMembers_of members .first rest _ enough record.blank
  have brace := skipWhite_padded (c := '\x7b') blank rfl (text ++ '\x7d' :: rest)
  cases done : takeUp said record.blank >>= record.finishObject with
  | ok draft =>
    obtain ⟨taken, takes⟩ : ∃ taken, takeUp said record.blank = .ok taken := by
      cases takes : takeUp said record.blank with
      | ok taken => exact ⟨taken, rfl⟩
      | error cause => simp [takes, bind, Except.bind] at done
    rw [done] at read
    refine ⟨0, ?_⟩
    simp only [Record.read, brace, read, bind, Except.bind]
    exact closeObject_of (closes taken takes) draft
  | error cause =>
    obtain ⟨left, refused⟩ := closeObject_error (δ := δ) cause behind
    rw [done] at read
    refine ⟨left, ?_⟩
    simp only [Record.read, brace, read, bind, Except.bind]
    exact refused

end Reading

end Record

section Texts

variable {β : Type} {reader : Reader β} {text rest : List Char}

/-- A text is read if nothing but white space follows the value. -/
theorem readText_ok {value : β} (read : reader text = .ok (value, rest)) (blank : Blank rest) :
    readText reader text = .ok value := by
  have nothing : skipWhite rest = [] := by simpa [skipWhite] using skipWhite_blank blank []
  simp [readText, read, nothing, bind, Except.bind]

theorem readText_error {fault : Fault} (refused : reader text = .error fault) :
    readText reader text = .error fault := by
  simp [readText, refused, bind, Except.bind]

end Texts

end AppLifecycle.Json
