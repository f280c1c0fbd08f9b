import AppLifecycle.Json.Write
import AppLifecycle.Proofs.JsonObjects
import Mathlib.Data.List.Forall2

/-! Records and lists as they are written and read. A record reads back what is written of it in
either layout, because in both the values come in the order of its fields; a list reads back its
elements, each in a layout of its own. -/
namespace AppLifecycle.Json

/-- A reader takes a text as a value, and what it takes starts like one. -/
structure Reader.Accepts {β : Type} (reader : Reader β) (text : List Char) (value : β) : Prop where
  takes : reader.Takes text value
  starts : ∃ c more, text = c :: more ∧ Starts c

namespace Reader.Accepts

variable {β δ : Type} {reader : Reader β} {text : List Char} {value : β}

theorem map (accepts : reader.Accepts text value) (change : β → δ) :
    (reader.map change).Accepts text (change value) :=
  ⟨accepts.takes.map change, accepts.starts⟩

theorem length_pos (accepts : reader.Accepts text value) : 0 < text.length := by
  obtain ⟨c, more, rfl, -⟩ := accepts.starts
  exact Nat.succ_pos _

/-- A text that is accepted is read as a whole. -/
theorem readText (accepts : reader.Accepts text value) :
    Json.readText reader text = .ok value := by
  have read := accepts.takes [] trivial
  rw [List.append_nil] at read
  exact readText_ok read blank_nil

end Reader.Accepts

section Commas

/-- Texts with a comma in front of each. -/
def followed (texts : List (List Char)) : List Char := texts.flatMap (',' :: ·)

theorem separated_cons (text : List Char) (texts : List (List Char)) :
    separated (text :: texts) = text ++ followed texts := by
  induction texts generalizing text with
  | nil => simp [separated, followed]
  | cons second more ih => simp [separated, followed, ih second]

/-- Behind an element there is a comma or the end of the list. -/
theorem ends_followed (texts : List (List Char)) (rest : List Char) :
    Ends (followed texts ++ ']' :: rest) := by
  cases texts <;> simp [followed, Ends]

end Commas

section Elements

variable {β δ : Type} {first : Bool} {lead text rest : List Char}

namespace Record

theorem lead_comma : Lead false [','] := .later blank_nil

/-- The next element is found behind what leads to it. -/
theorem nextElement?_of (leads : Lead first lead) (starts : ∃ c more, text = c :: more ∧ Starts c)
    (rest : List Char) :
    nextElement? first (lead ++ (text ++ rest)) = .ok (some (text ++ rest)) := by
  obtain ⟨c, more, rfl, starts⟩ := starts
  have other : c ≠ ']' := starts.list
  have solid := skipWhite_solid starts.solid (more ++ rest)
  cases leads with
  | first => simp [nextElement?, solid]
  | later white =>
    have comma := skipWhite_padded (c := ',') white rfl
    simp only [nextElement?, List.cons_append, List.append_assoc, List.nil_append, comma,
      Char.reduceEq, imp_self, Bool.false_eq_true, ↓reduceIte, solid]
    split
    · contradiction
    · next same => exact absurd (List.cons.inj same).1 other
    · rfl

theorem nextElement?_close (first : Bool) (rest : List Char) :
    nextElement? first (']' :: rest) = .ok none := by
  simp [nextElement?, skipWhite_solid (c := ']') rfl]

/-- Members that give some fields their values, in the order of the fields and starting with the
first, and the draft that comes of that. -/
inductive Filled : List (Field δ) → δ → List (String × List Char) → δ → Prop where
  | rest (fields : List (Field δ)) (draft : δ) : Filled fields draft [] draft
  | field {field : Field δ} {fields : List (Field δ)} {draft after : δ} {text : List Char}
      {fill : δ → δ} {members : List (String × List Char)} (plain : Plain field.name.toList)
      (blank : field.isFilled draft = false) (accepts : field.read.Accepts text fill)
      (others : Filled fields (fill draft) members after) :
      Filled (field :: fields) draft ((field.name, text) :: members) after

variable {record : Record δ} {field : Field δ} {fields : List (Field δ)} {draft after : δ}
  {members : List (String × List Char)}

/-- The same for a field that is given by its parts. -/
theorem Filled.parts {name : String} {required : Bool} {isFilled : δ → Bool}
    {read : Reader (δ → δ)} {fill : δ → δ} (plain : Plain name.toList)
    (blank : isFilled draft = false) (accepts : read.Accepts text fill)
    (others : Filled fields (fill draft) members after) :
    Filled (⟨name, required, isFilled, read⟩ :: fields) draft ((name, text) :: members) after :=
  .field plain blank accepts others

section List

theorem readElements_close (fields : List (Field δ)) (first : Bool) (draft : δ)
    (rest : List Char) :
    readElements fields first draft (']' :: rest) = .ok (draft, ']' :: rest) := by
  cases fields with
  | nil => rfl
  | cons field fields => simp [readElements, nextElement?_close, bind, Except.bind]

theorem readElements_field {fill : δ → δ} (accepts : field.read.Accepts text fill)
    (leads : Lead first lead) (ends : Ends rest) (fields : List (Field δ)) (draft : δ) :
    readElements (field :: fields) first draft (lead ++ (text ++ rest)) =
      readElements fields false (fill draft) rest := by
  simp [readElements, nextElement?_of leads accepts.starts, accepts.takes rest ends, bind,
    Except.bind]

/-- The values of further fields are read one after the other. -/
theorem Filled.readElements_followed (filled : Filled fields draft members after)
    (rest : List Char) :
    readElements fields false draft (followed (members.map Prod.snd) ++ ']' :: rest) =
      .ok (after, ']' :: rest) := by
  induction filled with
  | rest fields draft => exact readElements_close fields false draft rest
  | @field field fields draft after text fill members plain blank accepts others ih =>
    have ends := ends_followed (members.map Prod.snd) rest
    have read := (readElements_field accepts lead_comma ends fields draft).trans ih
    simpa [followed] using read

/-- The values of the first fields are read up to the end of the list. -/
theorem Filled.readElements_separated (filled : Filled fields draft members after)
    (rest : List Char) :
    readElements fields true draft (separated (members.map Prod.snd) ++ ']' :: rest) =
      .ok (after, ']' :: rest) := by
  cases filled with
  | rest fields draft => exact readElements_close fields true draft rest
  | @field field fields draft after text fill members plain blank accepts others =>
    have ends := ends_followed (members.map Prod.snd) rest
    rw [List.map_cons, separated_cons, List.append_assoc,
      ← List.nil_append (text ++ _), readElements_field accepts .first ends]
    exact others.readElements_followed rest

/-- A list of the values of a record is read as the draft that they fill. -/
theorem Filled.read_list (filled : Filled record.fields record.blank members after)
    (complete : record.firstMissing? after = none) (rest : List Char) :
    record.read ('[' :: (separated (members.map Prod.snd) ++ ']' :: rest)) =
      .ok (after, rest) := by
  have finished : record.finishList after = .ok after := by simp [finishList, complete]
  have bracket := skipWhite_solid (c := '[') rfl (separated (members.map Prod.snd) ++ ']' :: rest)
  have closing := skipWhite_solid (c := ']') rfl rest
  simp [Record.read, bracket, filled.readElements_separated, finished, closeList, closing, bind,
    Except.bind]

end List

section Object

theorem find?_name (distinct : (fields.map Field.name).Nodup) (member : field ∈ fields) :
    fields.find? (fun other => other.name = field.name) = some field := by
  induction fields with
  | nil => cases member
  | cons first others ih =>
    obtain ⟨absent, distinct⟩ := List.nodup_cons.mp distinct
    rcases List.mem_cons.mp member with rfl | later
    · simp
    · have other : first.name ≠ field.name := fun same =>
        absent (same ▸ List.mem_map_of_mem later)
      simpa [other] using ih distinct later

/-- The members of an object say what fills the draft. -/
theorem Filled.members_of (filled : Filled fields draft members after)
    (known : fields ⊆ record.fields) (distinct : (record.fields.map Field.name).Nodup)
    (nonempty : members ≠ []) :
    ∃ said, record.Members said (separated (members.map writeMember)) ∧
      takeUp said draft = .ok after := by
  induction filled with
  | rest fields draft => exact absurd rfl nonempty
  | @field field fields draft after text fill members plain blank accepts others ih =>
    have member : record.Member (some (field, fill)) (writeMember (field.name, text)) := by
      have found := find?_name distinct (known List.mem_cons_self)
      have named := Key.of_plain plain
      simpa [writeMember, writeName] using Member.field named (by simpa using found) accepts.takes
    have fills (said : List (Saying δ)) :
        takeUp ((field, fill) :: said) draft = takeUp said (fill draft) := by simp [takeUp, blank]
    cases others with
    | rest fields draft =>
      exact ⟨_, by simpa [separated] using Members.last member blank_nil, fills []⟩
    | field _ _ _ _ =>
      obtain ⟨said, later, taken⟩ := ih (List.subset_of_cons_subset known) (by simp)
      exact ⟨_, by simpa [separated] using Members.more member blank_nil later,
        (fills said).trans taken⟩

/-- An object of the members of a record is read as the draft that they fill. -/
theorem Filled.read_object (filled : Filled record.fields record.blank members after)
    (distinct : (record.fields.map Field.name).Nodup)
    (complete : record.firstMissing? after = none) (rest : List Char) :
    record.read ('\x7b' :: (separated (members.map writeMember) ++ '\x7d' :: rest)) =
      .ok (after, rest) := by
  have finished : record.finishObject after = .ok after := by simp [finishObject, complete]
  obtain ⟨said, body, taken⟩ : ∃ said, record.Body said (separated (members.map writeMember)) ∧
      takeUp said record.blank = .ok after := by
    by_cases empty : members = []
    · subst empty
      generalize record.fields = fields at filled
      cases filled
      exact ⟨[], .empty blank_nil, rfl⟩
    · obtain ⟨said, members, taken⟩ := filled.members_of (List.Subset.refl _) distinct empty
      exact ⟨said, .members members, taken⟩
  obtain ⟨left, read⟩ := Record.read_object blank_nil body rest
  simpa [taken, finished, bind, Except.bind] using read

end Object

/-- What is written of a record in either layout is read as the draft that it fills. -/
theorem Filled.accepts (filled : Filled record.fields record.blank members after)
    (distinct : (record.fields.map Field.name).Nodup)
    (complete : record.firstMissing? after = none) (layout : Layout) :
    record.read.Accepts (writeRecord layout members) after := by
  cases layout with
  | object =>
    refine ⟨fun rest _ => ?_, _, _, rfl, starts_opener .object⟩
    simpa [writeRecord] using filled.read_object distinct complete rest
  | list =>
    refine ⟨fun rest _ => ?_, _, _, rfl, starts_opener .list⟩
    simpa [writeRecord, writeList] using filled.read_list complete rest

end Record

section Lists

variable {item : Reader β} {texts : List (List Char)} {value : β} {values : List β}

open Record

theorem readItems_close (item : Reader β) (fuel : Nat) (first : Bool) (rest : List Char) :
    readItems item (fuel + 1) first (']' :: rest) = .ok ([], ']' :: rest) := by
  simp [readItems, nextElement?_close, bind, Except.bind]

theorem readItems_item (accepts : item.Accepts text value) (leads : Lead first lead)
    (ends : Ends rest) (fuel : Nat) :
    readItems item (fuel + 1) first (lead ++ (text ++ rest)) = (do
      let (others, rest) ← readItems item fuel false rest
      .ok (value :: others, rest)) := by
  simp [readItems, nextElement?_of leads accepts.starts, accepts.takes rest ends, bind,
    Except.bind]

/-- Further elements are read one after the other, each with one unit of fuel. -/
theorem readItems_followed (accepted : List.Forall₂ item.Accepts texts values)
    (rest : List Char) (fuel : Nat) (enough : texts.length < fuel) :
    readItems item fuel false (followed texts ++ ']' :: rest) = .ok (values, ']' :: rest) := by
  induction accepted generalizing fuel with
  | nil =>
    obtain ⟨fuel, rfl⟩ := Nat.exists_eq_add_one_of_ne_zero (Nat.ne_zero_of_lt enough)
    exact readItems_close item fuel false rest
  | @cons text value texts values accepts others ih =>
    obtain ⟨fuel, rfl⟩ := Nat.exists_eq_add_one_of_ne_zero (Nat.ne_zero_of_lt enough)
    simp only [List.length_cons] at enough
    have read := readItems_item accepts lead_comma (ends_followed texts rest) fuel
    rw [ih fuel (by omega)] at read
    simpa [followed, bind, Except.bind] using read

theorem readItems_separated (accepted : List.Forall₂ item.Accepts texts values)
    (rest : List Char) (fuel : Nat) (enough : texts.length < fuel) :
    readItems item fuel true (separated texts ++ ']' :: rest) = .ok (values, ']' :: rest) := by
  obtain ⟨fuel, rfl⟩ := Nat.exists_eq_add_one_of_ne_zero (Nat.ne_zero_of_lt enough)
  cases accepted with
  | nil => exact readItems_close item fuel true rest
  | @cons text value texts values accepts others =>
    simp only [List.length_cons] at enough
    have read := readItems_item accepts .first (ends_followed texts rest) fuel
    rw [readItems_followed others rest fuel (by omega)] at read
    simpa [separated_cons, bind, Except.bind] using read

/-- No more elements than characters. -/
theorem length_le_separated (accepted : List.Forall₂ item.Accepts texts values) :
    texts.length ≤ (separated texts).length := by
  have long (texts : List (List Char)) : texts.length ≤ (followed texts).length := by
    induction texts with
    | nil => exact Nat.le_refl 0
    | cons text texts ih => simp [followed] at ih ⊢; omega
  cases accepted with
  | nil => exact Nat.le_refl 0
  | @cons text value texts values accepts others =>
    have nonempty := accepts.length_pos
    have more := long texts
    rw [separated_cons, List.length_append, List.length_cons]
    omega

/-- A list that is written of accepted texts is read as their values. -/
theorem readList_accepts (accepted : List.Forall₂ item.Accepts texts values) :
    (readList item).Accepts (writeList texts) values := by
  refine ⟨fun rest _ => ?_, _, _, rfl, starts_opener .list⟩
  have enough : texts.length < (separated texts ++ ']' :: rest).length + 1 := by
    have long := length_le_separated accepted
    simp only [List.length_append]
    omega
  have bracket := skipWhite_solid (c := '[') rfl (separated texts ++ ']' :: rest)
  have closing := skipWhite_solid (c := ']') rfl rest
  have read := readItems_separated accepted rest _ enough
  simp only [writeList, List.cons_append, List.append_assoc, List.nil_append, readList, bracket,
    read, closeList, closing, bind, Except.bind]

end Lists

end Elements

end AppLifecycle.Json
