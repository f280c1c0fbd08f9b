import AppLifecycle.Json.Config
import AppLifecycle.Proofs.JsonObjects

/-! Configurations as texts. A configuration may be written as any object that gives each of its
settings at most once, in any order, with any white space and among any members that are not
settings. What it says is what it gives, and the default of what it does not. -/
namespace AppLifecycle

open Json

/-- One of the choices that make up a configuration. -/
inductive Setting where
  | mode (mode : LoopMode)
  | pauseAudio (flag : Bool)
  | contextExternal (flag : Bool)

namespace Setting

/-- The key of a setting in data. -/
def key : Setting → String
  | mode _ => "mode"
  | pauseAudio _ => "pause_audio"
  | contextExternal _ => "context_external"

/-- The keys of the settings. -/
def keys : List String := ["mode", "pause_audio", "context_external"]

/-- The texts that may be given for a setting. -/
inductive Value : Setting → List Char → Prop where
  | mode {mode : LoopMode} {text : List Char} (choice : Choice mode.key.toList text) :
      Value (.mode mode) text
  | pauseAudio (flag : Bool) : Value (.pauseAudio flag) (truthWord flag)
  | contextExternal (flag : Bool) : Value (.contextExternal flag) (truthWord flag)

end Setting

namespace Config

/-- Whether a configuration is set as given. -/
def Has (config : Config) : Setting → Prop
  | .mode mode => config.mode = mode
  | .pauseAudio flag => config.pauseAudio = flag
  | .contextExternal flag => config.contextExternal = flag

/-- A member of a configuration: a setting, or something that is none and has any value. -/
inductive Member : Option Setting → List Char → Prop where
  | setting {setting : Setting} {key before value : List Char}
      (named : Key setting.key.toList key) (blank : Blank before)
      (given : setting.Value value) : Member (some setting) (key ++ before ++ value)
  | other {name key before value : List Char} (named : Key name key)
      (unknown : String.ofList name ∉ Setting.keys) (blank : Blank before)
      (any : Derives .value value) : Member none (key ++ before ++ value)

/-- Members with commas between them, and the settings that they give, in order. -/
inductive Members : List Setting → List Char → Prop where
  | last {given : Option Setting} {text after : List Char} (member : Member given text)
      (blank : Blank after) : Members given.toList (text ++ after)
  | more {given : Option Setting} {others : List Setting} {text after rest : List Char}
      (member : Member given text) (blank : Blank after) (later : Members others rest) :
      Members (given.toList ++ others) (text ++ after ++ ',' :: rest)

/-- An object in which settings are given, each as often as it is listed. -/
inductive Gives : List Setting → List Char → Prop where
  | nothing {before inside after : List Char} (front : Blank before) (blank : Blank inside)
      (back : Blank after) : Gives [] (before ++ '\x7b' :: inside ++ '\x7d' :: after)
  | members {given : List Setting} {before inside after : List Char} (front : Blank before)
      (members : Members given inside) (back : Blank after) :
      Gives given (before ++ '\x7b' :: inside ++ '\x7d' :: after)

theorem ext_has {config other : Config}
    (same : ∀ setting, config.Has setting ↔ other.Has setting) : config = other := by
  obtain ⟨mode, pauseAudio, contextExternal⟩ := config
  have modes := (same (.mode mode)).mp rfl
  have pauses := (same (.pauseAudio pauseAudio)).mp rfl
  have externals := (same (.contextExternal contextExternal)).mp rfl
  obtain ⟨_, _, _⟩ := other
  simp only [Has] at modes pauses externals
  rw [modes, pauses, externals]

end Config

namespace ConfigDraft

/-- Whether a setting has been read. -/
def HasRead (draft : ConfigDraft) : Setting → Prop
  | .mode mode => draft.mode = some mode
  | .pauseAudio flag => draft.pauseAudio = some flag
  | .contextExternal flag => draft.contextExternal = some flag

theorem has_of_hasRead {draft : ConfigDraft} {setting : Setting} (read : draft.HasRead setting) :
    draft.toConfig.Has setting := by
  cases setting <;> simp_all [HasRead, Config.Has, toConfig]

/-- What has not been read keeps its default. -/
theorem has_of_unread {draft : ConfigDraft} {setting : Setting}
    (unread : ∀ other : Setting, other.key = setting.key → ¬ draft.HasRead other) :
    draft.toConfig.Has setting ↔ Config.Has {} setting := by
  cases setting with
  | mode mode =>
    have none : draft.mode = none := Option.eq_none_iff_forall_ne_some.mpr fun mode =>
      unread (.mode mode) rfl
    simp [Config.Has, toConfig, none, Config.suspending]
  | pauseAudio flag =>
    have none : draft.pauseAudio = none := Option.eq_none_iff_forall_ne_some.mpr fun flag =>
      unread (.pauseAudio flag) rfl
    simp [Config.Has, toConfig, none, Config.suspending]
  | contextExternal flag =>
    have none : draft.contextExternal = none := Option.eq_none_iff_forall_ne_some.mpr fun flag =>
      unread (.contextExternal flag) rfl
    simp [Config.Has, toConfig, none, Config.suspending]

end ConfigDraft

namespace Setting

/-- The field of a configuration to which a setting belongs. -/
def field : Setting → Json.Field ConfigDraft
  | mode _ => Config.shape.fields[0]
  | pauseAudio _ => Config.shape.fields[1]
  | contextExternal _ => Config.shape.fields[2]

/-- What a setting does to a draft. -/
def fill : Setting → ConfigDraft → ConfigDraft
  | mode chosen => fun draft => { draft with mode := some chosen }
  | pauseAudio flag => fun draft => { draft with pauseAudio := some flag }
  | contextExternal flag => fun draft => { draft with contextExternal := some flag }

/-- What a member that gives a setting read. -/
def saying (setting : Setting) : Record.Saying ConfigDraft := (setting.field, setting.fill)

theorem known (setting : Setting) :
    Config.shape.fields.find? (fun field => field.name = String.ofList setting.key.toList) =
      some setting.field := by
  rw [String.ofList_toList]
  cases setting <;> rfl

theorem unknown {name : String} (unknown : name ∉ keys) :
    Config.shape.fields.find? (fun field => field.name = name) = none := by
  refine List.find?_eq_none.mpr fun field member => ?_
  have named : field.name ∈ keys := List.mem_map_of_mem (f := Json.Field.name) member
  simpa using fun same : field.name = name => unknown (same ▸ named)

theorem isFilled_fill (setting other : Setting) (draft : ConfigDraft) :
    other.field.isFilled (setting.fill draft) = true ↔
      other.key = setting.key ∨ other.field.isFilled draft = true := by
  cases setting <;> cases other <;> simp [field, fill, key, Config.shape]

theorem hasRead_fill_self (setting : Setting) (draft : ConfigDraft) :
    (setting.fill draft).HasRead setting := by
  cases setting <;> rfl

theorem hasRead_fill {setting other : Setting} (apart : other.key ≠ setting.key)
    (draft : ConfigDraft) : (setting.fill draft).HasRead other ↔ draft.HasRead other := by
  cases setting <;> cases other <;> first | exact absurd rfl apart | rfl

theorem takes {setting : Setting} {before value : List Char} (blank : Blank before)
    (given : setting.Value value) : setting.field.read.Takes (before ++ value) setting.fill := by
  cases given with
  | @mode mode _ choice =>
    have known : LoopMode.variants.lookup (String.ofList mode.key.toList) = some mode := by
      rw [String.ofList_toList]
      cases mode <;> rfl
    exact (readOneOf_takes known blank choice).map fun chosen => fill (.mode chosen)
  | pauseAudio flag =>
    exact (readBoolean_takes blank flag).map fun chosen => fill (.pauseAudio chosen)
  | contextExternal flag =>
    exact (readBoolean_takes blank flag).map fun chosen => fill (.contextExternal chosen)

theorem name_field_mem (setting : Setting) : setting.field.name ∈ keys := by
  cases setting <;> simp [field, Config.shape, keys]

/-- Settings of which none was read before and none is given twice are all read. -/
theorem takeUp_once (given : List Setting) (once : (given.map key).Nodup) (draft : ConfigDraft)
    (fresh : ∀ setting ∈ given, ¬ setting.field.isFilled draft = true) :
    ∃ taken, Record.takeUp (given.map saying) draft = .ok taken ∧
      (∀ setting ∈ given, taken.HasRead setting) ∧
      ∀ setting, setting.key ∉ given.map key →
        (taken.HasRead setting ↔ draft.HasRead setting) := by
  induction given generalizing draft with
  | nil => exact ⟨draft, rfl, by simp, fun _ _ => Iff.rfl⟩
  | cons first rest ih =>
    obtain ⟨unlisted, onceRest⟩ := List.nodup_cons.mp once
    have unfilled := fresh first List.mem_cons_self
    have freshRest : ∀ setting ∈ rest, ¬ setting.field.isFilled (first.fill draft) = true := by
      intro setting member filled
      rcases (isFilled_fill ..).mp filled with same | before
      · exact unlisted (List.mem_map.mpr ⟨setting, member, same⟩)
      · exact fresh setting (List.mem_cons_of_mem _ member) before
    obtain ⟨taken, takes, listed, others⟩ := ih onceRest (first.fill draft) freshRest
    refine ⟨taken, by simpa [Record.takeUp, saying, unfilled] using takes, ?_, ?_⟩
    · intro setting member
      rcases List.mem_cons.mp member with rfl | later
      · exact (others setting unlisted).mpr (hasRead_fill_self setting draft)
      · exact listed setting later
    · intro setting absent
      obtain ⟨apart, absentRest⟩ := not_or.mp (mt List.mem_cons.mpr absent)
      exact (others setting absentRest).trans (hasRead_fill apart draft)

/-- A setting that was read before is not read again. -/
theorem takeUp_filled (given : List Setting) (draft : ConfigDraft) {setting : Setting}
    (member : setting ∈ given) (filled : setting.field.isFilled draft = true) :
    ∃ name ∈ keys, Record.takeUp (given.map saying) draft = .error (.duplicateField name) := by
  induction given generalizing draft with
  | nil => contradiction
  | cons first rest ih =>
    by_cases here : first.field.isFilled draft = true
    · exact ⟨_, first.name_field_mem, by simp [Record.takeUp, saying, here]⟩
    · have later : setting ∈ rest := by
        rcases List.mem_cons.mp member with rfl | later
        · exact absurd filled here
        · exact later
      have still := (isFilled_fill first setting draft).mpr (.inr filled)
      simpa [Record.takeUp, saying, here] using ih (first.fill draft) later still

/-- A setting that is given twice is not read again. -/
theorem takeUp_again (given : List Setting) (again : ¬ (given.map key).Nodup)
    (draft : ConfigDraft) :
    ∃ name ∈ keys, Record.takeUp (given.map saying) draft = .error (.duplicateField name) := by
  induction given generalizing draft with
  | nil => exact absurd List.nodup_nil again
  | cons first rest ih =>
    by_cases here : first.field.isFilled draft = true
    · exact takeUp_filled _ draft List.mem_cons_self here
    · suffices ∃ name ∈ keys, Record.takeUp (rest.map saying) (first.fill draft) =
          .error (.duplicateField name) by
        simpa [Record.takeUp, saying, here] using this
      by_cases listed : first.key ∈ rest.map key
      · obtain ⟨setting, member, same⟩ := List.mem_map.mp listed
        have filled := (isFilled_fill first setting draft).mpr (.inl same)
        exact takeUp_filled rest (first.fill draft) member filled
      · exact ih (fun once => again (List.nodup_cons.mpr ⟨listed, once⟩)) (first.fill draft)

end Setting

namespace Config

theorem Member.record {given : Option Setting} {text : List Char} (member : Member given text) :
    shape.Member (given.map Setting.saying) text := by
  cases member with
  | @setting setting key before value named blank given =>
    rw [List.append_assoc]
    exact .field named setting.known (Setting.takes blank given)
  | other named unknown blank any =>
    rw [List.append_assoc]
    exact .other named (Setting.unknown unknown) blank any

theorem Members.record {given : List Setting} {text : List Char} (members : Members given text) :
    shape.Members (given.map Setting.saying) text := by
  induction members with
  | last member blank =>
    rw [← Option.toList_map]
    exact .last member.record blank
  | more member blank later ih =>
    rw [List.map_append, ← Option.toList_map, List.append_assoc]
    exact .more member.record blank ih

theorem Gives.object {given : List Setting} {text : List Char} (gives : Gives given text) :
    ∃ before inside after, text = before ++ '\x7b' :: (inside ++ '\x7d' :: after) ∧
      Blank before ∧ shape.Body (given.map Setting.saying) inside ∧ Blank after := by
  cases gives with
  | @nothing before inside after front blank back =>
    exact ⟨before, inside, after, by simp, front, .empty blank, back⟩
  | @members given before inside after front members back =>
    exact ⟨before, inside, after, by simp, front, .members members.record, back⟩

section Reading

variable {given : List Setting} {text : String} (gives : Gives given text.toList)

include gives

/-- A text is read as what comes of the settings that it gives. -/
theorem ofJson?_of_taken {draft : ConfigDraft}
    (taken : Record.takeUp (given.map Setting.saying) {} = .ok draft) :
    ofJson? text = .ok draft.toConfig := by
  obtain ⟨before, inside, after, split, front, body, back⟩ := gives.object
  obtain ⟨left, read⟩ := Record.read_object front body after
  rw [show shape.blank = {} from rfl, taken, ← split] at read
  have read : shape.read text.toList = .ok (draft, after) := read
  have whole : Config.read text.toList = .ok (draft.toConfig, after) := by
    simp [Config.read, Reader.map, read, bind, Except.bind]
  exact readText_ok whole back

theorem ofJson?_of_refused {cause : Cause}
    (refused : Record.takeUp (given.map Setting.saying) {} = .error cause) :
    ∃ left, ofJson? text = .error ⟨cause, left⟩ := by
  obtain ⟨before, inside, after, split, front, body, -⟩ := gives.object
  obtain ⟨left, read⟩ := Record.read_object front body after
  rw [show shape.blank = {} from rfl, refused, ← split] at read
  have read : shape.read text.toList = .error ⟨cause, left⟩ := read
  refine ⟨left, readText_error ?_⟩
  simp [Config.read, Reader.map, read, bind, Except.bind]

/-- A text that gives no setting twice sets what it gives, and leaves the rest at its default. -/
theorem ofJson?_of_once (once : (given.map Setting.key).Nodup) :
    ∃ config, ofJson? text = .ok config ∧ (∀ setting ∈ given, config.Has setting) ∧
      ∀ setting, setting.key ∉ given.map Setting.key →
        (config.Has setting ↔ Has {} setting) := by
  have blank (setting : Setting) : ¬ setting.field.isFilled {} = true := by
    cases setting <;> simp [Setting.field, shape]
  have unread (setting : Setting) : ¬ ConfigDraft.HasRead {} setting := by
    cases setting <;> simp [ConfigDraft.HasRead]
  obtain ⟨draft, taken, listed, others⟩ :=
    Setting.takeUp_once given once {} fun setting _ => blank setting
  refine ⟨draft.toConfig, ofJson?_of_taken gives taken, fun setting member => ?_,
    fun setting absent => ConfigDraft.has_of_unread fun other same => ?_⟩
  · exact ConfigDraft.has_of_hasRead (listed setting member)
  · rw [others other (same ▸ absent)]
    exact unread other

end Reading

/-- Which settings a configuration has follows from one of each kind. -/
theorem has_iff_of_key {config : Config} {setting other : Setting}
    (same : other.key = setting.key) (has : config.Has setting) :
    config.Has other ↔ other = setting := by
  cases setting <;> cases other <;> simp_all [Has, Setting.key, eq_comm]

end Config

/-- An object that gives each of its settings at most once is read as the configuration that is
set as given and by default otherwise, so neither the order of its members nor those that are no
settings make a difference. An object that gives a setting twice is refused. -/
theorem config_is_what_its_text_gives (text : String) (given : List Setting)
    (gives : Config.Gives given text.toList) :
    ((given.map Setting.key).Nodup → ∃ config, Config.ofJson? text = .ok config ∧
      (∀ setting ∈ given, config.Has setting) ∧
      (∀ setting, setting.key ∉ given.map Setting.key →
        (config.Has setting ↔ Config.Has {} setting)) ∧
      ∀ (other : String) (shuffled : List Setting), Config.Gives shuffled other.toList →
        shuffled.Perm given → Config.ofJson? other = .ok config) ∧
    (¬ (given.map Setting.key).Nodup → ∃ fault, Config.ofJson? text = .error fault ∧
      ∃ name ∈ Setting.keys, fault.cause = .duplicateField name) := by
  constructor
  · intro once
    obtain ⟨config, read, has, others⟩ := Config.ofJson?_of_once gives once
    refine ⟨config, read, has, others, fun other shuffled givesOther shuffles => ?_⟩
    have keys : (shuffled.map Setting.key).Perm (given.map Setting.key) := shuffles.map _
    obtain ⟨config', readOther, has', others'⟩ :=
      Config.ofJson?_of_once givesOther (keys.nodup_iff.mpr once)
    suffices config' = config by rw [readOther, this]
    refine Config.ext_has fun setting => ?_
    by_cases listed : setting.key ∈ given.map Setting.key
    · obtain ⟨one, member, same⟩ := List.mem_map.mp listed
      have here := Config.has_iff_of_key same.symm (has one member)
      have there := Config.has_iff_of_key same.symm (has' one (shuffles.mem_iff.mpr member))
      exact there.trans here.symm
    · have unlisted : setting.key ∉ shuffled.map Setting.key := mt keys.mem_iff.mp listed
      exact (others' setting unlisted).trans (others setting listed).symm
  · intro again
    obtain ⟨name, member, refused⟩ := Setting.takeUp_again given again {}
    obtain ⟨left, refuses⟩ := Config.ofJson?_of_refused gives refused
    exact ⟨⟨.duplicateField name, left⟩, refuses, name, member, rfl⟩

namespace Rehearsal

/-- A key with an escape and a value in the longer form, and among the settings something else
that is nested, whose key is a pair of surrogates and in which one stands alone. -/
def nestedText : String :=
  "\x7b \"\\u006dode\" : \x7b\"non_blocking\":null\x7d, \"\\ud83d\\ude00\":" ++
    "[-0.5E+3 , \x7b\"\\udfff\":[]\x7d],\"pause_audio\":false\x7d\n"

/-- The same settings the other way round. -/
def plainText : String := "\x7b\"pause_audio\":false,\"mode\":\"non_blocking\"\x7d"

def repeatedText : String := "\x7b\"pause_audio\":false,\"pause_audio\":true\x7d"

theorem silent_member (flag : Bool) :
    Config.Member (some (.pauseAudio flag))
      ('"' :: "pause_audio".toList ++ ['"'] ++ [':'] ++ [] ++ truthWord flag) := by
  have named : Key "pause_audio".toList ('"' :: "pause_audio".toList ++ ['"'] ++ [':']) :=
    .of_plain (by decide)
  exact .setting named blank_nil (.pauseAudio flag)

theorem gives_nestedText :
    Config.Gives [.mode .ticking, .pauseAudio false] nestedText.toList := by
  have space : Blank [' '] := by decide
  have feed : Blank ['\n'] := by decide
  have escaped : CodeUnit ['0', '0', '6', 'd'] 0x6d :=
    .digits (k := 0) (l := 0) (m := 6) (n := 13) (.inl rfl) (.inl rfl) (.inl rfl) (.inl rfl)
  have others : Spells ['o', 'd', 'e'] ['o', 'd', 'e'] := .of_plain (by decide)
  have ticking : Config.Member (some (.mode .ticking)) _ :=
    .setting (.spelled space (.scalar escaped (by decide) others) space) space
      (.mode (.tagged (.of_plain (by decide)) blank_nil blank_nil))
  have high : CodeUnit ['d', '8', '3', 'd'] 0xd83d :=
    .digits (k := 13) (l := 8) (m := 3) (n := 13) (.inl rfl) (.inl rfl) (.inl rfl) (.inl rfl)
  have low : CodeUnit ['d', 'e', '0', '0'] 0xde00 :=
    .digits (k := 13) (l := 14) (m := 0) (n := 0) (.inl rfl) (.inl rfl) (.inl rfl) (.inl rfl)
  have lone : CodeUnit ['d', 'f', 'f', 'f'] 0xdfff :=
    .digits (k := 13) (l := 15) (m := 15) (n := 15) (.inl rfl) (.inl rfl) (.inl rfl) (.inl rfl)
  have half : Fraction ['.', '5'] := .digits (by decide)
  have power : Exponent ['E', '+', '3'] :=
    @Exponent.power 'E' ['+'] ['3'] (by decide) (by decide) (by decide)
  have object : Derives .value _ :=
    .filled .object (.last (.object blank_nil (.unit lone .nil) blank_nil blank_nil)
      (.empty .list blank_nil) blank_nil)
  have list : Derives .value _ :=
    .filled .list (.more (.list blank_nil) (.negative (.parts .zero half power)) space
      (.last (.list space) object blank_nil))
  have unknown : Config.Member none _ :=
    .other (.spelled space (.pair high low (by decide) (by decide) .nil) blank_nil) (by decide)
      blank_nil list
  exact .members blank_nil (.more ticking blank_nil (.more unknown blank_nil
    (.last (silent_member false) blank_nil))) feed

theorem gives_plainText :
    Config.Gives [.pauseAudio false, .mode .ticking] plainText.toList := by
  have ticking : Config.Member (some (.mode .ticking)) _ :=
    .setting (.of_plain (by decide)) blank_nil (.mode (.plain (.of_plain (by decide))))
  exact .members blank_nil (.more (silent_member false) blank_nil (.last ticking blank_nil))
    blank_nil

theorem gives_repeatedText :
    Config.Gives [.pauseAudio false, .pauseAudio true] repeatedText.toList := by
  exact .members blank_nil (.more (silent_member false) blank_nil
    (.last (silent_member true) blank_nil)) blank_nil

end Rehearsal

/-- Two ways of writing a configuration come to the same; a repeated key is refused. -/
theorem nested_text_is_read_as_the_plain_one :
    (∃ config, Config.ofJson? Rehearsal.nestedText = .ok config ∧
      Config.ofJson? Rehearsal.plainText = .ok config ∧
      config.mode = .ticking ∧ config.pauseAudio = false ∧ config.contextExternal = false) ∧
    ∃ fault, Config.ofJson? Rehearsal.repeatedText = .error fault := by
  constructor
  · obtain ⟨config, read, has, others, alike⟩ :=
      (config_is_what_its_text_gives _ _ Rehearsal.gives_nestedText).1 (by decide)
    exact ⟨config, read, alike _ _ Rehearsal.gives_plainText (.swap ..),
      has (.mode .ticking) (by simp), has (.pauseAudio false) (by simp),
      (others (.contextExternal false) (by decide)).mpr rfl⟩
  · obtain ⟨fault, refused, -⟩ :=
      (config_is_what_its_text_gives _ _ Rehearsal.gives_repeatedText).2 (by decide)
    exact ⟨fault, refused⟩

end AppLifecycle
