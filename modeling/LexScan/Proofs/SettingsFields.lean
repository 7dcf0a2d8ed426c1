import LexScan.Proofs.JsonSkipping
import LexScan.Proofs.SavedSettings

/-! Settings are read by field. The members of the object may come in any order and layout, and
members that name no field may stand between them; what is read is what each named field is given,
and the default for the others. A field that is given twice is refused. -/
namespace LexScan.Settings

open Json Text

/-! ### Members -/

/-- A field together with a value for it. -/
inductive Setting where
  | limit (value : Nat)
  | format (value : Format)
  | symbols (shown : Bool)
  | stats (shown : Bool)
deriving DecidableEq, Repr

def Setting.field : Setting → Field
  | .limit _ => .maxIdentifierLength
  | .format _ => .format
  | .symbols _ => .showSymbols
  | .stats _ => .showStats

/-- What some settings have for a field. -/
def get (s : Settings) : Field → Setting
  | .maxIdentifierLength => .limit s.maxIdentifierLength
  | .format => .format s.format
  | .showSymbols => .symbols s.showSymbols
  | .showStats => .stats s.showStats

/-- How a value may be written: as plain digits below the 64-bit bound, as the name of a format
with any escapes, or as a truth value. -/
inductive SettingText : Setting → List Char → Prop where
  | limit {digits : List Char} (whole : WholePart digits)
      (fits : Nat.ofDigitChars 10 digits 0 < UInt64.size) :
      SettingText (.limit (Nat.ofDigitChars 10 digits 0)) digits
  | format {format : Format} {body : List Char} (written : StringBody format.name.toList body) :
      SettingText (.format format) ('"' :: body)
  | symbols (shown : Bool) : SettingText (.symbols shown) (boolText shown).toList
  | stats (shown : Bool) : SettingText (.stats shown) (boolText shown).toList

/-- A member of the object: a setting, or anything else under a name that is no field's. -/
inductive Entry where
  | known (setting : Setting)
  | other (name : String) (value : Value)

def Entry.setting? : Entry → Option Setting
  | .known setting => some setting
  | .other _ _ => none

/-- The settings among some members, in their order. -/
def settingsOf (entries : List Entry) : List Setting := entries.filterMap Entry.setting?

/-- The fields that some members name, in their order. -/
def fieldsOf (entries : List Entry) : List Field := (settingsOf entries).map Setting.field

inductive EntryText : Entry → List Char → Prop where
  | known {setting : Setting} {before body middle gap text after : List Char}
      (lead : Blanks before) (quoted : StringBody setting.field.name.toList body)
      (space : Blanks middle) (space' : Blanks gap) (written : SettingText setting text)
      (trail : Blanks after) :
      EntryText (.known setting)
        (before ++ '"' :: (body ++ (middle ++ ':' :: (gap ++ (text ++ after)))))
  | other {name : String} {value : Value} {text : List Char} (unknown : Field.ofName? name = none)
      (written : MemberText (name, value) text) : EntryText (.other name value) text

/-- An object with given members, with blanks around it. -/
inductive ObjectText : List Entry → List Char → Prop where
  | object {parts : List (Entry × List Char)} {before inner after : List Char}
      (lead : Blanks before) (written : ∀ part ∈ parts, EntryText part.1 part.2)
      (fills : Fills (parts.map Prod.snd) inner) (trail : Blanks after) :
      ObjectText (parts.map Prod.fst) (before ++ '{' :: (inner ++ '}' :: after))

/-! ### Objects are JSON -/

def Setting.value : Setting → Value
  | .limit value => .number value
  | .format value => .string value.name
  | .symbols shown => .bool shown
  | .stats shown => .bool shown

def Entry.member : Entry → String × Value
  | .known setting => (setting.field.name, setting.value)
  | .other name value => (name, value)

theorem SettingText.valueText {setting : Setting} {text : List Char}
    (written : SettingText setting text) : ValueText setting.value text := by
  have flag (shown : Bool) : ValueText (.bool shown) (boolText shown).toList := by
    cases shown
    · exact .scalar .no
    · exact .scalar .yes
  cases written with
  | limit whole fits =>
      have numeral := ScalarText.number (numeral_of_wholePart whole)
      rw [numeralValue_of_digits whole.parts] at numeral
      exact .scalar numeral
  | @format format body written =>
      have string := ScalarText.string written
      rw [String.ofList_toList] at string
      exact .scalar string
  | symbols shown => exact flag shown
  | stats shown => exact flag shown

theorem EntryText.memberText {entry : Entry} {text : List Char} (written : EntryText entry text) :
    MemberText entry.member text := by
  cases written with
  | known lead quoted space space' written trail =>
      have named := MemberText.named lead quoted space
        (ItemText.spaced space' written.valueText trail)
      rwa [String.ofList_toList] at named
  | other unknown written => exact written

/-- The object is a text of the grammar and stands for its members. -/
theorem ObjectText.itemText {entries : List Entry} {text : List Char}
    (written : ObjectText entries text) : ItemText (.object (entries.map Entry.member)) text := by
  cases written with
  | @object parts before inner after lead written fills trail =>
      have members : ∀ part ∈ parts.map fun part => (part.1.member, part.2),
          MemberText part.1 part.2 := by
        simp only [List.forall_mem_map]
        exact fun part member => (written part member).memberText
      have object := ValueText.object members (by simpa [Function.comp_def] using fills)
      simpa [Function.comp_def] using ItemText.spaced lead object trail

/-! ### What is given -/

/-- Settings with one field that need not have its default. -/
def Setting.alone : Setting → Settings
  | .limit value => { maxIdentifierLength := value }
  | .format value => { format := value }
  | .symbols shown => { showSymbols := shown }
  | .stats shown => { showStats := shown }

namespace Given

def get? (given : Given) : Field → Option Setting
  | .maxIdentifierLength => given.maxIdentifierLength.map .limit
  | .format => given.format.map .format
  | .showSymbols => given.showSymbols.map .symbols
  | .showStats => given.showStats.map .stats

theorem has_eq (given : Given) (field : Field) : given.has field = (given.get? field).isSome := by
  cases field <;> simp [has, get?]

theorem get_toSettings (given : Given) (field : Field) :
    given.toSettings.get field = (given.get? field).getD (Settings.default.get field) := by
  cases field <;> exact (Option.getD_map _ _ _).symm

def put (given : Given) (setting : Setting) : Given := given.assign setting.alone setting.field

theorem get?_put_self (given : Given) (setting : Setting) :
    (given.put setting).get? setting.field = some setting := by
  cases setting <;> rfl

theorem get?_put_of_ne (given : Given) {setting : Setting} {field : Field}
    (other : field ≠ setting.field) : (given.put setting).get? field = given.get? field := by
  cases setting <;> cases field <;> first | rfl | exact absurd rfl other

/-- Takes settings one after the other, up to a field that is there already. -/
def putAll (given : Given) : List Setting → Except Field Given
  | [] => .ok given
  | setting :: later =>
      if given.has setting.field then .error setting.field else (given.put setting).putAll later

theorem putAll_append (given : Given) (first second : List Setting) :
    given.putAll (first ++ second) = given.putAll first >>= (putAll · second) := by
  induction first generalizing given with
  | nil => rfl
  | cons setting first ih =>
      by_cases there : given.has setting.field
      · simp [putAll, there, bind, Except.bind]
      · simp [putAll, there, ih]

/-- All of some settings have been taken, each for a field of its own. -/
structure Gathers (given : Given) (settings : List Setting) (after : Given) : Prop where
  distinct : (settings.map Setting.field).Nodup
  fresh : ∀ setting ∈ settings, given.has setting.field = false
  taken : ∀ setting ∈ settings, after.get? setting.field = some setting
  others : ∀ field ∉ settings.map Setting.field, after.get? field = given.get? field

theorem has_put_of_ne (given : Given) {setting : Setting} {field : Field}
    (other : field ≠ setting.field) : (given.put setting).has field = given.has field := by
  rw [has_eq, has_eq, get?_put_of_ne given other]

theorem Gathers.cons {given after : Given} {setting : Setting} {later : List Setting}
    (absent : given.has setting.field = false)
    (gathers : Gathers (given.put setting) later after) :
    Gathers given (setting :: later) after := by
  have unlike : ∀ other ∈ later, other.field ≠ setting.field := by
    intro other listed same
    have fresh := gathers.fresh other listed
    rw [same, has_eq, get?_put_self] at fresh
    cases fresh
  have unlisted : setting.field ∉ later.map Setting.field := by
    intro member
    obtain ⟨other, listed, same⟩ := List.mem_map.1 member
    exact unlike other listed same
  refine ⟨List.nodup_cons.2 ⟨unlisted, gathers.distinct⟩, ?_, ?_, ?_⟩
  · rintro other (_ | ⟨_, listed⟩)
    · exact absent
    · rw [← has_put_of_ne given (unlike other listed)]
      exact gathers.fresh other listed
  · rintro other (_ | ⟨_, listed⟩)
    · rw [gathers.others _ unlisted, get?_put_self]
    · exact gathers.taken other listed
  · intro field unmentioned
    rw [List.map_cons, List.mem_cons, not_or] at unmentioned
    rw [gathers.others field unmentioned.2, get?_put_of_ne given unmentioned.1]

/-- Either all settings are taken, or a field is refused that was there or comes twice. -/
theorem putAll_cases (given : Given) (settings : List Setting) :
    (∃ after, given.putAll settings = .ok after ∧ Gathers given settings after) ∨
    ∃ field, given.putAll settings = .error field ∧ field ∈ settings.map Setting.field ∧
      (given.has field = true ∨ 1 < (settings.map Setting.field).count field) := by
  induction settings generalizing given with
  | nil => exact .inl ⟨given, rfl, by simp, by simp, by simp, by simp⟩
  | cons setting later ih =>
      cases there : given.has setting.field with
      | true => exact .inr ⟨setting.field, by simp [putAll, there], by simp, .inl there⟩
      | false =>
          have here : given.putAll (setting :: later) = (given.put setting).putAll later := by
            simp [putAll, there]
          rw [here]
          rcases ih (given.put setting) with ⟨after, taken, gathers⟩ | ⟨field, refused, listed, why⟩
          · exact .inl ⟨after, taken, gathers.cons there⟩
          · refine .inr ⟨field, refused, List.mem_cons_of_mem _ listed, ?_⟩
            have once : 1 ≤ (later.map Setting.field).count field := List.count_pos_iff.2 listed
            by_cases same : field = setting.field
            · subst same
              exact .inr (by rw [List.map_cons, List.count_cons_self]; omega)
            · rw [List.map_cons, List.count_cons_of_ne (Ne.symm same)]
              rwa [has_put_of_ne given same] at why

theorem putAll_settingsOf_cons (given : Given) (entry : Entry) (entries : List Entry) :
    given.putAll (settingsOf (entry :: entries)) =
      given.putAll entry.setting?.toList >>= (putAll · (settingsOf entries)) := by
  have parts : settingsOf (entry :: entries) = entry.setting?.toList ++ settingsOf entries := by
    cases entry <;> rfl
  rw [parts, putAll_append]

end Given

/-! ### Reading members -/

/-- A reader does what taking settings comes to: it reads them all and stops before a text, or it
refuses the same field. -/
def Follows (rest : List Char) : Except Field Given → Except Flaw (Given × List Char) → Prop
  | .ok given, read => read = .ok (given, rest)
  | .error field, read => ∃ unread, read = .error ⟨.duplicateField field.name, unread⟩

theorem Follows.bind {middle rest : List Char} {first : Except Field Given}
    {read : Except Flaw (Given × List Char)} {more : Given → Except Field Given}
    {next : Given → List Char → Except Flaw (Given × List Char)}
    (follows : Follows middle first read)
    (later : ∀ given, Follows rest (more given) (next given middle)) :
    Follows rest (first >>= more) (read >>= fun result => next result.1 result.2) := by
  cases first with
  | ok given =>
      rw [show read = _ from follows]
      exact later given
  | error field =>
      obtain ⟨unread, refused⟩ := follows
      rw [refused]
      exact ⟨unread, rfl⟩

theorem refuseDuplicate_eq {α : Type} (field : Field) (text : List Char) :
    ∃ unread, (refuseDuplicate field text : Except Flaw α) =
      .error ⟨.duplicateField field.name, unread⟩ := by
  unfold refuseDuplicate
  split <;> exact ⟨_, rfl⟩

theorem SettingText.fieldText {setting : Setting} {text : List Char}
    (written : SettingText setting text) :
    FieldText setting.alone setting.field text ∧
      setting.alone.maxIdentifierLength ≤ maxSignificand := by
  have usual : Scanner.defaultLimit ≤ maxSignificand := by decide
  cases written with
  | limit whole fits => exact ⟨.limit whole rfl, Nat.le_of_lt_succ fits⟩
  | format written => exact ⟨.format written, usual⟩
  | symbols shown => exact ⟨.symbols, usual⟩
  | stats shown => exact ⟨.stats, usual⟩

theorem readMember_of_other {given : Given} {name body middle text rest : List Char} {value : Value}
    (unknown : Field.ofName? (String.ofList name) = none) (quoted : StringBody name body)
    (space : Blanks middle) (written : ItemText value text) (stops : Stops rest) :
    ∃ after, Blanks after ∧ readMember given (body ++ (middle ++ ':' :: (text ++ rest))) =
      .ok (given, after ++ rest) := by
  obtain ⟨after, blank, skipped⟩ := written.skipValue stops
  refine ⟨after, blank, ?_⟩
  unfold readMember
  rw [readString_of_stringBody quoted]
  simp [bind, Except.bind, unknown, readColon_append space, skipped]

theorem readMember_of_duplicate {given : Given} {field : Field} {body : List Char}
    (there : given.has field = true) (quoted : StringBody field.name.toList body)
    (rest : List Char) :
    ∃ unread, readMember given (body ++ rest) = .error ⟨.duplicateField field.name, unread⟩ := by
  obtain ⟨unread, refused⟩ := refuseDuplicate_eq (α := Given × List Char) field rest
  refine ⟨unread, ?_⟩
  unfold readMember
  rw [readString_of_stringBody quoted]
  simp [bind, Except.bind, Field.ofName?_name, there, refused]

/-- A member is read behind its opening quote, up to the blanks behind its value. -/
theorem readMember_of_entryText {entry : Entry} {text rest : List Char}
    (written : EntryText entry text) (stops : Stops rest) (given : Given) :
    ∃ before name after, Blanks before ∧ Blanks after ∧ text ++ rest = before ++ '"' :: name ∧
      Follows (after ++ rest) (given.putAll entry.setting?.toList) (readMember given name) := by
  cases written with
  | @known setting before body middle gap text after lead quoted space space' written trail =>
      refine ⟨before, body ++ (middle ++ ':' :: (gap ++ (text ++ (after ++ rest)))), after, lead,
        trail, by simp, ?_⟩
      have single : given.putAll (Entry.known setting).setting?.toList =
          if given.has setting.field then .error setting.field else .ok (given.put setting) := rfl
      rw [single]
      cases there : given.has setting.field with
      | false =>
          exact readMember_of_fieldText written.fieldText.2 there quoted space
            written.fieldText.1 space' (stops.ends trail)
      | true => exact readMember_of_duplicate there quoted _
  | other unknown written =>
      cases written with
      | @named name before body middle item value lead quoted space written =>
          obtain ⟨after, blank, read⟩ := readMember_of_other unknown quoted space written stops
          exact ⟨before, _, after, lead, blank, by simp, read⟩

theorem readMoreMembers_of_quote {given : Given} {before gap name : List Char}
    (lead : Blanks before) (blank : Blanks gap) :
    readMoreMembers given (before ++ ',' :: (gap ++ '"' :: name)) =
      readMember given name >>= fun result => readMoreMembers result.1 result.2 := by
  cases member : readMember given name with
  | ok result => exact readMoreMembers_of_comma lead blank member
  | error flaw =>
      have comma : skipBlanks (before ++ ',' :: (gap ++ '"' :: name)) =
          ',' :: (gap ++ '"' :: name) := skipBlanks_append lead (by simp [isBlank])
      have quote : skipBlanks (gap ++ '"' :: name) = '"' :: name :=
        skipBlanks_append blank (by simp [isBlank])
      rw [readMoreMembers]
      split <;> simp_all
      split <;> simp_all
      split <;> simp_all [bind, Except.bind]

theorem readObject_of_quote {gap name : List Char} (blank : Blanks gap) :
    readObject (gap ++ '"' :: name) =
      readMember {} name >>= fun result => readMoreMembers result.1 result.2 := by
  unfold readObject
  rw [skipBlanks_append blank (by simp [isBlank])]
  rfl

/-- The members of an object are read one after the other, up to the closing brace. -/
theorem readMembers_of_fills {first : Entry × List Char} {later : List (Entry × List Char)}
    {inner : List Char} (written : ∀ part ∈ first :: later, EntryText part.1 part.2)
    (fills : Fills ((first :: later).map Prod.snd) inner) (given : Given) (rest : List Char) :
    ∃ before name, Blanks before ∧ inner ++ '}' :: rest = before ++ '"' :: name ∧
      Follows rest (given.putAll (settingsOf ((first :: later).map Prod.fst)))
        (readMember given name >>= fun result => readMoreMembers result.1 result.2) := by
  -- each member is read with the fields that the ones before it have given
  induction later generalizing first inner given with
  | nil =>
      cases fills with
      | last =>
          obtain ⟨before, name, after, lead, trail, whole, follows⟩ :=
            readMember_of_entryText (written first (by simp)) (stops_cons (c := '}') (by simp) rest)
              given
          refine ⟨before, name, lead, whole, ?_⟩
          rw [List.map_cons, Given.putAll_settingsOf_cons]
          exact follows.bind fun given => readMoreMembers_of_close trail rest
  | cons next later ih =>
      cases fills with
      | @more _ _ others _ behind =>
          obtain ⟨before, name, after, lead, trail, whole, follows⟩ :=
            readMember_of_entryText (written first (by simp))
              (stops_cons (c := ',') (by simp) (others ++ '}' :: rest)) given
          refine ⟨before, name, lead, by simpa using whole, ?_⟩
          rw [List.map_cons, Given.putAll_settingsOf_cons]
          refine follows.bind fun given => ?_
          obtain ⟨before', name', lead', whole', follows'⟩ :=
            ih (fun part member => written part (.tail _ member)) behind given
          rw [whole', readMoreMembers_of_quote trail lead']
          exact follows'

/-- An object is read as taking its settings one after the other. -/
theorem readObject_of_fills {parts : List (Entry × List Char)} {inner : List Char}
    (written : ∀ part ∈ parts, EntryText part.1 part.2) (fills : Fills (parts.map Prod.snd) inner)
    (rest : List Char) :
    Follows rest (Given.putAll {} (settingsOf (parts.map Prod.fst)))
      (readObject (inner ++ '}' :: rest)) := by
  cases parts with
  | nil =>
      cases fills with
      | nothing blank =>
          unfold readObject
          rw [skipBlanks_append blank (by simp [isBlank])]
          rfl
  | cons part later =>
      obtain ⟨before, name, lead, whole, follows⟩ := readMembers_of_fills written fills {} rest
      rw [whole, readObject_of_quote lead]
      exact follows

theorem read_of_readObject_eq_error {flaw : Flaw} {before inner : List Char} (lead : Blanks before)
    (refused : readObject inner = .error flaw) : read (before ++ '{' :: inner) = .error flaw := by
  unfold read readGiven
  rw [skipBlanks_append lead (by simp [isBlank])]
  simp [refused, bind, Except.bind]

/-! ### The settings of an object -/

/-- Settings with what some members give, and the default in each field that they do not name. -/
structure Holds (s : Settings) (entries : List Entry) : Prop where
  given : ∀ setting ∈ settingsOf entries, s.get setting.field = setting
  omitted : ∀ field ∉ fieldsOf entries, s.get field = Settings.default.get field

theorem eq_of_get {one other : Settings} (same : ∀ field, one.get field = other.get field) :
    one = other := by
  have limit := same .maxIdentifierLength
  have format := same .format
  have symbols := same .showSymbols
  have stats := same .showStats
  cases one
  cases other
  simp_all [get]

/-- Members fix the settings, in whatever order they come. -/
theorem Holds.unique {one other : Settings} {entries others : List Entry}
    (first : Holds one entries) (second : Holds other others)
    (same : (settingsOf others).Perm (settingsOf entries)) : other = one := by
  apply eq_of_get
  intro field
  by_cases named : field ∈ fieldsOf entries
  · obtain ⟨setting, listed, rfl⟩ := List.mem_map.1 named
    rw [first.given setting listed, second.given setting (same.mem_iff.2 listed)]
  · have unnamed : field ∉ fieldsOf others := fun listed =>
      named ((same.map Setting.field).mem_iff.1 listed)
    rw [first.omitted field named, second.omitted field unnamed]

theorem holds_of_gathers {entries : List Entry} {given : Given}
    (gathers : Given.Gathers {} (settingsOf entries) given) : Holds given.toSettings entries where
  given setting listed := by rw [Given.get_toSettings, gathers.taken setting listed]; rfl
  omitted field unnamed := by
    rw [Given.get_toSettings, gathers.others field unnamed]
    cases field <;> rfl

/-- An object of members is read as the settings that they give, unless one field comes twice. -/
theorem read_of_objectText {entries : List Entry} {text : List Char}
    (written : ObjectText entries text) :
    (∃ s, read text = .ok s ∧ Holds s entries ∧ (fieldsOf entries).Nodup) ∨
    ∃ field unread, read text = .error ⟨.duplicateField field.name, unread⟩ ∧
      1 < (fieldsOf entries).count field := by
  cases written with
  | @object parts before inner after lead written fills trail =>
      have follows := readObject_of_fills written fills after
      rcases Given.putAll_cases {} (settingsOf (parts.map Prod.fst)) with
        ⟨given, taken, gathers⟩ | ⟨field, refused, -, there | twice⟩
      · rw [taken] at follows
        exact .inl ⟨given.toSettings, read_of_readObject lead follows trail,
          holds_of_gathers gathers, gathers.distinct⟩
      · cases field <;> cases there
      · rw [refused] at follows
        obtain ⟨unread, read⟩ := follows
        exact .inr ⟨field, unread, read_of_readObject_eq_error lead read, twice⟩

section

variable {disk : Disk} {path text : String} (stored : disk.nodeAt path = .ok (.file text.toUTF8))

include stored

theorem load_of_read_eq_ok {s : Settings} (given : read text.toList = .ok s) :
    (load path : StateM Disk Loaded) disk = (.read s, disk) := by
  rw [load_eq, (Disk.look_eq_text_iff disk path text).2 stored, ofLookup, given]

theorem load_of_read_eq_error {flaw : Flaw} (refused : read text.toList = .error flaw) :
    (load path : StateM Disk Loaded) disk = (.failed (.invalidSettings path flaw text), disk) := by
  rw [load_eq, (Disk.look_eq_text_iff disk path text).2 stored, ofLookup, refused]

theorem load_of_distinct {entries : List Entry} (written : ObjectText entries text.toList)
    (distinct : (fieldsOf entries).Nodup) :
    ∃ s, (load path : StateM Disk Loaded) disk = (.read s, disk) ∧ Holds s entries := by
  rcases read_of_objectText written with ⟨s, given, holds, -⟩ | ⟨field, unread, -, twice⟩
  · exact ⟨s, load_of_read_eq_ok stored given, holds⟩
  · exact absurd (List.nodup_iff_count_le_one.1 distinct field) (by omega)

end

/-- Settings are loaded by field. Whatever object is in the file, if it names no field twice, each
field has what its member gives and the others have their default; a file whose object gives the
same settings, in another order or layout or among other members, is loaded alike. If a field is
named twice, the file is refused for it. The text of such an object is JSON and stands for its
members. -/
theorem load_by_field (disk : Disk) (path text : String) (entries : List Entry)
    (stored : disk.nodeAt path = .ok (.file text.toUTF8))
    (written : ObjectText entries text.toList) :
    ((fieldsOf entries).Nodup →
      ∃ s, (load path : StateM Disk Loaded) disk = (.read s, disk) ∧ Holds s entries) ∧
    ((fieldsOf entries).Nodup →
      ∀ (disk' : Disk) (path' text' : String) (entries' : List Entry),
        disk'.nodeAt path' = .ok (.file text'.toUTF8) → ObjectText entries' text'.toList →
        (settingsOf entries').Perm (settingsOf entries) →
        ((load path' : StateM Disk Loaded) disk').1 =
          ((load path : StateM Disk Loaded) disk).1) ∧
    (¬ (fieldsOf entries).Nodup →
      ∃ field unread, 1 < (fieldsOf entries).count field ∧
        (load path : StateM Disk Loaded) disk =
          (.failed (.invalidSettings path ⟨.duplicateField field.name, unread⟩ text), disk)) ∧
    ItemText (.object (entries.map Entry.member)) text.toList := by
  refine ⟨load_of_distinct stored written, ?_, ?_, written.itemText⟩
  · intro distinct disk' path' text' entries' stored' written' same
    have distinct' : (fieldsOf entries').Nodup := (same.map Setting.field).nodup_iff.2 distinct
    obtain ⟨s, loaded, holds⟩ := load_of_distinct stored written distinct
    obtain ⟨s', loaded', holds'⟩ := load_of_distinct stored' written' distinct'
    rw [loaded, loaded', holds.unique holds' same]
  · intro repeated
    rcases read_of_objectText written with ⟨s, -, -, distinct⟩ | ⟨field, unread, refused, twice⟩
    · exact absurd distinct repeated
    · exact ⟨field, unread, twice, load_of_read_eq_error stored refused⟩

/-- A member that is no field, with brackets in its value and in a string. -/
def bracketed : Json := .array [.number 1, .object [("b", .string "\"\x7d")]]

/-- That member, a field under a name with an escape, a field with its value apart, and that field
once more. -/
def jumbled : List (Entry × List Char) :=
  [(.other "x" bracketed.value, "\"x\":[1,\x7b\"b\":\"\\\"\x7d\"\x7d]".toList),
   (.known (.format .json), "\n\"\\u0066ormat\": \"json\"".toList),
   (.known (.stats false), " \"show_stats\" :false ".toList),
   (.known (.stats true), "\"show_stats\":true".toList)]

theorem entryText_jumbled : ∀ part ∈ jumbled, EntryText part.1 part.2 := by
  have escaped : StringBody ('f' :: "ormat".toList) _ := .character
    (.numbered (rfl : hexCode? '0' '0' '6' '6' = some 0x66) (by decide)) (stringBody_escaped _)
  have other := EntryText.other (by decide +kernel)
    (ValueText.member blanks_nil "x" .compact (valueText .compact 0 bracketed))
  have space : Blanks [' '] := by simp [Blanks, isBlank]
  have feed : Blanks ['\n'] := by simp [Blanks, isBlank]
  have format := @EntryText.known (.format .json) _ _ _ _ _ _ feed escaped blanks_nil space
    (.format (stringBody_escaped _)) blanks_nil
  have apart := @EntryText.known (.stats false) _ _ _ _ _ _ space (stringBody_escaped _) space
    blanks_nil (.stats false) space
  have again := @EntryText.known (.stats true) _ _ _ _ _ _ blanks_nil (stringBody_escaped _)
    blanks_nil blanks_nil (.stats true) blanks_nil
  simpa only [jumbled, List.forall_mem_cons] using ⟨other, format, apart, again, by simp⟩

/-- An object of members with no more between them than the commas. -/
def textOf (parts : List (Entry × List Char)) : String :=
  String.ofList ('{' :: (List.intercalate [','] (parts.map Prod.snd) ++ ['}', '\n']))

/-- A disk with nothing but a settings file that has this object in it. -/
def holding (parts : List (Entry × List Char)) : Disk :=
  { nodes := [(["config.json"], .file (textOf parts).toUTF8)] }

theorem fills_intercalate (text : List Char) (later : List (List Char)) :
    Fills (text :: later) (List.intercalate [','] (text :: later)) := by
  induction later generalizing text with
  | nil => simpa using Fills.last text
  | cons next later ih => simpa [List.intercalate] using Fills.more text (ih next)

theorem objectText_textOf {part : Entry × List Char} {later : List (Entry × List Char)}
    (written : ∀ entry ∈ part :: later, EntryText entry.1 entry.2) :
    ObjectText ((part :: later).map Prod.fst) (textOf (part :: later)).toList := by
  rw [textOf, String.toList_ofList]
  have feed : Blanks ['\n'] := by simp [Blanks, isBlank]
  exact .object blanks_nil written (fills_intercalate _ _) feed

/-- The object is read as long as it names each field once, and refused as soon as it does not. -/
theorem load_by_field_jumbled :
    ((load "config.json" : StateM Disk Loaded) (holding (jumbled.take 3))).1 =
      .read ⟨30, .json, true, false⟩ ∧
    (∃ s, (load "config.json" : StateM Disk Loaded) (holding (jumbled.take 3)) =
        (.read s, holding (jumbled.take 3)) ∧ Holds s ((jumbled.take 3).map Prod.fst)) ∧
    ∃ field unread, 1 < (fieldsOf (jumbled.map Prod.fst)).count field ∧
      (load "config.json" : StateM Disk Loaded) (holding jumbled) =
        (.failed (.invalidSettings "config.json" ⟨.duplicateField field.name, unread⟩
          (textOf jumbled)), holding jumbled) := by
  have stored (parts : List (Entry × List Char)) :
      (holding parts).nodeAt "config.json" = .ok (.file (textOf parts).toUTF8) := rfl
  have first : ∀ part ∈ jumbled.take 3, EntryText part.1 part.2 := fun part member =>
    entryText_jumbled part (List.mem_of_mem_take member)
  exact ⟨by decide +kernel,
    (load_by_field _ _ _ _ (stored _) (objectText_textOf first)).1 (by decide),
    (load_by_field _ _ _ _ (stored _) (objectText_textOf entryText_jumbled)).2.2.1 (by decide)⟩

end LexScan.Settings
