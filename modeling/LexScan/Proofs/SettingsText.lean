import LexScan.Proofs.JsonReading
import LexScan.Settings.Reader
import Mathlib.Data.List.Nodup

/-! Settings are read as they are printed. The printed object gives every field once, so reading
goes along the list of fields: each member fills its own field and leaves the others as they were,
and when all are filled no default is left. -/
namespace LexScan.Settings

open Json Grammar Text

theorem Field.ofName?_name (field : Field) : ofName? field.name = some field := by
  cases field <;> decide +kernel

/-- Fills a field with the value that it has in some settings. -/
def Given.assign (s : Settings) (given : Given) : Field → Given
  | .maxIdentifierLength => { given with maxIdentifierLength := some s.maxIdentifierLength }
  | .format => { given with format := some s.format }
  | .showSymbols => { given with showSymbols := some s.showSymbols }
  | .showStats => { given with showStats := some s.showStats }

theorem Given.has_assign_of_ne (s : Settings) (given : Given) {field other : Field}
    (different : other ≠ field) : (given.assign s field).has other = given.has other := by
  cases field <;> cases other <;> first | rfl | exact absurd rfl different

/-- How the value of a field may be written. -/
inductive FieldText (s : Settings) : Field → List Char → Prop where
  | limit {digits : List Char} (whole : WholePart digits)
      (value : Nat.ofDigitChars 10 digits 0 = s.maxIdentifierLength) :
      FieldText s .maxIdentifierLength digits
  | format {body : List Char} (written : StringBody s.format.name.toList body) :
      FieldText s .format ('"' :: body)
  | symbols : FieldText s .showSymbols (boolText s.showSymbols).toList
  | stats : FieldText s .showStats (boolText s.showStats).toList

/-! ### Reading a field -/

theorem readFlag_boolText (value : Bool) {gap : List Char} (blank : Blanks gap)
    (rest : List Char) :
    readFlag (gap ++ ((boolText value).toList ++ rest)) = .ok (value, rest) := by
  have yes := readWord_append_self ['r', 'u', 'e'] rest
  have no := readWord_append_self ['a', 'l', 's', 'e'] rest
  unfold readFlag
  cases value with
  | true =>
      rw [skipBlanks_append blank (by simp [boolText, isBlank])]
      simp_all [boolText, bind, Except.bind]
  | false =>
      rw [skipBlanks_append blank (by simp [boolText, isBlank])]
      simp_all [boolText, bind, Except.bind]

theorem readLimit_of_wholePart {digits gap rest : List Char} (whole : WholePart digits)
    (fits : Nat.ofDigitChars 10 digits 0 ≤ maxSignificand) (blank : Blanks gap) (ends : Ends rest) :
    readLimit (gap ++ (digits ++ rest)) = .ok (Nat.ofDigitChars 10 digits 0, rest) := by
  have read := readNumber_of_wholePart whole fits ends
  obtain ⟨c, tail, rfl, start⟩ := (numeral_of_wholePart whole).head
  have visible : isBlank c = false := by
    have starts : startsValue c = true := by
      rcases start with rfl | digit
      · rfl
      · simp [startsValue, digit]
    exact (visible_of_startsValue starts).1
  have numeral : isNumeralStart c = true := by
    rcases start with rfl | digit
    · rfl
    · simp [isNumeralStart, digit]
  unfold readLimit
  rw [skipBlanks_append blank (by simpa using visible), List.cons_append] at *
  simp only [numeral, if_true, read, bind, Except.bind]

theorem readFormat_of_stringBody {format : Format} {body gap : List Char}
    (written : StringBody format.name.toList body) (blank : Blanks gap) (rest : List Char) :
    readFormat (gap ++ ('"' :: body ++ rest)) = .ok (format, rest) := by
  unfold readFormat readFormatName
  rw [skipBlanks_append blank (by simp [isBlank])]
  simp [readString_of_stringBody written, bind, Except.bind]

/-- A field is read as the value that its text gives it. -/
theorem readField_of_fieldText {s : Settings} (fits : s.maxIdentifierLength ≤ maxSignificand)
    (given : Given) {field : Field} {text gap rest : List Char} (written : FieldText s field text)
    (blank : Blanks gap) (ends : Ends rest) :
    readField given field (gap ++ (text ++ rest)) = .ok (given.assign s field, rest) := by
  cases written with
  | limit whole value =>
      have read := readLimit_of_wholePart whole (by rwa [value]) blank ends
      simp [readField, read, value, bind, Except.bind, Given.assign]
  | format written =>
      have read := readFormat_of_stringBody written blank rest
      simp only [readField, read, bind, Except.bind, Given.assign]
  | symbols => simp [readField, readFlag_boolText _ blank rest, bind, Except.bind, Given.assign]
  | stats => simp [readField, readFlag_boolText _ blank rest, bind, Except.bind, Given.assign]

/-- A member that names a field for the first time fills it. -/
theorem readMember_of_fieldText {s : Settings} (fits : s.maxIdentifierLength ≤ maxSignificand)
    {given : Given} {field : Field} {body middle gap text rest : List Char}
    (fresh : given.has field = false) (name : StringBody field.name.toList body)
    (blank : Blanks middle) (written : FieldText s field text) (blank' : Blanks gap)
    (ends : Ends rest) :
    readMember given (body ++ (middle ++ ':' :: (gap ++ (text ++ rest)))) =
      .ok (given.assign s field, rest) := by
  have colon : readColon (middle ++ ':' :: (gap ++ (text ++ rest))) =
      .ok (gap ++ (text ++ rest)) := by
    unfold readColon
    rw [skipBlanks_append blank (by simp [isBlank])]
    simp
  have read := readField_of_fieldText fits given written blank' ends
  unfold readMember
  rw [readString_of_stringBody name]
  simp [bind, Except.bind, Field.ofName?_name, fresh, colon, read]

/-! ### Reading the members of an object -/

theorem readMoreMembers_of_close {given : Given} {gap : List Char} (blank : Blanks gap)
    (rest : List Char) : readMoreMembers given (gap ++ '}' :: rest) = .ok (given, rest) := by
  have close : skipBlanks (gap ++ '}' :: rest) = '}' :: rest :=
    skipBlanks_append blank (by simp [isBlank])
  rw [readMoreMembers]
  split <;> simp_all

theorem readMoreMembers_of_comma {given after : Given} {before gap name left : List Char}
    (lead : Blanks before) (blank : Blanks gap)
    (member : readMember given name = .ok (after, left)) :
    readMoreMembers given (before ++ ',' :: (gap ++ '"' :: name)) = readMoreMembers after left := by
  have comma : skipBlanks (before ++ ',' :: (gap ++ '"' :: name)) = ',' :: (gap ++ '"' :: name) :=
    skipBlanks_append lead (by simp [isBlank])
  have quote : skipBlanks (gap ++ '"' :: name) = '"' :: name :=
    skipBlanks_append blank (by simp [isBlank])
  rw [readMoreMembers]
  split <;> simp_all
  split <;> simp_all
  split <;> simp_all

theorem readObject_of_member {after : Given} {gap name left : List Char} (blank : Blanks gap)
    (member : readMember {} name = .ok (after, left)) :
    readObject (gap ++ '"' :: name) = readMoreMembers after left := by
  unfold readObject
  rw [skipBlanks_append blank (by simp [isBlank])]
  simp [member, bind, Except.bind]

/-- A whole text that consists of an object gives the settings that its members give. -/
theorem read_of_readObject {given : Given} {before inner after : List Char} (lead : Blanks before)
    (object : readObject inner = .ok (given, after)) (trail : Blanks after) :
    read (before ++ '{' :: inner) = .ok given.toSettings := by
  have ended : skipBlanks after = [] := List.dropWhile_eq_nil_iff.2 trail
  unfold read readGiven
  rw [skipBlanks_append lead (by simp [isBlank])]
  simp [object, ended, bind, Except.bind]

/-! ### The printed object -/

/-- The document of a field. -/
def Field.document (s : Settings) : Field → Json
  | .maxIdentifierLength => .number s.maxIdentifierLength
  | .format => .string s.format.name
  | .showSymbols => .bool s.showSymbols
  | .showStats => .bool s.showStats

theorem toJson_eq (s : Settings) :
    s.toJson = .object (Field.all.map fun field => (field.name, field.document s)) := rfl

theorem fieldText_document (s : Settings) (layout : Json.Layout) (depth : Nat) (field : Field) :
    FieldText s field ((field.document s).characters layout depth) := by
  have flag (value : Bool) :
      (Json.bool value).characters layout depth = (boolText value).toList := by
    cases value <;> rfl
  cases field with
  | maxIdentifierLength =>
      exact .limit (wholePart_toDigits _) Nat.ofDigitChars_ten_toDigits
  | format => exact .format (stringBody_escaped _)
  | showSymbols => rw [Field.document, flag]; exact .symbols
  | showStats => rw [Field.document, flag]; exact .stats

theorem readMember_document {s : Settings} (fits : s.maxIdentifierLength ≤ maxSignificand)
    (layout : Json.Layout) (depth : Nat) (given : Given) (field : Field)
    (fresh : given.has field = false) {rest : List Char} (ends : Ends rest) :
    readMember given (field.name.toList.flatMap escaped ++ '"' :: (layout.colon ++
      ((field.document s).characters layout depth ++ rest))) =
        .ok (given.assign s field, rest) := by
  obtain ⟨space, colon, blank⟩ := layout.colon_eq
  have read := readMember_of_fieldText fits fresh (stringBody_escaped field.name.toList) blanks_nil
    (fieldText_document s layout depth field) blank ends
  simpa [colon] using read

/-- What stands behind a value of the printed object: a comma, or the end of the object. -/
theorem ends_moreMembers (layout : Json.Layout) (depth : Nat) (members : List (String × Json))
    (rest : List Char) :
    Ends (moreMembers layout (depth + 1) members ++ (layout.lineBreak depth ++ '}' :: rest)) := by
  cases members with
  | nil => exact (stops_cons (by simp) rest).ends (layout.blanks_lineBreak depth)
  | cons member members => exact (stops_cons (c := ',') (by simp) _).ends blanks_nil

theorem readMoreMembers_document {s : Settings} (fits : s.maxIdentifierLength ≤ maxSignificand)
    (layout : Json.Layout) (depth : Nat) (given : Given) (fields : List Field)
    (distinct : fields.Nodup) (fresh : ∀ field ∈ fields, given.has field = false) (rest : List Char) :
    readMoreMembers given (moreMembers layout (depth + 1)
      (fields.map fun field => (field.name, field.document s)) ++
        (layout.lineBreak depth ++ '}' :: rest)) =
      .ok (fields.foldl (Given.assign s) given, rest) := by
  induction fields generalizing given with
  | nil => exact readMoreMembers_of_close (layout.blanks_lineBreak depth) rest
  | cons field fields ih =>
      obtain ⟨unlisted, distinct⟩ := List.nodup_cons.1 distinct
      have member := readMember_document fits layout (depth + 1) given field (fresh field (by simp))
        (ends_moreMembers layout depth
          (fields.map fun field => (field.name, field.document s)) rest)
      have later := ih (given.assign s field) distinct fun other listed => by
        rw [Given.has_assign_of_ne s given (by rintro rfl; exact unlisted listed)]
        exact fresh other (by simp [listed])
      have comma := readMoreMembers_of_comma blanks_nil (layout.blanks_lineBreak (depth + 1)) member
      simpa [moreMembers, stringText] using comma.trans later

/-- The text of settings gives them back in either layout, in the whole range of the limit. -/
theorem read_characters {s : Settings} (fits : s.maxIdentifierLength ≤ maxSignificand)
    (layout : Json.Layout) : read (s.toJson.characters layout 0) = .ok s := by
  -- the first member has no comma before it, so it is read apart from the others
  have member := readMember_document fits layout 1 {} .maxIdentifierLength rfl
    (ends_moreMembers layout 0 ([Field.format, .showSymbols, .showStats].map fun field =>
      (field.name, field.document s)) [])
  have later := readMoreMembers_document fits layout 0 (Given.assign s {} .maxIdentifierLength)
    [.format, .showSymbols, .showStats] (by simp) (by simp [Given.assign, Given.has]) []
  have object := (readObject_of_member (layout.blanks_lineBreak 1) member).trans later
  have whole : read _ = .ok s := read_of_readObject blanks_nil object blanks_nil
  simpa [toJson_eq, Field.all, characters, stringText] using whole

/-- The text of a settings file gives back the settings. -/
theorem read_fileText {s : Settings} (fits : s.maxIdentifierLength ≤ maxSignificand) :
    read s.fileText.toList = .ok s := by
  rw [fileText, indented, String.toList_ofList]
  exact read_characters fits .indented

end LexScan.Settings
