import LexScan.Json.Skip
import LexScan.Settings.Basic

/-! Reading settings from a JSON text. An object gives fields by name, in any order, with other
members passed over; a list gives them by place. Fields that are not given have their default. -/
namespace LexScan.Settings

open Json

inductive Field where
  | maxIdentifierLength
  | format
  | showSymbols
  | showStats
deriving DecidableEq, Repr

namespace Field

/-- The fields in the order in which a list gives them. -/
def all : List Field := [.maxIdentifierLength, .format, .showSymbols, .showStats]

def name : Field → String
  | .maxIdentifierLength => "max_identifier_len"
  | .format => "format"
  | .showSymbols => "show_symbols"
  | .showStats => "show_stats"

def ofName? (text : String) : Option Field := all.find? (·.name == text)

end Field

/-- The fields that have been read so far. -/
structure Given where
  maxIdentifierLength : Option Nat := none
  format : Option Format := none
  showSymbols : Option Bool := none
  showStats : Option Bool := none
deriving DecidableEq, Repr

namespace Given

def has (given : Given) : Field → Bool
  | .maxIdentifierLength => given.maxIdentifierLength.isSome
  | .format => given.format.isSome
  | .showSymbols => given.showSymbols.isSome
  | .showStats => given.showStats.isSome

def toSettings (given : Given) : Settings :=
  { maxIdentifierLength := given.maxIdentifierLength.getD Settings.default.maxIdentifierLength
    format := given.format.getD Settings.default.format
    showSymbols := given.showSymbols.getD Settings.default.showSymbols
    showStats := given.showStats.getD Settings.default.showStats }

end Given

/-- Refuses a value of another type. The value is read first, brackets apart, so that a flaw in it
is what is reported. -/
def refuse (expected : String) (text : List Char) : Except Flaw α :=
  let wrong (found : Found) (rest : List Char) : Except Flaw α :=
    stopBefore (.wrongType found expected) rest
  match text with
  | [] => stopBefore .endInValue []
  | 'n' :: rest => do wrong .null (← readWord ['u', 'l', 'l'] rest)
  | 't' :: rest => do wrong (.bool true) (← readWord ['r', 'u', 'e'] rest)
  | 'f' :: rest => do wrong (.bool false) (← readWord ['a', 'l', 's', 'e'] rest)
  | '"' :: rest => do
      let (characters, left) ← readString rest
      wrong (.string (String.ofList characters)) left
  | '[' :: _ => wrong .list text
  | '{' :: _ => wrong .object text
  | c :: _ =>
      if isNumeralStart c then do
        let (value, left) ← readNumber text
        wrong (.number value) left
      else stopAfterByte .expectedValue text

/-- A natural number of 64 bits. -/
def readLimit (text : List Char) : Except Flaw (Nat × List Char) :=
  match skipBlanks text with
  | [] => stopBefore .endInValue []
  | c :: rest =>
      if isNumeralStart c then do
        match ← readNumber (c :: rest) with
        | (.natural value, left) => .ok (value, left)
        | (.negative size, left) =>
            stopBefore (.wrongValue (.number (.negative size)) "usize") left
        | (.fraction negative size, left) =>
            stopBefore (.wrongType (.number (.fraction negative size)) "usize") left
      else refuse "usize" (c :: rest)

def readFlag (text : List Char) : Except Flaw (Bool × List Char) :=
  match skipBlanks text with
  | [] => stopBefore .endInValue []
  | 't' :: rest => do .ok (true, ← readWord ['r', 'u', 'e'] rest)
  | 'f' :: rest => do .ok (false, ← readWord ['a', 'l', 's', 'e'] rest)
  | rest => refuse "a boolean" rest

/-- The name of a format, for a text behind the opening quote. -/
def readFormatName (text : List Char) : Except Flaw (Format × List Char) := do
  let (characters, rest) ← readString text
  let name := String.ofList characters
  match Format.ofName? name with
  | some format => .ok (format, rest)
  | none => stopBefore (.unknownVariant name [Format.text.name, Format.json.name]) rest

def readNull (text : List Char) : Except Flaw (List Char) :=
  match skipBlanks text with
  | [] => stopBefore .endInValue []
  | 'n' :: rest => readWord ['u', 'l', 'l'] rest
  | rest => refuse "unit" rest

/-- A format as the only member of an object, with `null` for its value. -/
def readFormatObject (text : List Char) : Except Flaw (Format × List Char) :=
  match skipBlanks text with
  | [] => stopBefore .endInObject []
  | '}' :: rest => stopAfterByte .expectedValue ('}' :: rest)
  | '"' :: rest => do
      let (format, rest) ← readFormatName rest
      let rest ← readColon rest
      let rest ← readNull rest
      match skipBlanks rest with
      | [] => stopBefore .endInObject []
      | '}' :: left => .ok (format, left)
      | left => stopBefore .expectedValue left
  | rest => stopAfterByte .nameNotString rest

def readFormat (text : List Char) : Except Flaw (Format × List Char) :=
  match skipBlanks text with
  | [] => stopBefore .endInValue []
  | '"' :: rest => readFormatName rest
  | '{' :: rest => readFormatObject rest
  | rest => stopAfterByte .expectedValue rest

/-- Reads the value of a field. -/
def readField (given : Given) (field : Field) (text : List Char) :
    Except Flaw (Given × List Char) :=
  match field with
  | .maxIdentifierLength => do
      let (value, rest) ← readLimit text
      .ok ({ given with maxIdentifierLength := some value }, rest)
  | .format => do
      let (value, rest) ← readFormat text
      .ok ({ given with format := some value }, rest)
  | .showSymbols => do
      let (value, rest) ← readFlag text
      .ok ({ given with showSymbols := some value }, rest)
  | .showStats => do
      let (value, rest) ← readFlag text
      .ok ({ given with showStats := some value }, rest)

/-- A field that is given twice is refused at what follows its second name, a closing brace
included. -/
def refuseDuplicate (field : Field) (text : List Char) : Except Flaw α :=
  match skipBlanks text with
  | '}' :: rest => stopBefore (.duplicateField field.name) rest
  | rest => stopBefore (.duplicateField field.name) rest

/-- A member of the object, for a text behind the opening quote of its name. -/
def readMember (given : Given) (text : List Char) : Except Flaw (Given × List Char) := do
  let (characters, rest) ← readString text
  match Field.ofName? (String.ofList characters) with
  | none => do
      let rest ← readColon rest
      let rest ← skipValue rest
      .ok (given, rest)
  | some field =>
      if given.has field then refuseDuplicate field rest
      else do
        let rest ← readColon rest
        readField given field rest

theorem refuse_ne_ok (expected : String) (text : List Char) (result : α) :
    refuse expected text ≠ .ok result := by
  unfold refuse
  simp only
  split <;> (try split) <;> simp [stopBefore, stopAfterByte, bind, Except.bind] <;> split <;> simp

theorem length_readLimit_le {text rest : List Char} {value : Nat}
    (read : readLimit text = .ok (value, rest)) : rest.length ≤ text.length := by
  have blanks := length_skipBlanks_le text
  unfold readLimit at read
  split at read
  · simp [stopBefore] at read
  · next c left same =>
      rw [same] at blanks
      split at read
      · obtain ⟨⟨number, behind⟩, digits, read⟩ := bind_eq_ok_iff.1 read
        have shorter := length_readNumber digits
        cases number <;> grind [stopBefore]
      · exact absurd read (refuse_ne_ok _ _ _)

theorem length_readFlag_le {text rest : List Char} {value : Bool}
    (read : readFlag text = .ok (value, rest)) : rest.length ≤ text.length := by
  have blanks := length_skipBlanks_le text
  unfold readFlag at read
  split at read
  · simp [stopBefore] at read
  · obtain ⟨behind, word, read⟩ := bind_eq_ok_iff.1 read
    grind [→ length_readWord_le]
  · obtain ⟨behind, word, read⟩ := bind_eq_ok_iff.1 read
    grind [→ length_readWord_le]
  · exact absurd read (refuse_ne_ok _ _ _)

theorem length_readFormatName {text rest : List Char} {format : Format}
    (read : readFormatName text = .ok (format, rest)) : rest.length < text.length := by
  unfold readFormatName at read
  obtain ⟨⟨characters, behind⟩, string, read⟩ := bind_eq_ok_iff.1 read
  grind [→ length_readString, stopBefore]

theorem length_readNull_le {text rest : List Char} (read : readNull text = .ok rest) :
    rest.length ≤ text.length := by
  have blanks := length_skipBlanks_le text
  unfold readNull at read
  split at read
  · simp [stopBefore] at read
  · grind [→ length_readWord_le]
  · exact absurd read (refuse_ne_ok _ _ _)

theorem length_readFormatObject_le {text rest : List Char} {format : Format}
    (read : readFormatObject text = .ok (format, rest)) : rest.length ≤ text.length := by
  have blanks := length_skipBlanks_le text
  unfold readFormatObject at read
  split at read
  · simp [stopBefore] at read
  · simp [stopAfterByte] at read
  · obtain ⟨⟨format, afterName⟩, name, read⟩ := bind_eq_ok_iff.1 read
    obtain ⟨afterColon, colon, read⟩ := bind_eq_ok_iff.1 read
    obtain ⟨afterNull, null, read⟩ := bind_eq_ok_iff.1 read
    grind [→ length_readFormatName, → length_readColon, → length_readNull_le,
      → length_lt_of_skipBlanks, stopBefore]
  · simp [stopAfterByte] at read

theorem length_readFormat_le {text rest : List Char} {format : Format}
    (read : readFormat text = .ok (format, rest)) : rest.length ≤ text.length := by
  unfold readFormat at read
  grind [length_skipBlanks_le, → length_readFormatName, → length_readFormatObject_le, stopBefore,
    stopAfterByte]

theorem length_readField_le {given after : Given} {field : Field} {text rest : List Char}
    (read : readField given field text = .ok (after, rest)) : rest.length ≤ text.length := by
  unfold readField at read
  split at read <;> obtain ⟨⟨value, behind⟩, field, read⟩ := bind_eq_ok_iff.1 read <;>
    grind [→ length_readLimit_le, → length_readFormat_le, → length_readFlag_le]

theorem refuseDuplicate_ne_ok (field : Field) (text : List Char) (result : α) :
    refuseDuplicate field text ≠ .ok result := by
  unfold refuseDuplicate
  split <;> simp [stopBefore]

theorem length_readMember {given after : Given} {text rest : List Char}
    (read : readMember given text = .ok (after, rest)) : rest.length < text.length := by
  unfold readMember at read
  obtain ⟨⟨characters, behind⟩, string, read⟩ := bind_eq_ok_iff.1 read
  have shorter := length_readString string
  simp only at read
  split at read
  · obtain ⟨afterColon, colon, read⟩ := bind_eq_ok_iff.1 read
    obtain ⟨afterValue, value, read⟩ := bind_eq_ok_iff.1 read
    grind [→ length_readColon, → length_skipValue_le]
  · split at read
    · exact absurd read (refuseDuplicate_ne_ok _ _ _)
    · obtain ⟨afterColon, colon, read⟩ := bind_eq_ok_iff.1 read
      grind [→ length_readColon, → length_readField_le]

/-- The members behind the first one, up to the closing brace. -/
def readMoreMembers (given : Given) (text : List Char) : Except Flaw (Given × List Char) :=
  match _start : skipBlanks text with
  | [] => stopBefore .endInObject []
  | '}' :: rest => .ok (given, rest)
  | ',' :: rest =>
      match _next : skipBlanks rest with
      | [] => stopBefore .endInValue []
      | '"' :: name =>
          match _member : readMember given name with
          | .error flaw => .error flaw
          | .ok (after, left) => readMoreMembers after left
      | '}' :: left => stopAfterByte .trailingComma ('}' :: left)
      | left => stopAfterByte .nameNotString left
  | rest => stopAfterByte .expectedObjectEnd rest
termination_by text.length
decreasing_by
  exact Nat.lt_trans (length_readMember ‹_›)
    (Nat.lt_trans (length_lt_of_skipBlanks ‹_›) (length_lt_of_skipBlanks ‹_›))

/-- The members of an object, for a text behind its opening brace. -/
def readObject (text : List Char) : Except Flaw (Given × List Char) :=
  match skipBlanks text with
  | [] => stopBefore .endInObject []
  | '}' :: rest => .ok ({}, rest)
  | '"' :: name => do
      let (given, rest) ← readMember {} name
      readMoreMembers given rest
  | rest => stopAfterByte .nameNotString rest

/-- The end of a list that has given all fields. -/
def readListEnd (given : Given) (text : List Char) : Except Flaw (Given × List Char) :=
  match skipBlanks text with
  | [] => stopBefore .endInList []
  | ']' :: rest => .ok (given, rest)
  | ',' :: rest =>
      match skipBlanks rest with
      | ']' :: left => stopAfterByte .trailingComma (']' :: left)
      | left => stopAfterByte .trailingCharacters left
  | rest => stopAfterByte .trailingCharacters rest

/-- The elements for the remaining fields, the first of all apart. -/
def readMoreElements (given : Given) : List Field → List Char → Except Flaw (Given × List Char)
  | [], text => readListEnd given text
  | field :: fields, text =>
      match skipBlanks text with
      | [] => stopBefore .endInList []
      | ']' :: rest => .ok (given, rest)
      | ',' :: rest =>
          match skipBlanks rest with
          | [] => stopBefore .endInValue []
          | ']' :: left => stopAfterByte .trailingComma (']' :: left)
          | left => do
              let (after, behind) ← readField given field left
              readMoreElements after fields behind
      | rest => stopAfterByte .expectedListEnd rest

/-- The elements of a list, for a text behind its opening bracket. -/
def readList (text : List Char) : Except Flaw (Given × List Char) :=
  match skipBlanks text with
  | [] => stopBefore .endInList []
  | ']' :: rest => .ok ({}, rest)
  | rest => do
      let (given, left) ← readField {} .maxIdentifierLength rest
      readMoreElements given [.format, .showSymbols, .showStats] left

def readGiven (text : List Char) : Except Flaw (Given × List Char) :=
  match skipBlanks text with
  | [] => stopBefore .endInValue []
  | '{' :: rest => readObject rest
  | '[' :: rest => readList rest
  | rest => refuse "struct Config" rest

/-- The settings of a whole text. -/
def read (text : List Char) : Except Flaw Settings := do
  let (given, rest) ← readGiven text
  match skipBlanks rest with
  | [] => .ok given.toSettings
  | left => stopAfterByte .trailingCharacters left

end LexScan.Settings
