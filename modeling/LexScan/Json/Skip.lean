import LexScan.Json.Numeral

/-! Passing over a JSON value of any depth. Only its form is checked: numbers may have any size and
escapes any value. The brackets that are open are kept on a stack. -/
namespace LexScan.Json

open Text

def skipEscape : List Char → Except Flaw (List Char)
  | [] => stopBefore .endInString []
  | c :: rest =>
      if c = 'u' then (readHex rest).map Prod.snd
      else if (escapeOf? c).isSome then .ok rest
      else stopAfterByte .invalidEscape (c :: rest)

theorem length_skipEscape {text rest : List Char} (read : skipEscape text = .ok rest) :
    rest.length < text.length := by
  unfold skipEscape at read
  split at read
  · simp [stopBefore] at read
  · split at read
    · next c text _ =>
        cases hex : readHex text with
        | error flaw => simp [hex, Except.map] at read
        | ok result =>
            simp only [hex, Except.map, Except.ok.injEq] at read
            have shorter : result.2.length < _ := length_readHex hex
            simp only [List.length_cons, ← read]
            omega
    · split at read
      · simp only [Except.ok.injEq] at read
        simp [read]
      · simp [stopAfterByte] at read

/-- The text behind a string, for a text behind its opening quote. -/
def skipString (text : List Char) : Except Flaw (List Char) :=
  match text with
  | [] => stopBefore .endInString []
  | c :: rest =>
      if c = '"' then .ok rest
      else if c = '\\' then
        match _escape : skipEscape rest with
        | .error flaw => .error flaw
        | .ok left => skipString left
      else if c.toNat < 32 then stopBefore .controlCharacter (c :: rest)
      else skipString rest
termination_by text.length
decreasing_by
  · exact Nat.lt_succ_of_lt (length_skipEscape ‹_›)
  · simp

def skipExponent (text : List Char) : Except Flaw (List Char) :=
  let digits := (readSign text).2
  if startsWithDigit digits then .ok (digits.dropWhile Char.isDigit)
  else stopAfterByte .invalidNumber digits

def skipAfterFraction : List Char → Except Flaw (List Char)
  | [] => .ok []
  | c :: rest => if isExponentMark c then skipExponent rest else .ok (c :: rest)

def skipAfterWhole : List Char → Except Flaw (List Char)
  | [] => .ok []
  | c :: rest =>
      if c = '.' then
        if startsWithDigit rest then skipAfterFraction (rest.dropWhile Char.isDigit)
        else stopAfterByte .invalidNumber rest
      else skipAfterFraction (c :: rest)

def skipUnsigned : List Char → Except Flaw (List Char)
  | [] => stopBefore .invalidNumber []
  | c :: rest =>
      if c = '0' then
        if startsWithDigit rest then stopAfterByte .invalidNumber rest else skipAfterWhole rest
      else if c.isDigit then skipAfterWhole (rest.dropWhile Char.isDigit)
      else stopAfterByte .invalidNumber (c :: rest)

def skipNumber : List Char → Except Flaw (List Char)
  | '-' :: rest => skipUnsigned rest
  | text => skipUnsigned text

/-- A value without brackets. -/
def skipScalar : List Char → Except Flaw (List Char)
  | [] => stopBefore .endInValue []
  | 'n' :: rest => readWord ['u', 'l', 'l'] rest
  | 't' :: rest => readWord ['r', 'u', 'e'] rest
  | 'f' :: rest => readWord ['a', 'l', 's', 'e'] rest
  | '"' :: rest => skipString rest
  | c :: rest =>
      if isNumeralStart c then skipNumber (c :: rest) else stopAfterByte .expectedValue (c :: rest)

/-- The colon behind the name of a member. -/
def readColon (text : List Char) : Except Flaw (List Char) :=
  match skipBlanks text with
  | [] => stopBefore .endInObject []
  | c :: rest => if c = ':' then .ok rest else stopAfterByte .expectedColon (c :: rest)

/-- The name of a member and the colon behind it. -/
def skipName (text : List Char) : Except Flaw (List Char) :=
  match skipBlanks text with
  | [] => stopBefore .endInObject []
  | c :: rest =>
      if c = '"' then skipString rest >>= readColon else stopAfterByte .nameNotString (c :: rest)

inductive Bracket where
  | list
  | object
deriving DecidableEq, Repr

theorem length_skipBlanks_le (text : List Char) : (skipBlanks text).length ≤ text.length :=
  (List.dropWhile_sublist isBlank).length_le

theorem length_lt_of_skipBlanks {text rest : List Char} {c : Char}
    (same : skipBlanks text = c :: rest) : rest.length < text.length := by
  have blanks := length_skipBlanks_le text
  simp only [same, List.length_cons] at blanks
  omega

theorem length_readWord_le {letters text rest : List Char}
    (read : readWord letters text = .ok rest) : rest.length ≤ text.length := by
  fun_induction readWord letters text with
  | case1 => simp_all
  | case2 => simp [stopBefore] at read
  | case3 letter letters text ih => exact Nat.le_succ_of_le (ih read)
  | case4 => simp [stopAfterByte] at read

theorem length_skipString {text rest : List Char} (read : skipString text = .ok rest) :
    rest.length < text.length := by
  fun_induction skipString text with
  | case1 => simp [stopBefore] at read
  | case2 => simp_all
  | case3 => simp at read
  | case4 text left escape _ ih =>
      exact Nat.lt_trans (ih read) (Nat.lt_succ_of_lt (length_skipEscape escape))
  | case5 => simp [stopBefore] at read
  | case6 c text _ _ _ ih => exact Nat.lt_succ_of_lt (ih read)

theorem length_skipExponent_le {text rest : List Char} (read : skipExponent text = .ok rest) :
    rest.length ≤ text.length := by
  unfold skipExponent at read
  simp only at read
  split at read
  · simp only [Except.ok.injEq] at read
    rw [← read]
    exact Nat.le_trans (length_dropDigits_le _) (length_readSign_le text)
  · simp [stopAfterByte] at read

theorem length_skipAfterFraction_le {text rest : List Char}
    (read : skipAfterFraction text = .ok rest) : rest.length ≤ text.length := by
  unfold skipAfterFraction at read
  split at read
  · simp_all
  · split at read
    · exact Nat.le_succ_of_le (length_skipExponent_le read)
    · simp_all

theorem length_skipAfterWhole_le {text rest : List Char} (read : skipAfterWhole text = .ok rest) :
    rest.length ≤ text.length := by
  unfold skipAfterWhole at read
  split at read
  · simp_all
  · split at read
    · split at read
      · exact Nat.le_succ_of_le
          (Nat.le_trans (length_skipAfterFraction_le read) (length_dropDigits_le _))
      · simp [stopAfterByte] at read
    · exact length_skipAfterFraction_le read

theorem length_skipUnsigned {text rest : List Char} (read : skipUnsigned text = .ok rest) :
    rest.length < text.length := by
  unfold skipUnsigned at read
  split at read
  · simp [stopBefore] at read
  · split at read
    · split at read
      · simp [stopAfterByte] at read
      · exact Nat.lt_succ_of_le (length_skipAfterWhole_le read)
    · split at read
      · exact Nat.lt_succ_of_le
          (Nat.le_trans (length_skipAfterWhole_le read) (length_dropDigits_le _))
      · simp [stopAfterByte] at read

theorem length_skipNumber {text rest : List Char} (read : skipNumber text = .ok rest) :
    rest.length < text.length := by
  unfold skipNumber at read
  split at read
  · exact Nat.lt_succ_of_lt (length_skipUnsigned read)
  · exact length_skipUnsigned read

theorem length_skipScalar {text rest : List Char} (read : skipScalar text = .ok rest) :
    rest.length < text.length := by
  unfold skipScalar at read
  split at read
  · simp [stopBefore] at read
  · exact Nat.lt_succ_of_le (length_readWord_le read)
  · exact Nat.lt_succ_of_le (length_readWord_le read)
  · exact Nat.lt_succ_of_le (length_readWord_le read)
  · exact Nat.lt_succ_of_lt (length_skipString read)
  · split at read
    · exact length_skipNumber read
    · simp [stopAfterByte] at read

theorem length_readColon {text rest : List Char} (read : readColon text = .ok rest) :
    rest.length < text.length := by
  unfold readColon at read
  split at read
  · simp [stopBefore] at read
  · next c left same =>
      split at read
      · simp only [Except.ok.injEq] at read
        exact read ▸ length_lt_of_skipBlanks same
      · simp [stopAfterByte] at read

theorem length_skipName {text rest : List Char} (read : skipName text = .ok rest) :
    rest.length < text.length := by
  unfold skipName at read
  split at read
  · simp [stopBefore] at read
  · next c left same =>
      split at read
      · obtain ⟨behind, string, read⟩ := bind_eq_ok_iff.1 read
        exact Nat.lt_trans (length_readColon read)
          (Nat.lt_trans (length_skipString string) (length_lt_of_skipBlanks same))
      · simp [stopAfterByte] at read

/-- Passes over values until no bracket is open: a value comes next, or what may follow one. -/
def skipUntilClosed (stack : List Bracket) (valueNext : Bool) (text : List Char) :
    Except Flaw (List Char) :=
  match valueNext, stack with
  | true, stack =>
      match _start : skipBlanks text with
      | '[' :: rest =>
          match _inner : skipBlanks rest with
          | ']' :: left => skipUntilClosed stack false left
          | [] => stopBefore .endInList []
          | _ => skipUntilClosed (.list :: stack) true rest
      | '{' :: rest =>
          match _inner : skipBlanks rest with
          | '}' :: left => skipUntilClosed stack false left
          | [] => stopBefore .endInObject []
          | _ =>
              match _name : skipName rest with
              | .error flaw => .error flaw
              | .ok left => skipUntilClosed (.object :: stack) true left
      | scalar =>
          match _scalar : skipScalar scalar with
          | .error flaw => .error flaw
          | .ok left => skipUntilClosed stack false left
  | false, [] => .ok text
  | false, .list :: outer =>
      match _start : skipBlanks text with
      | ',' :: left => skipUntilClosed (.list :: outer) true left
      | ']' :: left => skipUntilClosed outer false left
      | [] => stopBefore .endInList []
      | left => stopAfterByte .expectedListEnd left
  | false, .object :: outer =>
      match _start : skipBlanks text with
      | ',' :: left =>
          match _name : skipName left with
          | .error flaw => .error flaw
          | .ok behind => skipUntilClosed (.object :: outer) true behind
      | '}' :: left => skipUntilClosed outer false left
      | [] => stopBefore .endInObject []
      | left => stopAfterByte .expectedObjectEnd left
termination_by text.length
decreasing_by
  · exact Nat.lt_trans (length_lt_of_skipBlanks ‹_›) (length_lt_of_skipBlanks ‹_›)
  · exact length_lt_of_skipBlanks ‹_›
  · exact Nat.lt_trans (length_lt_of_skipBlanks ‹_›) (length_lt_of_skipBlanks ‹_›)
  · exact Nat.lt_trans (length_skipName ‹_›) (length_lt_of_skipBlanks ‹_›)
  · exact Nat.lt_of_lt_of_le (length_skipScalar ‹_›)
      (‹skipBlanks text = _› ▸ length_skipBlanks_le text)
  · exact length_lt_of_skipBlanks ‹_›
  · exact length_lt_of_skipBlanks ‹_›
  · exact Nat.lt_trans (length_skipName ‹_›) (length_lt_of_skipBlanks ‹_›)
  · exact length_lt_of_skipBlanks ‹_›

/-- The text behind a value. -/
def skipValue (text : List Char) : Except Flaw (List Char) := skipUntilClosed [] true text

theorem length_skipUntilClosed_le {stack : List Bracket} {valueNext : Bool}
    {text rest : List Char} (read : skipUntilClosed stack valueNext text = .ok rest) :
    rest.length ≤ text.length := by
  fun_induction skipUntilClosed stack valueNext text <;>
    grind [→ length_lt_of_skipBlanks, length_skipBlanks_le, → length_skipName, → length_skipScalar,
      stopBefore, stopAfterByte]

theorem length_skipValue_le {text rest : List Char} (read : skipValue text = .ok rest) :
    rest.length ≤ text.length :=
  length_skipUntilClosed_le read

end LexScan.Json
