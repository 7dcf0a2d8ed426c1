import LexScan.Json.Problem
import LexScan.Text.Character

/-! Reading the leaves of a JSON text: blanks, words, strings and numbers. A reader returns what it
has read and the text behind it, or the flaw that stopped it. -/
namespace LexScan.Json

open Text

/-- Blanks may stand between the parts of a text. -/
def skipBlanks (text : List Char) : List Char := text.dropWhile isBlank

/-- Reads the letters of a word. -/
def readWord : List Char → List Char → Except Flaw (List Char)
  | [], text => .ok text
  | _ :: _, [] => stopBefore .endInValue []
  | letter :: letters, c :: rest =>
      if c = letter then readWord letters rest else stopAfterByte .expectedWord (c :: rest)

/-- Four bytes are taken for the digits of an escape before they are looked at. -/
def stopInHex (text : List Char) : Except Flaw α :=
  if byteSize text < 4 then .error ⟨.endInString, 0⟩
  else .error ⟨.invalidEscape, byteSize text - 4⟩

/-- Four hexadecimal digits. -/
def readHex (text : List Char) : Except Flaw (Nat × List Char) :=
  match text with
  | a :: b :: c :: d :: rest =>
      match hexValue? a, hexValue? b, hexValue? c, hexValue? d with
      | some a, some b, some c, some d => .ok (((a * 16 + b) * 16 + c) * 16 + d, rest)
      | _, _, _, _ => stopInHex text
  | _ => stopInHex text

def isLeadingSurrogate (n : Nat) : Bool := 0xD800 ≤ n && n ≤ 0xDBFF

def isTrailingSurrogate (n : Nat) : Bool := 0xDC00 ≤ n && n ≤ 0xDFFF

/-- The second half of a pair of surrogates. -/
def readTrailingSurrogate (leading : Nat) : List Char → Except Flaw (Char × List Char)
  | [] => stopBefore .endInString []
  | ['\\'] => stopBefore .endInString []
  | '\\' :: 'u' :: rest => do
      let (trailing, left) ← readHex rest
      if isTrailingSurrogate trailing then
        .ok (Char.ofNat ((leading - 0xD800) * 1024 + (trailing - 0xDC00) + 0x10000), left)
      else stopBefore .loneSurrogate left
  | '\\' :: rest => stopAfterByte .endInSurrogatePair rest
  | rest => stopAfterByte .endInSurrogatePair rest

/-- A character given by its number. Characters beyond 16 bits are given by two surrogates. -/
def readNumbered (text : List Char) : Except Flaw (Char × List Char) := do
  let (code, rest) ← readHex text
  if isTrailingSurrogate code then stopBefore .loneSurrogate rest
  else if isLeadingSurrogate code then readTrailingSurrogate code rest
  else .ok (Char.ofNat code, rest)

/-- The character for a letter behind a backslash, numbered characters apart. -/
def escapeOf? : Char → Option Char
  | '"' => some '"'
  | '\\' => some '\\'
  | '/' => some '/'
  | 'b' => some '\x08'
  | 'f' => some '\x0c'
  | 'n' => some '\n'
  | 'r' => some '\r'
  | 't' => some '\t'
  | _ => none

/-- What stands behind a backslash. -/
def readEscape : List Char → Except Flaw (Char × List Char)
  | [] => stopBefore .endInString []
  | c :: rest =>
      if c = 'u' then readNumbered rest
      else
        match escapeOf? c with
        | some meaning => .ok (meaning, rest)
        | none => stopAfterByte .invalidEscape (c :: rest)

/-- A sequence of two readers succeeds when both do. -/
theorem bind_eq_ok_iff {first : Except Flaw α} {second : α → Except Flaw β} {result : β} :
    (first >>= second) = .ok result ↔ ∃ value, first = .ok value ∧ second value = .ok result := by
  cases first <;> simp [bind, Except.bind]

theorem length_readHex {text rest : List Char} {code : Nat}
    (read : readHex text = .ok (code, rest)) : rest.length < text.length := by
  unfold readHex at read
  split at read
  · split at read
    · simp only [Except.ok.injEq, Prod.mk.injEq] at read
      obtain ⟨_, rfl⟩ := read
      simp only [List.length_cons]
      omega
    · simp only [stopInHex] at read
      split at read <;> simp at read
  · simp only [stopInHex] at read
    split at read <;> simp at read

theorem length_readTrailingSurrogate {leading : Nat} {text rest : List Char} {c : Char}
    (read : readTrailingSurrogate leading text = .ok (c, rest)) : rest.length < text.length := by
  unfold readTrailingSurrogate at read
  split at read
  · simp [stopBefore] at read
  · simp [stopBefore] at read
  · next text =>
      obtain ⟨⟨trailing, left⟩, hex, read⟩ := bind_eq_ok_iff.1 read
      have shorter := length_readHex hex
      simp only at read
      split at read
      · simp only [Except.ok.injEq, Prod.mk.injEq] at read
        obtain ⟨_, rfl⟩ := read
        simp only [List.length_cons]
        omega
      · simp [stopBefore] at read
  · simp [stopAfterByte] at read
  · simp [stopAfterByte] at read

theorem length_readNumbered {text rest : List Char} {c : Char}
    (read : readNumbered text = .ok (c, rest)) : rest.length < text.length := by
  unfold readNumbered at read
  obtain ⟨⟨code, left⟩, hex, read⟩ := bind_eq_ok_iff.1 read
  have shorter := length_readHex hex
  simp only at read
  split at read
  · simp [stopBefore] at read
  · split at read
    · exact Nat.lt_trans (length_readTrailingSurrogate read) shorter
    · simp only [Except.ok.injEq, Prod.mk.injEq] at read
      obtain ⟨_, rfl⟩ := read
      exact shorter

theorem length_readEscape {text rest : List Char} {c : Char}
    (read : readEscape text = .ok (c, rest)) : rest.length < text.length := by
  unfold readEscape at read
  split at read
  · simp [stopBefore] at read
  · split at read
    · exact Nat.lt_succ_of_lt (length_readNumbered read)
    · split at read
      · simp only [Except.ok.injEq, Prod.mk.injEq] at read
        obtain ⟨_, rfl⟩ := read
        simp
      · simp [stopAfterByte] at read

/-- Puts a character in front of what was read. -/
def before (c : Char) (read : Except Flaw (List Char × List Char)) :
    Except Flaw (List Char × List Char) :=
  read.map fun parts => (c :: parts.1, parts.2)

/-- The characters of a string, for a text behind the opening quote. -/
def readString (text : List Char) : Except Flaw (List Char × List Char) :=
  match text with
  | [] => stopBefore .endInString []
  | c :: rest =>
      if c = '"' then .ok ([], rest)
      else if c = '\\' then
        match _escape : readEscape rest with
        | .error flaw => .error flaw
        | .ok (meaning, left) => before meaning (readString left)
      else if c.toNat < 32 then stopAfterByte .controlCharacter (c :: rest)
      else before c (readString rest)
termination_by text.length
decreasing_by
  · exact Nat.lt_succ_of_lt (length_readEscape ‹_›)
  · simp

theorem before_eq_ok_iff {c : Char} {read : Except Flaw (List Char × List Char)}
    {characters rest : List Char} :
    before c read = .ok (characters, rest) ↔
      ∃ more, read = .ok (more, rest) ∧ c :: more = characters := by
  cases read with
  | error flaw => simp [before, Except.map]
  | ok parts =>
      simp only [before, Except.map, Except.ok.injEq, Prod.ext_iff]
      constructor
      · rintro ⟨same, rfl⟩
        exact ⟨parts.1, ⟨rfl, rfl⟩, same⟩
      · rintro ⟨_, ⟨rfl, rfl⟩, same⟩
        exact ⟨same, rfl⟩

theorem length_readString {text characters rest : List Char}
    (read : readString text = .ok (characters, rest)) : rest.length < text.length := by
  fun_induction readString text generalizing characters with
  | case1 => simp [stopBefore] at read
  | case2 => simp_all
  | case3 => simp at read
  | case4 text meaning left escape _ ih =>
      obtain ⟨more, inner, _⟩ := before_eq_ok_iff.1 read
      exact Nat.lt_trans (ih inner) (Nat.lt_succ_of_lt (length_readEscape escape))
  | case5 => simp [stopAfterByte] at read
  | case6 c text _ _ _ ih =>
      obtain ⟨more, inner, _⟩ := before_eq_ok_iff.1 read
      exact Nat.lt_succ_of_lt (ih inner)

end LexScan.Json
