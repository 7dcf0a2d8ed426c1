import LexScan.Log.Pattern.Flags

/-! Escapes in patterns, and the space between parts of them. -/
namespace LexScan.Log.Pattern

open Text

/-- What is left of a text behind white space and comments. A comment reaches from a number sign to
the end of the line. -/
def dropSpace (inComment : Bool) : List Char → List Char
  | [] => []
  | c :: rest =>
      if inComment then dropSpace (c != '\n') rest
      else if c == '#' then dropSpace true rest
      else if isSpace c then dropSpace false rest
      else c :: rest

/-- Space only counts as such if the flags say so. -/
def skipSpace (flags : Flags) (text : List Char) : List Char :=
  if flags.spaced then dropSpace false text else text

theorem length_dropSpace_le (inComment : Bool) (text : List Char) :
    (dropSpace inComment text).length ≤ text.length := by
  fun_induction dropSpace inComment text <;> simp_all <;> omega

theorem length_skipSpace_le (flags : Flags) (text : List Char) :
    (skipSpace flags text).length ≤ text.length := by
  unfold skipSpace
  split
  · exact length_dropSpace_le false text
  · exact Nat.le_refl _

/-- Reads so many hexadecimal digits, with a value before them. -/
def readDigits? (flags : Flags) : Nat → Nat → List Char → Option (Nat × List Char)
  | 0, value, text => some (value, text)
  | digits + 1, value, text =>
      match skipSpace flags text with
      | [] => none
      | c :: rest =>
          match hexValue? c with
          | some digit => readDigits? flags digits (value * 16 + digit) rest
          | none => none

theorem length_readDigits?_le {flags : Flags} {digits value : Nat} {text : List Char}
    {result : Nat × List Char} (read : readDigits? flags digits value text = some result) :
    result.2.length ≤ text.length := by
  fun_induction readDigits? flags digits value text with
  | case1 => simp [← Option.some.inj read]
  | case2 => simp at read
  | case3 _ _ text _ _ same _ _ ih =>
      have shorter := length_skipSpace_le flags text
      have tail := ih read
      simp only [same, List.length_cons] at shorter
      omega
  | case4 => simp at read

/-- The letters before the number of a character, and how many digits it has. -/
def numberSize? : Char → Option Nat
  | 'x' => some 2
  | 'u' => some 4
  | 'U' => some 8
  | _ => none

/-- What a character behind a backslash stands for. Any ASCII character but letters, digits and
angle brackets stands for itself. -/
def escaped? (c : Char) : Option Atom :=
  let itself (c : Char) : Option Atom := some (.literal ⟨c, false⟩)
  match c with
  | 'd' | 's' | 'w' => some (.kind false)
  | 'D' | 'S' | 'W' => some (.kind true)
  | 'A' | 'z' => some .edge
  | 'b' | 'B' | '<' | '>' => some .wordEdge
  | 'a' => itself '\x07'
  | 'f' => itself '\x0c'
  | 't' => itself '\t'
  | 'n' => itself '\n'
  | 'r' => itself '\r'
  | 'v' => itself '\x0b'
  | _ => if isAscii c && !c.isAlphanum then itself c else none

/-- Reads what stands behind a backslash. A number of two digits is that of a byte. -/
def readEscape? (flags : Flags) : List Char → Option (Atom × List Char)
  | [] => none
  | c :: rest =>
      match numberSize? c with
      | some size =>
          match readDigits? flags size 0 rest with
          | some (value, rest) =>
              if value.isValidChar then some (.literal ⟨Char.ofNat value, size == 2⟩, rest)
              else none
          | none => none
      | none => (escaped? c).map fun atom => (atom, rest)

theorem length_readEscape? {flags : Flags} {text : List Char} {result : Atom × List Char}
    (read : readEscape? flags text = some result) : result.2.length < text.length := by
  unfold readEscape? at read
  split at read
  · simp at read
  · split at read
    · split at read
      · next number =>
          have shorter := length_readDigits?_le number
          split at read
          · simp only [Option.some.injEq] at read
            simp only [← read, List.length_cons]
            exact Nat.lt_succ_of_le shorter
          · simp at read
      · simp at read
    · obtain ⟨atom, _, rfl⟩ := Option.map_eq_some_iff.1 read
      simp

end LexScan.Log.Pattern
