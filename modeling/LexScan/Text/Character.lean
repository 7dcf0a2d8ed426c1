import LexScan.Text.Alphabetic
import LexScan.Text.Numeric
import LexScan.Text.Uppercase

/-! The character classes of the language. ASCII characters are decided directly and the others by
table, so that statements about letters, digits and blanks of plain text need no table. -/
namespace LexScan.Text

def isAscii (c : Char) : Bool := c.toNat < 128

/-- A letter, in the sense of the property Alphabetic. -/
def isAlphabetic (c : Char) : Bool :=
  if isAscii c then c.isAlpha else inRanges alphabeticRanges c

/-- A decimal digit, a letter number or another number. -/
def isNumeric (c : Char) : Bool :=
  if isAscii c then c.isDigit else inRanges numericRanges c

def isAlphanumeric (c : Char) : Bool := isAlphabetic c || isNumeric c

def isUppercase (c : Char) : Bool :=
  if isAscii c then c.isUpper else inRanges uppercaseRanges c

/-- The characters that may follow the first letter of a word. -/
def isWordPart (c : Char) : Bool := isAlphanumeric c || c == '_'

/-- Space, tab, carriage return and line feed separate tokens, and the parts of a JSON text. -/
def isBlank (c : Char) : Bool := c == ' ' || c == '\t' || c == '\r' || c == '\n'

/-- The value of a hexadecimal digit, with letters of either case. -/
def hexValue? (c : Char) : Option Nat :=
  if c.isDigit then some (c.toNat - 48)
  else if 'a' ≤ c && c ≤ 'f' then some (c.toNat - 87)
  else if 'A' ≤ c && c ≤ 'F' then some (c.toNat - 55)
  else none

/-- The characters with the property White_Space. -/
def isSpace (c : Char) : Bool :=
  inRanges [.span 0x9 0xD, .one 0x20, .one 0x85, .one 0xA0, .one 0x1680, .span 0x2000 0x200A,
    .span 0x2028 0x2029, .one 0x202F, .one 0x205F, .one 0x3000] c

theorem isBlank_iff {c : Char} :
    isBlank c = true ↔ c = ' ' ∨ c = '\t' ∨ c = '\r' ∨ c = '\n' := by
  simp [isBlank, or_assoc]

theorem isAlphabetic_of_isAscii {c : Char} (ascii : isAscii c = true) :
    isAlphabetic c = c.isAlpha := by
  simp [isAlphabetic, ascii]

theorem isWordPart_of_isAlphabetic {c : Char} (letter : isAlphabetic c = true) :
    isWordPart c = true := by
  simp [isWordPart, isAlphanumeric, letter]

/-- No blank is part of a word, so words end where blanks begin. -/
theorem isWordPart_eq_false_of_isBlank {c : Char} (blank : isBlank c = true) :
    isWordPart c = false := by
  rcases isBlank_iff.1 blank with rfl | rfl | rfl | rfl <;> decide

theorem isBlank_eq_false_of_isAlphabetic {c : Char} (letter : isAlphabetic c = true) :
    isBlank c = false := by
  cases blank : isBlank c with
  | false => rfl
  | true =>
      have part := isWordPart_eq_false_of_isBlank blank
      simp [isWordPart_of_isAlphabetic letter] at part

theorem isBlank_eq_false_of_isDigit {c : Char} (digit : c.isDigit = true) : isBlank c = false := by
  cases blank : isBlank c with
  | false => rfl
  | true => rcases isBlank_iff.1 blank with rfl | rfl | rfl | rfl <;> simp at digit

theorem toNat_le_of_isDigit {c : Char} (digit : c.isDigit = true) : c.toNat ≤ 57 := by
  simp only [Char.isDigit, ge_iff_le, Bool.and_eq_true, decide_eq_true_eq,
    UInt32.le_iff_toNat_le] at digit
  simpa using digit.2

theorem isAscii_of_isDigit {c : Char} (digit : c.isDigit = true) : isAscii c = true := by
  have high := toNat_le_of_isDigit digit
  simp only [isAscii, decide_eq_true_eq]
  omega

theorem isAlphanumeric_of_isDigit {c : Char} (digit : c.isDigit = true) :
    isAlphanumeric c = true := by
  simp [isAlphanumeric, isNumeric, isAscii_of_isDigit digit, digit]

theorem isAlphabetic_eq_false_of_isDigit {c : Char} (digit : c.isDigit = true) :
    isAlphabetic c = false := by
  have high := toNat_le_of_isDigit digit
  rw [isAlphabetic_of_isAscii (isAscii_of_isDigit digit)]
  -- letters lie above the digits, capital ones first
  change (decide ('A'.val ≤ c.val ∧ c.val ≤ 'Z'.val) ||
    (decide ('a'.val ≤ c.val) && decide (c.val ≤ 'z'.val))) = false
  have capital : ¬ 'A'.val ≤ c.val := by
    simp only [UInt32.le_iff_toNat_le, UInt32.reduceToNat, Char.reduceVal, Char.toNat_val]
    omega
  have small : ¬ 'a'.val ≤ c.val := by
    simp only [UInt32.le_iff_toNat_le, UInt32.reduceToNat, Char.reduceVal, Char.toNat_val]
    omega
  simp only [capital, small, false_and, decide_false, Bool.false_and, Bool.or_false]

end LexScan.Text
