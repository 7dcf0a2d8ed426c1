import LexScan.Json.Numeral
import LexScan.Proofs.JsonPrinting

/-! The readers of leaves accept what the grammar gives. Each one takes exactly the written piece
from the front of a longer text, provided that the text behind it does not go on with the piece. -/
namespace LexScan.Json

open Grammar Text

/-! ### Strings -/

theorem readHex_of_hexCode {a b c d : Char} {code : Nat} (hex : hexCode? a b c d = some code)
    (rest : List Char) : readHex (a :: b :: c :: d :: rest) = .ok (code, rest) := by
  unfold readHex
  cases first : hexValue? a <;> cases second : hexValue? b <;> cases third : hexValue? c <;>
    cases fourth : hexValue? d <;> simp_all [hexCode?]

theorem readNumbered_of_unpaired {a b c d : Char} {code : Nat} (hex : hexCode? a b c d = some code)
    (unpaired : isLeadingSurrogate code = false ∧ isTrailingSurrogate code = false)
    (rest : List Char) :
    readNumbered (a :: b :: c :: d :: rest) = .ok (Char.ofNat code, rest) := by
  simp [readNumbered, readHex_of_hexCode hex, unpaired, bind, Except.bind]

theorem readNumbered_of_paired {a b c d e f g h : Char} {leading trailing : Nat}
    (first : hexCode? a b c d = some leading) (second : hexCode? e f g h = some trailing)
    (leads : isLeadingSurrogate leading = true) (trails : isTrailingSurrogate trailing = true)
    (rest : List Char) :
    readNumbered (a :: b :: c :: d :: '\\' :: 'u' :: e :: f :: g :: h :: rest) =
      .ok (Char.ofNat ((leading - 0xD800) * 1024 + (trailing - 0xDC00) + 0x10000), rest) := by
  have alone : isTrailingSurrogate leading = false := by
    simp only [isLeadingSurrogate, isTrailingSurrogate, Bool.and_eq_true, decide_eq_true_eq,
      Bool.and_eq_false_iff, decide_eq_false_iff_not] at leads ⊢
    omega
  simp [readNumbered, readTrailingSurrogate, readHex_of_hexCode first, readHex_of_hexCode second,
    leads, trails, alone, bind, Except.bind]

theorem readEscape_of_escapeOf {letter meaning : Char} (listed : escapeOf? letter = some meaning)
    (rest : List Char) : readEscape (letter :: rest) = .ok (meaning, rest) := by
  have lettered : letter ≠ 'u' := by
    rintro rfl
    simp [escapeOf?] at listed
  simp [readEscape, lettered, listed]

theorem readString_escaped {text left : List Char} {meaning : Char}
    (escape : readEscape text = .ok (meaning, left)) :
    readString ('\\' :: text) = before meaning (readString left) := by
  rw [readString]
  simp only [Char.reduceEq, if_false, if_true]
  split
  · next flaw refused => simp [escape] at refused
  · next read => rw [escape] at read; cases read; rfl

theorem readString_characterText {c : Char} {piece : List Char} (written : CharacterText c piece)
    (rest : List Char) : readString (piece ++ rest) = before c (readString rest) := by
  cases written with
  | plain unquoted unescaped visible =>
      have shown : ¬ c.toNat < 32 := by omega
      rw [List.singleton_append, readString]
      simp [unquoted, unescaped, shown]
  | escape listed => exact readString_escaped (readEscape_of_escapeOf listed rest)
  | numbered hex unpaired => exact readString_escaped (readNumbered_of_unpaired hex unpaired rest)
  | paired first second leads trails =>
      exact readString_escaped (readNumbered_of_paired first second leads trails rest)

/-- A string is read as the characters that it stands for. -/
theorem readString_of_stringBody {content body : List Char} (written : StringBody content body)
    (rest : List Char) : readString (body ++ rest) = .ok (content, rest) := by
  induction written with
  | close => simp [readString]
  | character first others ih =>
      rw [List.append_assoc, readString_characterText first, ih]
      rfl

/-! ### Numbers -/

theorem le_ofDigitChars (digits : List Char) (value : Nat) :
    value ≤ Nat.ofDigitChars 10 digits value := by
  induction digits generalizing value with
  | nil => simp
  | cons c digits ih =>
      rw [Nat.ofDigitChars_cons]
      have later := ih (10 * value + (c.toNat - '0'.toNat))
      omega

/-- As long as the digits fit, all of them are gathered. -/
theorem foldl_addWhole {digits : List Char} {value : Nat}
    (fits : Nat.ofDigitChars 10 digits value ≤ maxSignificand) :
    (digits.map digitValue).foldl Gathered.addWhole ⟨value, 0⟩ =
      ⟨Nat.ofDigitChars 10 digits value, 0⟩ := by
  induction digits generalizing value with
  | nil => rfl
  | cons c digits ih =>
      have here : value * 10 + digitValue c = 10 * value + (c.toNat - '0'.toNat) := by
        rw [Nat.mul_comm]
        rfl
      rw [Nat.ofDigitChars_cons] at fits ⊢
      have small := (le_ofDigitChars digits _).trans fits
      rw [List.map_cons, List.foldl_cons, Gathered.addWhole, here, if_pos ⟨rfl, small⟩, ih fits]

theorem Ends.startsWithDigit {rest : List Char} (ends : Ends rest) :
    startsWithDigit rest = false := by
  cases rest with
  | nil => rfl
  | cons c rest =>
      have part := ends c (by simp)
      simp only [isNumeralPart, Bool.or_eq_false_iff] at part
      simpa [Json.startsWithDigit] using part.1

theorem digits_append {digits rest : List Char} (all : Digits digits) (ends : Ends rest) :
    (digits ++ rest).takeWhile Char.isDigit = digits ∧
      (digits ++ rest).dropWhile Char.isDigit = rest := by
  rw [List.takeWhile_append_of_pos all, List.dropWhile_append_of_pos all]
  have other := ends.startsWithDigit
  cases rest with
  | nil => simp
  | cons c rest => simp_all [startsWithDigit]

theorem readAfterWhole_of_ends (value : Nat) {rest : List Char} (ends : Ends rest) :
    readAfterWhole false ⟨value, 0⟩ rest = .ok (.natural value, rest) := by
  unfold readAfterWhole
  cases rest with
  | nil => rfl
  | cons c rest =>
      have part := ends c (by simp)
      have point : c ≠ '.' := by
        rintro rfl
        simp [isNumeralPart] at part
      have mark : isExponentMark c = false := by
        simp only [isNumeralPart, Bool.or_eq_false_iff, decide_eq_false_iff_not] at part
        simp_all [isExponentMark]
      simp only [point, mark, if_false, Bool.false_eq_true]
      rfl

/-- Digits without zeros in front are read as their number if it has 64 bits. -/
theorem readNumber_of_wholePart {digits rest : List Char} (whole : WholePart digits)
    (fits : Nat.ofDigitChars 10 digits 0 ≤ maxSignificand) (ends : Ends rest) :
    readNumber (digits ++ rest) = .ok (.natural (Nat.ofDigitChars 10 digits 0), rest) := by
  obtain ⟨taken, left⟩ := digits_append whole.parts ends
  cases whole with
  | zero =>
      change readUnsigned false ('0' :: rest) = _
      simp only [readUnsigned, if_true, ends.startsWithDigit, Bool.false_eq_true, if_false]
      exact readAfterWhole_of_ends 0 ends
  | @digits first later digit nonzero all =>
      have unsigned : readNumber (first :: later ++ rest) =
          readUnsigned false (first :: later ++ rest) := by
        unfold readNumber
        split
        · next same =>
            obtain ⟨rfl, _⟩ := List.cons.inj same
            simp at digit
        · rfl
      rw [unsigned, List.cons_append, readUnsigned, ← List.cons_append]
      simp only [nonzero, if_false, digit, if_true, taken, left, foldl_addWhole fits]
      exact readAfterWhole_of_ends _ ends

/-! ### Words -/

theorem readWord_append_self (letters rest : List Char) :
    readWord letters (letters ++ rest) = .ok rest := by
  induction letters with
  | nil => simp [readWord]
  | cons letter letters ih => simp [readWord, ih]

end LexScan.Json
