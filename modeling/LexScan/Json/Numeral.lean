import LexScan.Json.Reader

/-! Reading numbers. The digits are gathered in a significand of 64 bits: whole digits that do not
fit any more only raise the power of ten, and digits of a fraction that do not fit are dropped. -/
namespace LexScan.Json

/-- The largest natural number of 64 bits. -/
def maxSignificand : Nat := 0xFFFFFFFFFFFFFFFF

/-- The size of the least integer of 64 bits. -/
def maxNegativeSize : Nat := 0x8000000000000000

/-- The largest integer of 32 bits. -/
def maxExponent : Nat := 0x7FFFFFFF

/-- Gathered digits, to be multiplied by a power of ten. -/
structure Gathered where
  significand : Nat
  power : Int
deriving DecidableEq, Repr

namespace Gathered

def addWhole (g : Gathered) (digit : Nat) : Gathered :=
  if g.power = 0 ∧ g.significand * 10 + digit ≤ maxSignificand then
    ⟨g.significand * 10 + digit, 0⟩
  else ⟨g.significand, g.power + 1⟩

def addFraction (g : Gathered) : List Nat → Gathered
  | [] => g
  | digit :: digits =>
      if g.significand * 10 + digit ≤ maxSignificand then
        addFraction ⟨g.significand * 10 + digit, g.power - 1⟩ digits
      else g

/-- Whether all digits so far are in the significand. -/
def isWhole (g : Gathered) : Bool := g.power == 0

end Gathered

def digitValue (c : Char) : Nat := c.toNat - 48

def startsWithDigit (text : List Char) : Bool := text.head?.any Char.isDigit

def isNumeralStart (c : Char) : Bool := c == '-' || c.isDigit

def isExponentMark (c : Char) : Bool := c == 'e' || c == 'E'

/-- A sign in front of an exponent: whether it is a minus, and the text behind it. -/
def readSign : List Char → Bool × List Char
  | '+' :: rest => (false, rest)
  | '-' :: rest => (true, rest)
  | rest => (false, rest)

/-- The digits of an exponent, or nothing if they grow too large; reading stops right behind the
digit that is too much. -/
def readExponentDigits (value : Nat) : List Char → Option Nat × List Char
  | [] => (some value, [])
  | c :: rest =>
      if c.isDigit then
        if value * 10 + digitValue c ≤ maxExponent then
          readExponentDigits (value * 10 + digitValue c) rest
        else (none, rest)
      else (some value, c :: rest)

/-- The fraction that gathered digits come to. -/
def fractionOf (negative : Bool) (g : Gathered) (rest : List Char) :
    Except Flaw (Number × List Char) :=
  match (Decimal.Binary.round g.significand 1).scale? g.power with
  | some size => .ok (.fraction negative size, rest)
  | none => stopBefore .numberOutOfRange rest

/-- An integer, if it has a sign that fits. -/
def integerOf (negative : Bool) (significand : Nat) : Number :=
  if negative then
    if significand = 0 ∨ maxNegativeSize < significand then
      .fraction true (Decimal.Binary.round significand 1)
    else .negative significand
  else .natural significand

/-- The exponent of a number, for a text behind its mark. -/
def readExponent (negative : Bool) (g : Gathered) (text : List Char) :
    Except Flaw (Number × List Char) :=
  let (down, digits) := readSign text
  match digits with
  | [] => stopBefore .endInValue []
  | c :: rest =>
      if c.isDigit then
        match readExponentDigits (digitValue c) rest with
        | (some exponent, left) =>
            let power : Int := if down then g.power - exponent else g.power + exponent
            fractionOf negative ⟨g.significand, power⟩ left
        | (none, left) =>
            if g.significand ≠ 0 ∧ down = false then stopBefore .numberOutOfRange left
            else .ok (.fraction negative .zero, left.dropWhile Char.isDigit)
      else stopAfterByte .invalidNumber (c :: rest)

/-- The digits behind a point, of which there must be one. -/
def readFraction (negative : Bool) (g : Gathered) (text : List Char) :
    Except Flaw (Number × List Char) :=
  let left := text.dropWhile Char.isDigit
  if startsWithDigit text then
    let gathered := g.addFraction ((text.takeWhile Char.isDigit).map digitValue)
    match left with
    | c :: rest =>
        if isExponentMark c then readExponent negative gathered rest
        else fractionOf negative gathered left
    | [] => fractionOf negative gathered []
  else stopAfterByte (if left.isEmpty then .endInValue else .invalidNumber) left

/-- What stands behind the whole digits. -/
def readAfterWhole (negative : Bool) (g : Gathered) (text : List Char) :
    Except Flaw (Number × List Char) :=
  let plain :=
    if g.isWhole then .ok (integerOf negative g.significand, text) else fractionOf negative g text
  match text with
  | c :: rest =>
      if c = '.' then readFraction negative g rest
      else if isExponentMark c then readExponent negative g rest
      else plain
  | [] => plain

def readUnsigned (negative : Bool) (text : List Char) : Except Flaw (Number × List Char) :=
  match text with
  | [] => stopBefore .endInValue []
  | c :: rest =>
      if c = '0' then
        if startsWithDigit rest then stopAfterByte .invalidNumber rest
        else readAfterWhole negative ⟨0, 0⟩ rest
      else if c.isDigit then
        let digits := (text.takeWhile Char.isDigit).map digitValue
        let gathered := digits.foldl Gathered.addWhole ⟨0, 0⟩
        readAfterWhole negative gathered (text.dropWhile Char.isDigit)
      else stopAfterByte .invalidNumber text

/-- A number, for a text that begins with a minus sign or a digit. -/
def readNumber : List Char → Except Flaw (Number × List Char)
  | '-' :: rest => readUnsigned true rest
  | text => readUnsigned false text

theorem length_dropDigits_le (text : List Char) :
    (text.dropWhile Char.isDigit).length ≤ text.length :=
  (List.dropWhile_sublist _).length_le

theorem length_readSign_le (text : List Char) : (readSign text).2.length ≤ text.length := by
  unfold readSign
  split <;> simp

theorem length_readExponentDigits_le (value : Nat) (text : List Char) :
    (readExponentDigits value text).2.length ≤ text.length := by
  fun_induction readExponentDigits value text with
  | case1 => simp
  | case2 value c text _ _ ih => exact Nat.le_succ_of_le ih
  | case3 => simp
  | case4 => simp

theorem rest_fractionOf {negative : Bool} {g : Gathered} {text rest : List Char} {value : Number}
    (read : fractionOf negative g text = .ok (value, rest)) : rest = text := by
  unfold fractionOf at read
  split at read
  · simp only [Except.ok.injEq, Prod.mk.injEq] at read
    exact read.2.symm
  · simp [stopBefore] at read

theorem length_readExponent_le {negative : Bool} {g : Gathered} {text rest : List Char}
    {value : Number} (read : readExponent negative g text = .ok (value, rest)) :
    rest.length ≤ text.length := by
  have signed := length_readSign_le text
  unfold readExponent at read
  simp only at read
  split at read
  · simp [stopBefore] at read
  · next c digits same =>
      rw [same, List.length_cons] at signed
      have exponent := length_readExponentDigits_le (digitValue c) digits
      split at read
      · split at read
        · next left equal =>
            rw [equal] at exponent
            rw [rest_fractionOf read]
            simp only at exponent
            omega
        · next left equal =>
            rw [equal] at exponent
            split at read
            · simp [stopBefore] at read
            · simp only [Except.ok.injEq, Prod.mk.injEq] at read
              have dropped := length_dropDigits_le left
              rw [← read.2]
              simp only at exponent
              omega
      · simp [stopAfterByte] at read

theorem length_readFraction_le {negative : Bool} {g : Gathered} {text rest : List Char}
    {value : Number} (read : readFraction negative g text = .ok (value, rest)) :
    rest.length ≤ text.length := by
  have dropped := length_dropDigits_le text
  unfold readFraction at read
  simp only at read
  split at read
  · split at read
    · next c left same =>
        rw [same, List.length_cons] at dropped
        split at read
        · have exponent := length_readExponent_le read
          omega
        · rw [rest_fractionOf read, same, List.length_cons]
          exact dropped
    · rw [rest_fractionOf read]
      simp
  · simp [stopAfterByte] at read

theorem length_readAfterWhole_le {negative : Bool} {g : Gathered} {text rest : List Char}
    {value : Number} (read : readAfterWhole negative g text = .ok (value, rest)) :
    rest.length ≤ text.length := by
  have plain : (if g.isWhole then .ok (integerOf negative g.significand, text)
      else fractionOf negative g text) = .ok (value, rest) → rest.length ≤ text.length := by
    intro read
    split at read
    · simp only [Except.ok.injEq, Prod.mk.injEq] at read
      exact Nat.le_of_eq (congrArg List.length read.2.symm)
    · exact Nat.le_of_eq (congrArg List.length (rest_fractionOf read))
  unfold readAfterWhole at read
  simp only at read
  split at read
  · split at read
    · exact Nat.le_succ_of_le (length_readFraction_le read)
    · split at read
      · exact Nat.le_succ_of_le (length_readExponent_le read)
      · exact plain read
  · exact plain read

theorem length_readUnsigned {negative : Bool} {text rest : List Char} {value : Number}
    (read : readUnsigned negative text = .ok (value, rest)) : rest.length < text.length := by
  unfold readUnsigned at read
  split at read
  · simp [stopBefore] at read
  · next c left =>
      split at read
      · split at read
        · simp [stopAfterByte] at read
        · exact Nat.lt_succ_of_le (length_readAfterWhole_le read)
      · split at read
        · next digit =>
            have shorter := length_readAfterWhole_le read
            rw [List.dropWhile_cons_of_pos digit] at shorter
            exact Nat.lt_succ_of_le (Nat.le_trans shorter (length_dropDigits_le left))
        · simp [stopAfterByte] at read

theorem length_readNumber {text rest : List Char} {value : Number}
    (read : readNumber text = .ok (value, rest)) : rest.length < text.length := by
  unfold readNumber at read
  split at read
  · exact Nat.lt_succ_of_lt (length_readUnsigned read)
  · exact length_readUnsigned read

end LexScan.Json
