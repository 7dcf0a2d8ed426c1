/-! Numbers: a run of digits, perhaps a fraction, perhaps an exponent. Each recogniser splits a text
into what it takes from the front and what it leaves; fraction and exponent may have no digits. -/
namespace LexScan.Lexeme

/-- A point and the digits behind it. -/
def fraction : List Char → List Char × List Char
  | '.' :: rest => ('.' :: rest.takeWhile Char.isDigit, rest.dropWhile Char.isDigit)
  | rest => ([], rest)

def sign : List Char → List Char × List Char
  | '+' :: rest => (['+'], rest)
  | '-' :: rest => (['-'], rest)
  | rest => ([], rest)

/-- The digits of an exponent, with a sign in front of them or not. -/
def exponentDigits (text : List Char) : List Char × List Char :=
  ((sign text).1 ++ (sign text).2.takeWhile Char.isDigit, (sign text).2.dropWhile Char.isDigit)

def exponent : List Char → List Char × List Char
  | 'e' :: rest => ('e' :: (exponentDigits rest).1, (exponentDigits rest).2)
  | 'E' :: rest => ('E' :: (exponentDigits rest).1, (exponentDigits rest).2)
  | rest => ([], rest)

structure NumberSplit where
  whole : List Char
  fraction : List Char
  exponent : List Char
  rest : List Char

/-- The longest number at the front of a text, its first character apart. -/
def number (text : List Char) : NumberSplit :=
  let afterWhole := text.dropWhile Char.isDigit
  let afterFraction := (fraction afterWhole).2
  ⟨text.takeWhile Char.isDigit, (fraction afterWhole).1, (exponent afterFraction).1,
    (exponent afterFraction).2⟩

namespace NumberSplit

def lexeme (split : NumberSplit) : List Char := split.whole ++ split.fraction ++ split.exponent

/-- A number without fraction and exponent is an integer. -/
def isInteger (split : NumberSplit) : Bool := split.fraction.isEmpty && split.exponent.isEmpty

end NumberSplit

theorem fraction_append (text : List Char) : (fraction text).1 ++ (fraction text).2 = text := by
  unfold fraction
  split <;> simp

theorem sign_append (text : List Char) : (sign text).1 ++ (sign text).2 = text := by
  unfold sign
  split <;> simp

theorem exponentDigits_append (text : List Char) :
    (exponentDigits text).1 ++ (exponentDigits text).2 = text := by
  simp [exponentDigits, sign_append]

theorem exponent_append (text : List Char) : (exponent text).1 ++ (exponent text).2 = text := by
  unfold exponent
  split <;> simp [exponentDigits_append]

theorem number_append (text : List Char) : (number text).lexeme ++ (number text).rest = text := by
  simp [number, NumberSplit.lexeme, exponent_append, fraction_append]

end LexScan.Lexeme
