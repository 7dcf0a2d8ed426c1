import LexScan.Kind
import LexScan.Text.Character

/-! The language of tokens and comments as sets of texts. A text belongs to it or does not; nothing
here reads from the front of a longer text, and nothing says which of several texts that begin at
one place is taken. That the scanner takes the longest is shown elsewhere. -/
namespace LexScan.Grammar

open Text

/-- Any number of ASCII digits. -/
def Digits (text : List Char) : Prop := ∀ c ∈ text, c.isDigit = true

inductive Sign : List Char → Prop where
  | none : Sign []
  | plus : Sign ['+']
  | minus : Sign ['-']

/-- A point and digits behind it, or nothing. -/
inductive Fraction : List Char → Prop where
  | none : Fraction []
  | point {digits : List Char} (all : Digits digits) : Fraction ('.' :: digits)

/-- The letter of an exponent, a sign if there is one and digits, or nothing. -/
inductive Exponent : List Char → Prop where
  | none : Exponent []
  | letter {letter : Char} {sign digits : List Char} (either : letter = 'e' ∨ letter = 'E')
      (signed : Sign sign) (all : Digits digits) : Exponent (letter :: (sign ++ digits))

/-- The items of a string and its closing quote. An item is a plain character, a backslash with a
character other than `u`, or a backslash with `u` and exactly four characters of any kind. -/
inductive StringBody : List Char → Prop where
  | close : StringBody ['"']
  | plain {c : Char} {body : List Char} (unquoted : c ≠ '"') (unescaped : c ≠ '\\')
      (later : StringBody body) : StringBody (c :: body)
  | escape {c : Char} {body : List Char} (short : c ≠ 'u') (later : StringBody body) :
      StringBody ('\\' :: c :: body)
  | unicode {a b c d : Char} {body : List Char} (later : StringBody body) :
      StringBody ('\\' :: 'u' :: a :: b :: c :: d :: body)

/-- The words that have a meaning of their own. -/
def reservedWords : List (List Char × Kind) :=
  [("start".toList, .keyword .start), ("finish".toList, .keyword .finish),
   ("loop".toList, .keyword .loop), ("condition".toList, .keyword .condition),
   ("declare".toList, .keyword .declare), ("output".toList, .keyword .output),
   ("input".toList, .keyword .input), ("function".toList, .keyword .function),
   ("return".toList, .keyword .returnWord), ("break".toList, .keyword .breakWord),
   ("continue".toList, .keyword .continueWord), ("else".toList, .keyword .elseWord),
   ("true".toList, .literal .boolean), ("false".toList, .literal .boolean)]

/-- A word is of the kind that is listed for it; any other word is an identifier. -/
inductive WordKind : Kind → List Char → Prop where
  | reserved {kind : Kind} {text : List Char} (listed : (text, kind) ∈ reservedWords) :
      WordKind kind text
  | name {text : List Char} (unlisted : ∀ kind, (text, kind) ∉ reservedWords) :
      WordKind (.literal .identifier) text

def marks : List (List Char × Kind) :=
  [(['('], .punctuator .leftParen), ([')'], .punctuator .rightParen),
   (['{'], .punctuator .leftBrace), (['}'], .punctuator .rightBrace),
   (['['], .punctuator .leftBracket), ([']'], .punctuator .rightBracket),
   ([','], .punctuator .comma), ([';'], .punctuator .semicolon), ([':'], .punctuator .colon),
   (['+'], .operator .arithmetic), (['-'], .operator .arithmetic),
   (['*'], .operator .arithmetic), (['*', '*'], .operator .arithmetic),
   (['/'], .operator .arithmetic), (['%'], .operator .arithmetic),
   (['+', '+'], .operator .increment), (['-', '-'], .operator .increment),
   (['='], .operator .assignment), (['+', '='], .operator .assignment),
   (['-', '='], .operator .assignment), (['*', '='], .operator .assignment),
   (['/', '='], .operator .assignment),
   (['=', '='], .operator .relational), (['!', '='], .operator .relational),
   (['<'], .operator .relational), (['<', '='], .operator .relational),
   (['>'], .operator .relational), (['>', '='], .operator .relational),
   (['!'], .operator .logical), (['&', '&'], .operator .logical),
   (['|', '|'], .operator .logical)]

/-- The texts of tokens with their kinds. -/
inductive TokenText : Kind → List Char → Prop where
  | word {kind : Kind} {c : Char} {tail : List Char} (letter : isAlphabetic c = true)
      (parts : ∀ d ∈ tail, isAlphanumeric d = true ∨ d = '_') (named : WordKind kind (c :: tail)) :
      TokenText kind (c :: tail)
  | number {sign digits fraction exponent : List Char} (signed : Sign sign)
      (some_digit : digits ≠ []) (all : Digits digits) (fractional : Fraction fraction)
      (scaled : Exponent exponent) :
      TokenText (.literal (if fraction = [] ∧ exponent = [] then .integer else .float))
        (sign ++ digits ++ fraction ++ exponent)
  | string {body : List Char} (closed : StringBody body) :
      TokenText (.literal .string) ('"' :: body)
  | character {c : Char} (unescaped : c ≠ '\\') : TokenText (.literal .character) ['\'', c, '\'']
  | escapedCharacter {c : Char} : TokenText (.literal .character) ['\'', '\\', c, '\'']
  | mark {text : List Char} {kind : Kind} (listed : (text, kind) ∈ marks) : TokenText kind text

/-- The items of a block comment and its closing mark. An item is a comment, or a character at
whose place neither an opening nor a closing mark stands. -/
inductive CommentBody : List Char → Prop where
  | close : CommentBody ['*', '#']
  | nested {inner later : List Char} (closed : CommentBody inner) (rest : CommentBody later) :
      CommentBody ('#' :: '*' :: (inner ++ later))
  | plain {c : Char} {later : List Char} (unopened : ¬ ['#', '*'] <+: c :: later)
      (unclosed : ¬ ['*', '#'] <+: c :: later) (rest : CommentBody later) : CommentBody (c :: later)

def StringLiteral (text : List Char) : Prop := ∃ body, StringBody body ∧ text = '"' :: body

/-- A balanced comment between `#*` and `*#`. -/
def BlockComment (text : List Char) : Prop := ∃ body, CommentBody body ∧ text = '#' :: '*' :: body

/-- A text that opens a string and does not close it. -/
def UnclosedString (text : List Char) : Prop :=
  text.head? = some '"' ∧ ∀ literal, StringLiteral literal → ¬ literal <+: text

/-- A text that opens a block comment and does not close it. -/
def UnclosedComment (text : List Char) : Prop :=
  ['#', '*'] <+: text ∧ ∀ comment, BlockComment comment → ¬ comment <+: text

theorem TokenText.ne_nil {kind : Kind} {text : List Char} (token : TokenText kind text) :
    text ≠ [] := by
  cases token with
  | number signed some_digit all fractional scaled => simp [some_digit]
  | mark listed =>
      have filled : ∀ entry ∈ marks, entry.1 ≠ [] := by decide
      exact filled _ listed
  | _ => simp

theorem TokenText.ne_endOfInput {kind : Kind} {text : List Char} (token : TokenText kind text) :
    kind ≠ .endOfInput := by
  cases token with
  | word letter parts named =>
      cases named with
      | reserved listed =>
          have others : ∀ entry ∈ reservedWords, entry.2 ≠ .endOfInput := by decide
          exact others _ listed
      | name unlisted => simp
  | mark listed =>
      have named : ∀ entry ∈ marks, entry.2 ≠ .endOfInput := by decide
      exact named _ listed
  | _ => simp

theorem CommentBody.ne_nil {body : List Char} (closed : CommentBody body) : body ≠ [] := by
  cases closed <;> simp

end LexScan.Grammar
