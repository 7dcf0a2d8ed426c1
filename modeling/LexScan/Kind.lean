/-! The kinds of tokens: reserved words, literals, operators, punctuators and two control marks.
They have a fixed order, in which statistics list them. -/
namespace LexScan

/-- The reserved words that have a kind of their own. -/
inductive Keyword where
  | start
  | finish
  | loop
  | condition
  | declare
  | output
  | input
  | function
  | returnWord
  | breakWord
  | continueWord
  | elseWord
deriving DecidableEq, Repr

inductive Literal where
  | identifier
  | integer
  | float
  | string
  | character
  | boolean
deriving DecidableEq, Repr

inductive Operator where
  | arithmetic
  | relational
  | logical
  | assignment
  | increment
deriving DecidableEq, Repr

inductive Punctuator where
  | leftParen
  | rightParen
  | leftBrace
  | rightBrace
  | leftBracket
  | rightBracket
  | comma
  | semicolon
  | colon
deriving DecidableEq, Repr

inductive Kind where
  | keyword (word : Keyword)
  | literal (form : Literal)
  | operator (family : Operator)
  | punctuator (mark : Punctuator)
  | endOfInput
  | error
deriving DecidableEq, Repr

namespace Kind

/-- All kinds in their order. -/
def all : List Kind :=
  [.keyword .start, .keyword .finish, .keyword .loop, .keyword .condition, .keyword .declare,
   .keyword .output, .keyword .input, .keyword .function, .keyword .returnWord,
   .keyword .breakWord, .keyword .continueWord, .keyword .elseWord,
   .literal .identifier, .literal .integer, .literal .float, .literal .string,
   .literal .character, .literal .boolean,
   .operator .arithmetic, .operator .relational, .operator .logical, .operator .assignment,
   .operator .increment,
   .punctuator .leftParen, .punctuator .rightParen, .punctuator .leftBrace,
   .punctuator .rightBrace, .punctuator .leftBracket, .punctuator .rightBracket,
   .punctuator .comma, .punctuator .semicolon, .punctuator .colon,
   .endOfInput, .error]

/-- The place of a kind in the order. -/
def rank : Kind → Nat
  | .keyword word => word.ctorIdx
  | .literal form => 12 + form.ctorIdx
  | .operator family => 18 + family.ctorIdx
  | .punctuator mark => 23 + mark.ctorIdx
  | .endOfInput => 32
  | .error => 33

instance : Ord Kind where
  compare a b := compare a.rank b.rank

def label : Kind → String
  | .keyword .start => "START"
  | .keyword .finish => "FINISH"
  | .keyword .loop => "LOOP"
  | .keyword .condition => "CONDITION"
  | .keyword .declare => "DECLARE"
  | .keyword .output => "OUTPUT"
  | .keyword .input => "INPUT"
  | .keyword .function => "FUNCTION"
  | .keyword .returnWord => "RETURN"
  | .keyword .breakWord => "BREAK"
  | .keyword .continueWord => "CONTINUE"
  | .keyword .elseWord => "ELSE"
  | .literal .identifier => "IDENTIFIER"
  | .literal .integer => "INTEGER"
  | .literal .float => "FLOAT"
  | .literal .string => "STRING"
  | .literal .character => "CHAR"
  | .literal .boolean => "BOOLEAN"
  | .operator .arithmetic => "ARITHMETIC_OP"
  | .operator .relational => "RELATIONAL_OP"
  | .operator .logical => "LOGICAL_OP"
  | .operator .assignment => "ASSIGNMENT_OP"
  | .operator .increment => "INC_DEC_OP"
  | .punctuator .leftParen => "LPAREN"
  | .punctuator .rightParen => "RPAREN"
  | .punctuator .leftBrace => "LBRACE"
  | .punctuator .rightBrace => "RBRACE"
  | .punctuator .leftBracket => "LBRACKET"
  | .punctuator .rightBracket => "RBRACKET"
  | .punctuator .comma => "COMMA"
  | .punctuator .semicolon => "SEMICOLON"
  | .punctuator .colon => "COLON"
  | .endOfInput => "EOF"
  | .error => "ERROR"

/-- The kind with a given label. -/
def ofLabel? (text : String) : Option Kind := all.find? (·.label == text)

def isKeyword : Kind → Bool
  | .keyword _ => true
  | _ => false

def isLiteral : Kind → Bool
  | .literal _ => true
  | _ => false

def isOperator : Kind → Bool
  | .operator _ => true
  | _ => false

def isPunctuator : Kind → Bool
  | .punctuator _ => true
  | _ => false

/-- Kinds in order; equal kinds keep their number. -/
def sort (kinds : List Kind) : List Kind := kinds.mergeSort (fun a b => a.rank ≤ b.rank)

theorem mem_all (kind : Kind) : kind ∈ all := by
  cases kind with
  | keyword word => cases word <;> decide
  | literal form => cases form <;> decide
  | operator family => cases family <;> decide
  | punctuator mark => cases mark <;> decide
  | endOfInput => decide
  | error => decide

/-- The order lists every kind at its rank. -/
theorem map_rank_all : all.map rank = List.range 34 := by decide

/-- A label names one kind. -/
theorem ofLabel?_label (kind : Kind) : ofLabel? kind.label = some kind := by
  have listed : ∀ kind ∈ all, ofLabel? kind.label = some kind := by decide +kernel
  exact listed kind (mem_all kind)

theorem rank_injective {a b : Kind} (equal : a.rank = b.rank) : a = b := by
  have ordered : ∀ a ∈ all, ∀ b ∈ all, a.rank = b.rank → a = b := by decide
  exact ordered a (mem_all a) b (mem_all b) equal

end Kind
end LexScan
