import LexScan.Indexed.Reading
import LexScan.Proofs.SymbolStream
import Mathlib.Data.PFun

/-! A scanner over an indexed cursor. It never holds what is left of the text, only an index into
the whole. It asks for lexemes by their bounds, and if these lie outside the text, there is no
result. The loops around the attempts are iterated without a measure, and if one does not end, there
is no result either. -/
namespace LexScan

structure IndexedScanner where
  /-- Identifiers longer than this are reported. -/
  limit : Nat
  cursor : Cursor
  symbols : SymbolTable := .empty
  diagnostics : DiagnosticLog := .empty
  trace : Array Event := #[]
deriving DecidableEq, Repr

namespace IndexedScanner

open Text

def ofSource (source : String) (limit : Nat) : IndexedScanner :=
  { limit := limit, cursor := .ofText source }

def moveTo (s : IndexedScanner) (cursor : Cursor) : IndexedScanner := { s with cursor := cursor }

/-- The token that stands for the end, at the cursor. -/
def endToken (s : IndexedScanner) : Token := .endOfInput s.cursor.position

def note (s : IndexedScanner) (event : Event) : IndexedScanner :=
  { s with trace := s.trace.push event }

def report (s : IndexedScanner) (d : Diagnostic) : IndexedScanner :=
  { s with diagnostics := s.diagnostics.report d, trace := s.trace.push (.diagnosed d) }

def recordSymbol (s : IndexedScanner) (name : String) (line : Nat) : IndexedScanner :=
  { s with symbols := s.symbols.record name Scanner.identifierLabel line }

/-- Reports what is wrong with a token as a name, and records it if it is a sighting. -/
def checkToken (s : IndexedScanner) (token : Token) : IndexedScanner :=
  let s := ((token.nameFault? s.limit).map s.report).getD s
  if token.isSighting then s.recordSymbol token.lexeme token.position.line else s

/-! ### Pieces behind their first characters -/

def word (s : IndexedScanner) (place : Position) : Option (Option Token × IndexedScanner) := do
  let s := s.moveTo s.cursor.skipWord
  let lexeme ← s.cursor.lexeme?
  let token := ⟨ReservedWord.kindOf lexeme, lexeme, place⟩
  return (some token, s.checkToken token)

def number (s : IndexedScanner) (place : Position) : Option (Option Token × IndexedScanner) := do
  let (real, cursor) := s.cursor.skipNumber
  let lexeme ← cursor.lexeme?
  return (some ⟨.literal (if real then .float else .integer), lexeme, place⟩, s.moveTo cursor)

def string (s : IndexedScanner) (place : Position) : Option (Option Token × IndexedScanner) := do
  let (closed, cursor) := s.cursor.skipString
  let s := s.moveTo cursor
  let lexeme ← cursor.lexeme?
  if closed then return (some ⟨.literal .string, lexeme, place⟩, s)
  else
    let s := s.report ⟨.unterminatedString, place, lexeme, "Unterminated string"⟩
    return (some s.endToken, s.note (.stoppedInString place))

def character (s : IndexedScanner) (place : Position) : Option (Option Token × IndexedScanner) := do
  let (closed, cursor) := s.cursor.skipCharacter
  let s := s.moveTo cursor
  let lexeme ← cursor.lexeme?
  if closed then return (some ⟨.literal .character, lexeme, place⟩, s)
  else return (none, s.report ⟨.malformedCharacter, place, lexeme, "Malformed character"⟩)

def lineComment (s : IndexedScanner) : Option (Option Token × IndexedScanner) :=
  let s := s.moveTo s.cursor.skipLine
  some (none, s.note (.skippedLineComment s.cursor.position.line))

def blockComment (s : IndexedScanner) (place : Position) : Option (Option Token × IndexedScanner) :=
  let (depth, cursor) := s.cursor.advance.skipComment 1
  let s := s.moveTo cursor
  if 0 < depth then
    let s := s.report ⟨.unclosedComment, place, "#*", "Nested comment not closed"⟩
    some (some s.endToken, s.note (.stoppedInComment place depth))
  else some (none, s.note (.skippedBlockComment place.line s.cursor.position.line))

def mark (s : IndexedScanner) (c : Char) (place : Position) :
    Option (Option Token × IndexedScanner) :=
  match s.cursor.skipMark c with
  | (some kind, cursor) => do
      let lexeme ← cursor.lexeme?
      return (some ⟨kind, lexeme, place⟩, s.moveTo cursor)
  | (none, cursor) =>
      some (none, (s.moveTo cursor).report
        ⟨.invalidCharacter, place, c.toString, "Unexpected character"⟩)

/-- One piece of the text, whose first character has been taken. -/
def scanPiece (s : IndexedScanner) (c : Char) (place : Position) :
    Option (Option Token × IndexedScanner) :=
  if isAlphabetic c then s.word place
  else if c.isDigit then s.number place
  else if (c == '-' || c == '+') && s.cursor.peek.isDigit then s.number place
  else if c == '"' then s.string place
  else if c == '\'' then s.character place
  else if c == '#' && s.cursor.peek == '#' then s.lineComment
  else if c == '#' && s.cursor.peek == '*' then s.blockComment place
  else s.mark c place

/-- An attempt at a token where no blank is seen. The token stands on the line before its first
character is taken, and in the column behind it. -/
def scanVisible (s : IndexedScanner) : Option (Option Token × IndexedScanner) :=
  if s.cursor.isAtEnd then some (some s.endToken, s)
  else
    let taken := s.cursor.begun.advance
    (s.moveTo taken).scanPiece s.cursor.peek ⟨s.cursor.position.line, taken.position.column⟩

/-- An attempt at a token. It yields none if it passes over a comment or a fault. -/
def scanToken (s : IndexedScanner) : Option (Option Token × IndexedScanner) :=
  (s.moveTo s.cursor.skipBlanks).scanVisible

/-! ### Calls -/

/-- Tries until an attempt yields a token. -/
def nextToken (s : IndexedScanner) : Part (Token × IndexedScanner) :=
  PFun.fix (fun s : IndexedScanner => (Part.ofOption s.scanToken).map fun
    | (some token, next) => .inl (token, next.note (.token token))
    | (none, next) => .inr next) s

/-- The next token, or nothing at the end of the stream. -/
def next (s : IndexedScanner) : Part (Option Token × IndexedScanner) :=
  s.nextToken.map fun (token, next) => (if token.isEndOfInput then none else some token, next)

/-- Asks for at most so many tokens and stops early at the end of the stream. -/
def take : Nat → IndexedScanner → Part (List Token × IndexedScanner)
  | 0, s => .some ([], s)
  | count + 1, s =>
      s.next.bind fun
        | (none, next) => .some ([], next)
        | (some token, next) => (take count next).map fun (later, final) => (token :: later, final)

/-- Asks for tokens until the one for the end comes, with some tokens asked for already. -/
def tokenizeFrom (tokens : List Token) (s : IndexedScanner) : Part (List Token × IndexedScanner) :=
  PFun.fix (fun run : List Token × IndexedScanner => run.2.nextToken.map fun (token, next) =>
    if token.isEndOfInput then .inl (run.1 ++ [token], next)
    else .inr (run.1 ++ [token], next)) (tokens, s)

def tokenize (s : IndexedScanner) : Part (List Token × IndexedScanner) := tokenizeFrom [] s

def call (s : IndexedScanner) : Call → Part (Answer × IndexedScanner)
  | .nextToken => s.nextToken.map fun (token, next) => (.one token, next)
  | .next => s.next.map fun (token, next) => (.perhaps token, next)
  | .take count => (take count s).map fun (tokens, next) => (.many tokens, next)
  | .tokenize => s.tokenize.map fun (tokens, next) => (.many tokens, next)

/-- The answers to some calls, one after another, and the scanner behind them. -/
def perform (s : IndexedScanner) : List Call → Part (List Answer × IndexedScanner)
  | [] => .some ([], s)
  | call :: later =>
      (s.call call).bind fun (answer, next) =>
        (next.perform later).map fun (answers, final) => (answer :: answers, final)

end IndexedScanner
end LexScan
