import LexScan.Diagnostic
import LexScan.Segment
import LexScan.SymbolTable
import LexScan.Token

/-! The scanner: a cursor in a source text together with what has been learnt on the way, that is
the symbol table, the diagnostics and the trace of all that happened. Tokens are pulled one at a
time. Blanks, comments and recoverable faults lie between them; a fatal fault leaves nothing to
read, so that every later pull finds the end. -/
namespace LexScan

open Text

/-- What happens during a scan, in its order. -/
inductive Event where
  | token (token : Token)
  | skippedLineComment (line : Nat)
  | skippedBlockComment (first last : Nat)
  | diagnosed (diagnostic : Diagnostic)
  | stoppedInString (position : Position)
  | stoppedInComment (position : Position) (depth : Nat)
deriving DecidableEq, Repr

structure Scanner where
  /-- Identifiers longer than this are reported. -/
  limit : Nat
  rest : List Char
  position : Position := .start
  symbols : SymbolTable := .empty
  diagnostics : DiagnosticLog := .empty
  trace : Array Event := #[]
deriving DecidableEq, Repr

/-- What one segment comes to: nothing to return, a token, or the end of the stream. -/
inductive Step where
  | skip (scanner : Scanner)
  | found (token : Token) (scanner : Scanner)
  | stop (scanner : Scanner)

def Step.scanner : Step → Scanner
  | .skip scanner => scanner
  | .found _ scanner => scanner
  | .stop scanner => scanner

namespace Scanner

/-- The length limit of identifiers that holds unless another is chosen. -/
def defaultLimit : Nat := 30

/-- The kind under which identifiers are listed in the symbol table. -/
def identifierLabel : String := "IDENTIFIER"

def ofSource (source : String) (limit : Nat) : Scanner := { limit := limit, rest := source.toList }

/-- The line that the cursor is on. -/
def line (s : Scanner) : Nat := s.position.line

/-- The token that stands for the end, at the cursor. -/
def endToken (s : Scanner) : Token := .endOfInput s.position

def note (s : Scanner) (event : Event) : Scanner := { s with trace := s.trace.push event }

def report (s : Scanner) (d : Diagnostic) : Scanner :=
  { s with diagnostics := s.diagnostics.report d, trace := s.trace.push (.diagnosed d) }

def recordSymbol (s : Scanner) (name : String) (line : Nat) : Scanner :=
  { s with symbols := s.symbols.record name identifierLabel line }

/-- Moves the cursor over a segment. -/
def moveOver (s : Scanner) (segment : Segment) (rest : List Char) : Scanner :=
  { s with rest := rest, position := s.position.advanceOver segment.text }

def startsUppercase (word : String) : Bool := word.toList.head?.any isUppercase

/-- Identifiers must begin with an upper-case letter; those that do are recorded, and reported as
well if they are too long. -/
def checkIdentifier (s : Scanner) (word : String) (place : Position) : Scanner :=
  if !startsUppercase word then
    s.report ⟨.invalidIdentifier, place, word, "Identifiers must start with Uppercase"⟩
  else if s.limit < word.length then
    (s.report ⟨.identifierLength, place, word,
      "Exceeds " ++ toString s.limit ++ " characters"⟩).recordSymbol word place.line
  else
    s.recordSymbol word place.line

def checkToken (s : Scanner) (token : Token) : Scanner :=
  if token.kind = .literal .identifier then s.checkIdentifier token.lexeme token.position else s

/-- Takes a segment from the front of the text. -/
def absorb (s : Scanner) (segment : Segment) (rest : List Char) : Step :=
  let place := s.position.next
  let moved := s.moveOver segment rest
  match segment with
  | .blank _ => .skip moved
  | .lineComment _ => .skip (moved.note (.skippedLineComment moved.line))
  | .blockComment _ => .skip (moved.note (.skippedBlockComment place.line moved.line))
  | .token kind lexeme =>
      let token := ⟨kind, String.ofList lexeme, place⟩
      .found token (moved.checkToken token)
  | .strayCharacter c =>
      .skip (moved.report ⟨.invalidCharacter, place, c.toString, "Unexpected character"⟩)
  | .malformedCharacter lexeme =>
      .skip (moved.report
        ⟨.malformedCharacter, place, String.ofList lexeme, "Malformed character"⟩)
  | .unterminatedString lexeme =>
      .stop ((moved.report
        ⟨.unterminatedString, place, String.ofList lexeme, "Unterminated string"⟩).note
          (.stoppedInString place))
  | .unclosedComment _ depth =>
      .stop ((moved.report
        ⟨.unclosedComment, place, "#*", "Nested comment not closed"⟩).note
          (.stoppedInComment place depth))

/-- One step of the cursor. -/
def step (s : Scanner) : Step :=
  match s.rest with
  | [] => .stop s
  | c :: rest => s.absorb (Segment.read c rest).1 (Segment.read c rest).2

@[simp] theorem rest_note (s : Scanner) (event : Event) : (s.note event).rest = s.rest := rfl

@[simp] theorem rest_report (s : Scanner) (d : Diagnostic) : (s.report d).rest = s.rest := rfl

@[simp] theorem rest_recordSymbol (s : Scanner) (name : String) (line : Nat) :
    (s.recordSymbol name line).rest = s.rest := rfl

@[simp] theorem rest_moveOver (s : Scanner) (segment : Segment) (rest : List Char) :
    (s.moveOver segment rest).rest = rest := rfl

@[simp] theorem rest_checkIdentifier (s : Scanner) (word : String) (place : Position) :
    (s.checkIdentifier word place).rest = s.rest := by
  unfold checkIdentifier
  split
  · rfl
  · split <;> rfl

@[simp] theorem rest_checkToken (s : Scanner) (token : Token) :
    (s.checkToken token).rest = s.rest := by
  unfold checkToken
  split
  · simp
  · rfl

/-- Whatever the segment is, the cursor stands behind it. -/
theorem rest_absorb (s : Scanner) (segment : Segment) (rest : List Char) :
    (s.absorb segment rest).scanner.rest = rest := by
  cases segment <;> simp [absorb, Step.scanner]

/-- A step from a text that is not at its end takes something from it. -/
theorem length_rest_step_lt {s : Scanner} (unread : s.rest ≠ []) :
    s.step.scanner.rest.length < s.rest.length := by
  unfold step
  split
  · next ended => exact absurd ended unread
  · next c rest same => rw [rest_absorb, same]; exact Segment.length_read_lt c rest

theorem unread_of_step_eq_skip {s next : Scanner} (skipped : s.step = .skip next) :
    s.rest ≠ [] := by
  intro ended
  simp [step, ended] at skipped

theorem unread_of_step_eq_found {s next : Scanner} {token : Token}
    (found : s.step = .found token next) : s.rest ≠ [] := by
  intro ended
  simp [step, ended] at found

theorem length_rest_of_step_eq_skip {s next : Scanner} (skipped : s.step = .skip next) :
    next.rest.length < s.rest.length := by
  simpa [skipped, Step.scanner] using length_rest_step_lt (unread_of_step_eq_skip skipped)

theorem length_rest_of_step_eq_found {s next : Scanner} {token : Token}
    (found : s.step = .found token next) : next.rest.length < s.rest.length := by
  simpa [found, Step.scanner] using length_rest_step_lt (unread_of_step_eq_found found)

/-- The next token, or nothing at the end of the stream. -/
def pull (s : Scanner) : Option Token × Scanner :=
  match _reached : s.step with
  | .skip next => pull next
  | .found token next => (some token, next.note (.token token))
  | .stop next => (none, next.note (.token next.endToken))
termination_by s.rest.length
decreasing_by exact length_rest_of_step_eq_skip ‹_›

/-- A pull that finds a token takes something from the text. -/
theorem length_rest_of_pull_eq_some {s next : Scanner} {token : Token}
    (found : s.pull = (some token, next)) : next.rest.length < s.rest.length := by
  fun_induction pull s with
  | case1 s middle skipped ih =>
      exact Nat.lt_trans (ih found) (length_rest_of_step_eq_skip skipped)
  | case2 s token middle reached =>
      simp only [Prod.mk.injEq, Option.some.injEq] at found
      obtain ⟨_, rfl⟩ := found
      simpa using length_rest_of_step_eq_found reached
  | case3 => simp at found

/-- The next token, with a token for the end as often as it is asked for. -/
def nextToken (s : Scanner) : Token × Scanner :=
  match s.pull with
  | (some token, next) => (token, next)
  | (none, next) => (next.endToken, next)

/-- Pulls at most so many tokens and stops early at the end of the stream. -/
def take : Nat → Scanner → List Token × Scanner
  | 0, s => ([], s)
  | count + 1, s =>
      match s.pull with
      | (none, next) => ([], next)
      | (some token, next) =>
          let later := take count next
          (token :: later.1, later.2)

/-- All tokens from here to the end, with the token for the end as the last one. -/
def drain (s : Scanner) : List Token × Scanner :=
  match _pulled : s.pull with
  | (none, next) => ([next.endToken], next)
  | (some token, next) =>
      let later := drain next
      (token :: later.1, later.2)
termination_by s.rest.length
decreasing_by exact length_rest_of_pull_eq_some ‹_›

end Scanner
end LexScan
