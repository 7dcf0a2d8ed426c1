import LexScan.Scanner
import LexScan.Text.Pad
import LexScan.Text.Quoted

/-! Log entries: a level, the part of the program they come from, a message and named fields. -/
namespace LexScan.Log

inductive Level where
  | error
  | warn
  | info
  | debug
  | trace
deriving DecidableEq, Repr

namespace Level

/-- A higher rank is more detailed. -/
def rank : Level → Nat
  | .error => 1
  | .warn => 2
  | .info => 3
  | .debug => 4
  | .trace => 5

def label : Level → String
  | .error => "ERROR"
  | .warn => "WARN"
  | .info => "INFO"
  | .debug => "DEBUG"
  | .trace => "TRACE"

end Level

/-- The parts of the program that log. -/
inductive Target where
  | scanner
  | diagnostics
  | settings
  | command
deriving DecidableEq, Repr

def Target.name : Target → String
  | .scanner => "manual_scanner::scanner"
  | .diagnostics => "manual_scanner::error"
  | .settings => "manual_scanner::config"
  | .command => "mscan"

inductive Value where
  | number (value : Nat)
  /-- Text as it is. -/
  | plain (text : String)
  /-- Text between quotes. -/
  | quoted (text : String)
deriving DecidableEq, Repr

def Value.render : Value → String
  | .number value => toString value
  | .plain text => text
  | .quoted text => Text.quoted text

structure Entry where
  level : Level
  target : Target
  message : String
  fields : List (String × Value)
deriving DecidableEq, Repr

namespace Entry

/-- The line of an entry that is made at a given time. -/
def render (time : String) (entry : Entry) : String :=
  time ++ " " ++ Text.pad .right 5 entry.level.label ++ " " ++ entry.target.name ++ ": " ++
    entry.message ++
    String.join (entry.fields.map fun field => " " ++ field.1 ++ "=" ++ field.2.render)

/-- Whether an entry has a field of a name. The message is a field like the others. -/
def hasField (entry : Entry) (name : String) : Bool :=
  name == "message" || entry.fields.any (·.1 == name)

/-- The entry of an event of a scan. -/
def ofEvent : Event → Entry
  | .token token =>
      ⟨.trace, .scanner, "token",
        [("kind", .plain token.kind.label), ("lexeme", .quoted token.lexeme),
          ("line", .number token.position.line), ("column", .number token.position.column)]⟩
  | .skippedLineComment line =>
      ⟨.debug, .scanner, "skipped line comment", [("line", .number line)]⟩
  | .skippedBlockComment first last =>
      ⟨.debug, .scanner, "skipped block comment", [("from", .number first), ("to", .number last)]⟩
  | .diagnosed d =>
      ⟨.warn, .diagnostics, "lexical diagnostic",
        [("category", .quoted d.fault.category), ("line", .number d.position.line),
          ("column", .number d.position.column), ("lexeme", .plain d.lexeme)]⟩
  | .stoppedInString place =>
      ⟨.debug, .scanner, "unterminated string, stopping scan",
        [("line", .number place.line), ("column", .number place.column)]⟩
  | .stoppedInComment place depth =>
      ⟨.debug, .scanner, "unclosed block comment, stopping scan",
        [("line", .number place.line), ("column", .number place.column),
          ("depth", .number depth)]⟩

/-- There is no settings file. -/
def noSettings (path : String) : Entry :=
  ⟨.debug, .settings, "no config file, using defaults", [("path", .plain path)]⟩

/-- A source file is about to be scanned. -/
def scanning (file : String) (characters : Nat) : Entry :=
  ⟨.debug, .command, "scanning", [("file", .plain file), ("chars", .number characters)]⟩

end Entry
end LexScan.Log
