import LexScan.Json.Document
import LexScan.Position

/-! Diagnostics: what is wrong with a piece of source text and where, and the log that collects them
in the order of detection. -/
namespace LexScan

inductive Fault where
  | invalidCharacter
  | invalidIdentifier
  | identifierLength
  | unclosedComment
  | unterminatedString
  | malformedCharacter
deriving DecidableEq, Repr

namespace Fault

def category : Fault → String
  | .invalidCharacter => "Invalid Character"
  | .invalidIdentifier => "Invalid Identifier"
  | .identifierLength => "ID Length"
  | .unclosedComment => "Unclosed Comment"
  | .unterminatedString => "String Error"
  | .malformedCharacter => "Char Error"

/-- The name of a fault in JSON documents. -/
def name : Fault → String
  | .invalidCharacter => "InvalidCharacter"
  | .invalidIdentifier => "InvalidIdentifier"
  | .identifierLength => "IdLength"
  | .unclosedComment => "UnclosedComment"
  | .unterminatedString => "StringError"
  | .malformedCharacter => "CharError"

def all : List Fault :=
  [.invalidCharacter, .invalidIdentifier, .identifierLength, .unclosedComment,
   .unterminatedString, .malformedCharacter]

def ofName? (text : String) : Option Fault := all.find? (·.name == text)

/-- A fatal fault ends the scan: nothing behind it can be read. -/
def isFatal : Fault → Bool
  | .unclosedComment | .unterminatedString => true
  | _ => false

/-- A name names one fault. -/
theorem ofName?_name (fault : Fault) : ofName? fault.name = some fault := by
  cases fault <;> decide +kernel

end Fault

structure Diagnostic where
  fault : Fault
  position : Position
  lexeme : String
  reason : String
deriving DecidableEq, Repr

namespace Diagnostic

def render (d : Diagnostic) : String :=
  "Error: [" ++ d.fault.category ++ "] at " ++ toString d.position.line ++ ":" ++
    toString d.position.column ++ " - Lexeme: '" ++ d.lexeme ++ "' -> " ++ d.reason

def toJson (d : Diagnostic) : Json :=
  .object [("kind", .string d.fault.name), ("line", .number d.position.line),
    ("column", .number d.position.column), ("lexeme", .string d.lexeme),
    ("reason", .string d.reason)]

end Diagnostic

/-- The diagnostics of a scan so far. It only grows at its end. -/
structure DiagnosticLog where
  entries : Array Diagnostic := #[]
deriving DecidableEq, Repr

namespace DiagnosticLog

def empty : DiagnosticLog := {}

def report (log : DiagnosticLog) (d : Diagnostic) : DiagnosticLog := ⟨log.entries.push d⟩

def toList (log : DiagnosticLog) : List Diagnostic := log.entries.toList

def size (log : DiagnosticLog) : Nat := log.entries.size

def isEmpty (log : DiagnosticLog) : Bool := log.entries.isEmpty

def hasErrors (log : DiagnosticLog) : Bool := !log.isEmpty

def hasFatal (log : DiagnosticLog) : Bool := log.entries.any (·.fault.isFatal)

def toJson (log : DiagnosticLog) : Json := .array (log.toList.map Diagnostic.toJson)

@[simp] theorem toList_empty : empty.toList = [] := rfl

@[simp] theorem toList_report (log : DiagnosticLog) (d : Diagnostic) :
    (log.report d).toList = log.toList ++ [d] := by
  simp [report, toList]

theorem hasFatal_eq (log : DiagnosticLog) :
    log.hasFatal = log.toList.any (·.fault.isFatal) := by
  simp [hasFatal, toList]

theorem size_eq (log : DiagnosticLog) : log.size = log.toList.length := by
  simp [size, toList]

end DiagnosticLog
end LexScan
