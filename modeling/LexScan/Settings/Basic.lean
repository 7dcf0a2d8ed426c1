import LexScan.Json.Document
import LexScan.Scanner

/-! Settings: the length limit of identifiers, the format of reports and the sections of a text
report. -/
namespace LexScan

inductive Format where
  | text
  | json
deriving DecidableEq, Repr

namespace Format

/-- The name of a format in settings files and on the command line. -/
def name : Format → String
  | .text => "text"
  | .json => "json"

def ofName? (word : String) : Option Format :=
  if word = "text" then some .text else if word = "json" then some .json else none

/-- The name of a format in the listing of settings. -/
def title : Format → String
  | .text => "Text"
  | .json => "Json"

@[simp] theorem ofName?_name (format : Format) : ofName? format.name = some format := by
  cases format <;> rfl

end Format

structure Settings where
  maxIdentifierLength : Nat := Scanner.defaultLimit
  format : Format := .text
  showSymbols : Bool := true
  showStats : Bool := true
deriving DecidableEq, Repr

namespace Settings

def default : Settings := {}

/-- The settings as they are kept in a file. -/
def toJson (s : Settings) : Json :=
  .object [("max_identifier_len", .number s.maxIdentifierLength),
    ("format", .string s.format.name), ("show_symbols", .bool s.showSymbols),
    ("show_stats", .bool s.showStats)]

def fileText (s : Settings) : String := s.toJson.indented

def boolText : Bool → String
  | true => "true"
  | false => "false"

/-- The settings as they are shown to a reader. -/
def render (s : Settings) : String :=
  "Config \x7b\n    max_identifier_len: " ++ toString s.maxIdentifierLength ++
    ",\n    format: " ++ s.format.title ++
    ",\n    show_symbols: " ++ boolText s.showSymbols ++
    ",\n    show_stats: " ++ boolText s.showStats ++ ",\n\x7d"

end Settings
end LexScan
