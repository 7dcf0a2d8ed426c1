import LexScan.Settings.Basic
import LexScan.Stats

/-! The report of a whole scan: its tokens, symbols, diagnostics and statistics, and whether the
stream is complete. It is printed as text, with the sections that the settings ask for, or as a JSON
document that holds all of it. -/
namespace LexScan

structure Report where
  tokens : List Token
  symbols : SymbolTable
  diagnostics : List Diagnostic
  stats : Stats
  /-- Whether no fatal fault cut the stream short. -/
  complete : Bool
deriving DecidableEq, Repr

namespace Report

/-- The report of a scanner that has been drained. -/
def ofDrained (tokens : List Token) (final : Scanner) : Report :=
  { tokens := tokens
    symbols := final.symbols
    diagnostics := final.diagnostics.toList
    stats := Stats.collect tokens final.line
    complete := !final.diagnostics.hasFatal }

def ofSource (source : String) (limit : Nat) : Report :=
  let drained := (Scanner.ofSource source limit).drain
  ofDrained drained.1 drained.2

def hasErrors (report : Report) : Bool := !report.diagnostics.isEmpty

def listing (tokens : List Token) : String :=
  String.join ((tokens.filter (!·.isEndOfInput)).map fun token => token.render ++ "\n")

def renderText (report : Report) (settings : Settings) : String :=
  "--- Manual Scanner Output ---\n" ++ listing report.tokens ++
    (if settings.showStats then "\n" ++ report.stats.render else "") ++
    (if settings.showSymbols then "\n" ++ report.symbols.render else "")

def toJson (report : Report) : Json :=
  .object [("tokens", .array (report.tokens.map Token.toJson)),
    ("symbols", report.symbols.toJson),
    ("diagnostics", .array (report.diagnostics.map Diagnostic.toJson)),
    ("stats", report.stats.toJson),
    ("complete", .bool report.complete)]

def renderJson (report : Report) : String := report.toJson.indented

/-- The report in the format that the settings ask for. -/
def render (report : Report) (settings : Settings) : String :=
  match settings.format with
  | .text => report.renderText settings
  | .json => report.renderJson

end Report
end LexScan
