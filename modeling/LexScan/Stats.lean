import LexScan.Text.Pad
import LexScan.Token

/-! Statistics of a token stream: how many tokens there are of each kind. End-of-input marks do not
count, kinds that do not occur are not listed, and the listing follows the order of kinds. -/
namespace LexScan

structure Stats where
  total : Nat
  lines : Nat
  counts : List (Kind × Nat)
deriving DecidableEq, Repr

namespace Stats

open Text

/-- Adds one to the count of a kind in a list ordered by kind. -/
def bump (kind : Kind) : List (Kind × Nat) → List (Kind × Nat)
  | [] => [(kind, 1)]
  | (other, count) :: rest =>
      if kind = other then (other, count + 1) :: rest
      else if kind.rank < other.rank then (kind, 1) :: (other, count) :: rest
      else (other, count) :: bump kind rest

def addToken (stats : Stats) (token : Token) : Stats :=
  if token.isEndOfInput then stats
  else { stats with total := stats.total + 1, counts := bump token.kind stats.counts }

def collect (tokens : List Token) (lines : Nat) : Stats :=
  tokens.foldl addToken ⟨0, lines, []⟩

def count (stats : Stats) (kind : Kind) : Nat := (stats.counts.lookup kind).getD 0

def countRow (entry : Kind × Nat) : String :=
  "  " ++ pad .left 15 entry.1.label ++ ": " ++ toString entry.2 ++ "\n"

def render (stats : Stats) : String :=
  "--- Scanner Statistics ---\n" ++
    "Total Tokens: " ++ toString stats.total ++ "\n" ++
    "Lines Processed: " ++ toString stats.lines ++ "\n" ++
    "Token Counts by Type:\n" ++ String.join (stats.counts.map countRow)

def toJson (stats : Stats) : Json :=
  .object [("total_tokens", .number stats.total), ("lines", .number stats.lines),
    ("counts", .object (stats.counts.map fun entry => (entry.1.label, .number entry.2)))]

end Stats
end LexScan
