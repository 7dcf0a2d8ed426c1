import LexScan.Json.Document
import LexScan.Text.Pad

/-! The symbol table: names in the order of their first sighting, each with the kind and line of
that sighting and the number of sightings. -/
namespace LexScan

structure Symbol where
  kind : String
  firstLine : Nat
  frequency : Nat
deriving DecidableEq, Repr

def Symbol.toJson (symbol : Symbol) : Json :=
  .object [("kind", .string symbol.kind), ("first_line", .number symbol.firstLine),
    ("frequency", .number symbol.frequency)]

structure SymbolTable where
  entries : List (String × Symbol) := []
deriving DecidableEq, Repr

namespace SymbolTable

open Text

def empty : SymbolTable := {}

/-- Counts a sighting of a name that is listed, or lists it at the end. -/
def sight (name kind : String) (line : Nat) : List (String × Symbol) → List (String × Symbol)
  | [] => [(name, ⟨kind, line, 1⟩)]
  | (other, symbol) :: rest =>
      if other = name then (other, { symbol with frequency := symbol.frequency + 1 }) :: rest
      else (other, symbol) :: sight name kind line rest

def record (table : SymbolTable) (name kind : String) (line : Nat) : SymbolTable :=
  ⟨sight name kind line table.entries⟩

def get? (table : SymbolTable) (name : String) : Option Symbol := table.entries.lookup name

def size (table : SymbolTable) : Nat := table.entries.length

def isEmpty (table : SymbolTable) : Bool := table.entries.isEmpty

def row (name kind firstLine frequency : String) : String :=
  pad .left 20 name ++ " " ++ pad .left 15 kind ++ " " ++ pad .left 10 firstLine ++ " " ++
    pad .left 10 frequency ++ "\n"

def entryRow (entry : String × Symbol) : String :=
  row entry.1 entry.2.kind (toString entry.2.firstLine) (toString entry.2.frequency)

/-- A title, a line of headings and a row for each entry. -/
def render (table : SymbolTable) : String :=
  "--- Symbol Table ---\n" ++ row "Name" "Type" "First Line" "Frequency" ++
    String.join (table.entries.map entryRow)

def toJson (table : SymbolTable) : Json :=
  .object (table.entries.map fun entry => (entry.1, entry.2.toJson))

@[simp] theorem get?_empty (name : String) : empty.get? name = none := rfl

/-- A sighting counts for its own name, and the first one sets kind and line. -/
theorem get?_record_self (table : SymbolTable) (name kind : String) (line : Nat) :
    (table.record name kind line).get? name =
      match table.get? name with
      | none => some ⟨kind, line, 1⟩
      | some symbol => some { symbol with frequency := symbol.frequency + 1 } := by
  obtain ⟨entries⟩ := table
  simp only [record, get?]
  induction entries with
  | nil => simp [sight]
  | cons entry rest ih => grind [sight]

/-- A sighting leaves all other names as they are. -/
theorem get?_record_of_ne (table : SymbolTable) {name other : String} (different : other ≠ name)
    (kind : String) (line : Nat) : (table.record name kind line).get? other = table.get? other := by
  obtain ⟨entries⟩ := table
  simp only [record, get?]
  induction entries with
  | nil => grind [sight]
  | cons entry rest ih => grind [sight]

end SymbolTable
end LexScan
