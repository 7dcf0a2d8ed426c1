import LexScan.SymbolTable
import Mathlib.Algebra.GroupWithZero.Nat
import Mathlib.Data.List.Basic
import Mathlib.Data.List.Induction

/-! The symbol table by counting. Sightings are recorded one at a time; each changes one entry or
adds one. Here a table is compared with the whole list of its sightings: the names are those that
occur in the list, in the order of their first occurrence; a name has the kind and line of its first
sighting and is counted as often as it occurs. A table is fixed by that, which makes it easy to say
what two lists of sightings come to together. -/
namespace LexScan

structure Sighting where
  name : String
  kind : String
  line : Nat
deriving DecidableEq, Repr

theorem eraseDups_concat (words : List String) (word : String) :
    (words ++ [word]).eraseDups =
      if word ∈ words then words.eraseDups else words.eraseDups ++ [word] := by
  by_cases known : word ∈ words <;>
    simp [List.eraseDups_append, List.eraseDups_cons, List.removeAll, known]

theorem filter_eraseDups (keep : String → Bool) (words : List String) :
    (words.filter keep).eraseDups = words.eraseDups.filter keep := by
  induction words using List.reverseRecOn with
  | nil => simp
  | append_singleton words word ih =>
      rw [List.filter_append, eraseDups_concat]
      by_cases kept : keep word = true
      · have still : word ∈ words.filter keep ↔ word ∈ words := by simp [kept]
        rw [List.filter_cons_of_pos kept, List.filter_nil, eraseDups_concat, ih]
        simp only [still]
        split <;> simp [kept]
      · rw [List.filter_cons_of_neg kept, List.filter_nil, List.append_nil, ih]
        split <;> simp [kept]

theorem nodup_eraseDups (words : List String) : words.eraseDups.Nodup := by
  induction words using List.reverseRecOn with
  | nil => simp
  | append_singleton words word ih =>
      rw [eraseDups_concat]
      split
      · exact ih
      · next unknown =>
          have distinct : ∀ other ∈ words, other ≠ word :=
            fun other known same => unknown (same ▸ known)
          simpa [List.nodup_append, ih] using distinct

namespace SymbolTable

def names (table : SymbolTable) : List String := table.entries.map Prod.fst

def recordAll (table : SymbolTable) (sightings : List Sighting) : SymbolTable :=
  sightings.foldl (fun table seen => table.record seen.name seen.kind seen.line) table

@[simp] theorem recordAll_nil (table : SymbolTable) : table.recordAll [] = table := rfl

@[simp] theorem recordAll_cons (table : SymbolTable) (seen : Sighting) (later : List Sighting) :
    table.recordAll (seen :: later) =
      (table.record seen.name seen.kind seen.line).recordAll later := rfl

theorem recordAll_append (table : SymbolTable) (earlier later : List Sighting) :
    table.recordAll (earlier ++ later) = (table.recordAll earlier).recordAll later := by
  simp [recordAll]

/-- What a list of sightings says of a name. -/
def symbolOf (sightings : List Sighting) (name : String) : Option Symbol :=
  (sightings.find? (·.name = name)).map fun first =>
    ⟨first.kind, first.line, sightings.countP (·.name = name)⟩

/-- A table that lists some sightings. -/
structure Tallies (table : SymbolTable) (sightings : List Sighting) : Prop where
  names : table.names = (sightings.map Sighting.name).eraseDups
  symbols : ∀ name, table.get? name = symbolOf sightings name

theorem names_record (table : SymbolTable) (name kind : String) (line : Nat) :
    (table.record name kind line).names =
      if name ∈ table.names then table.names else table.names ++ [name] := by
  obtain ⟨entries⟩ := table
  simp only [record, names]
  induction entries with
  | nil => simp [sight]
  | cons entry rest ih => grind [sight]

theorem frequency_symbolOf (sightings : List Sighting) (name : String) :
    ((symbolOf sightings name).map Symbol.frequency).getD 0 =
      sightings.countP (·.name = name) := by
  unfold symbolOf
  cases found : sightings.find? (·.name = name) with
  | some first => rfl
  | none =>
      have never : sightings.countP (·.name = name) = 0 := by
        simpa [List.countP_eq_zero, List.find?_eq_none] using found
      simp [never]

theorem symbolOf_append (earlier later : List Sighting) (name : String) :
    symbolOf (earlier ++ later) name =
      match symbolOf earlier name with
      | none => symbolOf later name
      | some symbol => some { symbol with
          frequency := symbol.frequency +
            ((symbolOf later name).map Symbol.frequency).getD 0 } := by
  rw [frequency_symbolOf]
  have before := frequency_symbolOf earlier name
  simp only [symbolOf, List.find?_append, List.countP_append] at before ⊢
  cases found : earlier.find? (·.name = name) with
  | none =>
      have never : earlier.countP (·.name = name) = 0 := by simpa [found] using before.symm
      simp [never]
  | some first => simp

theorem tallies_empty : Tallies empty [] := ⟨rfl, fun _ => rfl⟩

theorem Tallies.record {table : SymbolTable} {sightings : List Sighting}
    (tallied : Tallies table sightings) (seen : Sighting) :
    Tallies (table.record seen.name seen.kind seen.line) (sightings ++ [seen]) where
  names := by
    rw [names_record, tallied.names, List.map_append, List.map_singleton, eraseDups_concat]
    simp only [List.mem_eraseDups]
  symbols name := by
    by_cases same : seen.name = name
    · subst same
      rw [get?_record_self, tallied.symbols, symbolOf_append]
      cases symbolOf sightings seen.name <;> simp [symbolOf]
    · rw [get?_record_of_ne table (Ne.symm same), tallied.symbols, symbolOf_append]
      cases symbolOf sightings name <;> simp [symbolOf, same]

theorem Tallies.recordAll {table : SymbolTable} {earlier : List Sighting}
    (tallied : Tallies table earlier) (later : List Sighting) :
    Tallies (table.recordAll later) (earlier ++ later) := by
  induction later generalizing table earlier with
  | nil => simpa using tallied
  | cons seen later ih => simpa using ih (tallied.record seen)

theorem tallies_recordAll (sightings : List Sighting) :
    Tallies (empty.recordAll sightings) sightings := tallies_empty.recordAll sightings

/-- The number of all sightings that a table lists. -/
def frequencies (table : SymbolTable) : Nat := (table.entries.map (·.2.frequency)).sum

theorem frequencies_record (table : SymbolTable) (name kind : String) (line : Nat) :
    (table.record name kind line).frequencies = table.frequencies + 1 := by
  obtain ⟨entries⟩ := table
  simp only [record, frequencies]
  induction entries with
  | nil => rfl
  | cons entry rest ih =>
      unfold sight
      split
      · simp only [List.map_cons, List.sum_cons]
        omega
      · simp only [List.map_cons, List.sum_cons, ih]
        omega

theorem frequencies_recordAll (table : SymbolTable) (sightings : List Sighting) :
    (table.recordAll sightings).frequencies = table.frequencies + sightings.length := by
  induction sightings generalizing table with
  | nil => rfl
  | cons seen later ih =>
      rw [recordAll_cons, ih, frequencies_record, List.length_cons]
      omega

/-! ### A table is fixed by what it lists -/

theorem Tallies.nodup_names {table : SymbolTable} {sightings : List Sighting}
    (tallied : Tallies table sightings) : table.names.Nodup := by
  rw [tallied.names]
  exact nodup_eraseDups _

theorem get?_of_mem {table : SymbolTable} (distinct : table.names.Nodup) {entry : String × Symbol}
    (member : entry ∈ table.entries) : table.get? entry.1 = some entry.2 := by
  obtain ⟨entries⟩ := table
  simp only [names, get?] at distinct member ⊢
  induction entries with
  | nil => simp at member
  | cons first later ih => grind

theorem entries_eq {table : SymbolTable} (distinct : table.names.Nodup) :
    table.entries = table.names.filterMap fun name => (table.get? name).map (name, ·) := by
  rw [names, List.filterMap_map]
  calc
    table.entries = table.entries.filterMap some := by simp
    _ = _ := List.filterMap_congr fun entry member => by simp [get?_of_mem distinct member]

theorem Tallies.unique {first second : SymbolTable} {sightings : List Sighting}
    (one : Tallies first sightings) (other : Tallies second sightings) : first = second := by
  have entries : first.entries = second.entries := by
    rw [entries_eq one.nodup_names, entries_eq other.nodup_names, one.names, other.names]
    simp only [one.symbols, other.symbols]
  cases first
  cases second
  simpa using entries

/-! ### Tables of two lists -/

/-- A table with the entries of another one merged in: names that are listed already are counted on,
and the others follow at the end. -/
def merge (first second : SymbolTable) : SymbolTable :=
  ⟨first.entries.map (fun entry => (entry.1, { entry.2 with
      frequency := entry.2.frequency +
        ((second.get? entry.1).map Symbol.frequency).getD 0 })) ++
    second.entries.filter (fun entry => entry.1 ∉ first.names)⟩

/-- The same names with other lines. -/
def mapLines (change : Nat → Nat) (table : SymbolTable) : SymbolTable :=
  ⟨table.entries.map fun entry =>
    (entry.1, { entry.2 with firstLine := change entry.2.firstLine })⟩

/-- The same names, first seen so many lines further down. -/
def shiftLines (lines : Nat) (table : SymbolTable) : SymbolTable := table.mapLines (· + lines)

theorem lookup_map_symbol (change : String → Symbol → Symbol) (entries : List (String × Symbol))
    (name : String) :
    (entries.map fun entry => (entry.1, change entry.1 entry.2)).lookup name =
      (entries.lookup name).map (change name) := by
  induction entries with
  | nil => rfl
  | cons entry later ih =>
      obtain ⟨other, symbol⟩ := entry
      by_cases same : name = other
      · simp [same]
      · have unequal : (name == other) = false := by simpa using same
        simp [List.lookup_cons, unequal, ih]

theorem lookup_filter_name (keep : String → Bool) (entries : List (String × Symbol))
    (name : String) :
    (entries.filter fun entry => keep entry.1).lookup name =
      if keep name then entries.lookup name else none := by
  induction entries with
  | nil => simp
  | cons entry later ih => grind

theorem get?_eq_none_iff {table : SymbolTable} {name : String} :
    table.get? name = none ↔ name ∉ table.names := by
  obtain ⟨entries⟩ := table
  simp only [get?, names]
  induction entries with
  | nil => simp
  | cons entry later ih => grind

theorem get?_merge (first second : SymbolTable) (name : String) :
    (first.merge second).get? name =
      match first.get? name with
      | none => second.get? name
      | some symbol => some { symbol with
          frequency := symbol.frequency +
            ((second.get? name).map Symbol.frequency).getD 0 } := by
  have counted := lookup_map_symbol (fun name symbol => { symbol with
    frequency := symbol.frequency + ((second.get? name).map Symbol.frequency).getD 0 })
    first.entries name
  have added := lookup_filter_name (fun name => name ∉ first.names) second.entries name
  rw [get?, merge, List.lookup_append, counted, added, ← get?, ← get?]
  cases found : first.get? name with
  | none => simp [get?_eq_none_iff.1 found]
  | some symbol => simp

theorem Tallies.merge {first second : SymbolTable} {earlier later : List Sighting}
    (one : Tallies first earlier) (other : Tallies second later) :
    Tallies (first.merge second) (earlier ++ later) where
  names := by
    have kept : (first.merge second).names =
        first.names ++ second.names.filter (· ∉ first.names) := by
      simp [SymbolTable.merge, SymbolTable.names, List.filter_map, Function.comp_def]
    rw [kept, one.names, other.names, List.map_append, List.eraseDups_append, List.removeAll,
      filter_eraseDups]
    congr 2
    funext name
    simp only [List.mem_eraseDups, decide_not, List.elem_eq_mem]
  symbols name := by
    rw [get?_merge, one.symbols, other.symbols, symbolOf_append]

theorem Tallies.mapLines {table : SymbolTable} {sightings : List Sighting}
    (tallied : Tallies table sightings) (change : Nat → Nat) :
    Tallies (table.mapLines change)
      (sightings.map fun seen => { seen with line := change seen.line }) where
  names := by
    simpa [SymbolTable.mapLines, SymbolTable.names, Function.comp_def] using tallied.names
  symbols name := by
    have found := tallied.symbols name
    simp only [get?, SymbolTable.mapLines] at found ⊢
    rw [lookup_map_symbol fun _ symbol => { symbol with firstLine := change symbol.firstLine },
      found]
    simp [symbolOf, List.find?_map, Function.comp_def, List.countP_map]

theorem Tallies.shiftLines {table : SymbolTable} {sightings : List Sighting}
    (tallied : Tallies table sightings) (lines : Nat) :
    Tallies (table.shiftLines lines)
      (sightings.map fun seen => { seen with line := seen.line + lines }) :=
  tallied.mapLines (· + lines)

/-- A table in which no entry of another one is lost, moved or set back. -/
structure Extends (old new : SymbolTable) : Prop where
  names : old.names <+: new.names
  symbols : ∀ name symbol, old.get? name = some symbol → ∃ grown, new.get? name = some grown ∧
    grown.kind = symbol.kind ∧ grown.firstLine = symbol.firstLine ∧
    symbol.frequency ≤ grown.frequency

theorem Tallies.extends {old new : SymbolTable} {earlier later : List Sighting}
    (before : Tallies old earlier) (after : Tallies new (earlier ++ later)) : old.Extends new where
  names := by
    rw [before.names, after.names, List.map_append, List.eraseDups_append]
    exact List.prefix_append _ _
  symbols name symbol found := by
    rw [before.symbols] at found
    rw [after.symbols, symbolOf_append, found]
    exact ⟨_, rfl, rfl, rfl, Nat.le_add_right _ _⟩

end SymbolTable
end LexScan
