import LexScan.Proofs.Tally
import Mathlib.Data.Finset.Card

/-! The symbol table and its history. A table is updated in place, one sighting after another; all
that can be asked of it afterwards is answered by the list of the sightings: which names there are
and in which order, what each was first seen as and where, and how often. A history in which names
that are known already are sighted in another order leaves the same table. -/
namespace LexScan

/-- Words keep the order of their first occurrences. -/
theorem pairwise_idxOf_eraseDups (words : List String) :
    words.eraseDups.Pairwise fun earlier later => words.idxOf earlier < words.idxOf later := by
  -- from the back, since a last word moves no first occurrence of the words before it
  induction words using List.reverseRecOn with
  | nil => simp
  | append_singleton words word ih =>
      have kept {other : String} (known : other ∈ words.eraseDups) :
          (words ++ [word]).idxOf other = words.idxOf other :=
        List.idxOf_append_of_mem (List.mem_eraseDups.1 known)
      have before := ih.imp_of_mem fun one other first => by
        rw [← kept one, ← kept other] at first
        exact first
      rw [eraseDups_concat]
      split
      · exact before
      · next unknown =>
          refine List.pairwise_append.2 ⟨before, List.pairwise_singleton _ _, ?_⟩
          intro earlier known last only
          obtain rfl := List.mem_singleton.1 only
          rw [kept known, List.idxOf_append_of_notMem unknown]
          have inside := List.idxOf_lt_length_of_mem (List.mem_eraseDups.1 known)
          omega

theorem eraseDups_append_of_subset {words more : List String} (known : more ⊆ words) :
    (words ++ more).eraseDups = words.eraseDups := by
  have none_new : more.removeAll words = [] := by
    simpa [List.removeAll] using fun word member => known member
  rw [List.eraseDups_append, none_new, List.eraseDups_nil, List.append_nil]

namespace SymbolTable

theorem symbolOf_eq_some_iff {sightings : List Sighting} {name : String} {symbol : Symbol} :
    symbolOf sightings name = some symbol ↔
      ∃ before first later, sightings = before ++ first :: later ∧ first.name = name ∧
        (∀ seen ∈ before, seen.name ≠ name) ∧
        symbol = ⟨first.kind, first.line, sightings.countP (·.name = name)⟩ := by
  simp only [symbolOf, Option.map_eq_some_iff, List.find?_eq_some_iff_append]
  constructor
  · rintro ⟨first, ⟨named, before, later, whole, others⟩, rfl⟩
    exact ⟨before, first, later, whole, by simpa using named, by simpa using others, rfl⟩
  · rintro ⟨before, first, later, whole, named, others, rfl⟩
    exact ⟨first, ⟨by simpa using named, before, later, whole, by simpa using others⟩, rfl⟩

theorem symbolOf_eq_none_iff {sightings : List Sighting} {name : String} :
    symbolOf sightings name = none ↔ ∀ seen ∈ sightings, seen.name ≠ name := by
  simp [symbolOf]

theorem mem_entries_iff {table : SymbolTable} (distinct : table.names.Nodup) {name : String}
    {symbol : Symbol} : (name, symbol) ∈ table.entries ↔ table.get? name = some symbol := by
  constructor
  · exact fun member => get?_of_mem distinct member
  · intro found
    obtain ⟨before, later, whole, -⟩ := List.lookup_eq_some_iff.1 found
    simp [whole]

theorem symbolOf_append_perm {before later shuffled : List Sighting} (same : later.Perm shuffled)
    (known : ∀ seen ∈ later, ∃ earlier ∈ before, earlier.name = seen.name) (name : String) :
    symbolOf (before ++ shuffled) name = symbolOf (before ++ later) name := by
  rw [symbolOf_append, symbolOf_append]
  cases found : symbolOf before name with
  | some symbol => simp only [frequency_symbolOf, same.countP_eq]
  | none =>
      have unsighted : ∀ seen ∈ later, seen.name ≠ name := by
        rintro seen member rfl
        obtain ⟨earlier, sighted, named⟩ := known seen member
        exact symbolOf_eq_none_iff.1 found earlier sighted named
      have unshuffled : ∀ seen ∈ shuffled, seen.name ≠ name :=
        fun seen member => unsighted seen (same.mem_iff.2 member)
      simp only [symbolOf_eq_none_iff.2 unsighted, symbolOf_eq_none_iff.2 unshuffled]

/-- Names that are known may be sighted in any order. -/
theorem recordAll_perm {before later shuffled : List Sighting} (same : later.Perm shuffled)
    (known : ∀ seen ∈ later, ∃ earlier ∈ before, earlier.name = seen.name) :
    empty.recordAll (before ++ shuffled) = empty.recordAll (before ++ later) := by
  have names {sightings : List Sighting} (within : sightings ⊆ later) :
      ((before ++ sightings).map Sighting.name).eraseDups =
        (before.map Sighting.name).eraseDups := by
    rw [List.map_append]
    apply eraseDups_append_of_subset
    intro name member
    obtain ⟨seen, sighted, rfl⟩ := List.mem_map.1 member
    exact List.mem_map.2 (known seen (within sighted))
  have tallied := tallies_recordAll (before ++ shuffled)
  have other : Tallies (empty.recordAll (before ++ shuffled)) (before ++ later) := by
    refine ⟨?_, fun name => (tallied.symbols name).trans (symbolOf_append_perm same known name)⟩
    rw [tallied.names, names (List.Subset.refl later), names same.symm.subset]
  exact other.unique (tallies_recordAll _)

/-- What a table shows of its history. -/
structure Reflects (table : SymbolTable) (history : List Sighting) : Prop where
  distinct : table.names.Nodup
  listed : ∀ name, name ∈ table.names ↔ ∃ seen ∈ history, seen.name = name
  ordered : table.names.Pairwise fun earlier later =>
    (history.map Sighting.name).idxOf earlier < (history.map Sighting.name).idxOf later
  symbols : ∀ name symbol, (name, symbol) ∈ table.entries ↔
    ∃ before first later, history = before ++ first :: later ∧ first.name = name ∧
      (∀ seen ∈ before, seen.name ≠ name) ∧
      symbol = ⟨first.kind, first.line, history.countP (·.name = name)⟩
  found : ∀ name symbol, table.get? name = some symbol ↔ (name, symbol) ∈ table.entries
  missing : ∀ name, table.get? name = none ↔ ∀ seen ∈ history, seen.name ≠ name
  size : table.size = (history.map Sighting.name).toFinset.card
  isEmpty : table.isEmpty = true ↔ history = []
  frequencies : (table.entries.map (·.2.frequency)).sum = history.length

theorem Tallies.mem_names_iff {table : SymbolTable} {history : List Sighting}
    (tallied : Tallies table history) {name : String} :
    name ∈ table.names ↔ ∃ seen ∈ history, seen.name = name := by
  rw [tallied.names, List.mem_eraseDups, List.mem_map]

theorem Tallies.size_eq {table : SymbolTable} {history : List Sighting}
    (tallied : Tallies table history) :
    table.size = (history.map Sighting.name).toFinset.card := by
  have same : table.names.toFinset = (history.map Sighting.name).toFinset := by
    ext name
    rw [List.mem_toFinset, List.mem_toFinset, tallied.mem_names_iff, List.mem_map]
  rw [← same, List.toFinset_card_of_nodup tallied.nodup_names, SymbolTable.names,
    List.length_map]
  rfl

theorem Tallies.isEmpty_iff {table : SymbolTable} {history : List Sighting}
    (tallied : Tallies table history) : table.isEmpty = true ↔ history = [] := by
  have listed := tallied.size_eq
  rw [SymbolTable.isEmpty, List.isEmpty_iff_length_eq_zero]
  change table.size = 0 ↔ _
  simp [listed]

/-- The table of a history, whatever names, kinds and lines it consists of, reflects it. It lists
each name once, in the order of the first sightings, with the kind and line of the first and the
number of all of them; a lookup answers with just that, or with nothing for a name that was never
sighted. Two sightings one after another, of two names that are known by then, may be exchanged. -/
theorem recordAll_reflects (history : List Sighting) :
    Reflects (empty.recordAll history) history ∧
    ∀ before one other later, history = before ++ one :: other :: later →
      one.name ≠ other.name →
      (∃ seen ∈ before, seen.name = one.name) → (∃ seen ∈ before, seen.name = other.name) →
      empty.recordAll (before ++ other :: one :: later) = empty.recordAll history := by
  have tallied := tallies_recordAll history
  refine ⟨?_, ?_⟩
  · refine {
      distinct := tallied.nodup_names
      listed := fun name => tallied.mem_names_iff
      ordered := by
        rw [tallied.names]
        exact pairwise_idxOf_eraseDups _
      symbols := fun name symbol => by
        rw [mem_entries_iff tallied.nodup_names, tallied.symbols, symbolOf_eq_some_iff]
      found := fun name symbol => (mem_entries_iff tallied.nodup_names).symm
      missing := fun name => by rw [tallied.symbols, symbolOf_eq_none_iff]
      size := tallied.size_eq
      isEmpty := tallied.isEmpty_iff
      frequencies := ?_ }
    have counted := frequencies_recordAll empty history
    rwa [show empty.frequencies = 0 from rfl, Nat.zero_add] at counted
  · rintro before one other later rfl - oneKnown otherKnown
    have exchanged : empty.recordAll (before ++ [other, one]) =
        empty.recordAll (before ++ [one, other]) := by
      apply recordAll_perm (List.Perm.swap other one [])
      simpa using ⟨oneKnown, otherKnown⟩
    calc
      empty.recordAll (before ++ other :: one :: later)
          = (empty.recordAll (before ++ [other, one])).recordAll later := by
        rw [← recordAll_append, List.append_assoc]
        rfl
      _ = (empty.recordAll (before ++ [one, other])).recordAll later := by rw [exchanged]
      _ = empty.recordAll (before ++ one :: other :: later) := by
        rw [← recordAll_append, List.append_assoc]
        rfl

end SymbolTable
end LexScan
