import LexScan.Proofs.SymbolHistory
import LexScan.Proofs.SymbolStream
import LexScan.Proofs.TextColumns

/-! The symbol table on paper. A row has four columns, and what is too long for its column is printed
in full. Names that a scan finds are words, so they hold no blanks: the words of a row are its fields
again, and the printed table shows which table was printed. -/
namespace LexScan

open Text

namespace SymbolTable

/-- A row without its line feed. -/
def rowText (name kind firstLine frequency : String) : String :=
  pad .left 20 name ++ " " ++ pad .left 15 kind ++ " " ++ pad .left 10 firstLine ++ " " ++
    pad .left 10 frequency

def fields (entry : String × Symbol) : List String :=
  [entry.1, entry.2.kind, toString entry.2.firstLine, toString entry.2.frequency]

def entryText (entry : String × Symbol) : String :=
  rowText entry.1 entry.2.kind (toString entry.2.firstLine) (toString entry.2.frequency)

theorem row_eq (name kind firstLine frequency : String) :
    row name kind firstLine frequency = rowText name kind firstLine frequency ++ "\n" := rfl

theorem entryRow_eq : entryRow = fun entry => entryText entry ++ "\n" := rfl

theorem rowText_headings : rowText "Name" "Type" "First Line" "Frequency" =
    "Name                 Type            First Line Frequency " := by decide +kernel

theorem words_rowText {name kind firstLine frequency : String} (named : Solid name)
    (kinded : Solid kind) (placed : Solid firstLine) (counted : Solid frequency) :
    words (rowText name kind firstLine frequency) = [name, kind, firstLine, frequency] := by
  rw [rowText, words_space, words_space, words_space, words_pad named, words_pad kinded,
    words_pad placed, words_pad counted]
  rfl

theorem feed_not_mem_rowText {name kind firstLine frequency : String} (named : Solid name)
    (kinded : Solid kind) (placed : Solid firstLine) (counted : Solid frequency) :
    '\n' ∉ (rowText name kind firstLine frequency).toList := by
  simp [rowText, feed_not_mem_pad named, feed_not_mem_pad kinded, feed_not_mem_pad placed,
    feed_not_mem_pad counted]

/-- No name and no kind in the table holds a blank. -/
def Legible (table : SymbolTable) : Prop :=
  ∀ entry ∈ table.entries, Solid entry.1 ∧ Solid entry.2.kind

namespace Legible

variable {table : SymbolTable} (legible : Legible table)

include legible

theorem words_entryText {entry : String × Symbol} (member : entry ∈ table.entries) :
    words (entryText entry) = fields entry := by
  obtain ⟨named, kinded⟩ := legible entry member
  rw [entryText, words_rowText named kinded (solid_toString _) (solid_toString _), fields]

theorem feed_not_mem_entryText {entry : String × Symbol} (member : entry ∈ table.entries) :
    '\n' ∉ (entryText entry).toList := by
  obtain ⟨named, kinded⟩ := legible entry member
  rw [entryText]
  exact feed_not_mem_rowText named kinded (solid_toString _) (solid_toString _)

/-- A title, a line of headings and a line for each entry. -/
theorem hasLines_render :
    HasLines table.render ("--- Symbol Table ---" ::
      "Name                 Type            First Line Frequency " ::
      table.entries.map entryText) := by
  have rows : HasLines (String.join (table.entries.map entryRow)) (table.entries.map entryText) := by
    rw [entryRow_eq]
    exact hasLines_join entryText fun entry member => legible.feed_not_mem_entryText member
  have title : "--- Symbol Table ---\n" = "--- Symbol Table ---" ++ "\n" := by decide
  unfold render
  rw [title, row_eq, rowText_headings, String.append_assoc]
  exact (rows.cons (by simp)).cons (by simp)

theorem map_words_entryText :
    (table.entries.map entryText).map words = table.entries.map fields := by
  rw [List.map_map]
  exact List.map_congr_left fun entry member => legible.words_entryText member

end Legible

theorem fields_injective {one other : String × Symbol} (same : fields one = fields other) :
    one = other := by
  obtain ⟨name, kind, firstLine, frequency⟩ := one
  obtain ⟨name', kind', firstLine', frequency'⟩ := other
  simp only [fields, List.cons.injEq, and_true] at same
  obtain ⟨rfl, rfl, lines, frequencies⟩ := same
  rw [toString_injective lines, toString_injective frequencies]

/-- Tables that print alike are equal. -/
theorem Legible.eq_of_render_eq {one other : SymbolTable} (legible : Legible one)
    (legible' : Legible other) (same : one.render = other.render) : one = other := by
  have lines := legible.hasLines_render.unique (same ▸ legible'.hasLines_render)
  simp only [List.cons.injEq, true_and] at lines
  have rows : one.entries.map fields = other.entries.map fields := by
    rw [← legible.map_words_entryText, ← legible'.map_words_entryText, lines]
  have entries := (List.map_inj_right fun _ _ => fields_injective).1 rows
  cases one
  cases other
  exact congrArg mk entries

end SymbolTable

namespace Scanner

theorem solid_of_mem_tokensAhead {s : Scanner} {token : Token} (member : token ∈ s.tokensAhead)
    (identifier : token.kind = .literal .identifier) : Solid token.lexeme := by
  have word := tokenText_of_mem_tokensAhead member
  refine ⟨?_, fun c inside => ?_⟩
  · simpa using word.ne_nil
  · have part := (word.word_of_identifier identifier).2 c inside
    cases blank : isBlank c with
    | false => rfl
    | true => simp [isWordPart_eq_false_of_isBlank blank] at part

/-- The names that a scan records are words, and all are of one kind. -/
theorem named_of_mem_symbols {source : String} {limit : Nat} {entry : String × Symbol}
    (member : entry ∈ (ofSource source limit).drain.2.symbols.entries) :
    Solid entry.1 ∧ entry.2.kind = "IDENTIFIER" := by
  have tallied := tallies_drain source limit
  have found := (SymbolTable.get?_of_mem tallied.nodup_names member).symm.trans
    (tallied.symbols entry.1)
  obtain ⟨before, first, later, whole, named, -, same⟩ :=
    SymbolTable.symbolOf_eq_some_iff.1 found.symm
  have sighted : first ∈ Token.sightings (ofSource source limit).tokensAhead := by simp [whole]
  obtain ⟨token, kept, rfl⟩ := List.mem_map.1 sighted
  obtain ⟨ahead, counts⟩ := List.mem_filter.1 kept
  simp only [Token.isSighting, Bool.and_eq_true, decide_eq_true_eq] at counts
  refine ⟨?_, by rw [same]; rfl⟩
  rw [← named]
  exact solid_of_mem_tokensAhead ahead counts.1

theorem legible_drain (source : String) (limit : Nat) :
    (ofSource source limit).drain.2.symbols.Legible := by
  intro entry member
  obtain ⟨named, kind⟩ := named_of_mem_symbols member
  rw [kind]
  exact ⟨named, solid_of_isSolid rfl⟩

/-- The symbol table of a source prints as a title, a line of headings and one line for each entry,
in the order in which the names were sighted first. The words of such a line are the name, the kind,
the first line and the frequency, however long they are; so two scans that print the same table have
found the same symbols. -/
theorem symbols_print_unambiguously (source : String) (limit : Nat) :
    (∃ rows, HasLines (ofSource source limit).drain.2.symbols.render
        ("--- Symbol Table ---" ::
          "Name                 Type            First Line Frequency " :: rows) ∧
      rows.length = (ofSource source limit).drain.2.symbols.size ∧
      rows.map words = (ofSource source limit).drain.2.symbols.entries.map fun entry =>
        [entry.1, "IDENTIFIER", toString entry.2.firstLine, toString entry.2.frequency]) ∧
    (ofSource source limit).drain.2.symbols.names =
      (((ofSource source limit).drain.1.filter Token.isSighting).map Token.lexeme).eraseDups ∧
    ∀ other otherLimit, (ofSource other otherLimit).drain.2.symbols.render =
        (ofSource source limit).drain.2.symbols.render →
      (ofSource other otherLimit).drain.2.symbols = (ofSource source limit).drain.2.symbols := by
  have legible := legible_drain source limit
  refine ⟨⟨_, legible.hasLines_render, List.length_map _, ?_⟩, ?_, ?_⟩
  · rw [legible.map_words_entryText]
    apply List.map_congr_left
    intro entry member
    rw [SymbolTable.fields, (named_of_mem_symbols member).2]
  · have sighted : Token.sightings (ofSource source limit).tokensAhead =
        Token.sightings (ofSource source limit).drain.1 := by
      rw [← filter_drain, Token.sightings_filter]
    rw [(tallies_drain source limit).names, sighted, Token.sightings, List.map_map]
    rfl
  · intro other otherLimit same
    exact (legible_drain other otherLimit).eq_of_render_eq legible same

end Scanner
end LexScan
