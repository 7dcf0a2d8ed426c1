import LexScan.Kind

/-! The reserved words of the language: its keywords and the two truth values. They are written in
lower case and compared exactly. -/
namespace LexScan.ReservedWord

def table : List (String × Kind) :=
  [("start", .keyword .start), ("finish", .keyword .finish), ("loop", .keyword .loop),
   ("condition", .keyword .condition), ("declare", .keyword .declare),
   ("output", .keyword .output), ("input", .keyword .input), ("function", .keyword .function),
   ("return", .keyword .returnWord), ("break", .keyword .breakWord),
   ("continue", .keyword .continueWord), ("else", .keyword .elseWord),
   ("true", .literal .boolean), ("false", .literal .boolean)]

/-- The kind of a reserved word. -/
def kind? (word : String) : Option Kind := table.lookup word

/-- The kind of a word: its own if it is reserved, and an identifier otherwise. -/
def kindOf (word : String) : Kind := (kind? word).getD (.literal .identifier)

theorem mem_table_of_kind? {word : String} {kind : Kind} (found : kind? word = some kind) :
    (word, kind) ∈ table := by
  rw [kind?, List.lookup_eq_some_iff] at found
  obtain ⟨before, after, same, _⟩ := found
  simp [same]

/-- No reserved word is an identifier. -/
theorem kind?_ne_identifier (word : String) : kind? word ≠ some (.literal .identifier) := by
  intro found
  have listed : ∀ entry ∈ table, entry.2 ≠ .literal .identifier := by decide
  exact listed _ (mem_table_of_kind? found) rfl

theorem kindOf_eq_identifier_iff {word : String} :
    kindOf word = .literal .identifier ↔ kind? word = none := by
  unfold kindOf
  cases found : kind? word with
  | none => simp
  | some kind =>
      simp only [Option.getD_some, reduceCtorEq, iff_false]
      intro same
      exact kind?_ne_identifier word (same ▸ found)

end LexScan.ReservedWord
