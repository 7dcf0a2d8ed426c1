import LexScan.Text.Character
import LexScan.Text.Pad

/-! Printed text, read back. A text is cut into lines at its line feeds, and a line into words at its
runs of spaces. Where no field of a table holds a blank, the words of a printed row are the fields,
however wide the columns are: a field that is too long for its column pushes the others aside and
still has a space behind it. -/
namespace LexScan.Text

/-- The words of a line, between runs of spaces. -/
def words (line : String) : List String :=
  ((line.toList.splitOn ' ').filter (!·.isEmpty)).map String.ofList

/-- A text that is made up of some lines, each with a line feed at its end: cut at all line feeds, it
falls into these lines, and nothing is left behind the last one. -/
def HasLines (text : String) (lines : List String) : Prop :=
  text.toList.splitOn '\n' = lines.map String.toList ++ [[]]

/-- A text that is not empty and has no blanks in it. -/
structure Solid (text : String) : Prop where
  filled : text ≠ ""
  dense : ∀ c ∈ text.toList, isBlank c = false

/-- Decides whether a text is solid. -/
def isSolid (text : String) : Bool := !text.toList.isEmpty && text.toList.all (!isBlank ·)

theorem solid_of_isSolid {text : String} (solid : isSolid text = true) : Solid text := by
  simp only [isSolid, Bool.and_eq_true, Bool.not_eq_true', List.isEmpty_eq_false_iff,
    List.all_eq_true] at solid
  exact ⟨by simpa using solid.1, solid.2⟩

theorem Solid.not_mem {text : String} (solid : Solid text) {c : Char} (blank : isBlank c = true) :
    c ∉ text.toList := by
  intro member
  simp [solid.dense c member] at blank

/-- Numbers are printed without blanks. -/
theorem solid_toString (n : Nat) : Solid (toString n) where
  filled := by
    rw [Nat.toString_eq_repr]
    exact Nat.repr_ne_empty
  dense c member := by
    rw [Nat.toString_eq_repr, Nat.toList_repr] at member
    exact isBlank_eq_false_of_isDigit (Nat.isDigit_of_mem_toDigits (by decide) (by decide) member)

@[simp] theorem feed_not_mem_toDigits (n : Nat) : '\n' ∉ Nat.toDigits 10 n := by
  simpa using (solid_toString n).not_mem (c := '\n') rfl

theorem toString_injective {m n : Nat} (same : toString m = toString n) : m = n := by
  rw [Nat.toString_eq_repr, Nat.toString_eq_repr, ← String.toList_inj, Nat.toList_repr,
    Nat.toList_repr] at same
  have values := congrArg (Nat.ofDigitChars 10 · 0) same
  simpa [Nat.ofDigitChars_toDigits] using values

/-! ### Lines -/

theorem HasLines.unique {text : String} {lines others : List String} (one : HasLines text lines)
    (other : HasLines text others) : lines = others := by
  have same := List.append_cancel_right (one.symm.trans other)
  exact (List.map_inj_right fun _ _ => String.toList_inj.1).1 same

theorem hasLines_empty : HasLines "" [] := rfl

theorem HasLines.cons {line rest : String} {lines : List String} (unbroken : '\n' ∉ line.toList)
    (later : HasLines rest lines) : HasLines (line ++ "\n" ++ rest) (line :: lines) := by
  have cut : (line ++ "\n" ++ rest).toList = line.toList ++ '\n' :: rest.toList := by simp
  rw [HasLines, cut, List.splitOn_append_cons_self_of_not_mem unbroken, later]
  rfl

theorem hasLines_join {α : Type} (line : α → String) {items : List α}
    (unbroken : ∀ item ∈ items, '\n' ∉ (line item).toList) :
    HasLines (String.join (items.map fun item => line item ++ "\n")) (items.map line) := by
  induction items with
  | nil => exact hasLines_empty
  | cons item items ih =>
      rw [List.forall_mem_cons] at unbroken
      rw [List.map_cons, String.join_cons, List.map_cons]
      exact (ih unbroken.2).cons unbroken.1

/-! ### Words -/

@[simp] theorem words_empty : words "" = [] := rfl

/-- A space ends a word and belongs to none. -/
theorem words_space (front rest : String) :
    words (front ++ " " ++ rest) = words front ++ words rest := by
  have cut : (front ++ " " ++ rest).toList = front.toList ++ ' ' :: rest.toList := by simp
  rw [words, cut, List.splitOn_append_cons_self, List.filter_append, List.map_append]
  rfl

theorem words_solid {text : String} (solid : Solid text) : words text = [text] := by
  have filled : text.toList ≠ [] := by simpa using solid.filled
  rw [words, List.splitOn_eq_singleton (solid.not_mem rfl)]
  simp [filled]

/-- Spaces in front of a line belong to no word. -/
theorem words_spaces_append (n : Nat) (rest : String) : words (spaces n ++ rest) = words rest := by
  induction n with
  | zero => simp [spaces]
  | succ n ih =>
      have first : spaces (n + 1) ++ rest = "" ++ " " ++ (spaces n ++ rest) := by
        rw [← String.toList_inj]
        simp [spaces, List.replicate_succ]
      rw [first, words_space, ih, words_empty, List.nil_append]

/-- A field that is shorter than its column ends before whatever follows the column. -/
theorem words_pad_append {text : String} (solid : Solid text) {width : Nat}
    (narrow : text.length < width) (rest : String) :
    words (pad .left width text ++ rest) = text :: words rest := by
  obtain ⟨n, missing⟩ : ∃ n, width - text.length = n + 1 := ⟨width - text.length - 1, by omega⟩
  have first : pad .left width text ++ rest = text ++ " " ++ (spaces n ++ rest) := by
    rw [← String.toList_inj]
    simp [pad, missing, spaces, List.replicate_succ]
  rw [first, words_space, words_solid solid, words_spaces_append]
  rfl

/-- In a column, a field is one word, whether it fills the column or not. -/
theorem words_pad {text : String} (solid : Solid text) (width : Nat) :
    words (pad .left width text) = [text] := by
  by_cases narrow : text.length < width
  · simpa using words_pad_append solid narrow ""
  · have full : width - text.length = 0 := by omega
    simp [pad, full, spaces, words_solid solid]

theorem feed_not_mem_pad {text : String} (solid : Solid text) (width : Nat) :
    '\n' ∉ (pad .left width text).toList := by
  have absent := solid.not_mem (c := '\n') rfl
  simp [pad, spaces, absent]

end LexScan.Text
