/-! Places in a source text. A cursor that stands behind a character is described by the line it is
on and the number of characters of that line behind it; only a line feed starts a new line. -/
namespace LexScan

structure Position where
  line : Nat
  column : Nat
deriving DecidableEq, Repr

namespace Position

/-- Before the first character. -/
def start : Position := ⟨1, 0⟩

/-- Behind one more character. -/
def advance (p : Position) (c : Char) : Position :=
  if c = '\n' then ⟨p.line + 1, 0⟩ else ⟨p.line, p.column + 1⟩

/-- Behind all characters of a text. -/
def advanceOver (p : Position) (text : List Char) : Position := text.foldl advance p

/-- The place of the character that a cursor is about to read. -/
def next (p : Position) : Position := ⟨p.line, p.column + 1⟩

@[simp] theorem advanceOver_nil (p : Position) : p.advanceOver [] = p := rfl

@[simp] theorem advanceOver_cons (p : Position) (c : Char) (text : List Char) :
    p.advanceOver (c :: text) = (p.advance c).advanceOver text := rfl

theorem advanceOver_append (p : Position) (first second : List Char) :
    p.advanceOver (first ++ second) = (p.advanceOver first).advanceOver second := by
  simp [advanceOver, List.foldl_append]

/-- The line grows by the number of line feeds. -/
theorem line_advanceOver (p : Position) (text : List Char) :
    (p.advanceOver text).line = p.line + text.count '\n' := by
  induction text generalizing p with
  | nil => simp
  | cons c text ih =>
      rw [advanceOver_cons, ih]
      by_cases feed : c = '\n'
      · simp [advance, feed]
        omega
      · simp [advance, feed]

end Position
end LexScan
