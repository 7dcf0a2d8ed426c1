import LexScan.Position

/-! A cursor into a text that is kept whole. It is an index, and taking a character raises the index
whether there is a character or not; behind the last one a sentinel is seen, which may also stand in
the text. Only the tests made before a character is taken keep the index within the text. What the
cursor has still to read is a list, and the lemmas below say what each operation does to it. -/
namespace LexScan

structure Cursor where
  chars : Array Char
  /-- The number of characters taken. -/
  index : Nat := 0
  position : Position := .start
  /-- Where the current piece of the text begins. -/
  start : Nat := 0
  /-- How often a character was taken where there is none. Nothing depends on it. -/
  overruns : Nat := 0
deriving DecidableEq, Repr

namespace Cursor

def ofText (text : String) : Cursor := { chars := text.toList.toArray }

/-- What is seen where there is no character. -/
def sentinel : Char := '\x00'

def isAtEnd (s : Cursor) : Bool := s.chars.size ≤ s.index

def peek (s : Cursor) : Char := s.chars[s.index]?.getD sentinel

def peekNext (s : Cursor) : Char := s.chars[s.index + 1]?.getD sentinel

/-- Takes the character that is seen. -/
def advance (s : Cursor) : Cursor :=
  { s with
    index := s.index + 1
    position := s.position.advance s.peek
    overruns := if s.isAtEnd then s.overruns + 1 else s.overruns }

/-- Takes a character if it is the expected one. -/
def matchChar (s : Cursor) (expected : Char) : Bool × Cursor :=
  if s.isAtEnd || s.peek != expected then (false, s) else (true, s.advance)

/-- Begins a piece of the text here. -/
def begun (s : Cursor) : Cursor := { s with start := s.index }

/-- The piece of the text from its beginning to here, unless its bounds lie outside the text. -/
def lexeme? (s : Cursor) : Option String :=
  if s.start ≤ s.index ∧ s.index ≤ s.chars.size then
    some (String.ofList (s.chars.extract s.start s.index).toList)
  else none

/-- The number of characters that are left. -/
def remaining (s : Cursor) : Nat := s.chars.size - s.index

theorem index_lt_of_isAtEnd {s : Cursor} (more : s.isAtEnd = false) : s.index < s.chars.size := by
  simpa [isAtEnd] using more

theorem index_lt_of_peek {s : Cursor} (seen : s.peek ≠ sentinel) : s.index < s.chars.size := by
  rw [← Nat.not_le]
  intro ended
  simp [peek, Array.getElem?_eq_none ended] at seen

theorem remaining_advance_lt {s : Cursor} (more : s.index < s.chars.size) :
    s.advance.remaining < s.remaining := by
  simp only [remaining, advance]
  omega

theorem remaining_advance_le (s : Cursor) : s.advance.remaining ≤ s.remaining := by
  simp only [remaining, advance]
  omega

/-! ### What is unread -/

def unread (s : Cursor) : List Char := s.chars.toList.drop s.index

/-- The cursor behind a text. -/
def past (s : Cursor) (text : List Char) : Cursor :=
  { s with index := s.index + text.length, position := s.position.advanceOver text }

@[simp] theorem past_nil (s : Cursor) : s.past [] = s := rfl

theorem past_past (s : Cursor) (first second : List Char) :
    (s.past first).past second = s.past (first ++ second) := by
  simp [past, Position.advanceOver_append, Nat.add_assoc]

theorem unread_past {s : Cursor} {text left : List Char} (unread : s.unread = text ++ left) :
    (s.past text).unread = left := by
  rw [Cursor.unread, past, ← List.drop_drop, ← Cursor.unread, unread, List.drop_left]

theorem unread_past_single {s : Cursor} {c : Char} {rest : List Char}
    (unread : s.unread = c :: rest) : (s.past [c]).unread = rest := unread_past unread

theorem peek_eq (s : Cursor) : s.peek = s.unread.headD sentinel := by
  simp [peek, unread, List.headD_eq_head?_getD]

theorem peekNext_eq (s : Cursor) : s.peekNext = s.unread.tail.headD sentinel := by
  simp [peekNext, unread, List.headD_eq_head?_getD]

theorem isAtEnd_eq (s : Cursor) : s.isAtEnd = s.unread.isEmpty := by
  rw [Bool.eq_iff_iff]
  simp [isAtEnd, unread]

/-- A character that is there is taken without an overrun. -/
theorem advance_of_unread {s : Cursor} {c : Char} {rest : List Char}
    (unread : s.unread = c :: rest) : s.advance = s.past [c] := by
  have more : s.isAtEnd = false := by simp [isAtEnd_eq, unread]
  simp [advance, past, more, peek_eq, unread]

/-- A NUL in the text is taken like any other character, and taking it behind the last one is an
overrun. -/
example : (ofText "\x00").advance.overruns = 0 ∧ (ofText "\x00").advance.advance.overruns = 1 := by
  decide

theorem matchChar_of_unread_nil {s : Cursor} (unread : s.unread = []) (expected : Char) :
    s.matchChar expected = (false, s) := by
  simp [matchChar, isAtEnd_eq, unread]

theorem matchChar_of_unread {s : Cursor} {c : Char} {rest : List Char}
    (unread : s.unread = c :: rest) (expected : Char) :
    s.matchChar expected = if c = expected then (true, s.past [c]) else (false, s) := by
  by_cases same : c = expected <;>
    simp [matchChar, isAtEnd_eq, peek_eq, unread, same, advance_of_unread unread]

/-- The piece that begins here ends within the text if it is a part of what is unread. -/
theorem lexeme?_past {s : Cursor} {text left : List Char} (unread : s.unread = text ++ left)
    (filled : text ≠ []) : (s.begun.past text).lexeme? = some (String.ofList text) := by
  have length := congrArg List.length unread
  have filled := List.length_pos_iff.2 filled
  simp only [Cursor.unread, List.length_drop, Array.length_toList, List.length_append] at length
  have within : s.index ≤ s.index + text.length ∧ s.index + text.length ≤ s.chars.size := by omega
  have piece : (s.chars.extract s.index (s.index + text.length)).toList = text := by
    rw [Array.toList_extract, List.extract_eq_take_drop, ← Cursor.unread, unread,
      Nat.add_sub_cancel_left, List.take_left]
  simp only [lexeme?, begun, past, if_pos within, piece]

/-! ### Runs of characters -/

/-- Takes characters as long as they are accepted. The sentinel must not be. -/
def skipWhile (s : Cursor) (accepts : Char → Bool) (blind : accepts sentinel = false) : Cursor :=
  if accepts s.peek then s.advance.skipWhile accepts blind else s
termination_by s.remaining
decreasing_by
  exact remaining_advance_lt (index_lt_of_peek fun same => by simp_all)

theorem skipWhile_eq (s : Cursor) {accepts : Char → Bool} (blind : accepts sentinel = false) :
    s.skipWhile accepts blind = s.past (s.unread.takeWhile accepts) := by
  generalize unread : s.unread = text
  induction text generalizing s with
  | nil =>
      rw [skipWhile]
      simp [peek_eq, unread, blind]
  | cons c rest ih =>
      have behind : (s.past [c]).unread = rest := unread_past_single unread
      rw [skipWhile, advance_of_unread unread, ih _ behind]
      cases accepted : accepts c <;> simp [peek_eq, unread, accepted, past_past]

theorem unread_skipWhile (s : Cursor) {accepts : Char → Bool} (blind : accepts sentinel = false) :
    (s.skipWhile accepts blind).unread = s.unread.dropWhile accepts := by
  rw [skipWhile_eq]
  exact unread_past List.takeWhile_append_dropWhile.symm

end Cursor
end LexScan
