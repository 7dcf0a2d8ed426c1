/-! Block comments nest: `#*` opens a level and `*#` closes one, and the comment ends with its first
level. -/
namespace LexScan.Lexeme

/-- What a text begins with when some levels of a comment are open. -/
inductive CommentSplit where
  | closed (tail rest : List Char)
  | unclosed (depth : Nat)
deriving DecidableEq, Repr

/-- Puts characters in front of the tail of a comment. -/
def CommentSplit.after (taken : List Char) : CommentSplit → CommentSplit
  | .closed tail rest => .closed (taken ++ tail) rest
  | .unclosed depth => .unclosed depth

/-- Reads until all open levels are closed. -/
def commentTail : Nat → List Char → CommentSplit
  | 0, text => .closed [] text
  | depth + 1, [] => .unclosed (depth + 1)
  | depth + 1, '#' :: '*' :: rest => (commentTail (depth + 2) rest).after ['#', '*']
  | depth + 1, '*' :: '#' :: rest => (commentTail depth rest).after ['*', '#']
  | depth + 1, c :: rest => (commentTail (depth + 1) rest).after [c]

theorem CommentSplit.after_eq_closed_iff {taken tail rest : List Char} {split : CommentSplit} :
    split.after taken = .closed tail rest ↔
      ∃ inner, split = .closed inner rest ∧ taken ++ inner = tail := by
  cases split with
  | closed inner left =>
      simp only [CommentSplit.after, CommentSplit.closed.injEq]
      constructor
      · rintro ⟨same, rfl⟩
        exact ⟨inner, ⟨rfl, rfl⟩, same⟩
      · rintro ⟨_, ⟨rfl, rfl⟩, same⟩
        exact ⟨same, rfl⟩
  | unclosed depth => simp [CommentSplit.after]

theorem commentTail_append {depth : Nat} {text tail rest : List Char}
    (closed : commentTail depth text = .closed tail rest) : tail ++ rest = text := by
  fun_induction commentTail depth text generalizing tail with
  | case1 => simp_all
  | case2 => simp at closed
  | case3 depth text ih =>
      obtain ⟨inner, read, rfl⟩ := CommentSplit.after_eq_closed_iff.1 closed
      simp [ih read]
  | case4 depth text ih =>
      obtain ⟨inner, read, rfl⟩ := CommentSplit.after_eq_closed_iff.1 closed
      simp [ih read]
  | case5 depth c text _ _ ih =>
      obtain ⟨inner, read, rfl⟩ := CommentSplit.after_eq_closed_iff.1 closed
      simp [ih read]

/-- What is left open is at least one level. -/
theorem pos_of_commentTail_eq_unclosed {depth left : Nat} {text : List Char}
    (unclosed : commentTail depth text = .unclosed left) : 0 < left := by
  have inner {taken : List Char} {split : CommentSplit} (same : split.after taken = .unclosed left) :
      split = .unclosed left := by
    cases split <;> simp_all [CommentSplit.after]
  fun_induction commentTail depth text with
  | case1 => simp at unclosed
  | case2 depth =>
      simp only [CommentSplit.unclosed.injEq] at unclosed
      omega
  | case3 depth text ih => exact ih (inner unclosed)
  | case4 depth text ih => exact ih (inner unclosed)
  | case5 depth c text _ _ ih => exact ih (inner unclosed)

end LexScan.Lexeme
