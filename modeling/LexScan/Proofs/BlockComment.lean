import LexScan.Lexeme.Comment
import LexScan.Proofs.Grammar

/-! Nested comments. The recogniser counts the levels that are open, the grammar nests one comment
in another. Reading at some depth is reading as many bodies of comments one after another, and at
depth one it is reading the one comment that the grammar allows. -/
namespace LexScan.Lexeme

open Grammar

/-- As many bodies of comments as there are levels, one after another. -/
inductive Levels : Nat → List Char → Prop where
  | none : Levels 0 []
  | level {depth : Nat} {body later : List Char} (closed : CommentBody body)
      (rest : Levels depth later) : Levels (depth + 1) (body ++ later)

theorem pair_isPrefix_cons_iff {a b c : Char} {rest : List Char} :
    [a, b] <+: c :: rest ↔ c = a ∧ ∃ later, rest = b :: later := by
  cases rest with
  | nil => simp
  | cons d later => simp [eq_comm]

theorem pair_isPrefix_append_iff {a b c : Char} {body : List Char} (closed : CommentBody body)
    (rest : List Char) : [a, b] <+: c :: (body ++ rest) ↔ [a, b] <+: c :: body := by
  obtain ⟨d, later, rfl⟩ := List.exists_cons_of_ne_nil closed.ne_nil
  simp

theorem CommentSplit.after_after (first second : List Char) (split : CommentSplit) :
    (split.after second).after first = split.after (first ++ second) := by
  cases split <;> simp [CommentSplit.after]

theorem commentTail_plain {c : Char} {rest : List Char} (unopened : ¬ ['#', '*'] <+: c :: rest)
    (unclosed : ¬ ['*', '#'] <+: c :: rest) (depth : Nat) :
    commentTail (depth + 1) (c :: rest) = (commentTail (depth + 1) rest).after [c] := by
  apply commentTail.eq_5
  · exact fun later first same => unopened (pair_isPrefix_cons_iff.2 ⟨first, later, same⟩)
  · exact fun later first same => unclosed (pair_isPrefix_cons_iff.2 ⟨first, later, same⟩)

/-- A body closes one level. -/
theorem commentTail_append_of_commentBody {body : List Char} (closed : CommentBody body)
    (depth : Nat) (rest : List Char) :
    commentTail (depth + 1) (body ++ rest) = (commentTail depth rest).after body := by
  induction closed generalizing depth rest with
  | close => rfl
  | @nested inner later closed rest' ihInner ihLater =>
      have opened : commentTail (depth + 1) ('#' :: '*' :: (inner ++ later) ++ rest) =
          (commentTail (depth + 2) (inner ++ (later ++ rest))).after ['#', '*'] := by
        rw [← List.append_assoc]
        rfl
      rw [opened, ihInner, ihLater, CommentSplit.after_after, CommentSplit.after_after]
      rfl
  | @plain c later unopened unclosed closed ih =>
      -- nothing behind the body takes part in its marks
      rw [← pair_isPrefix_append_iff closed rest] at unopened unclosed
      rw [List.cons_append, commentTail_plain unopened unclosed, ih, CommentSplit.after_after]
      rfl

theorem levels_of_commentTail {depth : Nat} {text tail rest : List Char}
    (closed : commentTail depth text = .closed tail rest) : Levels depth tail := by
  fun_induction commentTail depth text generalizing tail with
  | case1 text =>
      simp only [CommentSplit.closed.injEq] at closed
      rw [← closed.1]
      exact .none
  | case2 => simp at closed
  | case3 depth text ih =>
      obtain ⟨inner, read, rfl⟩ := CommentSplit.after_eq_closed_iff.1 closed
      -- the two innermost of the levels make up one, with the comment between them nested
      cases ih read with
      | level first rest =>
          cases rest with
          | level second others => simpa using Levels.level (first.nested second) others
  | case4 depth text ih =>
      obtain ⟨inner, read, rfl⟩ := CommentSplit.after_eq_closed_iff.1 closed
      exact .level .close (ih read)
  | case5 depth c text unopened unclosed ih =>
      obtain ⟨inner, read, rfl⟩ := CommentSplit.after_eq_closed_iff.1 closed
      have whole := commentTail_append read
      cases ih read with
      | @level _ body later first others =>
          rw [List.append_assoc] at whole
          have plain : CommentBody (c :: body) := by
            refine .plain ?_ ?_ first
            · rw [← pair_isPrefix_append_iff first, whole, pair_isPrefix_cons_iff]
              rintro ⟨same, behind, next⟩
              exact unopened behind same next
            · rw [← pair_isPrefix_append_iff first, whole, pair_isPrefix_cons_iff]
              rintro ⟨same, behind, next⟩
              exact unclosed behind same next
          simpa using Levels.level plain others

/-- The recogniser of comments takes just what the grammar allows, and there is one way to do so. -/
theorem commentTail_eq_closed_iff {text tail rest : List Char} :
    commentTail 1 text = .closed tail rest ↔ CommentBody tail ∧ tail ++ rest = text := by
  constructor
  · intro closed
    refine ⟨?_, commentTail_append closed⟩
    cases levels_of_commentTail closed with
    | level body later =>
        cases later with
        | none => simpa using body
  · rintro ⟨closed, rfl⟩
    rw [commentTail_append_of_commentBody closed, commentTail, CommentSplit.after, List.append_nil]

end LexScan.Lexeme
