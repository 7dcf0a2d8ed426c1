import LexScan.Proofs.FatalFault

/-! How far a block comment reaches in a scan. Where an opening mark stands at a place at which a
token may begin, the text ahead begins with one comment of the grammar or with none. In the first
case a step takes just that comment and leaves no trace of it but in the log; in the second it takes
all that is left, reports the opening mark, and the stream is at its end. -/
namespace LexScan

open Grammar Lexeme

/-- No comment goes on with another one: two that begin at one place are the same. -/
theorem Grammar.BlockComment.eq_of_isPrefix {first second text : List Char}
    (one : BlockComment first) (other : BlockComment second) (front : first <+: text)
    (front' : second <+: text) : first = second := by
  obtain ⟨body, closed, rfl⟩ := one
  obtain ⟨body', closed', rfl⟩ := other
  obtain ⟨left, rfl⟩ := front
  obtain ⟨left', whole⟩ := front'
  have behind : body' ++ left' = body ++ left := by simpa using whole
  have read : commentTail 1 (body ++ left) = .closed body left :=
    commentTail_eq_closed_iff.2 ⟨closed, rfl⟩
  have read' : commentTail 1 (body ++ left) = .closed body' left' :=
    commentTail_eq_closed_iff.2 ⟨closed', behind⟩
  rw [read, CommentSplit.closed.injEq] at read'
  rw [read'.1]

theorem Segment.read_of_blockComment {comment : List Char} (closed : BlockComment comment)
    (left : List Char) :
    ∃ rest, comment ++ left = '#' :: rest ∧ read '#' rest = (.blockComment comment, left) := by
  obtain ⟨body, closed, rfl⟩ := closed
  refine ⟨'*' :: (body ++ left), rfl, ?_⟩
  have start : read '#' ('*' :: (body ++ left)) = readNumberSign '#' ('*' :: (body ++ left)) := rfl
  rw [start, readNumberSign, commentTail_eq_closed_iff.2 ⟨closed, rfl⟩]

namespace Scanner

/-- A scanner has taken a comment and nothing else, and goes on behind it: it returns nothing for
the comment and logs nothing about it. -/
structure PassesComment (s next : Scanner) (comment left : List Char) : Prop where
  step : s.step = .skip next
  rest : next.rest = left
  limit : next.limit = s.limit
  position : next.position = s.position.advanceOver comment
  symbols : next.symbols = s.symbols
  diagnostics : next.diagnostics = s.diagnostics
  pull : s.pull = next.pull
  nextToken : s.nextToken = next.nextToken
  drain : s.drain = next.drain

/-- A scanner has taken all that is left and reported the mark that it stood at, once; it returns
the token for the end, behind the whole text, and reports no more. -/
structure EndsInComment (s next : Scanner) : Prop where
  step : s.step = .stop next
  rest : next.rest = []
  position : next.position = s.position.advanceOver s.rest
  symbols : next.symbols = s.symbols
  diagnostics : next.diagnostics.toList = s.diagnostics.toList ++
    [⟨.unclosedComment, s.position.next, "#*", "Nested comment not closed"⟩]
  pull : s.pull.1 = none
  nextToken : s.nextToken = (.endOfInput next.position, s.pull.2)
  later : s.pull.2.diagnostics = next.diagnostics

theorem drain_of_pull_eq {s t : Scanner} (same : s.pull = t.pull) : s.drain = t.drain := by
  rcases pulled : t.pull with ⟨answer, next⟩
  cases answer with
  | none => rw [drain_of_pull_eq_none pulled, drain_of_pull_eq_none (same.trans pulled)]
  | some token => rw [drain_of_pull_eq_some pulled, drain_of_pull_eq_some (same.trans pulled)]

theorem exists_passesComment {s : Scanner} {comment left : List Char}
    (closed : BlockComment comment) (front : comment ++ left = s.rest) :
    ∃ next, PassesComment s next comment left := by
  obtain ⟨rest, opened, read⟩ := Segment.read_of_blockComment closed left
  have skipped := step_of_rest (front.symm.trans opened)
  rw [read] at skipped
  have pulled : s.pull = Scanner.pull _ := (pull_eq_step s).trans (by rw [skipped]; rfl)
  exact ⟨_, {
    step := skipped
    rest := rfl
    limit := rfl
    position := rfl
    symbols := rfl
    diagnostics := rfl
    pull := pulled
    nextToken := by rw [nextToken, nextToken, pulled]
    drain := drain_of_pull_eq pulled }⟩

theorem exists_endsInComment {s : Scanner} (unclosed : UnclosedComment s.rest) :
    ∃ next, EndsInComment s next := by
  obtain ⟨rest, depth, opened, read⟩ := Segment.read_of_unclosedComment unclosed
  have stopped := step_of_rest opened
  rw [read] at stopped
  have pulled : s.pull = (none, _) := (pull_eq_step s).trans (by rw [stopped]; rfl)
  exact ⟨_, {
    step := stopped
    rest := rfl
    position := rfl
    symbols := rfl
    diagnostics := by simp [report, note, moveOver]
    pull := by rw [pulled]
    nextToken := by rw [nextToken, pulled]; rfl
    later := by rw [pulled]; rfl }⟩

/-- Whatever the state of a scanner that stands at an opening mark, at most one comment of the
grammar begins there. If one does, a step passes it and only it; if none does, the step reports the
mark and the stream ends. -/
theorem comment_taken_whole (s : Scanner) (opened : ['#', '*'] <+: s.rest) :
    (∀ first second, BlockComment first → BlockComment second → first <+: s.rest →
      second <+: s.rest → first = second) ∧
    (∀ comment left, BlockComment comment → comment ++ left = s.rest →
      ∃ next, PassesComment s next comment left) ∧
    ((∀ comment, BlockComment comment → ¬ comment <+: s.rest) → ∃ next, EndsInComment s next) := by
  refine ⟨?_, ?_, ?_⟩
  · intro first second one other front front'
    exact one.eq_of_isPrefix other front front'
  · intro comment left closed front
    exact exists_passesComment closed front
  · intro endless
    exact exists_endsInComment ⟨opened, endless⟩

/-- Marks that overlap: in the first text `##*` opens a second level and `**#*#` closes both; in the
second text the star is taken by the opening mark, so that nothing closes it. -/
theorem comment_taken_whole_overlapping :
    (∃ next, PassesComment (ofSource "#*##*a**#*#B" 30) next "#*##*a**#*#".toList ['B']) ∧
      ∃ next, EndsInComment (ofSource "#*#" 30) next := by
  have read : commentTail 1 "##*a**#*#".toList = .closed "##*a**#*#".toList [] := by decide
  have closed : BlockComment "#*##*a**#*#".toList :=
    ⟨_, (commentTail_eq_closed_iff.1 read).1, by decide⟩
  have unclosed : UnclosedComment (ofSource "#*#" 30).rest :=
    Segment.unclosedComment_of_commentTail (by decide : commentTail 1 ['#'] = .unclosed 1)
  exact ⟨(comment_taken_whole (ofSource "#*##*a**#*#B" 30) (by decide)).2.1 _ _ closed (by decide),
    (comment_taken_whole (ofSource "#*#" 30) (by decide)).2.2 unclosed.2⟩

end Scanner
end LexScan
