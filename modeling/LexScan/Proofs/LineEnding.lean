import LexScan.Proofs.Concatenation
import LexScan.Proofs.Lookahead

/-! Line endings. A carriage return before a line feed is a blank between segments and one more
character of a comment, and the line feed behind it sets the column back, so that what is found
later stands where it stood. The two texts are read side by side: whatever token or fault contains
no line feed is read in both alike, and comments end at the same marks. -/
namespace LexScan

/-- The second text is the first with carriage returns put before some of its line feeds. -/
inductive Returned : List Char → List Char → Prop where
  | nil : Returned [] []
  | same (c : Char) {text changed : List Char} (later : Returned text changed) :
      Returned (c :: text) (c :: changed)
  | feed {text changed : List Char} (later : Returned text changed) :
      Returned ('\n' :: text) ('\r' :: '\n' :: changed)

/-- A text with a carriage return put before each of its line feeds. -/
def withReturns (source : String) : String :=
  String.ofList (source.toList.flatMap fun c => if c = '\n' then ['\r', '\n'] else [c])

theorem returned_withReturns (source : String) :
    Returned source.toList (withReturns source).toList := by
  rw [withReturns, String.toList_ofList]
  induction source.toList with
  | nil => exact .nil
  | cons c text ih =>
      by_cases feed : c = '\n'
      · simpa [feed] using ih.feed
      · simpa [feed] using ih.same c

namespace Returned

theorem of_nil {changed : List Char} (returned : Returned [] changed) : changed = [] := by
  cases returned
  rfl

/-- A text without line feeds is left alone. -/
theorem of_append {front text changed : List Char} (plain : '\n' ∉ front)
    (returned : Returned (front ++ text) changed) :
    ∃ left, changed = front ++ left ∧ Returned text left := by
  induction front generalizing changed with
  | nil => exact ⟨changed, rfl, returned⟩
  | cons c front ih =>
      simp only [List.mem_cons, not_or] at plain
      cases returned with
      | same _ later =>
          obtain ⟨left, rfl, behind⟩ := ih plain.2 later
          exact ⟨left, rfl, behind⟩
      | feed later => exact absurd rfl plain.1

/-- What begins with something other than a return began with it before. -/
theorem of_cons {text changed : List Char} {c : Char} (returned : Returned text (c :: changed))
    (other : c ≠ '\r') : ∃ later, text = c :: later := by
  cases returned with
  | same _ later => exact ⟨_, rfl⟩
  | feed later => exact absurd rfl other

theorem advanceOver {text changed : List Char} (returned : Returned text changed) (p : Position) :
    p.advanceOver changed = p.advanceOver text := by
  induction returned generalizing p with
  | nil => rfl
  | same c later ih => rw [Position.advanceOver_cons, Position.advanceOver_cons, ih]
  | feed later ih =>
      rw [Position.advanceOver_cons, Position.advanceOver_cons, Position.advanceOver_cons, ih]
      rfl

end Returned

theorem DiagnosticLog.eq_of_toList {one other : DiagnosticLog} (same : one.toList = other.toList) :
    one = other := by
  cases one
  cases other
  exact congrArg mk (Array.toList_inj.1 same)

namespace Lexeme

/-! ### Block comments -/

/-- Two comments of which the second has more returns, or two that both do not end. -/
inductive CommentSplit.Returned : CommentSplit → CommentSplit → Prop where
  | closed {tail tail' rest rest' : List Char} (inside : LexScan.Returned tail tail')
      (behind : LexScan.Returned rest rest') : Returned (.closed tail rest) (.closed tail' rest')
  | unclosed (depth : Nat) : Returned (.unclosed depth) (.unclosed depth)

theorem CommentSplit.Returned.same {split changed : CommentSplit}
    (returned : CommentSplit.Returned split changed) (c : Char) :
    CommentSplit.Returned (split.after [c]) (changed.after [c]) := by
  cases returned with
  | closed inside behind => exact .closed (inside.same c) behind
  | unclosed depth => exact .unclosed depth

theorem CommentSplit.Returned.feed {split changed : CommentSplit}
    (returned : CommentSplit.Returned split changed) :
    CommentSplit.Returned (split.after ['\n']) (changed.after ['\r', '\n']) := by
  cases returned with
  | closed inside behind => exact .closed inside.feed behind
  | unclosed depth => exact .unclosed depth

/-- No mark holds a line feed or a return, so none is made or broken. -/
theorem commentTail_returned {text changed : List Char} (returned : Returned text changed)
    (depth : Nat) :
    CommentSplit.Returned (commentTail depth text) (commentTail depth changed) := by
  fun_induction commentTail depth text generalizing changed with
  | case1 text =>
      rw [commentTail]
      exact .closed .nil returned
  | case2 depth =>
      rw [returned.of_nil]
      exact .unclosed _
  | case3 depth text ih =>
      obtain _ | ⟨_, _ | ⟨_, later⟩⟩ := returned
      have pair := ((ih later).same '*').same '#'
      rwa [CommentSplit.after_after, CommentSplit.after_after] at pair
  | case4 depth text ih =>
      obtain _ | ⟨_, _ | ⟨_, later⟩⟩ := returned
      have pair := ((ih later).same '#').same '*'
      rwa [CommentSplit.after_after, CommentSplit.after_after] at pair
  | case5 depth c text unopened unclosed ih =>
      cases returned with
      | @same _ _ changed later =>
          rw [commentTail_plain]
          · exact (ih later).same c
          · rw [pair_isPrefix_cons_iff]
            rintro ⟨rfl, behind, rfl⟩
            obtain ⟨before, rfl⟩ := later.of_cons (by decide)
            exact unopened before rfl rfl
          · rw [pair_isPrefix_cons_iff]
            rintro ⟨rfl, behind, rfl⟩
            obtain ⟨before, rfl⟩ := later.of_cons (by decide)
            exact unclosed before rfl rfl
      | feed later =>
          rw [commentTail_plain (by simp) (by simp), commentTail_plain (by simp) (by simp),
            CommentSplit.after_after]
          exact (ih later).feed

end Lexeme

namespace Segment

open Text Lexeme Grammar

/-! ### Segments before a line end -/

theorem pairKind_return (c : Char) : pairKind c '\r' = none := by
  unfold pairKind
  split <;> simp_all

/-- A stray character before a line feed is one before a return. -/
theorem read_stray_return {c : Char} {more : List Char}
    (stray : (read c ('\n' :: more)).1 = .strayCharacter c) (other : List Char) :
    read c ('\r' :: other) = (.strayCharacter c, '\r' :: other) := by
  have starts : startsNumber c ('\r' :: other) = startsNumber c ('\n' :: more) := by
    simp [startsNumber]
  have mark : (readMark c ('\n' :: more)).1 = .strayCharacter c →
      readMark c ('\r' :: other) = (.strayCharacter c, '\r' :: other) := by
    cases single : singleKind c <;>
      simp [readMark, mark?, pairKind_feed, pairKind_return, single]
  unfold read at stray ⊢
  rw [starts]
  split_ifs at stray ⊢
  · cases stray
  · cases stray
  · unfold readString at stray
    split at stray <;> cases stray
  · by_cases closed : (characterTail ('\n' :: more)).closed <;>
      simp [readCharacter, closed] at stray
  · exact mark stray
  · exact mark stray

/-- The one or two characters of a malformed literal without a closing quote. -/
theorem characterTail_return {front more : List Char} (plain : '\n' ∉ front)
    (unclosed : (characterTail (front ++ '\n' :: more)).closed = false)
    (taken : (characterTail (front ++ '\n' :: more)).tail = front) (other : List Char) :
    characterTail (front ++ '\r' :: other) = ⟨false, front, '\r' :: other⟩ := by
  cases front with
  | nil =>
      -- the line feed itself would be the character
      cases more with
      | nil => simp [characterTail] at taken
      | cons d more => by_cases quote : d = '\'' <;> simp [characterTail, quote] at taken
  | cons c front =>
      by_cases escaped : c = '\\'
      · subst escaped
        cases front with
        | nil =>
            cases more with
            | nil => simp [characterTail] at taken
            | cons d more => by_cases quote : d = '\'' <;> simp [characterTail, quote] at taken
        | cons d front =>
            cases front with
            | nil => simp [characterTail]
            | cons e front => by_cases quote : e = '\'' <;> simp_all [characterTail]
      · cases front with
        | nil => simp [characterTail, escaped]
        | cons d front => by_cases quote : d = '\'' <;> simp_all [characterTail]

theorem readCharacter_return {front more lexeme : List Char} (plain : '\n' ∉ front)
    (malformed : (readCharacter '\'' (front ++ '\n' :: more)).1 = .malformedCharacter lexeme)
    (whole : lexeme = '\'' :: front) (other : List Char) :
    readCharacter '\'' (front ++ '\r' :: other) = (.malformedCharacter lexeme, '\r' :: other) := by
  have unclosed : (characterTail (front ++ '\n' :: more)).closed = false := by
    cases closed : (characterTail (front ++ '\n' :: more)).closed with
    | false => rfl
    | true => simp [readCharacter, closed] at malformed
  have taken : (characterTail (front ++ '\n' :: more)).tail = front := by
    simpa [readCharacter, unclosed, whole] using malformed
  simp [readCharacter, characterTail_return plain unclosed taken other, whole]

/-- What is told of the segment shows all of it. -/
def isShown : Segment → Bool
  | .blank _ | .lineComment _ | .blockComment _ | .unclosedComment _ _ => false
  | _ => true

/-- A token or fault without a line feed that ends before one ends before a return as well. -/
theorem read_before_return {c : Char} {front more : List Char} {segment : Segment}
    (taken : read c (front ++ '\n' :: more) = (segment, '\n' :: more))
    (shown : segment.isShown = true) (plain : '\n' ∉ segment.text) (other : List Char) :
    read c (front ++ '\r' :: other) = (segment, '\r' :: other) := by
  have whole := read_append c (front ++ '\n' :: more)
  have formed := wellFormed_read c (front ++ '\n' :: more)
  rw [taken] at formed
  rw [taken, ← List.cons_append, List.append_cancel_right_eq] at whole
  cases segment with
  | token kind lexeme =>
      refine read_of_ends formed ?_ (by simp [Ends, isBlank])
      rw [← List.cons_append, ← whole, text]
  | strayCharacter d =>
      obtain ⟨rfl, rfl⟩ : d = c ∧ front = [] := by simpa [text, eq_comm] using whole
      exact read_stray_return (congrArg Prod.fst taken) other
  | malformedCharacter lexeme =>
      obtain rfl : lexeme = c :: front := whole
      obtain rfl : c = '\'' := Option.some.inj formed.1
      rw [read_apostrophe] at taken ⊢
      exact readCharacter_return (by simp_all [text]) (congrArg Prod.fst taken) rfl other
  | unterminatedString lexeme => simp [WellFormed] at formed
  | _ => cases shown

/-- A token or fault without a line feed is read alike in both texts. -/
theorem read_returned {c : Char} {rest changed : List Char} (returned : Returned rest changed)
    (shown : (read c rest).1.isShown = true) (plain : '\n' ∉ (read c rest).1.text) :
    ∃ left, read c changed = ((read c rest).1, left) ∧ Returned (read c rest).2 left := by
  obtain ⟨front, head⟩ := read_head c rest
  have whole := read_append c rest
  have inside : '\n' ∉ front := by simp_all
  rw [head, List.cons_append, List.cons.injEq] at whole
  rw [← whole.2] at returned
  obtain ⟨left, rfl, behind⟩ := returned.of_append inside
  refine ⟨left, ?_, behind⟩
  -- the next character is the same, or a return in front of a line feed
  have taken : read c (front ++ (read c rest).2) = ((read c rest).1, (read c rest).2) := by
    rw [whole.2]
  generalize (read c rest).1 = segment at *
  generalize (read c rest).2 = remaining at *
  cases behind with
  | nil => exact taken
  | @same d more more' later =>
      rw [List.append_cons] at taken ⊢
      have kept : read c (front ++ [d] ++ more) = (segment, [d] ++ more) := taken
      exact read_append_congr kept (by simp) more'
  | feed later => exact read_before_return taken shown plain _

/-! ### Side by side -/

/-- Cursors before two texts stand at the same place, or on the same line if the line ends there. -/
def Abreast (p q : Position) (text changed : List Char) : Prop :=
  p = q ∨ p.line = q.line ∧ text.head? = some '\n' ∧ changed.head? = some '\n'

theorem Abreast.line {p q : Position} {source changed : List Char}
    (abreast : Abreast p q source changed) : p.line = q.line := by
  rcases abreast with rfl | ⟨lines, -, -⟩
  · rfl
  · exact lines

theorem Abreast.eq_of_cons {p q : Position} {c : Char} {rest changed : List Char}
    (abreast : Abreast p q (c :: rest) changed) (other : c ≠ '\n') : p = q := by
  rcases abreast with same | ⟨-, head, -⟩
  · exact same
  · exact absurd (Option.some.inj head) other

/-- Two segments, and what is left behind them, of which the same is told. -/
structure Alike (one other : Segment × List Char) : Prop where
  token? : ∀ place, other.1.token? place = one.1.token? place
  diagnostics : ∀ limit place, other.1.diagnostics limit place = one.1.diagnostics limit place
  behind : Returned one.2 other.2
  abreast : ∀ p : Position,
    Abreast (p.advanceOver one.1.text) (p.advanceOver other.1.text) one.2 other.2

theorem alike_same {segment : Segment} {left left' : List Char} (behind : Returned left left') :
    Alike (segment, left) (segment, left') :=
  ⟨fun _ => rfl, fun _ _ => rfl, behind, fun _ => .inl rfl⟩

theorem alike_lineComment {body changed : List Char} (returned : Returned body changed) :
    Alike (readNumberSign '#' ('#' :: body)) (readNumberSign '#' ('#' :: changed)) := by
  have inside : '\n' ∉ body.takeWhile (· != '\n') :=
    fun member => by simpa using List.mem_takeWhile_imp member
  have ends := head?_dropWhile_feed body
  rw [← List.takeWhile_append_dropWhile (p := (· != '\n')) (l := body)] at returned
  obtain ⟨left, rfl, behind⟩ := returned.of_append inside
  simp only [readNumberSign]
  generalize body.takeWhile (· != '\n') = front at *
  generalize body.dropWhile (· != '\n') = rest at *
  have all : ∀ c ∈ front, (c != '\n') = true := by
    intro c member
    simpa using ne_of_mem_of_not_mem member inside
  rw [List.takeWhile_append_of_pos all, List.dropWhile_append_of_pos all]
  cases behind with
  | nil => simpa using alike_same .nil
  | same c later =>
      obtain rfl : c = '\n' := by simpa using ends
      simpa using alike_same (later.same '\n')
  | feed later =>
      refine ⟨fun _ => rfl, fun _ _ => rfl, ?_, fun p => .inr ⟨?_, rfl, ?_⟩⟩
      · simpa using later.same '\n'
      · simp [text, Position.line_advanceOver]
      · simp

theorem alike_comment {body changed : List Char} (returned : Returned body changed) :
    Alike (readNumberSign '#' ('*' :: body)) (readNumberSign '#' ('*' :: changed)) := by
  have tails := commentTail_returned returned 1
  simp only [readNumberSign]
  generalize commentTail 1 body = split at *
  generalize commentTail 1 changed = split' at *
  cases tails with
  | closed inside behind =>
      refine ⟨fun _ => rfl, fun _ _ => rfl, behind, fun p => .inl ?_⟩
      exact (((inside.same '*').same '#').advanceOver p).symm
  | unclosed depth =>
      refine ⟨fun _ => rfl, fun _ _ => rfl, .nil, fun p => .inl ?_⟩
      exact (((returned.same '*').same '#').advanceOver p).symm

theorem alike_opened {mark : Char} {rest changed : List Char} (opens : mark = '#' ∨ mark = '*')
    (opened : ∃ body, rest = mark :: body) (returned : Returned rest changed) :
    Alike (read '#' rest) (read '#' changed) := by
  obtain ⟨body, rfl⟩ := opened
  cases returned with
  | same _ later =>
      rcases opens with rfl | rfl
      · exact alike_lineComment later
      · exact alike_comment later
  | feed later => simp at opens

/-- Segments of which something is shown are read alike if they hold no line feed, and all others
are read alike in any case. -/
theorem alike_read {c : Char} {rest changed : List Char} (returned : Returned rest changed)
    (plain : (read c rest).1.isShown = true → '\n' ∉ (read c rest).1.text) :
    Alike (read c rest) (read c changed) := by
  have whole := read_append c rest
  have formed := wellFormed_read c rest
  cases segment : (read c rest).1 with
  | blank d =>
      obtain rfl : d = c := by simp_all [text]
      have blank : isBlank d = true := isBlank_iff.2 (by rwa [segment] at formed)
      simpa [read, blank] using alike_same returned
  | lineComment comment =>
      rw [segment] at whole formed
      obtain ⟨line, rfl, -, -⟩ := formed
      obtain ⟨rfl, behind⟩ := List.cons.inj whole
      exact alike_opened (.inl rfl) ⟨_, behind.symm⟩ returned
  | blockComment comment =>
      rw [segment] at whole formed
      obtain ⟨body, -, rfl⟩ := formed
      obtain ⟨rfl, behind⟩ := List.cons.inj whole
      exact alike_opened (.inr rfl) ⟨_, behind.symm⟩ returned
  | unclosedComment comment depth =>
      rw [segment] at whole formed
      obtain ⟨⟨⟨body, rfl⟩, -⟩, -⟩ := formed
      obtain ⟨rfl, behind⟩ := List.cons.inj whole
      exact alike_opened (.inr rfl) ⟨_, behind.symm⟩ returned
  | _ =>
      have shown : (read c rest).1.isShown = true := by rw [segment]; rfl
      obtain ⟨left, same, behind⟩ := read_returned returned shown (plain shown)
      rw [same]
      exact alike_same behind

/-- The tokens and the diagnostics of a text, for a cursor that stands before it. -/
def findings (limit : Nat) (p : Position) (source : List Char) : List Token × List Diagnostic :=
  ((placed p (split source)).filterMap fun entry => entry.2.token? entry.1,
    (placed p (split source)).flatMap fun entry => entry.2.diagnostics limit entry.1)

theorem findings_cons (limit : Nat) (p : Position) (c : Char) (rest : List Char) :
    findings limit p (c :: rest) =
      (((read c rest).1.token? p.next).toList ++
        (findings limit (p.advanceOver (read c rest).1.text) (read c rest).2).1,
       (read c rest).1.diagnostics limit p.next ++
        (findings limit (p.advanceOver (read c rest).1.text) (read c rest).2).2) := by
  simp only [findings, split_cons, placed, List.filterMap_cons, List.flatMap_cons]
  cases (read c rest).1.token? p.next <;> rfl

/-- No line feed is in what is shown. -/
def Unbroken (found : List Token × List Diagnostic) : Prop :=
  (∀ token ∈ found.1, '\n' ∉ token.lexeme.toList) ∧ ∀ d ∈ found.2, '\n' ∉ d.lexeme.toList

theorem Unbroken.of_append {tokens later : List Token} {diagnostics others : List Diagnostic}
    (unbroken : Unbroken (tokens ++ later, diagnostics ++ others)) :
    Unbroken (tokens, diagnostics) ∧ Unbroken (later, others) := by
  simp only [Unbroken, List.forall_mem_append] at unbroken ⊢
  exact ⟨⟨unbroken.1.1, unbroken.2.1⟩, unbroken.1.2, unbroken.2.2⟩

theorem Unbroken.plain {segment : Segment} {limit : Nat} {place : Position}
    (unbroken : Unbroken ((segment.token? place).toList, segment.diagnostics limit place))
    (shown : segment.isShown = true) : '\n' ∉ segment.text := by
  obtain ⟨tokens, diagnosed⟩ := unbroken
  cases segment with
  | token kind lexeme => simpa [text] using tokens _ (List.mem_singleton_self _)
  | strayCharacter c => simpa [text] using diagnosed _ (List.mem_singleton_self _)
  | malformedCharacter lexeme => simpa [text] using diagnosed _ (List.mem_singleton_self _)
  | unterminatedString lexeme => simpa [text] using diagnosed _ (List.mem_singleton_self _)
  | _ => cases shown

theorem findings_blank (limit : Nat) (p : Position) {c : Char} (blank : isBlank c = true)
    (rest : List Char) : findings limit p (c :: rest) = findings limit (p.advance c) rest := by
  simp [findings_cons, read, blank, token?, diagnostics, text]

/-- Returns before line feeds change nothing in what is found, as long as no line feed is shown. -/
theorem findings_returned {limit : Nat} {p q : Position} {source changed : List Char}
    (returned : Returned source changed) (abreast : Abreast p q source changed)
    (unbroken : Unbroken (findings limit p source)) :
    findings limit q changed = findings limit p source := by
  -- the second text is the longer one: in front of a line feed its return is read alone
  induction length : changed.length using Nat.strong_induction_on
    generalizing p q source changed with
  | _ size ih =>
  subst length
  cases returned with
  | nil => simp [findings, placed]
  | @same c rest rest' later =>
      by_cases feed : c = '\n'
      · subst feed
        have behind : q.advance '\n' = p.advance '\n' := by
          rw [Position.advance_feed, Position.advance_feed, abreast.line]
        rw [findings_blank limit p rfl] at unbroken ⊢
        rw [findings_blank limit q rfl, behind]
        exact ih _ (by simp) later (.inl rfl) unbroken rfl
      · obtain rfl : p = q := abreast.eq_of_cons feed
        rw [findings_cons] at unbroken
        obtain ⟨here, further⟩ := unbroken.of_append
        have alike := alike_read later here.plain
        rw [findings_cons, findings_cons, alike.token?, alike.diagnostics,
          ih _ (length_read_lt c rest') alike.behind (alike.abreast p) further rfl]
  | @feed rest rest' later =>
      rw [findings_blank limit q rfl]
      exact ih _ (by simp) (later.same '\n') (.inr ⟨abreast.line, rfl, rfl⟩) unbroken rfl

end Segment

namespace Scanner

theorem findings_ofSource (source : String) (limit : Nat) :
    Segment.findings limit .start source.toList =
      ((ofSource source limit).tokensAhead, (ofSource source limit).diagnosticsAhead) := rfl

/-- Two scans that come to the same but for what they trace. -/
structure SameOutcome (one other : List Token × Scanner) : Prop where
  tokens : other.1 = one.1
  symbols : other.2.symbols = one.2.symbols
  diagnostics : other.2.diagnostics = one.2.diagnostics
  line : other.2.line = one.2.line
  hasFatal : other.2.diagnostics.hasFatal = one.2.diagnostics.hasFatal

/-- Returns may be put before some of the line feeds only. -/
theorem sameOutcome_of_returned {source changed : String} {limit : Nat}
    (returned : Returned source.toList changed.toList)
    (tokens : ∀ token ∈ (ofSource source limit).drain.1, '\n' ∉ token.lexeme.toList)
    (diagnostics : ∀ d ∈ (ofSource source limit).drain.2.diagnostics.toList,
      '\n' ∉ d.lexeme.toList) :
    SameOutcome (ofSource source limit).drain (ofSource changed limit).drain := by
  have unbroken : Segment.Unbroken (Segment.findings limit .start source.toList) := by
    refine ⟨fun token member => tokens token ?_, fun d member => diagnostics d ?_⟩
    · rw [drain_tokens]
      exact List.mem_append_left _ member
    · rwa [diagnostics_drain_ofSource]
  have same := Segment.findings_returned returned (.inl rfl) unbroken
  rw [findings_ofSource, findings_ofSource, Prod.mk.injEq] at same
  have finish : (ofSource changed limit).finalPosition = (ofSource source limit).finalPosition :=
    returned.advanceOver .start
  have logged : (ofSource changed limit).drain.2.diagnostics =
      (ofSource source limit).drain.2.diagnostics := by
    apply DiagnosticLog.eq_of_toList
    rw [diagnostics_drain_ofSource, diagnostics_drain_ofSource, same.2]
  refine ⟨?_, ?_, logged, ?_, by rw [logged]⟩
  · rw [drain_tokens, drain_tokens, same.1, finish]
  · have tallied := tallies_drain changed limit
    rw [same.1] at tallied
    exact tallied.unique (tallies_drain source limit)
  · rw [line_drain, line_drain, finish]

/-- Line ends of two characters. If no token and no diagnostic shows a line feed, a return before
every line feed of the source leaves the tokens and their places, the symbol table, the diagnostics,
the last line and the verdict as they are. -/
theorem returns_change_nothing (source : String) (limit : Nat)
    (tokens : ∀ token ∈ (ofSource source limit).drain.1, '\n' ∉ token.lexeme.toList)
    (diagnostics : ∀ d ∈ (ofSource source limit).drain.2.diagnostics.toList,
      '\n' ∉ d.lexeme.toList) :
    SameOutcome (ofSource source limit).drain (ofSource (withReturns source) limit).drain :=
  sameOutcome_of_returned (returned_withReturns source) tokens diagnostics

/-- Line ends behind a line comment, inside a comment in a comment, right behind a number, an
operator and a character without its closing quote, and inside a comment that does not end. -/
theorem returns_change_nothing_everywhere :
    withReturns "## c\n#* #*\n*# \n*# 1.e\n+\n'x\n& Ab #*\n" =
      "## c\r\n#* #*\r\n*# \r\n*# 1.e\r\n+\r\n'x\r\n& Ab #*\r\n" ∧
    (ofSource "## c\n#* #*\n*# \n*# 1.e\n+\n'x\n& Ab #*\n" 30).drain.2.diagnostics.toList.map
      (fun d => (d.fault, d.position)) =
        [(.malformedCharacter, ⟨6, 1⟩), (.invalidCharacter, ⟨7, 1⟩), (.unclosedComment, ⟨7, 6⟩)] ∧
    SameOutcome (ofSource "## c\n#* #*\n*# \n*# 1.e\n+\n'x\n& Ab #*\n" 30).drain
      (ofSource (withReturns "## c\n#* #*\n*# \n*# 1.e\n+\n'x\n& Ab #*\n") 30).drain :=
  ⟨by decide +kernel, by decide +kernel,
    returns_change_nothing _ _ (by decide +kernel) (by decide +kernel)⟩

end Scanner
end LexScan
