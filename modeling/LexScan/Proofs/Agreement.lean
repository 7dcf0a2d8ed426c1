import LexScan.Indexed.Scanner

/-! The two scanners agree. One step of the list scanner behind the blanks is one attempt of the
indexed one, with the same answer, the same records and the same text left. The indexed scanner gets
there by taking characters that are there and no others. From the attempts this carries over to the
loops around them, which end because an attempt that yields nothing takes something. -/
namespace LexScan

open Text Lexeme

namespace Cursor

/-- Between two cursors only characters have been taken that are there. -/
structure Follows (s t : Cursor) : Prop where
  chars : t.chars = s.chars
  index : s.index ≤ t.index
  bound : s.index ≤ s.chars.size → t.index ≤ t.chars.size
  start : s.start ≤ s.index → t.start ≤ t.index
  overruns : t.overruns = s.overruns

theorem Follows.refl (s : Cursor) : Follows s s := ⟨rfl, Nat.le_refl _, id, id, rfl⟩

theorem Follows.trans {s t u : Cursor} (one : Follows s t) (other : Follows t u) : Follows s u where
  chars := other.chars.trans one.chars
  index := Nat.le_trans one.index other.index
  bound := other.bound ∘ one.bound
  start := other.start ∘ one.start
  overruns := other.overruns.trans one.overruns

theorem follows_begun (s : Cursor) : Follows s s.begun :=
  ⟨rfl, Nat.le_refl _, id, fun _ => Nat.le_refl _, rfl⟩

theorem follows_past {s : Cursor} {text left : List Char} (unread : s.unread = text ++ left) :
    Follows s (s.past text) where
  chars := rfl
  index := Nat.le_add_right _ _
  bound within := by
    have length := congrArg List.length unread
    simp only [Cursor.unread, List.length_drop, Array.length_toList, List.length_append] at length
    simp only [past]
    omega
  start ordered := Nat.le_trans ordered (Nat.le_add_right _ _)
  overruns := rfl

end Cursor

/-- The token that one step comes to, which is the one for the end if it stops. -/
def Step.answer : Step → Option Token × Scanner
  | .skip next => (none, next)
  | .found token next => (some token, next)
  | .stop next => (some next.endToken, next)

theorem Step.scanner_answer (outcome : Step) : outcome.answer.2 = outcome.scanner := by
  cases outcome <;> rfl

namespace Scanner

def skipBlanks (s : Scanner) : Scanner :=
  { s with rest := s.rest.dropWhile isBlank
           position := s.position.advanceOver (s.rest.takeWhile isBlank) }

/-- One attempt at a token: a step behind the blanks. -/
def attempt (s : Scanner) : Step := s.skipBlanks.step

theorem skipBlanks_of_rest_eq_nil {s : Scanner} (ended : s.rest = []) : s.skipBlanks = s := by
  cases s
  simp_all [skipBlanks]

theorem skipBlanks_of_visible {s : Scanner} {c : Char} {rest : List Char}
    (unread : s.rest = c :: rest) (visible : isBlank c = false) : s.skipBlanks = s := by
  cases s
  simp_all [skipBlanks]

theorem skipBlanks_of_blank {s : Scanner} {c : Char} {rest : List Char}
    (unread : s.rest = c :: rest) (blank : isBlank c = true) :
    s.step = .skip (s.moveOver (.blank c) rest) ∧
      s.skipBlanks = (s.moveOver (.blank c) rest).skipBlanks := by
  constructor
  · rw [step_of_rest unread, Segment.read, if_pos blank]
    rfl
  · simp [skipBlanks, moveOver, unread, blank, Segment.text]

/-- Passing over all blanks at once is what steps do one blank at a time. -/
theorem pull_skipBlanks (s : Scanner) : s.skipBlanks.pull = s.pull := by
  generalize unread : s.rest = text
  induction text generalizing s with
  | nil => rw [skipBlanks_of_rest_eq_nil unread]
  | cons c rest ih =>
      cases blank : isBlank c with
      | false => rw [skipBlanks_of_visible unread blank]
      | true =>
          obtain ⟨skipped, same⟩ := skipBlanks_of_blank unread blank
          rw [same, ih _ rfl, pull_eq_step s, skipped, Step.pull]

theorem pull_eq_attempt (s : Scanner) : s.pull = s.attempt.pull := by
  rw [← pull_skipBlanks, pull_eq_step, attempt]

/-- An attempt that yields nothing takes something from the text. -/
theorem length_rest_of_attempt_eq_skip {s next : Scanner} (skipped : s.attempt = .skip next) :
    next.rest.length < s.rest.length :=
  Nat.lt_of_lt_of_le (length_rest_of_step_eq_skip skipped) (List.dropWhile_suffix _).length_le

/-- A token is asked for by attempts until one answers. -/
theorem nextToken_eq_attempt (s : Scanner) :
    s.nextToken =
      match s.attempt.answer with
      | (some token, next) => (token, next.note (.token token))
      | (none, next) => next.nextToken := by
  rw [nextToken, pull_eq_attempt]
  cases s.attempt with
  | _ => rfl

end Scanner

namespace IndexedScanner

/-- The scanner that has found the same and has the same text left. -/
def toScanner (s : IndexedScanner) : Scanner :=
  ⟨s.limit, s.cursor.unread, s.cursor.position, s.symbols, s.diagnostics, s.trace⟩

/-- There is a result, it is the one of the other scanner, and only characters have been taken that
are there. -/
def Agrees {α : Type} (s : IndexedScanner) (result : Part (α × IndexedScanner))
    (expected : α × Scanner) : Prop :=
  ∃ next, result = .some (expected.1, next) ∧ next.toScanner = expected.2 ∧
    s.cursor.Follows next.cursor

theorem toScanner_ofSource (source : String) (limit : Nat) :
    (ofSource source limit).toScanner = Scanner.ofSource source limit := rfl

theorem toScanner_note (s : IndexedScanner) (event : Event) :
    (s.note event).toScanner = s.toScanner.note event := rfl

theorem toScanner_report (s : IndexedScanner) (d : Diagnostic) :
    (s.report d).toScanner = s.toScanner.report d := rfl

theorem toScanner_checkToken (s : IndexedScanner) (token : Token) :
    (s.checkToken token).toScanner = s.toScanner.checkToken token := by
  by_cases identifier : token.kind = .literal .identifier
  · cases upper : Scanner.startsUppercase token.lexeme with
    | false =>
        simp [checkToken, Token.nameFault?, Token.isSighting, identifier, upper,
          Scanner.checkToken, Scanner.checkIdentifier, toScanner, report, Scanner.report]
    | true =>
        by_cases long : s.limit < token.lexeme.length <;>
          simp [checkToken, Token.nameFault?, Token.isSighting, identifier, upper, long,
            Scanner.checkToken, Scanner.checkIdentifier, toScanner, report, Scanner.report,
            recordSymbol, Scanner.recordSymbol]
  · simp [checkToken, Token.nameFault?, Token.isSighting, identifier, Scanner.checkToken]

theorem cursor_checkToken (s : IndexedScanner) (token : Token) :
    (s.checkToken token).cursor = s.cursor := by
  unfold checkToken
  cases token.nameFault? s.limit <;> split <;> rfl

/-- The scanner behind a piece of the text that begins at its cursor. -/
def behind (s : IndexedScanner) (text : List Char) : IndexedScanner :=
  s.moveTo (s.cursor.begun.past text)

section

variable {s : IndexedScanner} {c : Char} {rest : List Char}

theorem toScanner_behind (segment : Segment) {text left : List Char}
    (unread : s.cursor.unread = text ++ left) (taken : segment.text = text) :
    (s.behind text).toScanner = s.toScanner.moveOver segment left := by
  have later : (s.cursor.begun.past text).unread = left := Cursor.unread_past unread
  rw [toScanner, behind, moveTo, later, Scanner.moveOver, taken]
  rfl

theorem unread_behind (unread : s.cursor.unread = c :: rest) :
    (s.behind [c]).cursor.unread = rest :=
  Cursor.unread_past_single unread

theorem past_behind (s : IndexedScanner) (c : Char) (text : List Char) :
    (s.behind [c]).cursor.past text = s.cursor.begun.past (c :: text) :=
  Cursor.past_past _ _ _

/-- What is read ahead of a cursor is read over characters that are there. -/
theorem agrees_behind {α : Type} {text left : List Char}
    (unread : s.cursor.unread = text ++ left) {result : Option (α × IndexedScanner)}
    {expected : α × Scanner} {next : IndexedScanner} (reached : result = some (expected.1, next))
    (same : next.toScanner = expected.2) (cursor : next.cursor = s.cursor.begun.past text) :
    s.Agrees result expected := by
  refine ⟨next, congrArg Part.ofOption reached, same, ?_⟩
  rw [cursor]
  exact s.cursor.follows_begun.trans (Cursor.follows_past unread)

/-! ### Pieces -/

theorem checkToken_of_ne {token : Token} (other : token.kind ≠ .literal .identifier) :
    s.checkToken token = s := by
  simp [checkToken, Token.nameFault?_of_ne other, Token.isSighting, other]

theorem agrees_token {kind : Kind} {lexeme left : List Char}
    (unread : s.cursor.unread = lexeme ++ left) {result : Option (Option Token × IndexedScanner)}
    (reached : result = some (some ⟨kind, String.ofList lexeme, s.cursor.position.next⟩,
      (s.behind lexeme).checkToken ⟨kind, String.ofList lexeme, s.cursor.position.next⟩)) :
    s.Agrees result (s.toScanner.absorb (.token kind lexeme) left).answer := by
  refine agrees_behind unread reached ?_ (cursor_checkToken _ _)
  rw [toScanner_checkToken, toScanner_behind (.token kind lexeme) unread rfl]
  rfl

/-- Outside of words there are no identifiers to be checked. -/
theorem agrees_token_of_ne {kind : Kind} {lexeme left : List Char}
    (unread : s.cursor.unread = lexeme ++ left) (other : kind ≠ .literal .identifier)
    {result : Option (Option Token × IndexedScanner)}
    (reached : result = some (some ⟨kind, String.ofList lexeme, s.cursor.position.next⟩,
      s.behind lexeme)) :
    s.Agrees result (s.toScanner.absorb (.token kind lexeme) left).answer :=
  agrees_token unread (reached.trans (by rw [checkToken_of_ne other]))

theorem agrees_word (unread : s.cursor.unread = c :: rest) :
    s.Agrees ((s.behind [c]).word s.cursor.position.next)
      (s.toScanner.absorb (Segment.readWord c rest).1 (Segment.readWord c rest).2).answer := by
  have whole : s.cursor.unread = (c :: rest.takeWhile isWordPart) ++ rest.dropWhile isWordPart := by
    simp [unread]
  have lexeme := Cursor.lexeme?_past whole (List.cons_ne_nil _ _)
  refine agrees_token whole ?_
  simp only [word, moveTo, Cursor.skipWord, Cursor.skipWhile_eq, unread_behind unread, past_behind,
    lexeme]
  rfl

theorem agrees_number (unread : s.cursor.unread = c :: rest) :
    s.Agrees ((s.behind [c]).number s.cursor.position.next)
      (s.toScanner.absorb (Segment.readNumber c rest).1 (Segment.readNumber c rest).2).answer := by
  have whole : s.cursor.unread =
      (c :: (Lexeme.number rest).lexeme) ++ (Lexeme.number rest).rest := by
    rw [List.cons_append, number_append, unread]
  have lexeme := Cursor.lexeme?_past whole (List.cons_ne_nil _ _)
  cases integer : (Lexeme.number rest).isInteger with
  | _ =>
      simp only [Segment.readNumber, integer]
      refine agrees_token_of_ne whole (by simp) ?_
      simp only [number, Cursor.skipNumber_eq, unread_behind unread, past_behind, lexeme, integer]
      rfl

/-- A string ends behind its closing quote, or else at the end of the text. -/
theorem agrees_string (unread : s.cursor.unread = c :: rest) :
    s.Agrees ((s.behind [c]).string s.cursor.position.next)
      (s.toScanner.absorb (Segment.readString c rest).1 (Segment.readString c rest).2).answer := by
  have read := Cursor.skipString_eq (s.behind [c]).cursor
  rw [unread_behind unread] at read
  cases closed : stringTail rest with
  | some parts =>
      have whole : s.cursor.unread = (c :: parts.1) ++ parts.2 := by
        rw [List.cons_append, stringTail_append closed, unread]
      have lexeme := Cursor.lexeme?_past whole (List.cons_ne_nil _ _)
      have segment : Segment.readString c rest =
          (.token (.literal .string) (c :: parts.1), parts.2) := by
        simp [Segment.readString, closed]
      rw [segment]
      refine agrees_token_of_ne whole (by decide) ?_
      simp only [string, read, closed, Cursor.stringResult, past_behind, lexeme]
      rfl
  | none =>
      have whole : s.cursor.unread = (c :: rest) ++ [] := by rw [unread, List.append_nil]
      have lexeme := Cursor.lexeme?_past whole (List.cons_ne_nil _ _)
      have segment : Segment.readString c rest = (.unterminatedString (c :: rest), []) := by
        simp [Segment.readString, closed]
      have reached : (s.behind [c]).string s.cursor.position.next =
          some (some (s.behind (c :: rest)).endToken,
            ((s.behind (c :: rest)).report ⟨.unterminatedString, s.cursor.position.next,
              String.ofList (c :: rest), "Unterminated string"⟩).note
                (.stoppedInString s.cursor.position.next)) := by
        simp only [string, read, closed, Cursor.stringResult, unread_behind unread, past_behind,
          lexeme]
        rfl
      rw [segment]
      refine agrees_behind whole reached ?_ rfl
      rw [toScanner_note, toScanner_report, toScanner_behind (.unterminatedString _) whole rfl]
      rfl

theorem agrees_character (unread : s.cursor.unread = c :: rest) :
    s.Agrees ((s.behind [c]).character s.cursor.position.next)
      (s.toScanner.absorb (Segment.readCharacter c rest).1
        (Segment.readCharacter c rest).2).answer := by
  have whole : s.cursor.unread = (c :: (characterTail rest).tail) ++ (characterTail rest).rest := by
    rw [List.cons_append, characterTail_append, unread]
  have lexeme := Cursor.lexeme?_past whole (List.cons_ne_nil _ _)
  have read := Cursor.skipCharacter_eq (s.behind [c]).cursor
  rw [unread_behind unread, past_behind] at read
  cases closed : (characterTail rest).closed with
  | true =>
      simp only [Segment.readCharacter, closed]
      refine agrees_token_of_ne whole (by decide) ?_
      simp only [character, read, closed, lexeme]
      rfl
  | false =>
      have reached : (s.behind [c]).character s.cursor.position.next =
          some (none, (s.behind (c :: (characterTail rest).tail)).report
            ⟨.malformedCharacter, s.cursor.position.next,
              String.ofList (c :: (characterTail rest).tail), "Malformed character"⟩) := by
        simp only [character, read, closed, lexeme]
        rfl
      simp only [Segment.readCharacter, closed]
      refine agrees_behind whole reached ?_ rfl
      rw [toScanner_report, toScanner_behind (.malformedCharacter _) whole rfl]
      rfl

theorem agrees_lineComment {later : List Char} (unread : s.cursor.unread = '#' :: '#' :: later) :
    s.Agrees (s.behind ['#']).lineComment
      (s.toScanner.absorb (.lineComment ('#' :: '#' :: later.takeWhile (· != '\n')))
        (later.dropWhile (· != '\n'))).answer := by
  have whole : s.cursor.unread =
      ('#' :: '#' :: later.takeWhile (· != '\n')) ++ later.dropWhile (· != '\n') := by
    simp [unread]
  have read := Cursor.skipLine_eq (s.behind ['#']).cursor
  rw [unread_behind unread, past_behind] at read
  have reached : (s.behind ['#']).lineComment =
      some (none, (s.behind ('#' :: '#' :: later.takeWhile (· != '\n'))).note
        (.skippedLineComment
          (s.behind ('#' :: '#' :: later.takeWhile (· != '\n'))).toScanner.line)) := by
    simp only [lineComment, read]
    rfl
  refine agrees_behind whole reached ?_ rfl
  rw [toScanner_note, toScanner_behind (.lineComment _) whole rfl]
  rfl

/-- A block comment is taken from behind its opening mark. -/
theorem agrees_blockComment {later : List Char} (unread : s.cursor.unread = '#' :: '*' :: later) :
    s.Agrees ((s.behind ['#']).blockComment s.cursor.position.next)
      (s.toScanner.absorb (Segment.readNumberSign '#' ('*' :: later)).1
        (Segment.readNumberSign '#' ('*' :: later)).2).answer := by
  have opened : (s.behind ['#']).cursor.advance = s.cursor.begun.past ['#', '*'] := by
    rw [Cursor.advance_of_unread (unread_behind unread), past_behind]
  have inside : (s.cursor.begun.past ['#', '*']).unread = later := Cursor.unread_past unread
  have read := Cursor.skipComment_eq (s.cursor.begun.past ['#', '*']) 1
  rw [inside] at read
  cases closed : commentTail 1 later with
  | closed tail left =>
      have whole : s.cursor.unread = ('#' :: '*' :: tail) ++ left := by
        simp [unread, commentTail_append closed]
      have segment : Segment.readNumberSign '#' ('*' :: later) =
          (.blockComment ('#' :: '*' :: tail), left) := by simp [Segment.readNumberSign, closed]
      have reached : (s.behind ['#']).blockComment s.cursor.position.next =
          some (none, (s.behind ('#' :: '*' :: tail)).note (.skippedBlockComment
            s.cursor.position.next.line (s.behind ('#' :: '*' :: tail)).toScanner.line)) := by
        simp only [blockComment, opened, read, closed, Cursor.commentResult, Cursor.past_past]
        rfl
      rw [segment]
      refine agrees_behind whole reached ?_ rfl
      rw [toScanner_note, toScanner_behind (.blockComment _) whole rfl]
      rfl
  | unclosed depth =>
      have whole : s.cursor.unread = ('#' :: '*' :: later) ++ [] := by simp [unread]
      have segment : Segment.readNumberSign '#' ('*' :: later) =
          (.unclosedComment ('#' :: '*' :: later) depth, []) := by
        simp [Segment.readNumberSign, closed]
      have open_levels := pos_of_commentTail_eq_unclosed closed
      have reached : (s.behind ['#']).blockComment s.cursor.position.next =
          some (some (s.behind ('#' :: '*' :: later)).endToken,
            ((s.behind ('#' :: '*' :: later)).report ⟨.unclosedComment, s.cursor.position.next,
              "#*", "Nested comment not closed"⟩).note
                (.stoppedInComment s.cursor.position.next depth)) := by
        simp only [blockComment, opened, read, closed, Cursor.commentResult, inside,
          Cursor.past_past, if_pos open_levels]
        rfl
      rw [segment]
      refine agrees_behind whole reached ?_ rfl
      rw [toScanner_note, toScanner_report, toScanner_behind (.unclosedComment _ depth) whole rfl]
      rfl

theorem agrees_mark (unread : s.cursor.unread = c :: rest) :
    s.Agrees ((s.behind [c]).mark c s.cursor.position.next)
      (s.toScanner.absorb (Segment.readMark c rest).1 (Segment.readMark c rest).2).answer := by
  have read := Cursor.skipMark_eq (s.behind [c]).cursor c
  rw [unread_behind unread] at read
  cases found : mark? c rest with
  | some split =>
      obtain ⟨tail, head⟩ := mark?_head found
      have whole : s.cursor.unread = (c :: tail) ++ split.rest := by
        rw [← head, mark?_append found, unread]
      have lexeme := Cursor.lexeme?_past whole (List.cons_ne_nil _ _)
      have segment : Segment.readMark c rest = (.token split.kind (c :: tail), split.rest) := by
        simp [Segment.readMark, found, head]
      rw [segment]
      refine agrees_token_of_ne whole
        (Grammar.ne_identifier_of_listed (Segment.listed_of_mark? found)) ?_
      simp only [mark, read, found, Cursor.markResult, head, List.tail_cons, past_behind, lexeme]
      rfl
  | none =>
      have whole : s.cursor.unread = [c] ++ rest := unread
      have segment : Segment.readMark c rest = (.strayCharacter c, rest) := by
        simp [Segment.readMark, found]
      have reached : (s.behind [c]).mark c s.cursor.position.next =
          some (none, (s.behind [c]).report
            ⟨.invalidCharacter, s.cursor.position.next, c.toString, "Unexpected character"⟩) := by
        simp only [mark, read, found, Cursor.markResult]
        rfl
      rw [segment]
      refine agrees_behind whole reached ?_ rfl
      rw [toScanner_report, toScanner_behind (.strayCharacter c) whole rfl]
      rfl

theorem agrees_numberSign (unread : s.cursor.unread = '#' :: rest) :
    s.Agrees
      (Part.ofOption
        (if rest.headD Cursor.sentinel = '#' then (s.behind ['#']).lineComment
          else if rest.headD Cursor.sentinel = '*' then
            (s.behind ['#']).blockComment s.cursor.position.next
          else (s.behind ['#']).mark '#' s.cursor.position.next))
      (s.toScanner.absorb (Segment.readNumberSign '#' rest).1
        (Segment.readNumberSign '#' rest).2).answer := by
  cases rest with
  | nil => exact agrees_mark unread
  | cons d later =>
      by_cases line : d = '#'
      · subst line
        exact agrees_lineComment unread
      · by_cases block : d = '*'
        · subst block
          exact agrees_blockComment unread
        · have segment : Segment.readNumberSign '#' (d :: later) =
              Segment.readMark '#' (d :: later) := by
            simp [Segment.readNumberSign, line, block]
          rw [segment]
          simpa [line, block] using agrees_mark unread

/-- The tests on the first characters choose the reader that the list scanner chooses. -/
theorem agrees_scanPiece (unread : s.cursor.unread = c :: rest) (visible : isBlank c = false) :
    s.Agrees ((s.behind [c]).scanPiece c s.cursor.position.next)
      (s.toScanner.absorb (Segment.read c rest).1 (Segment.read c rest).2).answer := by
  have seen : (s.behind [c]).cursor.peek = rest.headD Cursor.sentinel := by
    rw [Cursor.peek_eq, unread_behind unread]
  have signed : (rest.headD Cursor.sentinel).isDigit = rest.head?.any Char.isDigit := by
    cases rest with
    | nil => decide
    | cons d later => rfl
  rw [scanPiece, Segment.read, seen, signed]
  by_cases letter : isAlphabetic c
  · simpa [visible, letter] using agrees_word unread
  by_cases digit : c.isDigit
  · simpa [visible, letter, digit, Segment.startsNumber] using agrees_number unread
  by_cases sign : (c == '-' || c == '+') && rest.head?.any Char.isDigit
  · have numeral : Segment.startsNumber c rest = true := by
      rw [Segment.startsNumber, Bool.or_comm (c == '+'), sign, Bool.or_true]
    rw [if_neg letter, if_neg digit, if_pos sign]
    simpa [visible, letter, numeral] using agrees_number unread
  have other : Segment.startsNumber c rest = false := by
    simpa [Segment.startsNumber, digit, Bool.or_comm] using sign
  by_cases quote : c = '"'
  · subst quote
    simpa [visible, letter, digit, sign, other] using agrees_string unread
  by_cases apostrophe : c = '\''
  · subst apostrophe
    simpa [visible, letter, digit, sign, other] using agrees_character unread
  by_cases hash : c = '#'
  · subst hash
    simpa [visible, letter, digit, sign, other] using agrees_numberSign unread
  · simpa [visible, letter, digit, sign, other, quote, apostrophe, hash] using agrees_mark unread

theorem agrees_scanVisible (visible : ∀ c ∈ s.cursor.unread.head?, isBlank c = false) :
    s.Agrees s.scanVisible s.toScanner.step.answer := by
  cases unread : s.cursor.unread with
  | nil =>
      have ended : s.scanVisible = some (some s.endToken, s) := by
        simp [scanVisible, Cursor.isAtEnd_eq, unread]
      have stopped : s.toScanner.step = .stop s.toScanner := Scanner.step_eq_stop unread
      exact ⟨s, by rw [ended, stopped]; rfl, by rw [stopped]; rfl, .refl _⟩
  | cons c rest =>
      have shown : isBlank c = false := visible c (by simp [unread])
      have feed : c ≠ '\n' := by
        rintro rfl
        simp [isBlank] at shown
      have taken : s.cursor.begun.advance = s.cursor.begun.past [c] :=
        Cursor.advance_of_unread unread
      have begins : s.scanVisible = (s.behind [c]).scanPiece c s.cursor.position.next := by
        simp only [scanVisible, Cursor.isAtEnd_eq, Cursor.peek_eq, unread, taken]
        simp [behind, Cursor.past, Cursor.begun, Position.advance, feed, Position.next]
      have stepped : s.toScanner.step =
          s.toScanner.absorb (Segment.read c rest).1 (Segment.read c rest).2 :=
        Scanner.step_of_rest unread
      rw [begins, stepped]
      exact agrees_scanPiece unread shown

end

/-! ### Calls -/

theorem Agrees.of_follows {α : Type} {s t : IndexedScanner} (follows : s.cursor.Follows t.cursor)
    {result : Part (α × IndexedScanner)} {expected : α × Scanner}
    (agrees : t.Agrees result expected) : s.Agrees result expected := by
  obtain ⟨next, reached, same, later⟩ := agrees
  exact ⟨next, reached, same, follows.trans later⟩

/-- An attempt is a step behind the blanks. -/
theorem agrees_scanToken (s : IndexedScanner) :
    s.Agrees s.scanToken s.toScanner.attempt.answer := by
  have whole : s.cursor.unread =
      s.cursor.unread.takeWhile isBlank ++ s.cursor.unread.dropWhile isBlank :=
    List.takeWhile_append_dropWhile.symm
  have moved : s.cursor.skipBlanks = s.cursor.past (s.cursor.unread.takeWhile isBlank) :=
    Cursor.skipWhile_eq _ _
  have behind := Cursor.unread_past whole
  have same : (s.moveTo s.cursor.skipBlanks).toScanner = s.toScanner.skipBlanks := by
    rw [toScanner, moveTo, moved, behind]
    rfl
  have visible : ∀ c ∈ (s.moveTo s.cursor.skipBlanks).cursor.unread.head?, isBlank c = false := by
    rw [moveTo, moved, behind]
    intro c first
    have stop := List.head?_dropWhile_not isBlank s.cursor.unread
    rw [Option.mem_def.1 first] at stop
    exact stop
  have agrees := agrees_scanVisible visible
  rw [same] at agrees
  refine agrees.of_follows ?_
  rw [moveTo, moved]
  exact Cursor.follows_past whole

theorem scanToken_eq_some (s : IndexedScanner) :
    ∃ next, s.scanToken = some (s.toScanner.attempt.answer.1, next) ∧
      next.toScanner = s.toScanner.attempt.answer.2 ∧ s.cursor.Follows next.cursor := by
  obtain ⟨next, tried, same, follows⟩ := agrees_scanToken s
  exact ⟨next, Part.mem_ofOption.1 (Part.eq_some_iff.1 tried), same, follows⟩

/-- The loop of attempts ends, since an attempt that yields no token takes something. -/
theorem agrees_nextToken (s : IndexedScanner) : s.Agrees s.nextToken s.toScanner.nextToken := by
  obtain ⟨next, tried, same, follows⟩ := scanToken_eq_some s
  rw [Scanner.nextToken_eq_attempt]
  cases attempt : s.toScanner.attempt with
  | skip later =>
      rw [attempt] at tried same
      have again : s.nextToken = next.nextToken := PFun.fix_fwd_eq (by simp [tried, Step.answer])
      have later_agrees := agrees_nextToken next
      rw [same] at later_agrees
      rw [again]
      exact later_agrees.of_follows follows
  | found token later =>
      rw [attempt] at tried same
      refine ⟨next.note (.token token), ?_, congrArg (·.note (.token token)) same, follows⟩
      exact Part.eq_some_iff.2 (PFun.fix_stop (by simp [tried, Step.answer]))
  | stop later =>
      rw [attempt] at tried same
      refine ⟨next.note (.token later.endToken), ?_,
        congrArg (·.note (.token later.endToken)) same, follows⟩
      exact Part.eq_some_iff.2 (PFun.fix_stop (by simp [tried, Step.answer]))
termination_by s.cursor.unread.length
decreasing_by
  have shorter := Scanner.length_rest_of_attempt_eq_skip attempt
  rw [attempt] at same
  rw [← show next.toScanner = later from same] at shorter
  exact shorter

theorem agrees_next (s : IndexedScanner) : s.Agrees s.next s.toScanner.pull := by
  obtain ⟨next, reached, same, follows⟩ := agrees_nextToken s
  rw [IndexedScanner.next, reached, Part.map_some]
  rcases s.toScanner.nextToken_cases with
    ⟨later, pulled, found⟩ | ⟨token, later, pulled, found, visible⟩
  · rw [found] at same ⊢
    rw [pulled]
    exact ⟨next, rfl, same, follows⟩
  · rw [found] at same ⊢
    rw [pulled]
    exact ⟨next, by simp [visible], same, follows⟩

theorem agrees_take (count : Nat) (s : IndexedScanner) :
    s.Agrees (take count s) (Scanner.take count s.toScanner) := by
  induction count generalizing s with
  | zero => exact ⟨s, rfl, rfl, .refl _⟩
  | succ count ih =>
      obtain ⟨next, reached, same, follows⟩ := agrees_next s
      rw [take, reached, Part.bind_some, Scanner.take]
      cases pulled : s.toScanner.pull with
      | mk answer later =>
          rw [pulled] at same
          cases answer with
          | none => exact ⟨next, rfl, same, follows⟩
          | some token =>
              obtain ⟨final, taken, ended, beyond⟩ := ih next
              rw [same] at taken ended
              exact ⟨final, by simp [taken], ended, follows.trans beyond⟩

/-- The loop around the calls ends, since a token takes something too. -/
theorem agrees_tokenizeFrom (tokens : List Token) (s : IndexedScanner) :
    s.Agrees (tokenizeFrom tokens s) (tokens ++ s.toScanner.drain.1, s.toScanner.drain.2) := by
  obtain ⟨next, reached, same, follows⟩ := agrees_nextToken s
  rcases s.toScanner.nextToken_cases with
    ⟨later, pulled, found⟩ | ⟨token, later, pulled, found, visible⟩
  · rw [found] at reached same
    rw [Scanner.drain_of_pull_eq_none pulled]
    refine ⟨next, ?_, same, follows⟩
    exact Part.eq_some_iff.2 (PFun.fix_stop (by simp [reached, Scanner.endToken]))
  · rw [found] at reached same
    rw [Scanner.drain_of_pull_eq_some pulled]
    have again : tokenizeFrom tokens s = tokenizeFrom (tokens ++ [token]) next :=
      PFun.fix_fwd_eq (by simp [reached, visible])
    have later_agrees := agrees_tokenizeFrom (tokens ++ [token]) next
    rw [same, List.append_assoc] at later_agrees
    rw [again]
    exact later_agrees.of_follows follows
termination_by s.cursor.unread.length
decreasing_by
  have shorter := Scanner.length_rest_of_pull_eq_some pulled
  rw [found] at same
  rw [← show next.toScanner = later from same] at shorter
  exact shorter

theorem Agrees.map {α β : Type} {s : IndexedScanner} {result : Part (α × IndexedScanner)}
    {expected : α × Scanner} (agrees : s.Agrees result expected) (f : α → β) :
    s.Agrees (result.map fun (value, next) => (f value, next)) (f expected.1, expected.2) := by
  obtain ⟨next, rfl, same, follows⟩ := agrees
  exact ⟨next, Part.map_some _ _, same, follows⟩

theorem agrees_tokenize (s : IndexedScanner) : s.Agrees s.tokenize s.toScanner.drain :=
  agrees_tokenizeFrom [] s

theorem agrees_call (s : IndexedScanner) (call : Call) :
    s.Agrees (s.call call) (call.perform s.toScanner) := by
  cases call with
  | nextToken => exact (agrees_nextToken s).map Answer.one
  | next => exact (agrees_next s).map Answer.perhaps
  | take count => exact (agrees_take count s).map Answer.many
  | tokenize => exact (agrees_tokenize s).map Answer.many

/-- Whatever is called on the indexed scanner, it answers as the other one does. -/
theorem agrees_perform (s : IndexedScanner) (calls : List Call) :
    s.Agrees (s.perform calls) (s.toScanner.perform calls) := by
  induction calls generalizing s with
  | nil => exact ⟨s, rfl, rfl, .refl _⟩
  | cons call later ih =>
      obtain ⟨next, called, same, follows⟩ := agrees_call s call
      obtain ⟨final, performed, ended, beyond⟩ := ih next
      rw [same] at performed ended
      refine ⟨final, ?_, ended, follows.trans beyond⟩
      simp [perform, called, performed, Scanner.perform]

end IndexedScanner
end LexScan
