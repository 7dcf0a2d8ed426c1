import LexScan.Indexed.Cursor
import LexScan.Segment

/-! How a cursor reads the pieces of a source: it looks at the next one or two characters, decides,
and takes one. Each reader is compared with the one that splits the list of unread characters: both
take the same text and find the same out about it. So no reader runs over the end, whichever of its
tests look at the end and whichever rely on the sentinel. -/
namespace LexScan.Cursor

open Text Lexeme

def skipBlanks (s : Cursor) : Cursor := s.skipWhile isBlank (by decide)

def skipWord (s : Cursor) : Cursor := s.skipWhile isWordPart (by decide)

def skipDigits (s : Cursor) : Cursor := s.skipWhile Char.isDigit (by decide)

/-! ### Numbers -/

/-- Takes a fraction if there is one. -/
def skipFraction (s : Cursor) : Bool × Cursor :=
  if s.peek == '.' then (true, s.advance.skipDigits) else (false, s)

def skipSign (s : Cursor) : Cursor := if s.peek == '+' || s.peek == '-' then s.advance else s

/-- Takes an exponent if there is one. -/
def skipExponent (s : Cursor) : Bool × Cursor :=
  if s.peek == 'e' || s.peek == 'E' then (true, s.advance.skipSign.skipDigits) else (false, s)

/-- Takes a number behind its first character. Tells whether it has a fraction or an exponent. -/
def skipNumber (s : Cursor) : Bool × Cursor :=
  let (fractional, s) := s.skipDigits.skipFraction
  let (scaled, s) := s.skipExponent
  (fractional || scaled, s)

theorem skipFraction_eq (s : Cursor) :
    s.skipFraction = (!(fraction s.unread).1.isEmpty, s.past (fraction s.unread).1) := by
  cases unread : s.unread with
  | nil => simp [skipFraction, fraction, peek_eq, unread, sentinel]
  | cons c rest =>
      by_cases point : c = '.'
      · subst point
        simp [skipFraction, fraction, peek_eq, unread, advance_of_unread unread, skipDigits,
          skipWhile_eq, unread_past_single unread, past_past]
      · simp [skipFraction, fraction, peek_eq, unread, point]

theorem skipSign_eq (s : Cursor) : s.skipSign = s.past (sign s.unread).1 := by
  cases unread : s.unread with
  | nil => simp [skipSign, sign, peek_eq, unread, sentinel]
  | cons c rest =>
      by_cases plus : c = '+'
      · simp [skipSign, sign, peek_eq, unread, plus, advance_of_unread unread]
      · by_cases minus : c = '-'
        · simp [skipSign, sign, peek_eq, unread, minus, advance_of_unread unread]
        · simp [skipSign, sign, peek_eq, unread, plus, minus]

theorem skipExponentDigits_eq (s : Cursor) :
    s.skipSign.skipDigits = s.past (exponentDigits s.unread).1 := by
  have behind : (s.past (sign s.unread).1).unread = (sign s.unread).2 :=
    unread_past (sign_append _).symm
  rw [skipSign_eq, skipDigits, skipWhile_eq, behind, past_past, exponentDigits]

theorem skipExponent_eq (s : Cursor) :
    s.skipExponent = (!(exponent s.unread).1.isEmpty, s.past (exponent s.unread).1) := by
  cases unread : s.unread with
  | nil => simp [skipExponent, exponent, peek_eq, unread, sentinel]
  | cons c rest =>
      by_cases small : c = 'e'
      · subst small
        simp [skipExponent, exponent, peek_eq, unread, advance_of_unread unread,
          skipExponentDigits_eq, unread_past_single unread, past_past]
      · by_cases capital : c = 'E'
        · subst capital
          simp [skipExponent, exponent, peek_eq, unread, advance_of_unread unread,
            skipExponentDigits_eq, unread_past_single unread, past_past]
        · simp [skipExponent, exponent, peek_eq, unread, small, capital]

theorem skipNumber_eq (s : Cursor) :
    s.skipNumber = (!(number s.unread).isInteger, s.past (number s.unread).lexeme) := by
  have whole : s.skipDigits.unread = s.unread.dropWhile Char.isDigit := unread_skipWhile _ _
  have behind : (s.skipDigits.past (fraction s.skipDigits.unread).1).unread =
      (fraction s.skipDigits.unread).2 := unread_past (fraction_append _).symm
  simp only [skipNumber, skipFraction_eq, skipExponent_eq, behind, past_past]
  rw [whole, skipDigits, skipWhile_eq, past_past, number, NumberSplit.lexeme, List.append_assoc]
  simp [NumberSplit.isInteger]

/-! ### Comments -/

/-- Takes all up to the end of the line. -/
def skipLine (s : Cursor) : Cursor :=
  if !s.isAtEnd && s.peek != '\n' then s.advance.skipLine else s
termination_by s.remaining
decreasing_by exact remaining_advance_lt (index_lt_of_isAtEnd (by simp_all))

theorem skipLine_eq (s : Cursor) : s.skipLine = s.past (s.unread.takeWhile (· != '\n')) := by
  generalize unread : s.unread = text
  induction text generalizing s with
  | nil =>
      rw [skipLine]
      simp [isAtEnd_eq, unread]
  | cons c rest ih =>
      have behind : (s.past [c]).unread = rest := unread_past_single unread
      rw [skipLine, advance_of_unread unread, ih _ behind]
      by_cases feed : c = '\n' <;> simp [isAtEnd_eq, peek_eq, unread, feed, past_past]

/-- Takes a comment in which some levels are open, and tells how many still are at the end. -/
def skipComment (s : Cursor) (depth : Nat) : Nat × Cursor :=
  if !s.isAtEnd && 0 < depth then
    if s.peek == '#' && s.peekNext == '*' then s.advance.advance.skipComment (depth + 1)
    else if s.peek == '*' && s.peekNext == '#' then s.advance.advance.skipComment (depth - 1)
    else s.advance.skipComment depth
  else (depth, s)
termination_by s.remaining
decreasing_by
  all_goals have here := remaining_advance_lt (s := s) (index_lt_of_isAtEnd (by simp_all))
  · exact Nat.lt_of_le_of_lt (remaining_advance_le _) here
  · exact Nat.lt_of_le_of_lt (remaining_advance_le _) here
  · exact here

theorem skipComment_zero (s : Cursor) : s.skipComment 0 = (0, s) := by
  rw [skipComment]
  simp

theorem skipComment_of_unread_nil {s : Cursor} (unread : s.unread = []) (depth : Nat) :
    s.skipComment depth = (depth, s) := by
  rw [skipComment]
  simp [isAtEnd_eq, unread]

/-- A mark of two characters is taken as a whole. -/
theorem advance_advance_of_unread {s : Cursor} {c d : Char} {rest : List Char}
    (unread : s.unread = c :: d :: rest) : s.advance.advance = s.past [c, d] := by
  rw [advance_of_unread unread, advance_of_unread (unread_past_single unread), past_past]
  rfl

theorem skipComment_open {s : Cursor} {rest : List Char} (unread : s.unread = '#' :: '*' :: rest)
    (depth : Nat) :
    s.skipComment (depth + 1) = (s.past ['#', '*']).skipComment (depth + 2) := by
  rw [skipComment, advance_advance_of_unread unread]
  simp [isAtEnd_eq, peek_eq, peekNext_eq, unread]

theorem skipComment_close {s : Cursor} {rest : List Char} (unread : s.unread = '*' :: '#' :: rest)
    (depth : Nat) : s.skipComment (depth + 1) = (s.past ['*', '#']).skipComment depth := by
  rw [skipComment, advance_advance_of_unread unread]
  simp [isAtEnd_eq, peek_eq, peekNext_eq, unread]

theorem skipComment_plain {s : Cursor} {c : Char} {rest : List Char}
    (unread : s.unread = c :: rest) (unopened : ∀ later, c = '#' → rest = '*' :: later → False)
    (unclosed : ∀ later, c = '*' → rest = '#' :: later → False) (depth : Nat) :
    s.skipComment (depth + 1) = (s.past [c]).skipComment (depth + 1) := by
  -- the sentinel is neither of the two characters of a mark
  have opened : (s.peek == '#' && s.peekNext == '*') = false := by
    cases rest <;> simp_all [peek_eq, peekNext_eq, sentinel]
  have closed : (s.peek == '*' && s.peekNext == '#') = false := by
    cases rest <;> simp_all [peek_eq, peekNext_eq, sentinel]
  rw [skipComment, opened, closed]
  simp [isAtEnd_eq, unread, advance_of_unread unread]

/-- What a comment comes to, when its tail is read at a cursor. -/
def commentResult (s : Cursor) : CommentSplit → Nat × Cursor
  | .closed tail _ => (0, s.past tail)
  | .unclosed depth => (depth, s.past s.unread)

theorem commentResult_after {s : Cursor} {taken rest : List Char}
    (unread : s.unread = taken ++ rest) (split : CommentSplit) :
    (s.past taken).commentResult split = s.commentResult (split.after taken) := by
  cases split with
  | closed tail left => simp [commentResult, CommentSplit.after, past_past]
  | unclosed depth =>
      simp [commentResult, CommentSplit.after, unread_past unread, past_past, unread]

theorem skipComment_eq (s : Cursor) (depth : Nat) :
    s.skipComment depth = s.commentResult (commentTail depth s.unread) := by
  generalize unread : s.unread = text
  fun_induction commentTail depth text generalizing s with
  | case1 text => exact skipComment_zero s
  | case2 depth =>
      rw [skipComment_of_unread_nil unread, commentResult, unread, past_nil]
  | case3 depth rest ih =>
      rw [skipComment_open unread, ih _ (unread_past unread), commentResult_after unread]
  | case4 depth rest ih =>
      rw [skipComment_close unread, ih _ (unread_past unread), commentResult_after unread]
  | case5 depth c rest unopened unclosed ih =>
      rw [skipComment_plain unread unopened unclosed, ih _ (unread_past unread),
        commentResult_after unread]

/-! ### Quoted texts -/

/-- Takes so many characters, or all that are left. -/
def skipUpTo : Nat → Cursor → Cursor
  | 0, s => s
  | count + 1, s => if s.isAtEnd then s else skipUpTo count s.advance

/-- Takes what belongs to a backslash. -/
def skipEscape (s : Cursor) : Cursor :=
  if s.peek == 'u' && !s.isAtEnd then skipUpTo 4 s.advance
  else if !s.isAtEnd then s.advance
  else s

theorem skipUpTo_eq (count : Nat) (s : Cursor) :
    skipUpTo count s = s.past (s.unread.take count) := by
  induction count generalizing s with
  | zero => simp [skipUpTo]
  | succ count ih =>
      cases unread : s.unread with
      | nil => simp [skipUpTo, isAtEnd_eq, unread]
      | cons c rest =>
          simp [skipUpTo, isAtEnd_eq, unread, advance_of_unread unread, ih,
            unread_past_single unread, past_past]

theorem skipEscape_long {s : Cursor} {rest : List Char} (unread : s.unread = 'u' :: rest) :
    s.skipEscape = s.past ('u' :: rest.take 4) := by
  simp [skipEscape, isAtEnd_eq, peek_eq, unread, advance_of_unread unread, skipUpTo_eq,
    unread_past_single unread, past_past]

theorem skipEscape_short {s : Cursor} {c : Char} {rest : List Char} (unread : s.unread = c :: rest)
    (short : c ≠ 'u') : s.skipEscape = s.past [c] := by
  simp [skipEscape, isAtEnd_eq, peek_eq, unread, advance_of_unread unread, short]

theorem skipEscape_of_unread_nil {s : Cursor} (unread : s.unread = []) : s.skipEscape = s := by
  simp [skipEscape, isAtEnd_eq, unread]

theorem remaining_past_le (s : Cursor) (text : List Char) :
    (s.past text).remaining ≤ s.remaining := by
  simp only [remaining, past]
  omega

theorem remaining_skipEscape_le (s : Cursor) : s.skipEscape.remaining ≤ s.remaining := by
  cases unread : s.unread with
  | nil => exact Nat.le_of_eq (by rw [skipEscape_of_unread_nil unread])
  | cons c rest =>
      by_cases long : c = 'u'
      · subst long
        rw [skipEscape_long unread]
        exact remaining_past_le s _
      · rw [skipEscape_short unread long]
        exact remaining_past_le s _

/-- Takes the items of a string, up to its closing quote or the end. -/
def skipItems (s : Cursor) : Cursor :=
  if !s.isAtEnd && s.peek != '"' then
    if s.peek == '\\' then s.advance.skipEscape.skipItems else s.advance.skipItems
  else s
termination_by s.remaining
decreasing_by
  all_goals have here := remaining_advance_lt (s := s) (index_lt_of_isAtEnd (by simp_all))
  · exact Nat.lt_of_le_of_lt (remaining_skipEscape_le _) here
  · exact here

/-- Takes a string behind its opening quote, and tells whether it is closed. -/
def skipString (s : Cursor) : Bool × Cursor :=
  let s := s.skipItems
  if s.isAtEnd then (false, s) else (true, s.advance)

theorem skipItems_of_unread_nil {s : Cursor} (unread : s.unread = []) : s.skipItems = s := by
  rw [skipItems]
  simp [isAtEnd_eq, unread]

theorem skipItems_quote {s : Cursor} {rest : List Char} (unread : s.unread = '"' :: rest) :
    s.skipItems = s := by
  rw [skipItems]
  simp [peek_eq, unread]

theorem skipItems_plain {s : Cursor} {c : Char} {rest : List Char} (unread : s.unread = c :: rest)
    (unquoted : c ≠ '"') (unescaped : c ≠ '\\') : s.skipItems = (s.past [c]).skipItems := by
  rw [skipItems]
  simp [isAtEnd_eq, peek_eq, unread, unquoted, unescaped, advance_of_unread unread]

theorem skipItems_escape {s : Cursor} {rest : List Char} (unread : s.unread = '\\' :: rest) :
    s.skipItems = (s.past ['\\']).skipEscape.skipItems := by
  rw [skipItems]
  simp [isAtEnd_eq, peek_eq, unread, advance_of_unread unread]

/-- What a string comes to, when its tail is read at a cursor. -/
def stringResult (s : Cursor) : Option (List Char × List Char) → Bool × Cursor
  | some (tail, _) => (true, s.past tail)
  | none => (false, s.past s.unread)

theorem stringResult_extend {s : Cursor} {taken rest : List Char}
    (unread : s.unread = taken ++ rest) (split : Option (List Char × List Char)) :
    (s.past taken).stringResult split = s.stringResult (extend taken split) := by
  cases split with
  | none => simp [stringResult, extend, unread_past unread, past_past, unread]
  | some parts => simp [stringResult, extend, past_past]

theorem skipString_of_skipItems {s t : Cursor} (same : s.skipItems = t.skipItems) :
    s.skipString = t.skipString := by
  rw [skipString, skipString, same]

theorem skipString_of_unread_nil {s : Cursor} (unread : s.unread = []) :
    s.skipString = (false, s) := by
  simp [skipString, skipItems_of_unread_nil unread, isAtEnd_eq, unread]

theorem skipString_escape {s : Cursor} {c : Char} {rest : List Char} (short : c ≠ 'u')
    (unread : s.unread = '\\' :: c :: rest) :
    s.skipString = (s.past ['\\', c]).skipString := by
  apply skipString_of_skipItems
  rw [skipItems_escape unread, skipEscape_short (unread_past_single unread) short, past_past]
  rfl

theorem skipString_unicode {s : Cursor} {rest : List Char}
    (unread : s.unread = '\\' :: 'u' :: rest) :
    s.skipString = (s.past ('\\' :: 'u' :: rest.take 4)).skipString := by
  apply skipString_of_skipItems
  rw [skipItems_escape unread, skipEscape_long (unread_past_single unread), past_past]
  rfl

theorem skipString_eq (s : Cursor) : s.skipString = s.stringResult (stringTail s.unread) := by
  generalize unread : s.unread = text
  fun_induction stringTail text generalizing s with
  | case1 => rw [skipString_of_unread_nil unread, stringResult, unread, past_nil]
  | case2 rest =>
      simp [skipString, skipItems_quote unread, isAtEnd_eq, unread, advance_of_unread unread,
        stringResult]
  | case3 a b c d rest ih =>
      rw [skipString_unicode unread, ih _ (unread_past unread), stringResult_extend unread]
      rfl
  | case4 rest fewer =>
      have all : rest.take 4 = rest := by
        obtain _ | ⟨a, _ | ⟨b, _ | ⟨c, _ | ⟨d, later⟩⟩⟩⟩ := rest
        · rfl
        · rfl
        · rfl
        · rfl
        · exact (fewer a b c d later rfl).elim
      have ended : (s.past ('\\' :: 'u' :: rest)).unread = [] :=
        unread_past (unread.trans (List.append_nil _).symm)
      rw [skipString_unicode unread, all, skipString_of_unread_nil ended, stringResult, unread]
  | case5 c rest _ short ih =>
      rw [skipString_escape short unread, ih _ (unread_past unread), stringResult_extend unread]
  | case6 c rest unquoted _ _ single ih =>
      rw [← stringResult_extend unread, ← ih _ (unread_past_single unread)]
      apply skipString_of_skipItems
      by_cases escape : c = '\\'
      · -- a backslash is the last character, and takes no other with it
        subst escape
        have last : rest = [] := by
          cases rest with
          | nil => rfl
          | cons d later => exact (single d later rfl rfl).elim
        subst last
        rw [skipItems_escape unread, skipEscape_of_unread_nil (unread_past_single unread)]
      · exact skipItems_plain unread unquoted escape

/-- Takes a character if there is one and a closing quote if there is one, and tells whether there
is one. -/
def skipQuoted (s : Cursor) : Bool × Cursor :=
  (if !s.isAtEnd then s.advance else s).matchChar '\''

/-- Takes a character literal behind its opening quote, and tells whether it is closed. -/
def skipCharacter (s : Cursor) : Bool × Cursor :=
  (if s.peek == '\\' && !s.isAtEnd then s.advance else s).skipQuoted

theorem skipQuoted_of_unread_nil {s : Cursor} (unread : s.unread = []) :
    s.skipQuoted = (false, s) := by
  simp [skipQuoted, isAtEnd_eq, unread, matchChar_of_unread_nil unread]

theorem skipQuoted_of_unread {s : Cursor} {c : Char} {rest : List Char}
    (unread : s.unread = c :: rest) :
    s.skipQuoted =
      if rest.head? = some '\'' then (true, s.past [c, '\'']) else (false, s.past [c]) := by
  have behind : (s.past [c]).unread = rest := unread_past_single unread
  simp only [skipQuoted, isAtEnd_eq, unread, advance_of_unread unread, List.isEmpty_cons,
    Bool.not_false, if_true]
  cases rest with
  | nil => simp [matchChar_of_unread_nil behind]
  | cons d later => by_cases closing : d = '\'' <;>
      simp [matchChar_of_unread behind, closing, past_past]

theorem skipCharacter_escape {s : Cursor} {rest : List Char} (unread : s.unread = '\\' :: rest) :
    s.skipCharacter = (s.past ['\\']).skipQuoted := by
  simp [skipCharacter, isAtEnd_eq, peek_eq, unread, advance_of_unread unread]

theorem skipCharacter_plain {s : Cursor} {c : Char} {rest : List Char}
    (unread : s.unread = c :: rest) (unescaped : c ≠ '\\') : s.skipCharacter = s.skipQuoted := by
  simp [skipCharacter, peek_eq, unread, unescaped]

theorem skipCharacter_eq (s : Cursor) :
    s.skipCharacter =
      ((characterTail s.unread).closed, s.past (characterTail s.unread).tail) := by
  cases unread : s.unread with
  | nil =>
      have unescaped : s.skipCharacter = s.skipQuoted := by simp [skipCharacter, isAtEnd_eq, unread]
      rw [unescaped, skipQuoted_of_unread_nil unread]
      rfl
  | cons c rest =>
      by_cases escape : c = '\\'
      · subst escape
        have behind : (s.past ['\\']).unread = rest := unread_past_single unread
        rw [skipCharacter_escape unread]
        cases rest with
        | nil => rw [skipQuoted_of_unread_nil behind]; rfl
        | cons d later =>
            rw [skipQuoted_of_unread behind, past_past, past_past]
            cases later with
            | nil => simp [characterTail]
            | cons e others => by_cases closing : e = '\'' <;> simp [characterTail, closing]
      · rw [skipCharacter_plain unread escape, skipQuoted_of_unread unread]
        cases rest with
        | nil => simp [characterTail, escape]
        | cons d later => by_cases closing : d = '\'' <;> simp [characterTail, escape, closing]

/-! ### Marks -/

/-- The kind of a mark by the character behind it. The first one of some that is there is taken with
the mark. -/
def skipOneOf (s : Cursor) (otherwise : Option Kind) : List (Char × Kind) → Option Kind × Cursor
  | [] => (otherwise, s)
  | (expected, kind) :: later =>
      let (matched, t) := s.matchChar expected
      if matched then (some kind, t) else s.skipOneOf otherwise later

/-- Takes what belongs to a mark behind its first character, and tells the kind of the mark. -/
def skipMark (s : Cursor) : Char → Option Kind × Cursor
  | '(' => (some (.punctuator .leftParen), s)
  | ')' => (some (.punctuator .rightParen), s)
  | '{' => (some (.punctuator .leftBrace), s)
  | '}' => (some (.punctuator .rightBrace), s)
  | '[' => (some (.punctuator .leftBracket), s)
  | ']' => (some (.punctuator .rightBracket), s)
  | ',' => (some (.punctuator .comma), s)
  | ';' => (some (.punctuator .semicolon), s)
  | ':' => (some (.punctuator .colon), s)
  | '+' =>
      s.skipOneOf (some (.operator .arithmetic))
        [('+', .operator .increment), ('=', .operator .assignment)]
  | '-' =>
      s.skipOneOf (some (.operator .arithmetic))
        [('-', .operator .increment), ('=', .operator .assignment)]
  | '*' =>
      s.skipOneOf (some (.operator .arithmetic))
        [('*', .operator .arithmetic), ('=', .operator .assignment)]
  | '/' => s.skipOneOf (some (.operator .arithmetic)) [('=', .operator .assignment)]
  | '%' => (some (.operator .arithmetic), s)
  | '=' => s.skipOneOf (some (.operator .assignment)) [('=', .operator .relational)]
  | '!' => s.skipOneOf (some (.operator .logical)) [('=', .operator .relational)]
  | '<' => s.skipOneOf (some (.operator .relational)) [('=', .operator .relational)]
  | '>' => s.skipOneOf (some (.operator .relational)) [('=', .operator .relational)]
  | '&' => s.skipOneOf none [('&', .operator .logical)]
  | '|' => s.skipOneOf none [('|', .operator .logical)]
  | _ => (none, s)

/-- What a mark comes to, when it is read at a cursor behind its first character. -/
def markResult (s : Cursor) : Option MarkSplit → Option Kind × Cursor
  | some split => (some split.kind, s.past split.lexeme.tail)
  | none => (none, s)

theorem skipOneOf_of_unread_nil {s : Cursor} (unread : s.unread = []) (otherwise : Option Kind)
    (choices : List (Char × Kind)) : s.skipOneOf otherwise choices = (otherwise, s) := by
  induction choices with
  | nil => rfl
  | cons choice later ih => simpa [skipOneOf, matchChar_of_unread_nil unread] using ih

theorem skipOneOf_of_unread {s : Cursor} {d : Char} {rest : List Char}
    (unread : s.unread = d :: rest) (otherwise : Option Kind) (choices : List (Char × Kind)) :
    s.skipOneOf otherwise choices =
      match choices.lookup d with
      | some kind => (some kind, s.past [d])
      | none => (otherwise, s) := by
  induction choices with
  | nil => rfl
  | cons choice later ih =>
      obtain ⟨expected, kind⟩ := choice
      by_cases same : d = expected
      · simp [skipOneOf, matchChar_of_unread unread, same]
      · have unequal : (d == expected) = false := by simpa using same
        simp [skipOneOf, matchChar_of_unread unread, same, List.lookup_cons, unequal, ih]

theorem skipMark_of_unread_nil {s : Cursor} (unread : s.unread = []) (c : Char) :
    s.skipMark c = (singleKind c, s) := by
  unfold skipMark
  split <;> simp [skipOneOf_of_unread_nil unread, singleKind]

theorem skipMark_of_unread {s : Cursor} {d : Char} {rest : List Char}
    (unread : s.unread = d :: rest) (c : Char) :
    s.skipMark c =
      match pairKind c d with
      | some kind => (some kind, s.past [d])
      | none => (singleKind c, s) := by
  by_cases equals : d = '='
  · subst equals
    unfold skipMark
    split <;> simp_all [skipOneOf_of_unread unread, List.lookup_cons, pairKind, singleKind]
  · by_cases doubled : d = c
    · subst doubled
      unfold skipMark
      split <;> simp_all [skipOneOf_of_unread unread, List.lookup_cons, pairKind, singleKind]
    · rw [pairKind_eq_none equals doubled]
      unfold skipMark
      split <;> simp [skipOneOf_of_unread unread, List.lookup_cons, beq_false_of_ne equals,
        beq_false_of_ne doubled, singleKind]

theorem skipMark_eq (s : Cursor) (c : Char) : s.skipMark c = s.markResult (mark? c s.unread) := by
  cases unread : s.unread with
  | nil =>
      rw [skipMark_of_unread_nil unread, mark?]
      cases singleKind c <;> rfl
  | cons d rest =>
      rw [skipMark_of_unread unread, mark?]
      cases pairKind c d with
      | some kind => rfl
      | none => cases singleKind c <;> rfl

end LexScan.Cursor
