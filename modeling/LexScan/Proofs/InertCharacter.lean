import LexScan.Proofs.Concatenation

/-! Characters that the language does not know. A character that is no letter, no digit, no blank and
no part of a mark, a quotation or a comment has no say in where a segment ends and what it is; it may
stand in a string, a character literal or a comment, and elsewhere it is a fault. So exchanging such
characters for each other, whichever they are, exchanges them in what is shown and changes nothing
else. The character with code zero is one of them: it is a character like others and no mark for the
end. -/
namespace LexScan

namespace Text

/-- What takes part in tokens and comments, letters, digits and blanks apart. -/
def signs : List Char :=
  ['_', '.', '"', '\'', '\\', '#', '*', '+', '-', '/', '%', '=', '!', '<', '>', '&', '|', '(', ')',
   '{', '}', '[', ']', ',', ';', ':']

/-- A character without a part in the language. -/
def isInert (c : Char) : Bool := !isAlphanumeric c && !isBlank c && !signs.contains c

/-- An exchange of characters in which none has a part in the language before or afterwards. -/
def Unnoticed (exchange : Char → Char) : Prop :=
  ∀ c, exchange c = c ∨ isInert c = true ∧ isInert (exchange c) = true

theorem isInert_eq_false_of_isWordPart {c : Char} (part : isWordPart c = true) :
    isInert c = false := by
  simp only [isWordPart, Bool.or_eq_true, beq_iff_eq] at part
  rcases part with alphanumeric | rfl
  · simp [isInert, alphanumeric]
  · decide

theorem isInert_eq_false_of_isAlphabetic {c : Char} (letter : isAlphabetic c = true) :
    isInert c = false :=
  isInert_eq_false_of_isWordPart (isWordPart_of_isAlphabetic letter)

theorem isInert_eq_false_of_isDigit {c : Char} (digit : c.isDigit = true) : isInert c = false := by
  simp [isInert, isAlphanumeric_of_isDigit digit]

theorem isInert_eq_false_of_isBlank {c : Char} (blank : isBlank c = true) : isInert c = false := by
  simp [isInert, blank]

namespace Unnoticed

variable {exchange : Char → Char} (unnoticed : Unnoticed exchange)

include unnoticed

/-- What does not tell inert characters apart does not notice the exchange. -/
theorem congr {α : Type} (view : Char → α)
    (blind : ∀ c d, isInert c = true → isInert d = true → view c = view d) (c : Char) :
    view (exchange c) = view c := by
  rcases unnoticed c with same | ⟨before, after⟩
  · rw [same]
  · exact blind _ _ after before

theorem test {p : Char → Bool} (sees : ∀ c, p c = true → isInert c = false) (c : Char) :
    p (exchange c) = p c := by
  have misses {d : Char} (inert : isInert d = true) : p d = false := by
    cases seen : p d with
    | false => rfl
    | true => simp [sees d seen] at inert
  exact unnoticed.congr p (fun c d one other => (misses one).trans (misses other).symm) c

theorem eq_iff (known : Char) (part : isInert known = false) (c : Char) :
    exchange c = known ↔ c = known := by
  have same := unnoticed.test (p := fun d => d == known) (fun d equal => by
    rwa [beq_iff_eq.1 equal]) c
  simpa using same

theorem apply_eq (known : Char) (part : isInert known = false) : exchange known = known :=
  (unnoticed.eq_iff known part known).2 rfl

theorem map_eq {text : List Char} (parts : ∀ c ∈ text, isWordPart c = true) :
    text.map exchange = text := by
  rw [List.map_congr_left fun c member =>
    unnoticed.apply_eq c (isInert_eq_false_of_isWordPart (parts c member))]
  exact List.map_id text

theorem isBlank_eq (c : Char) : isBlank (exchange c) = isBlank c :=
  unnoticed.test (fun _ => isInert_eq_false_of_isBlank) c

theorem isAlphabetic_eq (c : Char) : isAlphabetic (exchange c) = isAlphabetic c :=
  unnoticed.test (fun _ => isInert_eq_false_of_isAlphabetic) c

theorem isWordPart_eq (c : Char) : isWordPart (exchange c) = isWordPart c :=
  unnoticed.test (fun _ => isInert_eq_false_of_isWordPart) c

theorem isDigit_eq (c : Char) : (exchange c).isDigit = c.isDigit :=
  unnoticed.test (fun _ => isInert_eq_false_of_isDigit) c

theorem ne_feed_eq (c : Char) : (exchange c != '\n') = (c != '\n') := by
  simp only [bne, Bool.beq_eq_decide_eq, unnoticed.eq_iff '\n' (by decide)]

end Unnoticed

/-- A run of characters ends at the same place after an exchange that the test does not notice. -/
theorem takeWhile_exchange {exchange : Char → Char} {p : Char → Bool}
    (same : ∀ c, p (exchange c) = p c) (text : List Char) :
    (text.map exchange).takeWhile p = (text.takeWhile p).map exchange := by
  have view : p ∘ exchange = p := funext same
  rw [List.takeWhile_map, view]

theorem dropWhile_exchange {exchange : Char → Char} {p : Char → Bool}
    (same : ∀ c, p (exchange c) = p c) (text : List Char) :
    (text.map exchange).dropWhile p = (text.dropWhile p).map exchange := by
  have view : p ∘ exchange = p := funext same
  rw [List.dropWhile_map, view]

end Text

namespace Lexeme

open Text

/-- A comment with other characters. -/
def CommentSplit.mapText (exchange : Char → Char) : CommentSplit → CommentSplit
  | .closed tail rest => .closed (tail.map exchange) (rest.map exchange)
  | .unclosed depth => .unclosed depth

theorem CommentSplit.mapText_after (exchange : Char → Char) (taken : List Char)
    (split : CommentSplit) :
    (split.after taken).mapText exchange = (split.mapText exchange).after (taken.map exchange) := by
  cases split <;> simp [CommentSplit.after, CommentSplit.mapText]

theorem extend_exchange (exchange : Char → Char) (taken : List Char)
    (split : Option (List Char × List Char)) :
    extend (taken.map exchange) (split.map (Prod.map (List.map exchange) (List.map exchange))) =
      (extend taken split).map (Prod.map (List.map exchange) (List.map exchange)) := by
  cases split <;> simp [extend]

variable {exchange : Char → Char} (unnoticed : Unnoticed exchange)

include unnoticed

/-! ### Numbers -/

theorem fraction_exchange (text : List Char) :
    fraction (text.map exchange) =
      ((fraction text).1.map exchange, (fraction text).2.map exchange) := by
  cases text with
  | nil => rfl
  | cons c rest =>
      have point := unnoticed.eq_iff '.' (by decide) c
      by_cases same : c = '.'
      · simp [same, unnoticed.apply_eq '.' (by decide), fraction,
          takeWhile_exchange unnoticed.isDigit_eq, dropWhile_exchange unnoticed.isDigit_eq]
      · simp [fraction, same, point]

theorem sign_exchange (text : List Char) :
    sign (text.map exchange) = ((sign text).1.map exchange, (sign text).2.map exchange) := by
  cases text with
  | nil => rfl
  | cons c rest =>
      have plus := unnoticed.eq_iff '+' (by decide) c
      have minus := unnoticed.eq_iff '-' (by decide) c
      by_cases isPlus : c = '+'
      · simp [sign, isPlus, unnoticed.apply_eq '+' (by decide)]
      · by_cases isMinus : c = '-'
        · simp [sign, isMinus, unnoticed.apply_eq '-' (by decide)]
        · simp [sign, isPlus, isMinus, plus, minus]

theorem exponentDigits_exchange (text : List Char) :
    exponentDigits (text.map exchange) =
      ((exponentDigits text).1.map exchange, (exponentDigits text).2.map exchange) := by
  simp [exponentDigits, sign_exchange unnoticed, takeWhile_exchange unnoticed.isDigit_eq,
    dropWhile_exchange unnoticed.isDigit_eq]

theorem exponent_exchange (text : List Char) :
    exponent (text.map exchange) =
      ((exponent text).1.map exchange, (exponent text).2.map exchange) := by
  cases text with
  | nil => rfl
  | cons c rest =>
      have small := unnoticed.eq_iff 'e' (by decide) c
      have capital := unnoticed.eq_iff 'E' (by decide) c
      by_cases isSmall : c = 'e'
      · simp [exponent, isSmall, unnoticed.apply_eq 'e' (by decide),
          exponentDigits_exchange unnoticed]
      · by_cases isCapital : c = 'E'
        · simp [exponent, isCapital, unnoticed.apply_eq 'E' (by decide),
            exponentDigits_exchange unnoticed]
        · simp [exponent, isSmall, isCapital, small, capital]

theorem number_exchange (text : List Char) :
    number (text.map exchange) =
      ⟨(number text).whole.map exchange, (number text).fraction.map exchange,
        (number text).exponent.map exchange, (number text).rest.map exchange⟩ := by
  simp [number, takeWhile_exchange unnoticed.isDigit_eq, dropWhile_exchange unnoticed.isDigit_eq,
    fraction_exchange unnoticed, exponent_exchange unnoticed]

/-! ### Quotations -/

theorem stringTail_exchange (text : List Char) :
    stringTail (text.map exchange) =
      (stringTail text).map (Prod.map (List.map exchange) (List.map exchange)) := by
  have backslash := unnoticed.apply_eq '\\' (by decide)
  have letter := unnoticed.apply_eq 'u' (by decide)
  fun_induction stringTail text with
  | case1 => rfl
  | case2 rest => simp [unnoticed.apply_eq '"' (by decide), stringTail]
  | case3 a b c d rest ih =>
      rw [← extend_exchange, ← ih]
      simp [backslash, letter, stringTail]
  | case4 rest short =>
      -- fewer than four characters are left, before and after
      obtain _ | ⟨a, _ | ⟨b, _ | ⟨c, _ | ⟨d, more⟩⟩⟩⟩ := rest
      · simp [backslash, letter, stringTail]
      · simp [backslash, letter, stringTail]
      · simp [backslash, letter, stringTail]
      · simp [backslash, letter, stringTail]
      · exact absurd rfl (short a b c d more)
  | case5 c rest _ short ih =>
      have other : exchange c ≠ 'u' := by rwa [ne_eq, unnoticed.eq_iff 'u' (by decide)]
      rw [List.map_cons, List.map_cons, backslash, stringTail_escape other, ih, ← extend_exchange]
      simp [backslash]
  | case6 c rest unquoted _ _ plain ih =>
      by_cases escaped : c = '\\'
      · -- a backslash at the end of the text escapes nothing
        cases rest with
        | nil => simp [escaped, backslash, stringTail, extend]
        | cons d rest => exact absurd rfl (plain d rest escaped)
      · have other : exchange c ≠ '\\' := by rwa [ne_eq, unnoticed.eq_iff '\\' (by decide)]
        have unquoted' : exchange c ≠ '"' := by rwa [ne_eq, unnoticed.eq_iff '"' (by decide)]
        rw [List.map_cons, stringTail_plain unquoted' other, ih, ← extend_exchange]
        rfl

theorem characterTail_exchange (text : List Char) :
    characterTail (text.map exchange) =
      ⟨(characterTail text).closed, (characterTail text).tail.map exchange,
        (characterTail text).rest.map exchange⟩ := by
  have backslash := unnoticed.apply_eq '\\' (by decide)
  have apostrophe := unnoticed.apply_eq '\'' (by decide)
  have quote (c : Char) := unnoticed.eq_iff '\'' (by decide) c
  cases text with
  | nil => rfl
  | cons c rest =>
      by_cases escaped : c = '\\'
      · subst escaped
        cases rest with
        | nil => simp [characterTail, backslash]
        | cons d rest =>
            cases rest with
            | nil => simp [characterTail, backslash]
            | cons e rest =>
                by_cases closing : e = '\''
                · simp [characterTail, backslash, apostrophe, closing]
                · simp [characterTail, backslash, closing, quote]
      · have unescaped : exchange c ≠ '\\' := by rwa [ne_eq, unnoticed.eq_iff '\\' (by decide)]
        cases rest with
        | nil => simp [characterTail, escaped, unescaped]
        | cons d rest =>
            by_cases closing : d = '\''
            · simp [characterTail, escaped, unescaped, apostrophe, closing]
            · simp [characterTail, escaped, unescaped, closing, quote]

/-! ### Comments -/

theorem pair_isPrefix_exchange_iff {a b : Char} (first : isInert a = false)
    (second : isInert b = false) (c : Char) (rest : List Char) :
    [a, b] <+: exchange c :: rest.map exchange ↔ [a, b] <+: c :: rest := by
  rw [pair_isPrefix_cons_iff, pair_isPrefix_cons_iff, unnoticed.eq_iff a first]
  cases rest with
  | nil => simp
  | cons d later => simp [unnoticed.eq_iff b second]

/-- No mark of a comment is made or broken. -/
theorem commentTail_exchange (depth : Nat) (text : List Char) :
    commentTail depth (text.map exchange) = (commentTail depth text).mapText exchange := by
  have numberSign := unnoticed.apply_eq '#' (by decide)
  have star := unnoticed.apply_eq '*' (by decide)
  fun_induction commentTail depth text with
  | case1 text => simp [commentTail, CommentSplit.mapText]
  | case2 depth => simp [commentTail, CommentSplit.mapText]
  | case3 depth rest ih =>
      rw [CommentSplit.mapText_after, ← ih]
      simp [numberSign, star, commentTail]
  | case4 depth rest ih =>
      rw [CommentSplit.mapText_after, ← ih]
      simp [numberSign, star, commentTail]
  | case5 depth c rest unopened unclosed ih =>
      have opens : ¬ ['#', '*'] <+: c :: rest := by
        rw [pair_isPrefix_cons_iff]
        rintro ⟨same, later, behind⟩
        exact unopened later same behind
      have closes : ¬ ['*', '#'] <+: c :: rest := by
        rw [pair_isPrefix_cons_iff]
        rintro ⟨same, later, behind⟩
        exact unclosed later same behind
      rw [← pair_isPrefix_exchange_iff unnoticed (by decide) (by decide)] at opens closes
      rw [CommentSplit.mapText_after, ← ih, List.map_cons, commentTail_plain opens closes]
      rfl

end Lexeme

namespace Segment

open Text Lexeme Grammar

/-- A segment of the same sort with other characters. -/
def mapText (exchange : Char → Char) : Segment → Segment
  | .blank c => .blank (exchange c)
  | .lineComment text => .lineComment (text.map exchange)
  | .blockComment text => .blockComment (text.map exchange)
  | .token kind lexeme => .token kind (lexeme.map exchange)
  | .strayCharacter c => .strayCharacter (exchange c)
  | .malformedCharacter lexeme => .malformedCharacter (lexeme.map exchange)
  | .unterminatedString lexeme => .unterminatedString (lexeme.map exchange)
  | .unclosedComment text depth => .unclosedComment (text.map exchange) depth

@[simp] theorem text_mapText (exchange : Char → Char) (segment : Segment) :
    (segment.mapText exchange).text = segment.text.map exchange := by
  cases segment <;> rfl

/-- No mark has an inert character in it. -/
theorem isInert_of_listed {text : List Char} {kind : Kind} (listed : (text, kind) ∈ marks) :
    ∀ c ∈ text, isInert c = false := by
  have parts : (marks.all fun entry => entry.1.all (!isInert ·)) = true := by decide
  simpa using List.all_eq_true.1 parts _ listed

theorem singleKind_of_isInert {c : Char} (inert : isInert c = true) : singleKind c = none := by
  cases found : singleKind c with
  | none => rfl
  | some kind => simp [isInert_of_listed (listed_of_singleKind found) c (by simp)] at inert

theorem pairKind_of_isInert {c d : Char} (inert : isInert c = true ∨ isInert d = true) :
    pairKind c d = none := by
  cases found : pairKind c d with
  | none => rfl
  | some kind =>
      have parts := isInert_of_listed (listed_of_pairKind found)
      simp [parts c (by simp), parts d (by simp)] at inert

section

variable {exchange : Char → Char} (unnoticed : Unnoticed exchange)

include unnoticed

theorem singleKind_exchange (c : Char) : singleKind (exchange c) = singleKind c :=
  unnoticed.congr singleKind
    (fun _ _ one other => (singleKind_of_isInert one).trans (singleKind_of_isInert other).symm) c

theorem pairKind_exchange (c d : Char) : pairKind (exchange c) (exchange d) = pairKind c d := by
  have first := unnoticed.congr (pairKind · (exchange d)) (fun _ _ one other =>
    (pairKind_of_isInert (.inl one)).trans (pairKind_of_isInert (.inl other)).symm) c
  have second := unnoticed.congr (pairKind c ·) (fun _ _ one other =>
    (pairKind_of_isInert (.inr one)).trans (pairKind_of_isInert (.inr other)).symm) d
  exact first.trans second

theorem readWord_exchange {c : Char} (letter : isAlphabetic c = true) (rest : List Char) :
    readWord (exchange c) (rest.map exchange) =
      Prod.map (mapText exchange) (List.map exchange) (readWord c rest) := by
  have first := unnoticed.apply_eq c (isInert_eq_false_of_isAlphabetic letter)
  have others : (rest.takeWhile isWordPart).map exchange = rest.takeWhile isWordPart :=
    unnoticed.map_eq fun _ member => List.mem_takeWhile_imp member
  simp [readWord, mapText, first, others, takeWhile_exchange unnoticed.isWordPart_eq,
    dropWhile_exchange unnoticed.isWordPart_eq]

theorem readNumber_exchange (c : Char) (rest : List Char) :
    readNumber (exchange c) (rest.map exchange) =
      Prod.map (mapText exchange) (List.map exchange) (readNumber c rest) := by
  simp [readNumber, mapText, number_exchange unnoticed, NumberSplit.lexeme, NumberSplit.isInteger]

theorem readString_exchange (c : Char) (rest : List Char) :
    readString (exchange c) (rest.map exchange) =
      Prod.map (mapText exchange) (List.map exchange) (readString c rest) := by
  cases closed : stringTail rest <;> simp [readString, mapText, stringTail_exchange unnoticed, closed]

theorem readCharacter_exchange (c : Char) (rest : List Char) :
    readCharacter (exchange c) (rest.map exchange) =
      Prod.map (mapText exchange) (List.map exchange) (readCharacter c rest) := by
  by_cases closed : (characterTail rest).closed <;>
    simp [readCharacter, mapText, characterTail_exchange unnoticed, closed]

theorem readMark_exchange (c : Char) (rest : List Char) :
    readMark (exchange c) (rest.map exchange) =
      Prod.map (mapText exchange) (List.map exchange) (readMark c rest) := by
  have singles := singleKind_exchange unnoticed c
  cases rest with
  | nil => cases single : singleKind c <;> simp [readMark, mark?, mapText, singles, single]
  | cons d later =>
      have pairs := pairKind_exchange unnoticed c d
      cases pair : pairKind c d with
      | some kind => simp [readMark, mark?, mapText, pairs, pair]
      | none =>
          cases single : singleKind c <;>
            simp [readMark, mark?, mapText, singles, single, pairs, pair]

theorem readNumberSign_exchange (c : Char) (rest : List Char) :
    readNumberSign (exchange c) (rest.map exchange) =
      Prod.map (mapText exchange) (List.map exchange) (readNumberSign c rest) := by
  have numberSign := unnoticed.apply_eq '#' (by decide)
  have star := unnoticed.apply_eq '*' (by decide)
  cases rest with
  | nil => exact readMark_exchange unnoticed c []
  | cons d body =>
      by_cases line : d = '#'
      · have inside := takeWhile_exchange (p := (· != '\n')) unnoticed.ne_feed_eq body
        have behind := dropWhile_exchange (p := (· != '\n')) unnoticed.ne_feed_eq body
        simp [line, numberSign, readNumberSign, mapText, inside, behind]
      · by_cases block : d = '*'
        · cases closed : commentTail 1 body <;>
            simp [block, star, readNumberSign, mapText, commentTail_exchange unnoticed, closed,
              CommentSplit.mapText]
        · have line' := mt (unnoticed.eq_iff '#' (by decide) d).1 line
          have block' := mt (unnoticed.eq_iff '*' (by decide) d).1 block
          simpa [readNumberSign, line, block, line', block'] using
            readMark_exchange unnoticed c (d :: body)

theorem startsNumber_exchange (c : Char) (rest : List Char) :
    startsNumber (exchange c) (rest.map exchange) = startsNumber c rest := by
  have plus := unnoticed.eq_iff '+' (by decide) c
  have minus := unnoticed.eq_iff '-' (by decide) c
  cases rest <;>
    simp only [startsNumber, unnoticed.isDigit_eq, Bool.beq_eq_decide_eq, plus, minus, List.map_nil,
      List.map_cons, List.head?_nil, List.head?_cons, Option.any_none, Option.any_some]

/-- After the exchange a segment of the same sort and length is read, with its characters
exchanged. -/
theorem read_exchange (c : Char) (rest : List Char) :
    read (exchange c) (rest.map exchange) =
      Prod.map (mapText exchange) (List.map exchange) (read c rest) := by
  unfold read
  rw [unnoticed.isBlank_eq, unnoticed.isAlphabetic_eq, startsNumber_exchange unnoticed]
  simp only [unnoticed.eq_iff '"' (by decide) c, unnoticed.eq_iff '\'' (by decide) c,
    unnoticed.eq_iff '#' (by decide) c]
  split_ifs with _ letter
  · rfl
  · exact readWord_exchange unnoticed letter rest
  · exact readNumber_exchange unnoticed c rest
  · exact readString_exchange unnoticed c rest
  · exact readCharacter_exchange unnoticed c rest
  · exact readNumberSign_exchange unnoticed c rest
  · exact readMark_exchange unnoticed c rest

theorem split_exchange (source : List Char) :
    split (source.map exchange) = (split source).map (mapText exchange) := by
  fun_induction split source with
  | case1 => simp
  | case2 c rest ih =>
      rw [List.map_cons, split_cons, read_exchange unnoticed, List.map_cons, ← ih]
      rfl

/-! ### Places -/

theorem advanceOver_exchange (p : Position) (text : List Char) :
    p.advanceOver (text.map exchange) = p.advanceOver text := by
  induction text generalizing p with
  | nil => rfl
  | cons c text ih =>
      have here : p.advance (exchange c) = p.advance c := by
        simp only [Position.advance, unnoticed.eq_iff '\n' (by decide) c]
      rw [List.map_cons, Position.advanceOver_cons, here, ih, Position.advanceOver_cons]

theorem placed_exchange (p : Position) (segments : List Segment) :
    placed p (segments.map (mapText exchange)) =
      (placed p segments).map (Prod.map id (mapText exchange)) := by
  induction segments generalizing p with
  | nil => rfl
  | cons segment later ih =>
      simp [placed, ih, advanceOver_exchange unnoticed]

end

end Segment

namespace Token

def mapLexeme (exchange : Char → Char) (token : Token) : Token :=
  { token with lexeme := token.lexeme.map exchange }

theorem mapLexeme_endOfInput (exchange : Char → Char) (place : Position) :
    (endOfInput place).mapLexeme exchange = endOfInput place := by
  simp [mapLexeme, endOfInput, ← String.toList_inj]

/-- Where identifiers stay as they are, the same names are sighted. -/
theorem sightings_mapLexeme {exchange : Char → Char} {tokens : List Token}
    (kept : ∀ token ∈ tokens, token.kind = .literal .identifier →
      token.mapLexeme exchange = token) :
    sightings (tokens.map (mapLexeme exchange)) = sightings tokens := by
  have seen : ∀ token ∈ tokens,
      (isSighting ∘ mapLexeme exchange) token = token.isSighting := by
    intro token member
    by_cases identifier : token.kind = .literal .identifier
    · rw [Function.comp_apply, kept token member identifier]
    · simp [isSighting, mapLexeme, identifier]
  rw [sightings, List.filter_map, List.map_map, sightings, List.filter_congr seen]
  apply List.map_congr_left
  intro token member
  obtain ⟨listed, sighted⟩ := List.mem_filter.1 member
  simp only [isSighting, Bool.and_eq_true, decide_eq_true_eq] at sighted
  rw [Function.comp_apply, kept token listed sighted.1]

end Token

def Diagnostic.mapLexeme (exchange : Char → Char) (d : Diagnostic) : Diagnostic :=
  { d with lexeme := d.lexeme.map exchange }

theorem ofList_map (exchange : Char → Char) (text : List Char) :
    String.ofList (text.map exchange) = (String.ofList text).map exchange := by
  simp [← String.toList_inj]

theorem singleton_map (exchange : Char → Char) (c : Char) :
    String.singleton (exchange c) = (String.singleton c).map exchange := by
  simp [← String.toList_inj]

namespace Segment

theorem token?_mapText (exchange : Char → Char) (place : Position) (segment : Segment) :
    (segment.mapText exchange).token? place =
      (segment.token? place).map (Token.mapLexeme exchange) := by
  cases segment with
  | token kind lexeme => simp [mapText, token?, Token.mapLexeme, ofList_map]
  | _ => rfl

/-- What is logged about a segment is logged with its characters exchanged, as long as identifiers
stay as they are. -/
theorem diagnostics_mapText {exchange : Char → Char} (unnoticed : Text.Unnoticed exchange)
    {segment : Segment} (kept : ∀ lexeme, segment = .token (.literal .identifier) lexeme →
      lexeme.map exchange = lexeme) (limit : Nat) (place : Position) :
    (segment.mapText exchange).diagnostics limit place =
      (segment.diagnostics limit place).map (Diagnostic.mapLexeme exchange) := by
  cases segment with
  | token kind lexeme =>
      by_cases identifier : kind = .literal .identifier
      · subst identifier
        have same := kept lexeme rfl
        have word : (String.ofList lexeme).map exchange = String.ofList lexeme := by
          rw [← ofList_map, same]
        rw [mapText, same, List.map_congr_left (g := id), List.map_id]
        intro d member
        have shown : d.lexeme = String.ofList lexeme := (mem_diagnostics_token member).2.1
        rw [Diagnostic.mapLexeme, shown, word, ← shown]
        rfl
      · simp [mapText, diagnostics, Token.nameFault?_of_ne, identifier]
  | strayCharacter c => simp [mapText, diagnostics, Diagnostic.mapLexeme, singleton_map]
  | unclosedComment text depth =>
      have mark : "#*".map exchange = "#*" := by
        simp [← String.toList_inj, unnoticed.apply_eq '#' (by decide),
          unnoticed.apply_eq '*' (by decide)]
      simp [mapText, diagnostics, Diagnostic.mapLexeme, mark]
  | malformedCharacter lexeme => simp [mapText, diagnostics, Diagnostic.mapLexeme, ofList_map]
  | unterminatedString lexeme => simp [mapText, diagnostics, Diagnostic.mapLexeme, ofList_map]
  | _ => rfl

end Segment

namespace Scanner

open Text

/-- Two scans that come to the same, but for some characters in what is shown. -/
structure Retold (exchange : Char → Char) (one other : List Token × Scanner) : Prop where
  tokens : other.1 = one.1.map (Token.mapLexeme exchange)
  symbols : other.2.symbols = one.2.symbols
  diagnostics : other.2.diagnostics.toList =
    one.2.diagnostics.toList.map (Diagnostic.mapLexeme exchange)
  line : other.2.line = one.2.line
  hasFatal : other.2.diagnostics.hasFatal = one.2.diagnostics.hasFatal

section

variable {exchange : Char → Char} (unnoticed : Unnoticed exchange) (source : String) (limit : Nat)

include unnoticed

theorem ahead_exchange :
    (ofSource (source.map exchange) limit).ahead =
      (ofSource source limit).ahead.map (Prod.map id (Segment.mapText exchange)) := by
  have rest : (ofSource (source.map exchange) limit).rest = source.toList.map exchange :=
    String.toList_map
  rw [ahead, rest, Segment.split_exchange unnoticed, Segment.placed_exchange unnoticed]
  rfl

theorem tokensAhead_exchange :
    (ofSource (source.map exchange) limit).tokensAhead =
      (ofSource source limit).tokensAhead.map (Token.mapLexeme exchange) := by
  rw [tokensAhead, ahead_exchange unnoticed, List.filterMap_map, tokensAhead, List.map_filterMap]
  exact List.filterMap_congr fun entry _ => Segment.token?_mapText exchange entry.1 entry.2

theorem diagnosticsAhead_exchange :
    (ofSource (source.map exchange) limit).diagnosticsAhead =
      (ofSource source limit).diagnosticsAhead.map (Diagnostic.mapLexeme exchange) := by
  rw [diagnosticsAhead, ahead_exchange unnoticed, List.flatMap_map, diagnosticsAhead,
    List.map_flatMap]
  apply List.flatMap_congr
  intro entry member
  apply Segment.diagnostics_mapText unnoticed
  intro lexeme identifier
  obtain ⟨c, rest, read⟩ := Segment.exists_read_of_mem_placed member
  have word := Segment.tokenText_of_read (read.trans identifier)
  exact unnoticed.map_eq (word.word_of_identifier rfl).2

theorem finalPosition_exchange :
    (ofSource (source.map exchange) limit).finalPosition =
      (ofSource source limit).finalPosition := by
  have rest : (ofSource (source.map exchange) limit).rest = source.toList.map exchange :=
    String.toList_map
  rw [finalPosition, rest]
  exact Segment.advanceOver_exchange unnoticed .start source.toList

theorem mapLexeme_of_identifier {s : Scanner} {token : Token} (member : token ∈ s.tokensAhead)
    (identifier : token.kind = .literal .identifier) : token.mapLexeme exchange = token := by
  have word := (tokenText_of_mem_tokensAhead member).word_of_identifier identifier
  have same : token.lexeme.map exchange = token.lexeme := by
    rw [← String.toList_inj, String.toList_map]
    exact unnoticed.map_eq word.2
  rw [Token.mapLexeme, same]

theorem retold_of_unnoticed :
    Retold exchange (ofSource source limit).drain
      (ofSource (source.map exchange) limit).drain := by
  have finish := finalPosition_exchange unnoticed source limit
  have logged : (ofSource (source.map exchange) limit).drain.2.diagnostics.toList =
      (ofSource source limit).drain.2.diagnostics.toList.map (Diagnostic.mapLexeme exchange) := by
    rw [diagnostics_drain_ofSource, diagnostics_drain_ofSource,
      diagnosticsAhead_exchange unnoticed]
  refine ⟨?_, ?_, logged, ?_, ?_⟩
  · rw [drain_tokens, drain_tokens, finish, tokensAhead_exchange unnoticed, List.map_append,
      List.map_singleton, Token.mapLexeme_endOfInput]
  · have tallied := tallies_drain (source.map exchange) limit
    rw [tokensAhead_exchange unnoticed, Token.sightings_mapLexeme fun _ =>
      mapLexeme_of_identifier unnoticed] at tallied
    exact tallied.unique (tallies_drain source limit)
  · rw [line_drain, line_drain, finish]
  · rw [DiagnosticLog.hasFatal_eq, DiagnosticLog.hasFatal_eq, logged, List.any_map]
    rfl

end

/-- Puts a character in the place of the one with code zero. -/
def replaceNul (d c : Char) : Char := if c = '\x00' then d else c

theorem unnoticed_replaceNul {d : Char} (inert : isInert d = true) :
    Unnoticed (replaceNul d) := by
  intro c
  by_cases nul : c = '\x00'
  · subst nul
    exact .inr ⟨by decide, inert⟩
  · exact .inl (if_neg nul)

/-- The character with code zero is no mark for the end. With any other character without a part in
the language in its place, the source falls into the same pieces, and the scan returns the same
tokens, symbols and diagnostics at the same places but for that character in their texts. The token
for the end stands behind all characters of the source. -/
theorem nul_unobservable (source : String) (limit : Nat) (d : Char) (inert : isInert d = true) :
    Retold (replaceNul d) (ofSource source limit).drain
      (ofSource (source.map (replaceNul d)) limit).drain ∧
    Segment.split (source.map (replaceNul d)).toList =
      (Segment.split source.toList).map (Segment.mapText (replaceNul d)) ∧
    (ofSource source limit).drain.1.getLast? =
      some (.endOfInput (Position.behind source.toList)) := by
  have unnoticed := unnoticed_replaceNul inert
  refine ⟨retold_of_unnoticed unnoticed source limit, ?_, ?_⟩
  · rw [String.toList_map]
    exact Segment.split_exchange unnoticed source.toList
  · rw [drain_tokens, finalPosition_ofSource, List.getLast?_concat]

/-- Zeros right behind a word, in a string and behind its escapes, in a character literal, in comments
of both sorts, behind half an operator and in a character literal that is not closed. -/
def zeros : String :=
  "A\x00 \"\\u\x00\x00\x00\x00\\\x00\" '\x00' #*\x00*# &\x00 ##\x00\n'\x00"

theorem nul_unobservable_zeros :
    isInert '@' = true ∧
    zeros.map (replaceNul '@') = "A@ \"\\u@@@@\\@\" '@' #*@*# &@ ##@\n'@" ∧
    (ofSource zeros 30).drain.1.map Token.kind =
      [.literal .identifier, .literal .string, .literal .character, .endOfInput] ∧
    Retold (replaceNul '@') (ofSource zeros 30).drain
      (ofSource (zeros.map (replaceNul '@')) 30).drain :=
  ⟨by decide, by decide +kernel, by decide +kernel, (nul_unobservable zeros 30 '@' (by decide)).1⟩

end Scanner
end LexScan
