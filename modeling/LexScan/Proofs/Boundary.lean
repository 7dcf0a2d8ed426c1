import LexScan.Proofs.Partition

/-! Where segments end. To end a segment the scanner looks at one character behind it at most, and a
line feed ends whatever is not meant to contain one. So more text behind a text leaves its first
segment as it is, unless the segment was cut short by the end of the text. In the same way a text of
the language that a blank follows is read as a whole, although longer ones may begin like it. -/
namespace LexScan.Segment

open Text Lexeme Grammar

/-- More text does not touch what was read before it: something was left in between, or it begins
with a line feed. -/
def Apart (left more : List Char) : Prop := left ≠ [] ∨ more.head? = some '\n'

theorem Apart.append {left more : List Char} (apart : Apart left more) (taken : List Char) :
    Apart (taken ++ left) more :=
  apart.imp_left fun some_left => by simp [some_left]

theorem Apart.nil {more : List Char} (apart : Apart [] more) : ∃ later, more = '\n' :: later := by
  rcases apart with some_left | feed
  · exact absurd rfl some_left
  · exact List.head?_eq_some_iff.1 feed

theorem span_append_right {belongs : Char → Bool} (ends : belongs '\n' = false)
    {text more : List Char} (apart : Apart (text.dropWhile belongs) more) :
    (text ++ more).takeWhile belongs = text.takeWhile belongs ∧
      (text ++ more).dropWhile belongs = text.dropWhile belongs ++ more := by
  induction text with
  | nil =>
      obtain ⟨later, rfl⟩ := apart.nil
      simp [ends]
  | cons c text ih =>
      by_cases inside : belongs c = true
      · have shorter := ih (by simpa [inside] using apart)
        simp [inside, shorter]
      · simp [inside]

/-! ### Numbers -/

theorem fraction_append_right {text more : List Char} (apart : Apart (fraction text).2 more) :
    fraction (text ++ more) = ((fraction text).1, (fraction text).2 ++ more) := by
  cases text with
  | nil =>
      obtain ⟨later, rfl⟩ := apart.nil
      rfl
  | cons c rest =>
      by_cases point : c = '.'
      · subst point
        obtain ⟨taken, dropped⟩ := span_append_right (by decide) apart
        simp [fraction, taken, dropped]
      · simp [fraction, point]

theorem sign_append_right {text more : List Char} (apart : Apart (sign text).2 more) :
    sign (text ++ more) = ((sign text).1, (sign text).2 ++ more) := by
  cases text with
  | nil =>
      obtain ⟨later, rfl⟩ := apart.nil
      rfl
  | cons c rest =>
      by_cases plus : c = '+'
      · simp [sign, plus]
      · by_cases minus : c = '-'
        · simp [sign, minus]
        · simp [sign, plus, minus]

theorem exponentDigits_append_right {text more : List Char}
    (apart : Apart (exponentDigits text).2 more) :
    exponentDigits (text ++ more) = ((exponentDigits text).1, (exponentDigits text).2 ++ more) := by
  have behind := apart.append ((sign text).2.takeWhile Char.isDigit)
  simp only [exponentDigits, List.takeWhile_append_dropWhile] at apart behind
  obtain ⟨taken, dropped⟩ := span_append_right (by decide) apart
  simp [exponentDigits, sign_append_right behind, taken, dropped]

theorem exponent_append_right {text more : List Char} (apart : Apart (exponent text).2 more) :
    exponent (text ++ more) = ((exponent text).1, (exponent text).2 ++ more) := by
  cases text with
  | nil =>
      obtain ⟨later, rfl⟩ := apart.nil
      rfl
  | cons c rest =>
      by_cases small : c = 'e'
      · subst small
        simp [exponent, exponentDigits_append_right apart]
      · by_cases capital : c = 'E'
        · subst capital
          simp [exponent, exponentDigits_append_right apart]
        · simp [exponent, small, capital]

theorem number_append_right {text more : List Char} (apart : Apart (number text).rest more) :
    number (text ++ more) = { number text with rest := (number text).rest ++ more } := by
  have scaled := apart.append (number text).exponent
  have fractional := scaled.append (number text).fraction
  simp only [number, exponent_append, fraction_append] at apart scaled fractional
  obtain ⟨taken, dropped⟩ := span_append_right (by decide) fractional
  simp [number, taken, dropped, fraction_append_right scaled, exponent_append_right apart]

/-! ### All readers -/

/-- What was read stays as it is with more text behind: nothing was missing at the end. -/
structure Settled (result : Segment × List Char) (more : List Char) : Prop where
  recoverable : result.1.isFatal = false
  apart : Apart result.2 more
  -- a quote at the end of a text takes whatever comes next, a line feed too
  unquoted : ∀ lexeme, result.1 = .malformedCharacter lexeme → result.2 ≠ []

theorem readWord_append_right {c : Char} {rest more : List Char}
    (settled : Settled (readWord c rest) more) :
    readWord c (rest ++ more) = ((readWord c rest).1, (readWord c rest).2 ++ more) := by
  obtain ⟨taken, dropped⟩ := span_append_right (by decide) settled.apart
  simp [readWord, taken, dropped]

theorem readNumber_append_right {c : Char} {rest more : List Char}
    (settled : Settled (readNumber c rest) more) :
    readNumber c (rest ++ more) = ((readNumber c rest).1, (readNumber c rest).2 ++ more) := by
  have same : number (rest ++ more) = { number rest with rest := (number rest).rest ++ more } :=
    number_append_right settled.apart
  simp only [readNumber, same]
  rfl

theorem readString_append_right {c : Char} {rest more : List Char}
    (settled : Settled (readString c rest) more) :
    readString c (rest ++ more) = ((readString c rest).1, (readString c rest).2 ++ more) := by
  cases closed : stringTail rest with
  | none => simpa [readString, closed, isFatal] using settled.recoverable
  | some parts =>
      obtain ⟨body, whole⟩ := stringTail_eq_some_iff.1 closed
      have longer : stringTail (rest ++ more) = some (parts.1, parts.2 ++ more) :=
        stringTail_eq_some_iff.2 ⟨body, by rw [← whole, List.append_assoc]⟩
      simp [readString, closed, longer]

theorem characterTail_append_right {rest more : List Char}
    (enough : (characterTail rest).closed = true ∨ (characterTail rest).rest ≠ []) :
    characterTail (rest ++ more) =
      { characterTail rest with rest := (characterTail rest).rest ++ more } := by
  -- what is too short for a closing quote leaves nothing, against `enough`
  cases rest with
  | nil => simp [characterTail] at enough
  | cons c rest =>
      by_cases escaped : c = '\\'
      · subst escaped
        cases rest with
        | nil => simp [characterTail] at enough
        | cons d rest =>
            cases rest with
            | nil => simp [characterTail] at enough
            | cons e rest =>
                by_cases quote : e = '\''
                · simp [characterTail, quote]
                · simp [characterTail, quote]
      · cases rest with
        | nil => simp [characterTail, escaped] at enough
        | cons d rest =>
            by_cases quote : d = '\''
            · simp [characterTail, escaped, quote]
            · simp [characterTail, escaped, quote]

theorem readCharacter_append_right {c : Char} {rest more : List Char}
    (settled : Settled (readCharacter c rest) more) :
    readCharacter c (rest ++ more) =
      ((readCharacter c rest).1, (readCharacter c rest).2 ++ more) := by
  have enough : (characterTail rest).closed = true ∨ (characterTail rest).rest ≠ [] := by
    cases closed : (characterTail rest).closed with
    | true => exact .inl rfl
    | false =>
        have malformed : (readCharacter c rest).1 =
            .malformedCharacter (c :: (characterTail rest).tail) := by
          simp [readCharacter, closed]
        exact .inr (settled.unquoted _ malformed)
  simp [readCharacter, characterTail_append_right enough]

theorem pairKind_feed (c : Char) : pairKind c '\n' = none := by
  unfold pairKind
  split <;> simp_all

theorem readMark_append_right {c : Char} {rest more : List Char} (apart : Apart rest more) :
    readMark c (rest ++ more) = ((readMark c rest).1, (readMark c rest).2 ++ more) := by
  cases rest with
  | nil =>
      obtain ⟨later, rfl⟩ := apart.nil
      cases single : singleKind c <;> simp [readMark, mark?, pairKind_feed, single]
  | cons d later =>
      cases pair : pairKind c d with
      | some kind => simp [readMark, mark?, pair]
      | none => cases single : singleKind c <;> simp [readMark, mark?, pair, single]

theorem readNumberSign_append_right {c : Char} {rest more : List Char} (apart : Apart rest more)
    (settled : Settled (readNumberSign c rest) more) :
    readNumberSign c (rest ++ more) =
      ((readNumberSign c rest).1, (readNumberSign c rest).2 ++ more) := by
  cases rest with
  | nil =>
      obtain ⟨later, rfl⟩ := apart.nil
      exact readMark_append_right apart
  | cons d inside =>
      by_cases line : d = '#'
      · subst line
        obtain ⟨taken, dropped⟩ := span_append_right (by decide) settled.apart
        simp [readNumberSign, taken, dropped]
      · by_cases block : d = '*'
        · subst block
          cases closed : commentTail 1 inside with
          | unclosed depth => simpa [readNumberSign, closed, isFatal] using settled.recoverable
          | closed tail left =>
              obtain ⟨body, whole⟩ := commentTail_eq_closed_iff.1 closed
              have longer : commentTail 1 (inside ++ more) = .closed tail (left ++ more) :=
                commentTail_eq_closed_iff.2 ⟨body, by rw [← whole, List.append_assoc]⟩
              simp [readNumberSign, closed, longer]
        · simpa [readNumberSign, line, block] using readMark_append_right apart

theorem startsNumber_append_right (c : Char) {rest more : List Char} (apart : Apart rest more) :
    startsNumber c (rest ++ more) = startsNumber c rest := by
  cases rest with
  | nil =>
      obtain ⟨later, rfl⟩ := apart.nil
      simp [startsNumber]
  | cons d later => rfl

/-- With more text behind, the same segment is read and all of that text is left. -/
theorem read_append_right {c : Char} {rest more : List Char}
    (settled : Settled (read c rest) more) :
    read c (rest ++ more) = ((read c rest).1, (read c rest).2 ++ more) := by
  have apart : Apart rest more := by
    obtain ⟨tail, head⟩ := read_head c rest
    have whole := read_append c rest
    rw [head, List.cons_append, List.cons.injEq] at whole
    exact whole.2 ▸ settled.apart.append tail
  have starts := startsNumber_append_right c apart
  unfold read at settled ⊢
  rw [starts]
  split_ifs at settled ⊢
  · rfl
  · exact readWord_append_right settled
  · exact readNumber_append_right settled
  · exact readString_append_right settled
  · exact readCharacter_append_right settled
  · exact readNumberSign_append_right apart settled
  · exact readMark_append_right apart

/-! ### Before a blank -/

/-- Nothing follows, or a blank does. -/
def Ends (left : List Char) : Prop := ∀ c ∈ left.head?, isBlank c = true

theorem visible_digits {digits : List Char} (all : Digits digits) :
    ∀ d ∈ digits, isBlank d = false :=
  fun d member => isBlank_eq_false_of_isDigit (all d member)

theorem visible_sign {sign : List Char} (signed : Sign sign) : ∀ d ∈ sign, isBlank d = false := by
  cases signed <;> simp [isBlank]

theorem visible_fraction {part : List Char} (fractional : Fraction part) :
    ∀ d ∈ part, isBlank d = false := by
  cases fractional with
  | none => simp
  | point all =>
      intro d member
      rcases List.mem_cons.1 member with rfl | member
      · decide
      · exact visible_digits all d member

theorem visible_exponent {part : List Char} (scaled : Exponent part) :
    ∀ d ∈ part, isBlank d = false := by
  cases scaled with
  | none => simp
  | letter either signed all =>
      intro d member
      rcases List.mem_cons.1 member with rfl | member
      · rcases either with rfl | rfl <;> decide
      · rcases List.mem_append.1 member with member | member
        · exact visible_sign signed d member
        · exact visible_digits all d member

/-- Only quoted texts contain blanks. -/
theorem visible_of_tokenText {kind : Kind} {text : List Char} (token : TokenText kind text)
    (unquoted : text.head? ≠ some '"') (straight : text.head? ≠ some '\'') :
    ∀ d ∈ text, isBlank d = false := by
  cases token with
  | word letter parts named =>
      intro d member
      rcases List.mem_cons.1 member with rfl | member
      · exact isBlank_eq_false_of_isAlphabetic letter
      · have part := isWordPart_iff.2 (parts d member)
        cases blank : isBlank d with
        | false => rfl
        | true => simp [isWordPart_eq_false_of_isBlank blank] at part
  | number signed some_digit all fractional scaled =>
      intro d member
      simp only [List.mem_append] at member
      rcases member with ((member | member) | member) | member
      · exact visible_sign signed d member
      · exact visible_digits all d member
      · exact visible_fraction fractional d member
      · exact visible_exponent scaled d member
  | string closed => simp at unquoted
  | character unescaped => simp at straight
  | escapedCharacter => simp at straight
  | mark listed =>
      have each : (marks.all fun entry => entry.1.all fun d => !isBlank d) = true := by decide
      simpa using List.all_eq_true.1 each _ listed

/-- What outdoes a text before a blank is that text, since a longer one would contain the blank. -/
theorem read_of_outdone {c : Char} {text rest left : List Char} {kind : Kind}
    (outdone : Outdoes (read c rest).1 kind text) (whole : text ++ left = c :: rest)
    (ends : Ends left) (unquoted : c ≠ '"') (straight : c ≠ '\'') :
    read c rest = (.token kind text, left) := by
  obtain ⟨longest, lexeme, segment, longer | ⟨rfl, rfl⟩⟩ := outdone
  · exfalso
    have taken := read_append c rest
    obtain ⟨tail, head⟩ := read_head c rest
    rw [segment] at taken head
    change lexeme ++ _ = _ at taken
    change lexeme = _ at head
    rw [← whole] at taken
    rcases List.append_eq_append_iff.1 taken with
      ⟨more, extended, behind⟩ | ⟨more, extended, behind⟩
    · have shorter := congrArg List.length extended
      simp only [List.length_append] at shorter
      omega
    · cases more with
      | nil => simp [extended] at longer
      | cons blank more =>
          have visible := visible_of_tokenText (tokenText_of_read segment)
            (by simp [head, unquoted]) (by simp [head, straight])
          have seen := visible blank (by simp [extended])
          have unseen := ends blank (by simp [behind])
          simp [seen] at unseen
  · have taken := read_append c rest
    rw [segment, ← whole] at taken
    exact Prod.ext segment (List.append_cancel_left taken)

/-- A text of the language is read as a whole where nothing or a blank follows. -/
theorem read_of_ends {c : Char} {text rest left : List Char} {kind : Kind}
    (token : TokenText kind text) (whole : text ++ left = c :: rest) (ends : Ends left) :
    read c rest = (.token kind text, left) := by
  have outdone := outdoes_read token whole
  cases token with
  | word letter parts named =>
      obtain ⟨rfl, _⟩ := List.cons.inj whole
      refine read_of_outdone outdone whole ends ?_ ?_
      · rintro rfl
        exact absurd letter (by decide)
      · rintro rfl
        exact absurd letter (by decide)
  | number signed some_digit all fractional scaled =>
      have first : c = '+' ∨ c = '-' ∨ c.isDigit = true := by
        obtain ⟨d, later, rfl⟩ := List.exists_cons_of_ne_nil some_digit
        cases signed with
        | none => exact .inr (.inr ((List.cons.inj whole).1 ▸ all d (by simp)))
        | plus => exact .inl (List.cons.inj whole).1.symm
        | minus => exact .inr (.inl (List.cons.inj whole).1.symm)
      refine read_of_outdone outdone whole ends ?_ ?_
      · rintro rfl
        exact absurd first (by decide)
      · rintro rfl
        exact absurd first (by decide)
  | string closed =>
      obtain ⟨rfl, rfl⟩ := List.cons.inj whole
      exact readString_of_stringBody closed left
  | character unescaped =>
      obtain ⟨rfl, rfl⟩ := List.cons.inj whole
      exact readCharacter_plain unescaped left
  | escapedCharacter =>
      obtain ⟨rfl, rfl⟩ := List.cons.inj whole
      rfl
  | mark listed =>
      obtain ⟨first, tail, rfl⟩ := List.exists_cons_of_ne_nil (TokenText.mark listed).ne_nil
      obtain ⟨rfl, _⟩ := List.cons.inj whole
      obtain ⟨_, _, _, unquoted, straight, _⟩ := head_of_listed listed
      exact read_of_outdone outdone whole ends unquoted straight

theorem split_of_ends {kind : Kind} {text left : List Char} (token : TokenText kind text)
    (ends : Ends left) : split (text ++ left) = .token kind text :: split left := by
  obtain ⟨c, tail, rfl⟩ := List.exists_cons_of_ne_nil token.ne_nil
  have taken : read c (tail ++ left) = (.token kind (c :: tail), left) :=
    read_of_ends token rfl ends
  rw [List.cons_append, split_cons, taken]

end LexScan.Segment
