import LexScan.Proofs.Grammar
import LexScan.Proofs.Step
import Mathlib.Data.List.TakeWhile

/-! The scanner takes the longest text of the language. Each recogniser is compared with the texts
of its own class: what it takes is one of them, and no text of the class at the same place is longer.
The classes are told apart by their first characters, a sign before a digit apart, so that together
the recognisers take the longest text of the whole language. -/
namespace LexScan.Segment

open Text Lexeme Grammar

/-- A segment that does not fall short of a text of the language: it is a token that is longer, or
that is the text with its kind. -/
def Outdoes (segment : Segment) (kind : Kind) (text : List Char) : Prop :=
  ∃ longest lexeme, segment = .token longest lexeme ∧
    (text.length < lexeme.length ∨ text = lexeme ∧ kind = longest)

theorem isWordPart_iff {c : Char} : isWordPart c = true ↔ isAlphanumeric c = true ∨ c = '_' := by
  simp [isWordPart]

theorem kind?_eq_some_iff {text : List Char} {kind : Kind} :
    ReservedWord.kind? (String.ofList text) = some kind ↔ (text, kind) ∈ reservedWords := by
  have same : ReservedWord.table = reservedWords.map fun entry => (String.ofList entry.1, entry.2) :=
    rfl
  constructor
  · intro found
    have listed := ReservedWord.mem_table_of_kind? found
    rw [same] at listed
    obtain ⟨entry, member, equal⟩ := List.mem_map.1 listed
    obtain ⟨texts, rfl⟩ := Prod.mk.inj equal
    rwa [← String.ofList_injective texts]
  · intro listed
    have known : (reservedWords.all fun entry =>
        ReservedWord.kind? (String.ofList entry.1) == some entry.2) = true := by decide
    simpa using List.all_eq_true.1 known _ listed

/-- The scanner gives a word the kind that the language gives it. -/
theorem wordKind_iff {text : List Char} {kind : Kind} :
    WordKind kind text ↔ ReservedWord.kindOf (String.ofList text) = kind := by
  unfold ReservedWord.kindOf
  constructor
  · intro named
    cases named with
    | reserved listed => rw [kind?_eq_some_iff.2 listed, Option.getD_some]
    | name unlisted =>
        cases found : ReservedWord.kind? (String.ofList text) with
        | none => rfl
        | some kind => exact absurd (kind?_eq_some_iff.1 found) (unlisted kind)
  · rintro rfl
    cases found : ReservedWord.kind? (String.ofList text) with
    | some kind => exact .reserved (kind?_eq_some_iff.1 found)
    | none =>
        refine .name fun kind listed => ?_
        rw [kind?_eq_some_iff.2 listed] at found
        cases found

theorem tokenText_readWord {c : Char} {rest lexeme : List Char} {kind : Kind}
    (letter : isAlphabetic c = true) (found : (readWord c rest).1 = .token kind lexeme) :
    TokenText kind lexeme := by
  simp only [readWord, Segment.token.injEq] at found
  obtain ⟨rfl, rfl⟩ := found
  exact .word letter (fun d member => isWordPart_iff.1 (List.mem_takeWhile_imp member))
    (wordKind_iff.2 rfl)

theorem outdoes_readWord {kind : Kind} {c : Char} {tail : List Char}
    (parts : ∀ d ∈ tail, isAlphanumeric d = true ∨ d = '_') (named : WordKind kind (c :: tail))
    (left : List Char) : Outdoes (readWord c (tail ++ left)).1 kind (c :: tail) := by
  obtain rfl := wordKind_iff.1 named
  have inside : ∀ d ∈ tail, isWordPart d = true := fun d member => isWordPart_iff.2 (parts d member)
  refine ⟨_, _, rfl, ?_⟩
  rw [List.takeWhile_append_of_pos inside]
  cases left.takeWhile isWordPart with
  | nil => simp
  | cons d later => simp

/-! ### Numbers -/

theorem digits_takeWhile (text : List Char) : Digits (text.takeWhile Char.isDigit) :=
  fun _ member => List.mem_takeWhile_imp member

theorem fraction_fst (text : List Char) : Fraction (fraction text).1 := by
  unfold fraction
  split
  · exact .point (digits_takeWhile _)
  · exact .none

theorem sign_fst (text : List Char) : Sign (sign text).1 := by
  unfold sign
  split
  · exact .plus
  · exact .minus
  · exact .none

theorem exponent_fst (text : List Char) : Exponent (exponent text).1 := by
  unfold exponent
  split
  · exact .letter (.inl rfl) (sign_fst _) (digits_takeWhile _)
  · exact .letter (.inr rfl) (sign_fst _) (digits_takeWhile _)
  · exact .none

theorem sign_of_isDigit {c : Char} (digit : c.isDigit = true) (rest : List Char) :
    sign (c :: rest) = ([], c :: rest) := by
  unfold sign
  split
  · next same => simp_all
  · next same => simp_all
  · rfl

theorem length_exponentDigits_le {mark digits : List Char} (signed : Sign mark)
    (all : Digits digits) (left : List Char) :
    (mark ++ digits).length ≤ (exponentDigits (mark ++ digits ++ left)).1.length := by
  cases signed with
  | none =>
      cases digits with
      | nil => simp
      | cons d later =>
          have first : d.isDigit = true := all d (by simp)
          have others : ∀ c ∈ later, c.isDigit = true := fun c member => all c (by simp [member])
          simp [exponentDigits, sign_of_isDigit first, first, List.takeWhile_append_of_pos others]
  | plus => simp [exponentDigits, sign, List.takeWhile_append_of_pos all]
  | minus => simp [exponentDigits, sign, List.takeWhile_append_of_pos all]

theorem length_exponent_le {part : List Char} (scaled : Exponent part) (left : List Char) :
    part.length ≤ (exponent (part ++ left)).1.length := by
  cases scaled with
  | none => simp
  | letter either signed all =>
      have longer := length_exponentDigits_le signed all left
      rcases either with rfl | rfl <;> simpa [exponent] using longer

theorem exponent_head {part : List Char} (scaled : Exponent part) (present : part ≠ []) :
    ∃ c tail, part = c :: tail ∧ c.isDigit = false := by
  cases scaled with
  | none => simp at present
  | letter either signed all =>
      refine ⟨_, _, rfl, ?_⟩
      rcases either with rfl | rfl <;> decide

theorem fraction_exponent_head {part tail : List Char} (fractional : Fraction part)
    (scaled : Exponent tail) (present : part ++ tail ≠ []) :
    ∃ c later, part ++ tail = c :: later ∧ c.isDigit = false := by
  cases fractional with
  | none => exact exponent_head scaled present
  | point all => exact ⟨'.', _, rfl, by decide⟩

theorem span_digits {digits part : List Char} (all : Digits digits)
    (head : ∃ c tail, part = c :: tail ∧ c.isDigit = false) (left : List Char) :
    (digits ++ (part ++ left)).takeWhile Char.isDigit = digits ∧
      (digits ++ (part ++ left)).dropWhile Char.isDigit = part ++ left := by
  obtain ⟨c, tail, rfl, other⟩ := head
  rw [List.takeWhile_append_of_pos all, List.dropWhile_append_of_pos all]
  simp [other]

theorem length_fraction_exponent_le {part tail : List Char} (fractional : Fraction part)
    (scaled : Exponent tail) (left : List Char) :
    (part ++ tail).length ≤ (fraction (part ++ (tail ++ left))).1.length +
      (exponent (fraction (part ++ (tail ++ left))).2).1.length := by
  have scaled_le := length_exponent_le scaled left
  cases fractional with
  | none =>
      cases scaled with
      | none => simp
      | letter either signed all =>
          rcases either with rfl | rfl <;> simpa [fraction] using scaled_le
  | @point digits all =>
      by_cases present : tail = []
      · subst present
        simp only [List.cons_append, fraction, List.takeWhile_append_of_pos all]
        simp only [List.length_cons, List.length_append, List.length_nil]
        omega
      · obtain ⟨taken, dropped⟩ := span_digits all (exponent_head scaled present) left
        simp only [List.cons_append, fraction, taken, dropped, List.length_cons, List.length_append]
        omega

theorem length_number_le {digits part tail : List Char} (all : Digits digits)
    (fractional : Fraction part) (scaled : Exponent tail) (left : List Char) :
    (digits ++ part ++ tail).length ≤
      (number (digits ++ (part ++ tail ++ left))).lexeme.length := by
  by_cases present : part ++ tail = []
  · obtain ⟨rfl, rfl⟩ := List.append_eq_nil_iff.1 present
    simp only [number, NumberSplit.lexeme, List.takeWhile_append_of_pos all, List.length_append,
      List.length_nil]
    omega
  · obtain ⟨taken, dropped⟩ :=
      span_digits all (fraction_exponent_head fractional scaled present) left
    have later_le := length_fraction_exponent_le fractional scaled left
    rw [← List.append_assoc] at later_le
    simp only [number, NumberSplit.lexeme, taken, dropped, List.length_append] at later_le ⊢
    omega

theorem digits_number_iff {digits part tail : List Char} (all : Digits digits)
    (fractional : Fraction part) (scaled : Exponent tail) :
    Digits (digits ++ part ++ tail) ↔ part = [] ∧ tail = [] := by
  constructor
  · intro only
    by_contra absent
    obtain ⟨c, later, same, other⟩ := fraction_exponent_head fractional scaled
      (fun empty => absent (List.append_eq_nil_iff.1 empty))
    have digit : c.isDigit = true := only c (by simp [List.append_assoc, same])
    simp [other] at digit
  · rintro ⟨rfl, rfl⟩
    simpa using all

theorem digits_lexeme_iff (text : List Char) :
    Digits (number text).lexeme ↔ (number text).fraction = [] ∧ (number text).exponent = [] :=
  digits_number_iff (digits_takeWhile _) (fraction_fst _) (exponent_fst _)

theorem isInteger_iff (split : NumberSplit) :
    split.isInteger = true ↔ split.fraction = [] ∧ split.exponent = [] := by
  simp [NumberSplit.isInteger]

theorem whole_ne_nil {rest : List Char} (behind : rest.head?.any Char.isDigit = true) :
    (number rest).whole ≠ [] := by
  cases rest with
  | nil => simp at behind
  | cons d later => simp_all [number]

theorem tokenText_readNumber {c : Char} {rest lexeme : List Char} {kind : Kind}
    (starts : startsNumber c rest = true) (found : (readNumber c rest).1 = .token kind lexeme) :
    TokenText kind lexeme := by
  simp only [readNumber, Segment.token.injEq, isInteger_iff] at found
  obtain ⟨rfl, rfl⟩ := found
  have all : Digits (number rest).whole := digits_takeWhile rest
  have fractional : Fraction (number rest).fraction := fraction_fst _
  have scaled : Exponent (number rest).exponent := exponent_fst _
  simp only [startsNumber, Bool.or_eq_true, Bool.and_eq_true, beq_iff_eq] at starts
  rcases starts with digit | ⟨signs, behind⟩
  · have digits : Digits (c :: (number rest).whole) := by
      simpa [Digits, digit] using all
    exact .number .none (by simp) digits fractional scaled
  · rcases signs with rfl | rfl
    · exact .number .plus (whole_ne_nil behind) all fractional scaled
    · exact .number .minus (whole_ne_nil behind) all fractional scaled

theorem outdoes_readNumber {digits part tail : List Char} (c : Char) (all : Digits digits)
    (fractional : Fraction part) (scaled : Exponent tail) (left : List Char) :
    Outdoes (readNumber c (digits ++ (part ++ tail ++ left))).1
      (.literal (if part = [] ∧ tail = [] then .integer else .float))
      (c :: (digits ++ part ++ tail)) := by
  refine ⟨_, _, rfl, ?_⟩
  have whole := number_append (digits ++ (part ++ tail ++ left))
  rcases Nat.lt_or_eq_of_le (length_number_le all fractional scaled left) with shorter | equal
  · exact .inl (by simpa using shorter)
  · -- of one length they are one text, and whether it is digits alone decides the kind
    have same : digits ++ part ++ tail = (number (digits ++ (part ++ tail ++ left))).lexeme :=
      List.append_inj_left (by simpa using whole.symm) equal
    have plain := digits_number_iff all fractional scaled
    rw [same, digits_lexeme_iff] at plain
    exact .inr ⟨by rw [same], by simp only [isInteger_iff, plain]⟩

/-! ### Strings and characters -/

/-- The recogniser of strings takes just what the grammar allows, and there is one way to do so. -/
theorem stringTail_eq_some_iff {text tail left : List Char} :
    stringTail text = some (tail, left) ↔ StringBody tail ∧ tail ++ left = text := by
  constructor
  · intro closed
    refine ⟨?_, stringTail_append closed⟩
    fun_induction stringTail text generalizing tail with
    | case1 => simp at closed
    | case2 rest =>
        simp only [Option.some.injEq, Prod.mk.injEq] at closed
        obtain ⟨rfl, _⟩ := closed
        exact .close
    | case3 a b c d rest ih =>
        obtain ⟨inner, read, rfl⟩ := extend_eq_some_iff.1 closed
        exact .unicode (ih read)
    | case4 => simp at closed
    | case5 c rest long short ih =>
        obtain ⟨inner, read, rfl⟩ := extend_eq_some_iff.1 closed
        exact .escape short (ih read)
    | case6 c rest unquoted long short escape ih =>
        obtain ⟨inner, read, rfl⟩ := extend_eq_some_iff.1 closed
        refine .plain unquoted ?_ (ih read)
        -- a backslash would have to be the last character, and then the string is not closed
        intro same
        subst same
        cases rest with
        | nil => simp [stringTail] at read
        | cons d later => exact escape d later rfl rfl
  · rintro ⟨body, rfl⟩
    induction body with
    | close => rfl
    | plain unquoted unescaped later ih =>
        simp [stringTail_plain unquoted unescaped, ih, extend]
    | escape short later ih => simp [stringTail_escape short, ih, extend]
    | unicode later ih => simp [stringTail, ih, extend]

theorem tokenText_readString {rest lexeme : List Char} {kind : Kind}
    (found : (readString '"' rest).1 = .token kind lexeme) : TokenText kind lexeme := by
  unfold readString at found
  split at found
  · next tail left closed =>
      simp only [Segment.token.injEq] at found
      obtain ⟨rfl, rfl⟩ := found
      exact .string (stringTail_eq_some_iff.1 closed).1
  · simp at found

theorem readString_of_stringBody {body : List Char} (closed : StringBody body) (left : List Char) :
    readString '"' (body ++ left) = (.token (.literal .string) ('"' :: body), left) := by
  simp [readString, stringTail_eq_some_iff.2 ⟨closed, rfl⟩]

theorem tokenText_readCharacter {rest lexeme : List Char} {kind : Kind}
    (found : (readCharacter '\'' rest).1 = .token kind lexeme) : TokenText kind lexeme := by
  unfold readCharacter characterTail at found
  split at found
  all_goals simp only [if_true, Bool.false_eq_true, if_false, Segment.token.injEq,
    reduceCtorEq] at found
  · obtain ⟨rfl, rfl⟩ := found
    exact .escapedCharacter
  · next c left _ unescaped =>
      obtain ⟨rfl, rfl⟩ := found
      exact .character unescaped

theorem readCharacter_plain {c : Char} (unescaped : c ≠ '\\') (left : List Char) :
    readCharacter '\'' (c :: '\'' :: left) =
      (.token (.literal .character) ['\'', c, '\''], left) := by
  have tail : characterTail (c :: '\'' :: left) = ⟨true, [c, '\''], left⟩ :=
    characterTail.eq_4 c left (fun _ same => absurd same unescaped) unescaped
  simp [readCharacter, tail]

theorem readCharacter_escaped (c : Char) (left : List Char) :
    readCharacter '\'' ('\\' :: c :: '\'' :: left) =
      (.token (.literal .character) ['\'', '\\', c, '\''], left) := rfl

/-! ### Operators and punctuators -/

theorem listed_of_pairKind {c d : Char} {kind : Kind} (found : pairKind c d = some kind) :
    ([c, d], kind) ∈ marks := by
  unfold pairKind at found
  split at found <;> cases found <;> decide

theorem listed_of_singleKind {c : Char} {kind : Kind} (found : singleKind c = some kind) :
    ([c], kind) ∈ marks := by
  unfold singleKind at found
  split at found <;> cases found <;> decide

def markKind? : List Char → Option Kind
  | [c] => singleKind c
  | [c, d] => pairKind c d
  | _ => none

theorem cases_of_listed {text : List Char} {kind : Kind} (listed : (text, kind) ∈ marks) :
    (∃ c, text = [c] ∧ singleKind c = some kind) ∨
      ∃ c d, text = [c, d] ∧ pairKind c d = some kind := by
  have all_known : ∀ entry ∈ marks, markKind? entry.1 = some entry.2 := by decide
  have known : markKind? text = some kind := all_known _ listed
  unfold markKind? at known
  split at known
  · next c => exact .inl ⟨c, rfl, known⟩
  · next c d => exact .inr ⟨c, d, rfl, known⟩
  · simp at known

/-- No other class of tokens, and no comment, begins like a mark. -/
theorem head_of_listed {c : Char} {tail : List Char} {kind : Kind}
    (listed : (c :: tail, kind) ∈ marks) :
    isBlank c = false ∧ isAlphabetic c = false ∧ c.isDigit = false ∧ c ≠ '"' ∧ c ≠ '\'' ∧
      c ≠ '#' := by
  have heads : (marks.all fun entry => entry.1.head?.all fun c =>
      !isBlank c && !isAlphabetic c && !c.isDigit && c != '"' && c != '\'' && c != '#') = true := by
    decide
  have this := List.all_eq_true.1 heads _ listed
  simpa [and_assoc] using this

theorem tail_of_listed {c : Char} {tail : List Char} {kind : Kind}
    (listed : (c :: tail, kind) ∈ marks) : ∀ d ∈ tail, d.isDigit = false := by
  have tails : (marks.all fun entry => entry.1.tail.all fun d => !d.isDigit) = true := by decide
  have this := List.all_eq_true.1 tails _ listed
  simpa using this

theorem listed_of_mark? {c : Char} {rest : List Char} {split : MarkSplit}
    (found : mark? c rest = some split) : (split.lexeme, split.kind) ∈ marks := by
  unfold mark? at found
  split at found
  · obtain ⟨kind, single, rfl⟩ := Option.map_eq_some_iff.1 found
    exact listed_of_singleKind single
  · split at found
    · next pair =>
        simp only [Option.some.injEq] at found
        subst found
        exact listed_of_pairKind pair
    · obtain ⟨kind, single, rfl⟩ := Option.map_eq_some_iff.1 found
      exact listed_of_singleKind single

theorem tokenText_readMark {c : Char} {rest lexeme : List Char} {kind : Kind}
    (found : (readMark c rest).1 = .token kind lexeme) : TokenText kind lexeme := by
  unfold readMark at found
  split at found
  · next split taken =>
      simp only [Segment.token.injEq] at found
      obtain ⟨rfl, rfl⟩ := found
      exact .mark (listed_of_mark? taken)
  · simp at found

theorem outdoes_readMark {c : Char} {text rest left : List Char} {kind : Kind}
    (listed : (text, kind) ∈ marks) (whole : text ++ left = c :: rest) :
    Outdoes (readMark c rest).1 kind text := by
  rcases cases_of_listed listed with ⟨c', rfl, single⟩ | ⟨c', d, rfl, pair⟩
  · obtain ⟨rfl, rfl⟩ := List.cons.inj whole
    cases left with
    | nil => exact ⟨kind, [c'], by simp [readMark, mark?, single], by simp⟩
    | cons d later =>
        cases pair : pairKind c' d with
        | none => exact ⟨kind, [c'], by simp [readMark, mark?, pair, single], by simp⟩
        | some longer => exact ⟨longer, [c', d], by simp [readMark, mark?, pair], by simp⟩
  · obtain ⟨rfl, rfl⟩ := List.cons.inj whole
    exact ⟨kind, [c', d], by simp [readMark, mark?, pair], by simp⟩

/-! ### All classes together -/

theorem read_of_isAlphabetic {c : Char} (letter : isAlphabetic c = true) (rest : List Char) :
    read c rest = readWord c rest := by
  simp [read, letter, isBlank_eq_false_of_isAlphabetic letter]

theorem read_of_startsNumber {c : Char} {rest : List Char} (starts : startsNumber c rest = true) :
    read c rest = readNumber c rest := by
  have other : isBlank c = false ∧ isAlphabetic c = false := by
    simp only [startsNumber, Bool.or_eq_true, Bool.and_eq_true, beq_iff_eq] at starts
    rcases starts with digit | ⟨rfl | rfl, _⟩
    · exact ⟨isBlank_eq_false_of_isDigit digit, isAlphabetic_eq_false_of_isDigit digit⟩
    · decide
    · decide
  simp [read, other, starts]

theorem read_quote (rest : List Char) : read '"' rest = readString '"' rest := rfl

theorem read_apostrophe (rest : List Char) : read '\'' rest = readCharacter '\'' rest := rfl

theorem read_of_listed {c : Char} {tail rest : List Char} {kind : Kind}
    (listed : (c :: tail, kind) ∈ marks) (unsigned : startsNumber c rest = false) :
    read c rest = readMark c rest := by
  obtain ⟨visible, unlettered, _, unquoted, straight, plain⟩ := head_of_listed listed
  simp [read, visible, unlettered, unsigned, unquoted, straight, plain]

theorem tokenText_readNumberSign {c : Char} {rest lexeme : List Char} {kind : Kind}
    (found : (readNumberSign c rest).1 = .token kind lexeme) : TokenText kind lexeme := by
  unfold readNumberSign at found
  split at found
  · simp at found
  · split at found <;> simp at found
  · exact tokenText_readMark found

theorem tokenText_of_read {c : Char} {rest lexeme : List Char} {kind : Kind} :
    (read c rest).1 = .token kind lexeme → TokenText kind lexeme := by
  refine read_cases c rest ?_ ?_ ?_ ?_ ?_ ?_ ?_
  · simp
  · exact fun letter => tokenText_readWord letter
  · exact fun starts => tokenText_readNumber starts
  · intro same
    subst same
    exact tokenText_readString
  · intro same
    subst same
    exact tokenText_readCharacter
  · exact fun _ => tokenText_readNumberSign
  · exact fun _ => tokenText_readMark

theorem startsNumber_of_sign {c d : Char} (signs : c = '+' ∨ c = '-') (digit : d.isDigit = true)
    (rest : List Char) : startsNumber c (d :: rest) = true := by
  simp [startsNumber, signs, digit]

theorem outdoes_of_number {c : Char} {sign digits part tail rest left : List Char}
    (signed : Sign sign) (some_digit : digits ≠ []) (all : Digits digits)
    (fractional : Fraction part) (scaled : Exponent tail)
    (whole : sign ++ digits ++ part ++ tail ++ left = c :: rest) :
    Outdoes (read c rest).1 (.literal (if part = [] ∧ tail = [] then .integer else .float))
      (sign ++ digits ++ part ++ tail) := by
  obtain ⟨d, later, rfl⟩ := List.exists_cons_of_ne_nil some_digit
  have digit : d.isDigit = true := all d (by simp)
  cases signed with
  | none =>
      -- the character already read is the first digit, not a sign
      simp only [List.nil_append, List.cons_append, List.append_assoc, List.cons.injEq] at whole
      obtain ⟨rfl, rfl⟩ := whole
      have others : Digits later := fun c member => all c (by simp [member])
      rw [read_of_startsNumber (by simp [startsNumber, digit])]
      simpa using outdoes_readNumber d others fractional scaled left
  | plus =>
      simp only [List.cons_append, List.nil_append, List.append_assoc, List.cons.injEq] at whole
      obtain ⟨rfl, rfl⟩ := whole
      rw [read_of_startsNumber (startsNumber_of_sign (.inl rfl) digit _)]
      simpa using outdoes_readNumber '+' all fractional scaled left
  | minus =>
      simp only [List.cons_append, List.nil_append, List.append_assoc, List.cons.injEq] at whole
      obtain ⟨rfl, rfl⟩ := whole
      rw [read_of_startsNumber (startsNumber_of_sign (.inr rfl) digit _)]
      simpa using outdoes_readNumber '-' all fractional scaled left

/-- Only a mark that is a single sign can begin a number, and the number is longer. -/
theorem outdoes_of_mark {c : Char} {text rest left : List Char} {kind : Kind}
    (listed : (text, kind) ∈ marks) (whole : text ++ left = c :: rest) :
    Outdoes (read c rest).1 kind text := by
  obtain ⟨first, tail, rfl⟩ := List.exists_cons_of_ne_nil (TokenText.mark listed).ne_nil
  simp only [List.cons_append, List.cons.injEq] at whole
  obtain ⟨rfl, rfl⟩ := whole
  cases starts : startsNumber first (tail ++ left) with
  | false =>
      rw [read_of_listed listed starts]
      exact outdoes_readMark listed rfl
  | true =>
      have unlike : first.isDigit = false := (head_of_listed listed).2.2.1
      have behind : (tail ++ left).head?.any Char.isDigit = true := by
        simp only [startsNumber, unlike, Bool.false_or, Bool.and_eq_true] at starts
        exact starts.2
      cases tail with
      | nil =>
          have longer := List.length_pos_iff.2 (whole_ne_nil behind)
          rw [read_of_startsNumber starts]
          refine ⟨_, _, rfl, .inl ?_⟩
          simp only [NumberSplit.lexeme, List.length_cons, List.length_append, List.length_nil]
          omega
      | cons d later =>
          have other : d.isDigit = false := tail_of_listed listed d (by simp)
          simp [other] at behind

/-- Whatever text of the language stands at a place, what is read there is a token that does not
fall short of it. -/
theorem outdoes_read {c : Char} {text rest left : List Char} {kind : Kind}
    (token : TokenText kind text) (whole : text ++ left = c :: rest) :
    Outdoes (read c rest).1 kind text := by
  cases token with
  | word letter parts named =>
      simp only [List.cons_append, List.cons.injEq] at whole
      obtain ⟨rfl, rfl⟩ := whole
      rw [read_of_isAlphabetic letter]
      exact outdoes_readWord parts named left
  | number signed some_digit all fractional scaled =>
      exact outdoes_of_number signed some_digit all fractional scaled whole
  | string closed =>
      simp only [List.cons_append, List.cons.injEq] at whole
      obtain ⟨rfl, rfl⟩ := whole
      rw [read_quote, readString_of_stringBody closed]
      exact ⟨_, _, rfl, .inr ⟨rfl, rfl⟩⟩
  | character unescaped =>
      simp only [List.cons_append, List.nil_append, List.cons.injEq] at whole
      obtain ⟨rfl, rfl⟩ := whole
      rw [read_apostrophe, readCharacter_plain unescaped]
      exact ⟨_, _, rfl, .inr ⟨rfl, rfl⟩⟩
  | escapedCharacter =>
      simp only [List.cons_append, List.nil_append, List.cons.injEq] at whole
      obtain ⟨rfl, rfl⟩ := whole
      rw [read_apostrophe, readCharacter_escaped]
      exact ⟨_, _, rfl, .inr ⟨rfl, rfl⟩⟩
  | mark listed => exact outdoes_of_mark listed whole

end LexScan.Segment

namespace LexScan.Scanner

open Grammar

/-- A text of the language with its kind at the front of a text, and what follows it: every other
one at the front is shorter, and the same text has no other kind. -/
structure LongestToken (text : List Char) (kind : Kind) (lexeme left : List Char) : Prop where
  member : TokenText kind lexeme
  whole : lexeme ++ left = text
  longest : ∀ other shorter, TokenText other shorter → shorter <+: text →
    shorter.length < lexeme.length ∨ shorter = lexeme ∧ other = kind

theorem longestToken_of_found {s next : Scanner} {token : Token}
    (found : s.step = .found token next) :
    LongestToken s.rest token.kind token.lexeme.toList next.rest := by
  obtain ⟨c, rest, unread, segment⟩ := read_of_step_eq_found found
  have whole := Segment.read_append c rest
  rw [segment, ← unread] at whole
  refine ⟨Segment.tokenText_of_read (congrArg Prod.fst segment), whole, ?_⟩
  intro other shorter member front
  obtain ⟨left, front⟩ := front
  obtain ⟨kind, lexeme, same, outdone⟩ := Segment.outdoes_read member (front.trans unread)
  rw [segment, Segment.token.injEq] at same
  obtain ⟨rfl, rfl⟩ := same
  exact outdone

/-- Whatever the state of a scanner, a step finds a token just where a text of the language stands,
and the token is the longest one there, with its kind. -/
theorem step_takes_longest (s : Scanner) :
    ((∃ token next, s.step = .found token next ∧ token.isEndOfInput = false) ↔
      ∃ kind lexeme, TokenText kind lexeme ∧ lexeme <+: s.rest) ∧
    ∀ token next, s.step = .found token next →
      LongestToken s.rest token.kind token.lexeme.toList next.rest := by
  refine ⟨⟨?_, ?_⟩, fun token next => longestToken_of_found⟩
  · rintro ⟨token, next, found, _⟩
    have longest := longestToken_of_found found
    exact ⟨token.kind, token.lexeme.toList, longest.member, next.rest, longest.whole⟩
  · rintro ⟨kind, lexeme, member, left, front⟩
    obtain ⟨c, tail, rfl⟩ := List.exists_cons_of_ne_nil member.ne_nil
    obtain ⟨longest, text, segment, _⟩ := Segment.outdoes_read member (List.cons_append ..)
    obtain ⟨next, found⟩ := step_eq_found_of_read front.symm segment
    refine ⟨_, next, found, ?_⟩
    have kept := (longestToken_of_found found).member.ne_endOfInput
    simpa [Token.isEndOfInput] using kept

end LexScan.Scanner
