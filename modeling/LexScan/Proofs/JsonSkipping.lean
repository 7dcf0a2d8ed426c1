import LexScan.Json.Skip
import LexScan.Proofs.JsonReading

/-! Values are passed over. A value of the grammar, however deep, is skipped as a whole and nothing
behind it: the brackets that it opens are put on the stack and taken off again, so that the stack
below is the same before and after. Blanks behind a value are left to whoever looks next. -/
namespace LexScan.Json

open Grammar Text

/-! ### Strings -/

theorem skipString_escaped {text left : List Char} (escape : skipEscape text = .ok left) :
    skipString ('\\' :: text) = skipString left := by
  rw [skipString]
  simp only [Char.reduceEq, if_false, if_true]
  split
  · next flaw refused => simp [escape] at refused
  · next read => rw [escape] at read; cases read; rfl

theorem skipEscape_of_hexCode {a b c d : Char} {code : Nat} (hex : hexCode? a b c d = some code)
    (rest : List Char) : skipEscape ('u' :: a :: b :: c :: d :: rest) = .ok rest := by
  simp [skipEscape, readHex_of_hexCode hex, Except.map]

theorem skipEscape_of_escapeOf {letter meaning : Char} (listed : escapeOf? letter = some meaning)
    (rest : List Char) : skipEscape (letter :: rest) = .ok rest := by
  have lettered : letter ≠ 'u' := by
    rintro rfl
    simp [escapeOf?] at listed
  simp [skipEscape, lettered, listed]

/-- The two escapes of a pair of surrogates are passed one after the other. -/
theorem skipString_characterText {c : Char} {piece : List Char} (written : CharacterText c piece)
    (rest : List Char) : skipString (piece ++ rest) = skipString rest := by
  cases written with
  | plain unquoted unescaped visible =>
      have shown : ¬ c.toNat < 32 := by omega
      rw [List.singleton_append, skipString]
      simp [unquoted, unescaped, shown]
  | escape listed => exact skipString_escaped (skipEscape_of_escapeOf listed rest)
  | numbered hex unpaired => exact skipString_escaped (skipEscape_of_hexCode hex rest)
  | paired first second leads trails =>
      exact (skipString_escaped (skipEscape_of_hexCode first _)).trans
        (skipString_escaped (skipEscape_of_hexCode second rest))

theorem skipString_of_stringBody {content body : List Char} (written : StringBody content body)
    (rest : List Char) : skipString (body ++ rest) = .ok rest := by
  induction written with
  | close => simp [skipString]
  | character first others ih => rw [List.append_assoc, skipString_characterText first, ih]

/-! ### Numbers -/

theorem startsWithDigit_append {digits : List Char} (some_digit : digits ≠ []) (all : Digits digits)
    (rest : List Char) : startsWithDigit (digits ++ rest) = true := by
  obtain ⟨c, later, rfl⟩ := List.exists_cons_of_ne_nil some_digit
  simp [startsWithDigit, all c (by simp)]

theorem dropDigits_append {digits rest : List Char} (all : Digits digits)
    (other : startsWithDigit rest = false) : (digits ++ rest).dropWhile Char.isDigit = rest := by
  rw [List.dropWhile_append_of_pos all]
  cases rest with
  | nil => rfl
  | cons c rest => simp_all [startsWithDigit]

theorem readSign_append {sign digits : List Char} (signed : Sign sign) (some_digit : digits ≠ [])
    (all : Digits digits) (rest : List Char) :
    (readSign (sign ++ (digits ++ rest))).2 = digits ++ rest := by
  obtain ⟨c, later, rfl⟩ := List.exists_cons_of_ne_nil some_digit
  have digit := all c (by simp)
  cases signed with
  | none =>
      unfold readSign
      split <;> simp_all
  | _ => rfl

theorem skipAfterFraction_append {exponent rest : List Char} (scaled : ExponentPart exponent)
    (ends : Ends rest) : skipAfterFraction (exponent ++ rest) = .ok rest := by
  cases scaled with
  | none =>
      cases rest with
      | nil => rfl
      | cons c rest =>
          have mark : isExponentMark c = false := by
            have part := ends c (by simp)
            simp only [isNumeralPart, Bool.or_eq_false_iff, decide_eq_false_iff_not] at part
            simp_all [isExponentMark]
          simp [skipAfterFraction, mark]
  | @letter letter sign digits either signed some_digit all =>
      have mark : isExponentMark letter = true := by rcases either with rfl | rfl <;> rfl
      simp [skipAfterFraction, skipExponent, mark, readSign_append signed some_digit all,
        startsWithDigit_append some_digit all, dropDigits_append all ends.startsWithDigit]

theorem ExponentPart.startsWithDigit {exponent rest : List Char} (scaled : ExponentPart exponent)
    (ends : Ends rest) : Json.startsWithDigit (exponent ++ rest) = false := by
  cases scaled with
  | none => exact ends.startsWithDigit
  | letter either signed some_digit all => rcases either with rfl | rfl <;> rfl

theorem skipAfterWhole_append {fraction exponent rest : List Char}
    (fractional : FractionPart fraction) (scaled : ExponentPart exponent) (ends : Ends rest) :
    skipAfterWhole (fraction ++ (exponent ++ rest)) = .ok rest := by
  have behind := skipAfterFraction_append scaled ends
  cases fractional with
  | none =>
      rw [List.nil_append]
      cases text : exponent ++ rest with
      | nil => simpa [text, skipAfterFraction, skipAfterWhole] using behind
      | cons c later =>
          have point : c ≠ '.' := by
            rintro rfl
            cases scaled with
            | none => simpa [isNumeralPart] using ends '.' (by simp_all)
            | letter either _ _ _ => rcases either with rfl | rfl <;> simp at text
          rw [skipAfterWhole, if_neg point, ← text, behind]
  | point some_digit all =>
      rw [List.cons_append, skipAfterWhole, if_pos rfl,
        if_pos (startsWithDigit_append some_digit all _),
        dropDigits_append all (scaled.startsWithDigit ends), behind]

theorem FractionPart.startsWithDigit {fraction exponent rest : List Char}
    (fractional : FractionPart fraction) (scaled : ExponentPart exponent) (ends : Ends rest) :
    Json.startsWithDigit (fraction ++ (exponent ++ rest)) = false := by
  cases fractional with
  | none => exact scaled.startsWithDigit ends
  | point some_digit all => rfl

theorem skipUnsigned_append {whole fraction exponent rest : List Char} (natural : WholePart whole)
    (fractional : FractionPart fraction) (scaled : ExponentPart exponent) (ends : Ends rest) :
    skipUnsigned (whole ++ (fraction ++ (exponent ++ rest))) = .ok rest := by
  have behind := skipAfterWhole_append fractional scaled ends
  have other := fractional.startsWithDigit scaled ends
  cases natural with
  | zero => simp [skipUnsigned, other, behind]
  | digits digit nonzero all =>
      simp [skipUnsigned, nonzero, digit, dropDigits_append all other, behind]

theorem skipNumber_of_numeral {numeral rest : List Char} (formed : Numeral numeral)
    (ends : Ends rest) : skipNumber (numeral ++ rest) = .ok rest := by
  cases formed with
  | @unsigned whole fraction exponent natural fractional scaled =>
      have skipped := skipUnsigned_append natural fractional scaled ends
      rw [List.append_assoc, List.append_assoc]
      unfold skipNumber
      split
      · next same =>
          cases natural <;> simp_all
      · exact skipped
  | negative natural fractional scaled =>
      simpa [skipNumber] using skipUnsigned_append natural fractional scaled ends

theorem skipScalar_of_isNumeralStart {c : Char} (numeral : isNumeralStart c = true)
    (rest : List Char) : skipScalar (c :: rest) = skipNumber (c :: rest) := by
  have letters : ∀ letter ∈ ['n', 't', 'f', '"'], isNumeralStart letter = false := by
    simp [isNumeralStart]
  unfold skipScalar
  split <;> simp_all

theorem skipScalar_of_scalarText {value : Value} {text rest : List Char}
    (written : ScalarText value text) (ends : Ends rest) :
    skipScalar (text ++ rest) = .ok rest := by
  cases written with
  | number formed =>
      have skipped := skipNumber_of_numeral formed ends
      obtain ⟨c, tail, rfl, start⟩ := formed.head
      have numeral : isNumeralStart c = true := by
        rcases start with rfl | digit
        · rfl
        · simp [isNumeralStart, digit]
      rw [List.cons_append] at skipped ⊢
      rw [skipScalar_of_isNumeralStart numeral, skipped]
  | string written => exact skipString_of_stringBody written rest
  | _ => exact readWord_append_self _ rest

/-! ### Steps -/

namespace Bracket

def opening : Bracket → Char
  | .list => '['
  | .object => '{'

def closing : Bracket → Char
  | .list => ']'
  | .object => '}'

/-- Passes over what stands before a value inside the bracket. -/
def enter : Bracket → List Char → Except Flaw (List Char)
  | .list, text => .ok text
  | .object, text => skipName text

theorem isBlank_opening (bracket : Bracket) : isBlank bracket.opening = false := by
  cases bracket <;> rfl

theorem isBlank_closing (bracket : Bracket) : isBlank bracket.closing = false := by
  cases bracket <;> rfl

theorem stops_closing (bracket : Bracket) (rest : List Char) : Stops (bracket.closing :: rest) := by
  cases bracket <;> exact stops_cons (by simp [closing]) rest

end Bracket

theorem skipBlanks_opening {gap : List Char} (blank : Blanks gap) (bracket : Bracket)
    (rest : List Char) :
    skipBlanks (gap ++ bracket.opening :: rest) = bracket.opening :: rest :=
  skipBlanks_append blank (by simpa using bracket.isBlank_opening)

theorem skipBlanks_closing {gap : List Char} (blank : Blanks gap) (bracket : Bracket)
    (rest : List Char) :
    skipBlanks (gap ++ bracket.closing :: rest) = bracket.closing :: rest :=
  skipBlanks_append blank (by simpa using bracket.isBlank_closing)

theorem skipBlanks_of_opens {text : List Char} (opens : Opens text) :
    ∃ c tail, skipBlanks text = c :: tail ∧ c ≠ ']' ∧ c ≠ '}' := by
  obtain ⟨before, c, tail, rfl, lead, visible, bracket, brace⟩ := opens
  exact ⟨c, tail, skipBlanks_append lead (by simpa using visible), bracket, brace⟩

section

variable {stack : List Bracket} {gap inner rest left : List Char} (blank : Blanks gap)
  (bracket : Bracket)

include blank

theorem skipUntilClosed_empty (blank' : Blanks inner) :
    skipUntilClosed stack true (gap ++ bracket.opening :: (inner ++ bracket.closing :: rest)) =
      skipUntilClosed stack false rest := by
  have opened := skipBlanks_opening blank bracket (inner ++ bracket.closing :: rest)
  have closed := skipBlanks_closing blank' bracket rest
  rw [skipUntilClosed]
  cases bracket with
  | list =>
      simp only [Bracket.opening, Bracket.closing] at *
      split <;> simp_all
      split <;> simp_all
  | object =>
      simp only [Bracket.opening, Bracket.closing] at *
      split <;> simp_all
      split <;> simp_all

theorem skipUntilClosed_open (opens : Opens rest) (entered : bracket.enter rest = .ok left) :
    skipUntilClosed stack true (gap ++ bracket.opening :: rest) =
      skipUntilClosed (bracket :: stack) true left := by
  have opened := skipBlanks_opening blank bracket rest
  obtain ⟨c, tail, first, unlike⟩ := skipBlanks_of_opens opens
  conv_lhs => rw [skipUntilClosed]
  cases bracket with
  | list =>
      simp only [Bracket.opening, Bracket.enter] at *
      split <;> simp_all
  | object =>
      simp only [Bracket.opening, Bracket.enter] at *
      split <;> simp_all
      split <;> simp_all

theorem skipUntilClosed_next (entered : bracket.enter rest = .ok left) :
    skipUntilClosed (bracket :: stack) false (gap ++ ',' :: rest) =
      skipUntilClosed (bracket :: stack) true left := by
  have comma : skipBlanks (gap ++ ',' :: rest) = ',' :: rest :=
    skipBlanks_append blank (by simp [isBlank])
  conv_lhs => rw [skipUntilClosed.eq_def]
  cases bracket with
  | list =>
      simp only [Bracket.enter, Except.ok.injEq] at *
      split <;> simp_all
  | object =>
      simp only [Bracket.enter] at *
      split <;> simp_all
      split <;> simp_all

theorem skipUntilClosed_close :
    skipUntilClosed (bracket :: stack) false (gap ++ bracket.closing :: rest) =
      skipUntilClosed stack false rest := by
  have closed := skipBlanks_closing blank bracket rest
  conv_lhs => rw [skipUntilClosed.eq_def]
  cases bracket with
  | list =>
      simp only [Bracket.closing] at *
      split <;> simp_all
  | object =>
      simp only [Bracket.closing] at *
      split <;> simp_all

theorem skipUntilClosed_scalar {value : Value} {text : List Char} (written : ScalarText value text)
    (ends : Ends rest) :
    skipUntilClosed stack true (gap ++ (text ++ rest)) = skipUntilClosed stack false rest := by
  have skipped := skipScalar_of_scalarText written ends
  obtain ⟨c, tail, rfl, starts, bracket, brace⟩ := written.head
  have opened : skipBlanks (gap ++ (c :: tail ++ rest)) = c :: tail ++ rest :=
    skipBlanks_append blank (by simpa using (visible_of_startsValue starts).1)
  rw [skipUntilClosed]
  split <;> simp_all
  split <;> simp_all

theorem readColon_append : readColon (gap ++ ':' :: rest) = .ok rest := by
  unfold readColon
  rw [skipBlanks_append blank (by simp [isBlank])]
  simp

end

theorem skipName_of_stringBody {before name body middle : List Char} (lead : Blanks before)
    (quoted : StringBody name body) (gap : Blanks middle) (rest : List Char) :
    skipName (before ++ '"' :: (body ++ (middle ++ ':' :: rest))) = .ok rest := by
  unfold skipName
  rw [skipBlanks_append lead (by simp [isBlank])]
  simp [skipString_of_stringBody quoted, readColon_append gap, bind, Except.bind]

/-! ### Brackets -/

/-- A part of a list or object is passed over up to blanks, whatever brackets are open. -/
def Passed (bracket : Bracket) (text : List Char) : Prop :=
  ∀ (stack : List Bracket) (rest : List Char), Stops rest → ∃ left after,
    bracket.enter (text ++ rest) = .ok left ∧ Blanks after ∧
    skipUntilClosed stack true left = skipUntilClosed stack false (after ++ rest)

/-- The parts are passed one after the other, and the bracket is closed behind the last one. -/
theorem skipUntilClosed_of_parts {bracket : Bracket} {text inner : List Char}
    {later : List (List Char)} (passed : ∀ part ∈ text :: later, Passed bracket part)
    (fills : Fills (text :: later) inner) (stack : List Bracket) (rest : List Char) :
    ∃ left, bracket.enter (inner ++ bracket.closing :: rest) = .ok left ∧
      skipUntilClosed (bracket :: stack) true left = skipUntilClosed stack false rest := by
  induction later generalizing text inner with
  | nil =>
      cases fills with
      | last =>
          obtain ⟨left, after, entered, blank, part⟩ :=
            passed text (by simp) (bracket :: stack) _ (bracket.stops_closing rest)
          exact ⟨left, entered, by rw [part, skipUntilClosed_close blank]⟩
  | cons next later ih =>
      cases fills with
      | @more _ _ others _ behind =>
          obtain ⟨left, after, entered, blank, part⟩ := passed text (by simp) (bracket :: stack)
            (',' :: (others ++ bracket.closing :: rest)) (stops_cons (by simp) _)
          obtain ⟨left', entered', parts⟩ :=
            ih (fun part member => passed part (.tail _ member)) behind
          refine ⟨left, by simpa using entered, ?_⟩
          rw [part, skipUntilClosed_next blank bracket entered', parts]

theorem skipUntilClosed_of_fills {bracket : Bracket} {parts : List (List Char)}
    {gap inner : List Char} (passed : ∀ part ∈ parts, Passed bracket part)
    (opens : ∀ part ∈ parts, Opens part) (fills : Fills parts inner) (blank : Blanks gap)
    (stack : List Bracket) (rest : List Char) :
    skipUntilClosed stack true (gap ++ bracket.opening :: (inner ++ bracket.closing :: rest)) =
      skipUntilClosed stack false rest := by
  cases parts with
  | nil =>
      cases fills with
      | nothing blank' => exact skipUntilClosed_empty blank bracket blank'
  | cons text later =>
      have opened := (fills.opens (opens text (by simp))).append (bracket.closing :: rest)
      obtain ⟨left, entered, closed⟩ := skipUntilClosed_of_parts passed fills stack rest
      rw [skipUntilClosed_open blank bracket opened entered, closed]

/-! ### Values -/

mutual

/-- A value is passed over together with the blanks before it. -/
theorem ValueText.skipped {value : Value} {gap text rest : List Char}
    (written : ValueText value text) (blank : Blanks gap) (ends : Ends rest)
    (stack : List Bracket) :
    skipUntilClosed stack true (gap ++ (text ++ rest)) = skipUntilClosed stack false rest := by
  match written with
  | .scalar scalar => exact skipUntilClosed_scalar blank scalar ends
  | @ValueText.array parts inner items fills =>
      have passed : ∀ part ∈ parts.map Prod.snd, Passed .list part := by
        simp only [List.forall_mem_map]
        exact fun part member => (items part member).passed
      have opens : ∀ part ∈ parts.map Prod.snd, Opens part := by
        simp only [List.forall_mem_map]
        exact fun part member => (items part member).opens
      simpa [Bracket.opening, Bracket.closing] using
        skipUntilClosed_of_fills passed opens fills blank stack rest
  | @ValueText.object parts inner members fills =>
      have passed : ∀ part ∈ parts.map Prod.snd, Passed .object part := by
        simp only [List.forall_mem_map]
        exact fun part member => (members part member).passed
      have opens : ∀ part ∈ parts.map Prod.snd, Opens part := by
        simp only [List.forall_mem_map]
        exact fun part member => (members part member).opens
      simpa [Bracket.opening, Bracket.closing] using
        skipUntilClosed_of_fills passed opens fills blank stack rest
termination_by structural written

theorem ItemText.passed {value : Value} {text : List Char} (written : ItemText value text) :
    Passed .list text := by
  intro stack rest stops
  match written with
  | .spaced lead inner trail =>
      refine ⟨_, _, rfl, trail, ?_⟩
      simpa using inner.skipped lead (stops.ends trail) stack
termination_by structural written

theorem MemberText.passed {member : String × Value} {text : List Char}
    (written : MemberText member text) : Passed .object text := by
  intro stack rest stops
  match written with
  | @MemberText.named name before body middle text value lead quoted gap inner =>
      obtain ⟨_, after, ⟨rfl⟩, blank, passed⟩ := inner.passed stack rest stops
      refine ⟨text ++ rest, after, ?_, blank, passed⟩
      simpa [Bracket.enter] using skipName_of_stringBody lead quoted gap (text ++ rest)
termination_by structural written

end

/-- A value is skipped and nothing behind it but blanks. -/
theorem ItemText.skipValue {value : Value} {text rest : List Char} (written : ItemText value text)
    (stops : Stops rest) :
    ∃ after, Blanks after ∧ skipValue (text ++ rest) = .ok (after ++ rest) := by
  obtain ⟨_, after, ⟨rfl⟩, blank, passed⟩ := written.passed [] rest stops
  refine ⟨after, blank, passed.trans ?_⟩
  rw [skipUntilClosed]

end LexScan.Json
