import LexScan.Decimal.Binary
import LexScan.Json.Reader
import LexScan.Proofs.Grammar

/-! JSON texts as a set of texts, each with the value that it stands for. Blanks may stand around
every value, name and mark; a character of a string may be written as it is or escaped; numbers are
exact. Nothing here reads from the front of a longer text, and nothing says how a text is written.
The main result is that a text stands for one value only, so that all who read it agree. -/
namespace LexScan.Json

open Grammar Text

inductive Value where
  | null
  | bool (value : Bool)
  | number (value : Rat)
  | string (text : String)
  | array (items : List Value)
  | object (members : List (String × Value))

def Blanks (gap : List Char) : Prop := ∀ c ∈ gap, isBlank c = true

/-! ### Numbers -/

/-- Digits without zeros in front. -/
inductive WholePart : List Char → Prop where
  | zero : WholePart ['0']
  | digits {first : Char} {later : List Char} (digit : first.isDigit = true) (nonzero : first ≠ '0')
      (all : Digits later) : WholePart (first :: later)

inductive FractionPart : List Char → Prop where
  | none : FractionPart []
  | point {digits : List Char} (some_digit : digits ≠ []) (all : Digits digits) :
      FractionPart ('.' :: digits)

inductive ExponentPart : List Char → Prop where
  | none : ExponentPart []
  | letter {letter : Char} {sign digits : List Char} (either : letter = 'e' ∨ letter = 'E')
      (signed : Sign sign) (some_digit : digits ≠ []) (all : Digits digits) :
      ExponentPart (letter :: (sign ++ digits))

inductive Numeral : List Char → Prop where
  | unsigned {whole fraction exponent : List Char} (natural : WholePart whole)
      (fractional : FractionPart fraction) (scaled : ExponentPart exponent) :
      Numeral (whole ++ (fraction ++ exponent))
  | negative {whole fraction exponent : List Char} (natural : WholePart whole)
      (fractional : FractionPart fraction) (scaled : ExponentPart exponent) :
      Numeral ('-' :: (whole ++ (fraction ++ exponent)))

/-- Digits, to be multiplied by a power of ten. -/
def decimalValue (digits : List Char) (power : Int) : Rat :=
  mkRat (Nat.ofDigitChars 10 digits 0 * Decimal.powerOfTen power.toNat : Nat)
    (Decimal.powerOfTen (-power).toNat)

/-- The power that the part behind all other digits stands for. -/
def exponentValue : List Char → Int
  | [] => 0
  | _ :: '-' :: digits => -(Nat.ofDigitChars 10 digits 0 : Int)
  | _ :: '+' :: digits => (Nat.ofDigitChars 10 digits 0 : Int)
  | _ :: digits => (Nat.ofDigitChars 10 digits 0 : Int)

def unsignedValue (text : List Char) : Rat :=
  let whole := text.takeWhile Char.isDigit
  match text.dropWhile Char.isDigit with
  | '.' :: rest =>
      let fraction := rest.takeWhile Char.isDigit
      decimalValue (whole ++ fraction)
        (exponentValue (rest.dropWhile Char.isDigit) - fraction.length)
  | rest => decimalValue whole (exponentValue rest)

/-- The number that a numeral stands for. -/
def numeralValue : List Char → Rat
  | '-' :: text => -unsignedValue text
  | text => unsignedValue text

/-! ### Strings -/

/-- The number that four hexadecimal digits stand for. -/
def hexCode? (a b c d : Char) : Option Nat := do
  return (((← hexValue? a) * 16 + (← hexValue? b)) * 16 + (← hexValue? c)) * 16 + (← hexValue? d)

/-- How a character may be written in a string: as it is, by a letter behind a backslash, or by its
number, which is given by two surrogates beyond 16 bits. A surrogate alone is no character. -/
inductive CharacterText : Char → List Char → Prop where
  | plain {c : Char} (unquoted : c ≠ '"') (unescaped : c ≠ '\\') (visible : 32 ≤ c.toNat) :
      CharacterText c [c]
  | escape {letter meaning : Char} (listed : escapeOf? letter = some meaning) :
      CharacterText meaning ['\\', letter]
  | numbered {a b c d : Char} {code : Nat} (hex : hexCode? a b c d = some code)
      (unpaired : isLeadingSurrogate code = false ∧ isTrailingSurrogate code = false) :
      CharacterText (Char.ofNat code) ['\\', 'u', a, b, c, d]
  | paired {a b c d e f g h : Char} {leading trailing : Nat}
      (first : hexCode? a b c d = some leading) (second : hexCode? e f g h = some trailing)
      (leads : isLeadingSurrogate leading = true) (trails : isTrailingSurrogate trailing = true) :
      CharacterText (Char.ofNat ((leading - 0xD800) * 1024 + (trailing - 0xDC00) + 0x10000))
        ['\\', 'u', a, b, c, d, '\\', 'u', e, f, g, h]

/-- The characters of a string as they are written, with the closing quote. -/
inductive StringBody : List Char → List Char → Prop where
  | close : StringBody [] ['"']
  | character {c : Char} {content piece later : List Char} (first : CharacterText c piece)
      (others : StringBody content later) : StringBody (c :: content) (piece ++ later)

/-! ### Values -/

/-- The values without parts. -/
inductive ScalarText : Value → List Char → Prop where
  | null : ScalarText .null ['n', 'u', 'l', 'l']
  | yes : ScalarText (.bool true) ['t', 'r', 'u', 'e']
  | no : ScalarText (.bool false) ['f', 'a', 'l', 's', 'e']
  | number {numeral : List Char} (formed : Numeral numeral) :
      ScalarText (.number (numeralValue numeral)) numeral
  | string {content body : List Char} (written : StringBody content body) :
      ScalarText (.string (String.ofList content)) ('"' :: body)

/-- What stands between two brackets: blanks only, or texts with commas between them. -/
inductive Fills : List (List Char) → List Char → Prop where
  | nothing {gap : List Char} (blank : Blanks gap) : Fills [] gap
  | last (text : List Char) : Fills [text] text
  | more (text : List Char) {next inner : List Char} {later : List (List Char)}
      (others : Fills (next :: later) inner) : Fills (text :: next :: later) (text ++ ',' :: inner)

mutual

/-- The texts of a value without blanks around it. The parts of an array or object are given with
the text of each. -/
inductive ValueText : Value → List Char → Prop where
  | scalar {value : Value} {text : List Char} (written : ScalarText value text) :
      ValueText value text
  | array {parts : List (Value × List Char)} {inner : List Char}
      (written : ∀ part ∈ parts, ItemText part.1 part.2)
      (fills : Fills (parts.map Prod.snd) inner) :
      ValueText (.array (parts.map Prod.fst)) ('[' :: (inner ++ [']']))
  | object {parts : List ((String × Value) × List Char)} {inner : List Char}
      (written : ∀ part ∈ parts, MemberText part.1 part.2)
      (fills : Fills (parts.map Prod.snd) inner) :
      ValueText (.object (parts.map Prod.fst)) ('{' :: (inner ++ ['}']))

/-- A value with blanks around it. This is also what a whole text consists of. -/
inductive ItemText : Value → List Char → Prop where
  | spaced {value : Value} {before text after : List Char} (lead : Blanks before)
      (written : ValueText value text) (trail : Blanks after) :
      ItemText value (before ++ (text ++ after))

/-- A name in quotes, a colon and a value. -/
inductive MemberText : String × Value → List Char → Prop where
  | named {name before body middle text : List Char} {value : Value} (lead : Blanks before)
      (quoted : StringBody name body) (gap : Blanks middle) (written : ItemText value text) :
      MemberText (String.ofList name, value) (before ++ '"' :: (body ++ (middle ++ ':' :: text)))

end

/-! ### What can follow -/

def isNumeralPart (c : Char) : Bool := c.isDigit || c ∈ ['-', '+', '.', 'e', 'E']

def startsValue (c : Char) : Bool := c.isDigit || c ∈ ['-', 'n', 't', 'f', '"', '[', '{']

/-- A text that a number in front of it does not run on into. -/
def Ends (rest : List Char) : Prop := ∀ c ∈ rest.head?, isNumeralPart c = false

/-- A text that neither a number nor blanks in front of it run on into. -/
def Stops (rest : List Char) : Prop :=
  ∀ c ∈ rest.head?, isNumeralPart c = false ∧ isBlank c = false

theorem isBlank_iff_listed (c : Char) :
    isBlank c = true ↔ c ∈ [' ', '\t', '\r', '\n'] := by
  simp [isBlank, or_assoc]

theorem visible_of_startsValue {c : Char} (starts : startsValue c = true) :
    isBlank c = false ∧ c ≠ ']' ∧ c ≠ '}' := by
  refine ⟨?_, ?_, ?_⟩
  · cases blank : isBlank c with
    | false => rfl
    | true =>
        have listed : ∀ c ∈ [' ', '\t', '\r', '\n'], startsValue c = false := by
          simp [startsValue]
        simp [listed c ((isBlank_iff_listed c).1 blank)] at starts
  · rintro rfl
    simp [startsValue] at starts
  · rintro rfl
    simp [startsValue] at starts

theorem skipBlanks_append {gap rest : List Char} (blank : Blanks gap)
    (visible : ∀ c ∈ rest.head?, isBlank c = false) : skipBlanks (gap ++ rest) = rest := by
  rw [skipBlanks, List.dropWhile_append_of_pos blank]
  cases rest with
  | nil => rfl
  | cons c rest => simp [visible c (by simp)]

/-- Blanks end where something visible begins. -/
theorem Blanks.cancel {gap other rest left : List Char} (blank : Blanks gap)
    (blank' : Blanks other) (visible : ∀ c ∈ rest.head?, isBlank c = false)
    (visible' : ∀ c ∈ left.head?, isBlank c = false) (same : gap ++ rest = other ++ left) :
    rest = left := by
  rw [← skipBlanks_append blank visible, same, skipBlanks_append blank' visible']

theorem isNumeralPart_eq_false_of_isBlank {c : Char} (blank : isBlank c = true) :
    isNumeralPart c = false := by
  have listed : ∀ c ∈ [' ', '\t', '\r', '\n'], isNumeralPart c = false := by
    simp [isNumeralPart]
  exact listed c ((isBlank_iff_listed c).1 blank)

theorem Stops.ends {gap rest : List Char} (stops : Stops rest) (blank : Blanks gap) :
    Ends (gap ++ rest) := by
  intro c first
  cases gap with
  | nil => exact (stops c first).1
  | cons space gap =>
      obtain rfl : space = c := by simpa using first
      exact isNumeralPart_eq_false_of_isBlank (blank space (by simp))

theorem Stops.visible {rest : List Char} (stops : Stops rest) :
    ∀ c ∈ rest.head?, isBlank c = false := fun c first => (stops c first).2

theorem stops_cons {c : Char} (mark : c ∈ [',', ']', '}']) (rest : List Char) :
    Stops (c :: rest) := by
  have listed : ∀ c ∈ [',', ']', '}'], isNumeralPart c = false ∧ isBlank c = false := by
    simp [isNumeralPart, isBlank]
  intro d first
  obtain rfl : c = d := by simpa using first
  exact listed c mark

/-! ### Where a value ends -/

theorem isNumeralPart_of_digits {digits : List Char} (all : Digits digits) :
    ∀ c ∈ digits, isNumeralPart c = true := by
  intro c member
  simp [isNumeralPart, all c member]

theorem WholePart.parts {text : List Char} (whole : WholePart text) : Digits text := by
  cases whole with
  | zero => simp [Digits]
  | digits digit nonzero all => simpa [Digits, digit] using all

theorem FractionPart.parts {text : List Char} (fraction : FractionPart text) :
    ∀ c ∈ text, isNumeralPart c = true := by
  cases fraction with
  | none => simp
  | point some_digit all =>
      intro c member
      rcases List.mem_cons.1 member with rfl | later
      · rfl
      · exact isNumeralPart_of_digits all c later

theorem ExponentPart.parts {text : List Char} (exponent : ExponentPart text) :
    ∀ c ∈ text, isNumeralPart c = true := by
  cases exponent with
  | none => simp
  | letter either signed some_digit all =>
      intro c member
      simp only [List.mem_cons, List.mem_append] at member
      rcases member with rfl | sign | digit
      · rcases either with rfl | rfl <;> rfl
      · cases signed <;> simp_all [isNumeralPart]
      · exact isNumeralPart_of_digits all c digit

theorem Numeral.parts {text : List Char} (numeral : Numeral text) :
    ∀ c ∈ text, isNumeralPart c = true := by
  have unsigned {whole fraction exponent : List Char} (natural : WholePart whole)
      (fractional : FractionPart fraction) (scaled : ExponentPart exponent) :
      ∀ c ∈ whole ++ (fraction ++ exponent), isNumeralPart c = true := by
    intro c member
    simp only [List.mem_append] at member
    rcases member with digit | point | letter
    · exact isNumeralPart_of_digits natural.parts c digit
    · exact fractional.parts c point
    · exact scaled.parts c letter
  cases numeral with
  | unsigned natural fractional scaled => exact unsigned natural fractional scaled
  | negative natural fractional scaled =>
      intro c member
      rcases List.mem_cons.1 member with rfl | later
      · rfl
      · exact unsigned natural fractional scaled c later

theorem Numeral.head {text : List Char} (numeral : Numeral text) :
    ∃ c tail, text = c :: tail ∧ (c = '-' ∨ c.isDigit = true) := by
  cases numeral with
  | unsigned natural fractional scaled =>
      cases natural with
      | zero => exact ⟨'0', _, rfl, .inr rfl⟩
      | digits digit nonzero all => exact ⟨_, _, rfl, .inr digit⟩
  | negative natural fractional scaled => exact ⟨'-', _, rfl, .inl rfl⟩

theorem Numeral.takeWhile {text rest : List Char} (numeral : Numeral text) (ends : Ends rest) :
    (text ++ rest).takeWhile isNumeralPart = text := by
  rw [List.takeWhile_append_of_pos numeral.parts]
  cases rest with
  | nil => simp
  | cons c rest => simp [ends c (by simp)]

theorem Numeral.append_ne_cons {text rest tail : List Char} {c : Char} (numeral : Numeral text)
    (other : isNumeralPart c = false) : text ++ rest ≠ c :: tail := by
  intro same
  obtain ⟨first, later, rfl, _⟩ := numeral.head
  have part := numeral.parts first (by simp)
  simp only [List.cons_append, List.cons.injEq] at same
  simp [same.1, other] at part

theorem CharacterText.head {c : Char} {text : List Char} (written : CharacterText c text) :
    ∃ first tail, text = first :: tail ∧ first ≠ '"' := by
  cases written with
  | plain unquoted unescaped visible => exact ⟨_, _, rfl, unquoted⟩
  | _ => exact ⟨'\\', _, rfl, by decide⟩

theorem CharacterText.unique {c d : Char} {text other rest left : List Char}
    (first : CharacterText c text) (second : CharacterText d other)
    (same : text ++ rest = other ++ left) : c = d ∧ rest = left := by
  -- `u` is no escape of its own, and a leading surrogate is not numbered alone
  have unlisted : escapeOf? 'u' = none := rfl
  cases first <;> cases second <;>
    simp only [List.cons_append, List.nil_append, List.cons.injEq] at same <;> grind

theorem StringBody.unique {content others text other rest left : List Char}
    (first : StringBody content text) (second : StringBody others other)
    (same : text ++ rest = other ++ left) : content = others ∧ rest = left := by
  induction first generalizing others other with
  | close =>
      cases second with
      | close => simpa using same
      | character written later =>
          obtain ⟨first, tail, rfl, unquoted⟩ := written.head
          simp only [List.cons_append, List.cons.injEq] at same
          exact absurd same.1.symm unquoted
  | character written later ih =>
      cases second with
      | close =>
          obtain ⟨first, tail, rfl, unquoted⟩ := written.head
          simp only [List.cons_append, List.cons.injEq] at same
          exact absurd same.1 unquoted
      | character written' later' =>
          rw [List.append_assoc, List.append_assoc] at same
          obtain ⟨rfl, same⟩ := written.unique written' same
          obtain ⟨rfl, same⟩ := ih later' same
          exact ⟨rfl, same⟩

theorem ScalarText.head {value : Value} {text : List Char} (written : ScalarText value text) :
    ∃ c tail, text = c :: tail ∧ startsValue c = true ∧ c ≠ '[' ∧ c ≠ '{' := by
  cases written with
  | number formed =>
      obtain ⟨c, tail, same, minus | digit⟩ := formed.head
      · exact ⟨c, tail, same, by simp [minus, startsValue]⟩
      · refine ⟨c, tail, same, by simp [startsValue, digit], ?_, ?_⟩ <;>
        · rintro rfl
          simp at digit
  | _ => exact ⟨_, _, rfl, by decide⟩

theorem ValueText.head {value : Value} {text : List Char} (written : ValueText value text) :
    ∃ c tail, text = c :: tail ∧ startsValue c = true := by
  cases written with
  | scalar written =>
      obtain ⟨c, tail, same, starts, _⟩ := written.head
      exact ⟨c, tail, same, starts⟩
  | _ => exact ⟨_, _, rfl, rfl⟩

theorem ValueText.visible {value : Value} {text : List Char} (written : ValueText value text)
    (rest : List Char) : ∀ c ∈ (text ++ rest).head?, isBlank c = false := by
  obtain ⟨c, tail, rfl, starts⟩ := written.head
  simpa using (visible_of_startsValue starts).1

theorem ScalarText.unique {value other : Value} {text written rest left : List Char}
    (first : ScalarText value text) (second : ScalarText other written) (ends : Ends rest)
    (ends' : Ends left) (same : text ++ rest = written ++ left) : value = other ∧ rest = left := by
  cases first with
  | number formed =>
      cases second with
      | number formed' =>
          have numerals := formed.takeWhile ends
          rw [same, formed'.takeWhile ends'] at numerals
          subst numerals
          exact ⟨rfl, List.append_cancel_left same⟩
      | _ => exact absurd same (formed.append_ne_cons (by decide))
  | string written =>
      cases second with
      | number formed' => exact absurd same.symm (formed'.append_ne_cons (by decide))
      | string written' =>
          simp only [List.cons_append, List.cons.injEq, true_and] at same
          obtain ⟨rfl, same⟩ := written.unique written' same
          exact ⟨rfl, same⟩
      | _ => simp at same
  | _ =>
      cases second with
      | number formed' => exact absurd same.symm (formed'.append_ne_cons (by decide))
      | _ => simp_all

/-! ### Brackets -/

/-- A text that has something visible in it, and first of all not a closing bracket. -/
def Opens (text : List Char) : Prop :=
  ∃ before c tail, text = before ++ c :: tail ∧ Blanks before ∧
    isBlank c = false ∧ c ≠ ']' ∧ c ≠ '}'

theorem ItemText.opens {value : Value} {text : List Char} (written : ItemText value text) :
    Opens text := by
  cases written with
  | spaced lead written trail =>
      obtain ⟨c, tail, rfl, starts⟩ := written.head
      exact ⟨_, c, _, rfl, lead, visible_of_startsValue starts⟩

theorem MemberText.opens {member : String × Value} {text : List Char}
    (written : MemberText member text) : Opens text := by
  cases written with
  | named lead quoted gap written => exact ⟨_, _, _, rfl, lead, by decide⟩

theorem Opens.append {text : List Char} (opens : Opens text) (later : List Char) :
    Opens (text ++ later) := by
  obtain ⟨before, c, tail, rfl, lead, visible⟩ := opens
  exact ⟨before, c, tail ++ later, by simp, lead, visible⟩

theorem Opens.ne_blanks {text gap rest : List Char} {close : Char} (opens : Opens text)
    (blank : Blanks gap) (closing : close = ']' ∨ close = '}') : text ≠ gap ++ close :: rest := by
  rintro rfl
  obtain ⟨before, c, tail, same, lead, visible, bracket, brace⟩ := opens
  have shown : isBlank close = false := by rcases closing with rfl | rfl <;> rfl
  have rests := blank.cancel lead (by simpa using shown) (by simpa using visible) same
  have equal := (List.cons.inj rests).1
  rcases closing with rfl | rfl
  · exact bracket equal.symm
  · exact brace equal.symm

theorem Fills.of_cons {text inner : List Char} {later : List (List Char)}
    (fills : Fills (text :: later) inner) :
    later = [] ∧ inner = text ∨ ∃ others, Fills later others ∧ inner = text ++ ',' :: others := by
  cases fills with
  | last => exact .inl ⟨rfl, rfl⟩
  | more _ others => exact .inr ⟨_, others, rfl⟩

theorem Fills.opens {text inner : List Char} {later : List (List Char)}
    (fills : Fills (text :: later) inner) (opens : Opens text) : Opens inner := by
  rcases fills.of_cons with ⟨_, rfl⟩ | ⟨others, _, rfl⟩
  · exact opens
  · exact opens.append _

/-- Whatever may follow two parts, their texts are the same with it only if the parts mean the same
and the same follows them. -/
def Agree {α : Type} (part other : α × List Char) : Prop :=
  ∀ rest left, Stops rest → Stops left → part.2 ++ rest = other.2 ++ left →
    part.1 = other.1 ∧ rest = left

/-- If parts are known by their texts, what stands between brackets is known by its text. -/
theorem Fills.unique {α : Type} {parts others : List (α × List Char)}
    {inner written rest left : List Char} {close : Char} (closing : close = ']' ∨ close = '}')
    (opens : ∀ part ∈ parts, Opens part.2) (opens' : ∀ part ∈ others, Opens part.2)
    (agree : ∀ part ∈ parts, ∀ other ∈ others, Agree part other)
    (first : Fills (parts.map Prod.snd) inner) (second : Fills (others.map Prod.snd) written)
    (same : inner ++ close :: rest = written ++ close :: left) :
    parts.map Prod.fst = others.map Prod.fst ∧ rest = left := by
  have comma (later : List Char) : Stops (',' :: later) := stops_cons (by simp) later
  have closes (later : List Char) : Stops (close :: later) :=
    stops_cons (by rcases closing with rfl | rfl <;> simp) later
  have unlike : ',' ≠ close := by rcases closing with rfl | rfl <;> decide
  induction parts generalizing others inner written with
  | nil =>
      cases first with
      | nothing blank =>
          cases others with
          | nil =>
              cases second with
              | nothing blank' =>
                  have rests := blank.cancel blank' (closes rest).visible (closes left).visible same
                  exact ⟨rfl, (List.cons.inj rests).2⟩
          | cons other others =>
              have opened := (second.opens (opens' other (by simp))).append (close :: left)
              exact absurd same.symm (opened.ne_blanks blank closing)
  | cons part parts ih =>
      cases others with
      | nil =>
          cases second with
          | nothing blank =>
              have opened := (first.opens (opens part (by simp))).append (close :: rest)
              exact absurd same (opened.ne_blanks blank closing)
      | cons other others =>
          have front := agree part (by simp) other (by simp)
          -- a comma or the bracket follows a part, and neither can stand in place of the other
          rcases first.of_cons with ⟨single, rfl⟩ | ⟨inners, later, rfl⟩
          · rcases second.of_cons with ⟨single', rfl⟩ | ⟨writtens, later', rfl⟩
            · obtain ⟨equal, rests⟩ := front _ _ (closes rest) (closes left) same
              simp_all
            · rw [List.append_assoc] at same
              obtain ⟨_, rests⟩ := front _ _ (closes rest) (comma _) same
              exact absurd (List.cons.inj rests).1.symm unlike
          · rw [List.append_assoc] at same
            rcases second.of_cons with ⟨single', rfl⟩ | ⟨writtens, later', rfl⟩
            · obtain ⟨_, rests⟩ := front _ _ (comma _) (closes left) same
              exact absurd (List.cons.inj rests).1 unlike
            · rw [List.append_assoc] at same
              obtain ⟨equal, rests⟩ := front _ _ (comma _) (comma _) same
              have tails := ih (fun part member => opens part (.tail _ member))
                (fun other member => opens' other (.tail _ member))
                (fun part member other member' =>
                  agree part (.tail _ member) other (.tail _ member'))
                later later' (List.cons.inj rests).2
              exact ⟨by simp [equal, tails.1], tails.2⟩

theorem ValueText.of_bracket {value : Value} {text tail : List Char}
    (written : ValueText value text) (head : text = '[' :: tail) :
    ∃ (parts : List (Value × List Char)) (inner : List Char),
      value = .array (parts.map Prod.fst) ∧ tail = inner ++ [']'] ∧
      (∀ part ∈ parts, ItemText part.1 part.2) ∧ Fills (parts.map Prod.snd) inner := by
  cases written with
  | scalar written =>
      obtain ⟨c, later, rfl, _, unlike, _⟩ := written.head
      simp_all
  | array written fills => exact ⟨_, _, rfl, by simpa using head.symm, written, fills⟩
  | object written fills => simp at head

theorem ValueText.of_brace {value : Value} {text tail : List Char}
    (written : ValueText value text) (head : text = '{' :: tail) :
    ∃ (parts : List ((String × Value) × List Char)) (inner : List Char),
      value = .object (parts.map Prod.fst) ∧ tail = inner ++ ['}'] ∧
      (∀ part ∈ parts, MemberText part.1 part.2) ∧ Fills (parts.map Prod.snd) inner := by
  cases written with
  | scalar written =>
      obtain ⟨c, later, rfl, _, _, unlike⟩ := written.head
      simp_all
  | array written fills => simp at head
  | object written fills => exact ⟨_, _, rfl, by simpa using head.symm, written, fills⟩

/-! ### One text, one value -/

mutual

/-- Where one value begins, no other one does, whatever may follow the two. -/
theorem ValueText.unique {value other : Value} {text written rest left : List Char}
    (first : ValueText value text) (second : ValueText other written) (ends : Ends rest)
    (ends' : Ends left) (same : text ++ rest = written ++ left) : value = other ∧ rest = left := by
  -- the recursion is on the first derivation; its first character tells what the second one is
  obtain ⟨c, tail, head, _⟩ := second.head
  match first with
  | .scalar scalar =>
      cases second with
      | scalar scalar' => exact scalar.unique scalar' ends ends' same
      | _ =>
          obtain ⟨d, later, rfl, _, bracket, brace⟩ := scalar.head
          simp_all
  | @ValueText.array parts inner items fills =>
      rw [head, List.cons_append, List.cons_append, List.cons.injEq] at same
      obtain ⟨rfl, same⟩ := same
      obtain ⟨others, inner', rfl, rfl, items', fills'⟩ := second.of_bracket head
      simp only [List.append_assoc, List.singleton_append] at same
      have known : ∀ part ∈ parts, ∀ other ∈ others, Agree part other :=
        fun part member other member' _ _ stops stops' same =>
          (items part member).unique (items' other member') stops stops' same
      have agree := Fills.unique (.inl rfl) (fun part member => (items part member).opens)
        (fun part member => (items' part member).opens) known fills fills' same
      exact ⟨congrArg Value.array agree.1, agree.2⟩
  | @ValueText.object parts inner members fills =>
      rw [head, List.cons_append, List.cons_append, List.cons.injEq] at same
      obtain ⟨rfl, same⟩ := same
      obtain ⟨others, inner', rfl, rfl, members', fills'⟩ := second.of_brace head
      simp only [List.append_assoc, List.singleton_append] at same
      have known : ∀ part ∈ parts, ∀ other ∈ others, Agree part other :=
        fun part member other member' _ _ stops stops' same =>
          (members part member).unique (members' other member') stops stops' same
      have agree := Fills.unique (.inr rfl) (fun part member => (members part member).opens)
        (fun part member => (members' part member).opens) known fills fills' same
      exact ⟨congrArg Value.object agree.1, agree.2⟩
termination_by structural first

theorem ItemText.unique {value other : Value} {text written rest left : List Char}
    (first : ItemText value text) (second : ItemText other written) (stops : Stops rest)
    (stops' : Stops left) (same : text ++ rest = written ++ left) :
    value = other ∧ rest = left := by
  match first with
  | .spaced lead inner trail =>
      cases second with
      | spaced lead' inner' trail' =>
          simp only [List.append_assoc] at same
          have inners := lead.cancel lead' (inner.visible _) (inner'.visible _) same
          obtain ⟨rfl, afters⟩ := inner.unique inner' (stops.ends trail) (stops'.ends trail') inners
          exact ⟨rfl, trail.cancel trail' stops.visible stops'.visible afters⟩
termination_by structural first

theorem MemberText.unique {member other : String × Value} {text written rest left : List Char}
    (first : MemberText member text) (second : MemberText other written) (stops : Stops rest)
    (stops' : Stops left) (same : text ++ rest = written ++ left) :
    member = other ∧ rest = left := by
  match first with
  | .named lead quoted gap inner =>
      cases second with
      | named lead' quoted' gap' inner' =>
          simp only [List.append_assoc, List.cons_append] at same
          have bodies := lead.cancel lead' (by simp [isBlank]) (by simp [isBlank]) same
          obtain ⟨rfl, gaps⟩ := quoted.unique quoted' (List.cons.inj bodies).2
          have colons := gap.cancel gap' (by simp [isBlank]) (by simp [isBlank]) gaps
          obtain ⟨rfl, rests⟩ := inner.unique inner' stops stops' (List.cons.inj colons).2
          exact ⟨rfl, rests⟩
termination_by structural first

end

/-- A whole text stands for one value only. -/
theorem ItemText.value_unique {value other : Value} {text : List Char}
    (first : ItemText value text) (second : ItemText other text) : value = other :=
  have stops : Stops [] := by simp [Stops]
  (first.unique second stops stops rfl).1

end LexScan.Json
