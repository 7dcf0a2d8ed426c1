import LexScan.Json.Document
import LexScan.Proofs.JsonGrammar
import Mathlib.Data.List.TakeWhile
import Mathlib.Data.Rat.Defs

/-! What is printed is JSON. Every document is a text of the grammar in either layout and at any
depth, and stands for the value that has the same parts. With the grammar giving a text one value,
that is the value everyone reads who knows the grammar, and no two values are printed alike. -/
namespace LexScan.Json

open Grammar Text

mutual

/-- The value of a document. -/
def value : Json → Value
  | .null => .null
  | .bool value => .bool value
  | .number value => .number value
  | .string text => .string text
  | .array items => .array (values items)
  | .object members => .object (memberValues members)

def values : List Json → List Value
  | [] => []
  | item :: items => item.value :: values items

def memberValues : List (String × Json) → List (String × Value)
  | [] => []
  | (name, item) :: members => (name, item.value) :: memberValues members

end

theorem values_eq (items : List Json) : values items = items.map value := by
  induction items with
  | nil => rfl
  | cons item items ih => simp [values, ih]

theorem memberValues_eq (members : List (String × Json)) :
    memberValues members = members.map fun member => (member.1, member.2.value) := by
  induction members with
  | nil => rfl
  | cons member members ih => simp [memberValues, ih]

theorem moreItems_eq (layout : Layout) (depth : Nat) (items : List Json) :
    moreItems layout depth items =
      items.flatMap fun item =>
        ',' :: (layout.lineBreak depth ++ item.characters layout depth) := by
  induction items with
  | nil => rfl
  | cons item items ih => simp [moreItems, ih]

theorem moreMembers_eq (layout : Layout) (depth : Nat) (members : List (String × Json)) :
    moreMembers layout depth members =
      members.flatMap fun member => ',' :: (layout.lineBreak depth ++
        (stringText member.1 ++ (layout.colon ++ member.2.characters layout depth))) := by
  induction members with
  | nil => rfl
  | cons member members ih => simp [moreMembers, ih]

/-! ### Strings and numbers -/

theorem hexCode?_hexDigit {code : Nat} (small : code < 32) :
    hexCode? '0' '0' (hexDigit (code / 16)) (hexDigit (code % 16)) = some code := by
  have listed : ∀ code < 32,
      hexCode? '0' '0' (hexDigit (code / 16)) (hexDigit (code % 16)) = some code := by decide
  exact listed code small

theorem characterText_escaped (c : Char) : CharacterText c (escaped c) := by
  have numbered {code : Nat} (same : c.toNat = code) : c = Char.ofNat code := by
    rw [← same, Char.ofNat_toNat]
  unfold escaped
  split_ifs with quote backslash feed tab carriage back page small
  · exact .escape (by rw [quote]; rfl)
  · exact .escape (by rw [backslash]; rfl)
  · exact .escape (by rw [feed]; rfl)
  · exact .escape (by rw [tab]; rfl)
  · exact .escape (by rw [carriage]; rfl)
  · exact .escape (by rw [numbered back]; rfl)
  · exact .escape (by rw [numbered page]; rfl)
  · have unpaired : isLeadingSurrogate c.toNat = false ∧ isTrailingSurrogate c.toNat = false := by
      simp only [isLeadingSurrogate, isTrailingSurrogate, Bool.and_eq_false_iff,
        decide_eq_false_iff_not]
      omega
    have written := CharacterText.numbered (hexCode?_hexDigit small) unpaired
    rwa [Char.ofNat_toNat] at written
  · exact .plain quote backslash (by omega)

theorem stringBody_escaped (content : List Char) :
    StringBody content (content.flatMap escaped ++ ['"']) := by
  induction content with
  | nil => exact .close
  | cons c content ih =>
      rw [List.flatMap_cons, List.append_assoc]
      exact .character (characterText_escaped c) ih

theorem digits_toDigits (n : Nat) : Digits (Nat.toDigits 10 n) := fun _ member =>
  Nat.isDigit_of_mem_toDigits (by decide) (by decide) member

/-- The digits of a number other than zero do not begin with zero. -/
theorem head_toDigits {n : Nat} (positive : 0 < n) :
    ∃ first later, Nat.toDigits 10 n = first :: later ∧ first ≠ '0' := by
  induction n using Nat.strongRecOn with
  | ind n ih =>
      by_cases short : n < 10
      · have listed : ∀ n < 10, 0 < n → Nat.digitChar n ≠ '0' := by decide
        exact ⟨_, _, Nat.toDigits_of_lt_base short, listed n short positive⟩
      · obtain ⟨first, later, front, nonzero⟩ := ih (n / 10) (by omega) (by omega)
        refine ⟨first, later ++ [Nat.digitChar (n % 10)], ?_, nonzero⟩
        rw [Nat.toDigits_of_base_le (by decide) (by omega), front, List.cons_append]

theorem wholePart_toDigits (n : Nat) : WholePart (Nat.toDigits 10 n) := by
  rcases Nat.eq_zero_or_pos n with rfl | positive
  · exact .zero
  · have all := digits_toDigits n
    obtain ⟨first, later, same, nonzero⟩ := head_toDigits positive
    rw [same] at all ⊢
    exact .digits (all first (by simp)) nonzero fun c member => all c (by simp [member])

theorem numeral_of_wholePart {text : List Char} (whole : WholePart text) : Numeral text := by
  simpa using Numeral.unsigned whole .none .none

theorem decimalValue_zero (digits : List Char) :
    decimalValue digits 0 = (Nat.ofDigitChars 10 digits 0 : Nat) := by
  have one : Decimal.powerOfTen 0 = 1 := rfl
  rw [decimalValue, Int.neg_zero, Int.toNat_zero, one, Nat.mul_one]
  exact Rat.mkRat_one _

theorem unsignedValue_of_digits {digits : List Char} (all : Digits digits) :
    unsignedValue digits = (Nat.ofDigitChars 10 digits 0 : Nat) := by
  have taken : digits.takeWhile Char.isDigit = digits := List.takeWhile_eq_self_iff.2 all
  have left : digits.dropWhile Char.isDigit = [] := List.dropWhile_eq_nil_iff.2 all
  simp only [unsignedValue, taken, left, exponentValue, decimalValue_zero]

theorem numeralValue_of_digits {digits : List Char} (all : Digits digits) :
    numeralValue digits = (Nat.ofDigitChars 10 digits 0 : Nat) := by
  unfold numeralValue
  split
  · next text =>
      have digit := all '-' (by simp)
      simp at digit
  · exact unsignedValue_of_digits all

theorem scalarText_toDigits (n : Nat) : ScalarText (.number n) (Nat.toDigits 10 n) := by
  have written := ScalarText.number (numeral_of_wholePart (wholePart_toDigits n))
  have value := numeralValue_of_digits (digits_toDigits n)
  rwa [value, Nat.ofDigitChars_ten_toDigits] at written

/-! ### Blanks and brackets -/

theorem blanks_nil : Blanks [] := by simp [Blanks]

theorem Blanks.append {gap other : List Char} (blank : Blanks gap) (blank' : Blanks other) :
    Blanks (gap ++ other) := by
  intro c member
  exact (List.mem_append.1 member).elim (blank c) (blank' c)

theorem Layout.blanks_lineBreak (layout : Layout) (depth : Nat) :
    Blanks (layout.lineBreak depth) := by
  cases layout with
  | compact => exact blanks_nil
  | indented =>
      intro c member
      rcases List.mem_cons.1 member with rfl | spaces
      · rfl
      · rw [List.eq_of_mem_replicate spaces]
        rfl

theorem Layout.colon_eq (layout : Layout) : ∃ gap, layout.colon = ':' :: gap ∧ Blanks gap := by
  cases layout with
  | compact => exact ⟨[], rfl, blanks_nil⟩
  | indented => exact ⟨[' '], rfl, by simp [Blanks, isBlank]⟩

theorem ValueText.item {value : Value} {gap text : List Char} (blank : Blanks gap)
    (written : ValueText value text) : ItemText value (gap ++ text) := by
  simpa using ItemText.spaced blank written blanks_nil

theorem ItemText.append_blanks {value : Value} {text gap : List Char}
    (written : ItemText value text) (blank : Blanks gap) : ItemText value (text ++ gap) := by
  cases written with
  | spaced lead written trail =>
      simpa using ItemText.spaced lead written (trail.append blank)

theorem MemberText.append_blanks {member : String × Value} {text gap : List Char}
    (written : MemberText member text) (blank : Blanks gap) : MemberText member (text ++ gap) := by
  cases written with
  | named lead quoted middle written =>
      simpa using MemberText.named lead quoted middle (written.append_blanks blank)

theorem ValueText.member {value : Value} {gap text : List Char} (blank : Blanks gap) (name : String)
    (layout : Layout) (written : ValueText value text) :
    MemberText (name, value) (gap ++ (stringText name ++ (layout.colon ++ text))) := by
  obtain ⟨space, colon, blank'⟩ := layout.colon_eq
  have named := MemberText.named blank (stringBody_escaped name.toList) blanks_nil
    (written.item blank')
  simpa [colon, stringText] using named

/-- Parts with commas between them and blanks behind the last one fill a pair of brackets. -/
theorem exists_fills {α β : Type} {Part : α → List Char → Prop} {gap : List Char}
    (widen : ∀ {a text}, Part a text → Part a (text ++ gap)) (meaning : β → α)
    (text : β → List Char) (first : β) (later : List β)
    (written : ∀ b ∈ first :: later, Part (meaning b) (text b)) :
    ∃ parts : List (α × List Char), parts.map Prod.fst = (first :: later).map meaning ∧
      (∀ part ∈ parts, Part part.1 part.2) ∧
      Fills (parts.map Prod.snd) (text first ++ (later.flatMap (',' :: text ·) ++ gap)) := by
  induction later generalizing first with
  | nil =>
      refine ⟨[(meaning first, text first ++ gap)], rfl, ?_, .last _⟩
      simpa using widen (written first (by simp))
  | cons next later ih =>
      obtain ⟨parts, meanings, written', fills⟩ :=
        ih next fun b member => written b (.tail _ member)
      cases parts with
      | nil => simp at meanings
      | cons head parts =>
          refine ⟨(meaning first, text first) :: head :: parts, by simpa using meanings, ?_, ?_⟩
          · exact List.forall_mem_cons.2 ⟨written first (by simp), written'⟩
          · simpa using Fills.more (text first) fills

theorem valueText_array (layout : Layout) (depth : Nat) (items : List Json)
    (written : ∀ item ∈ items, ValueText item.value (item.characters layout (depth + 1))) :
    ValueText (array items).value ((array items).characters layout depth) := by
  rw [value, values_eq]
  cases items with
  | nil => exact @ValueText.array [] [] (by simp) (.nothing blanks_nil)
  | cons item items =>
      obtain ⟨parts, meanings, all, fills⟩ :=
        exists_fills (·.append_blanks (layout.blanks_lineBreak depth)) value _ item items
          fun item member => (written item member).item (layout.blanks_lineBreak (depth + 1))
      have whole := ValueText.array all fills
      rw [meanings] at whole
      simpa [characters, moreItems_eq] using whole

theorem valueText_object (layout : Layout) (depth : Nat) (members : List (String × Json))
    (written : ∀ member ∈ members,
      ValueText member.2.value (member.2.characters layout (depth + 1))) :
    ValueText (object members).value ((object members).characters layout depth) := by
  rw [value, memberValues_eq]
  cases members with
  | nil => exact @ValueText.object [] [] (by simp) (.nothing blanks_nil)
  | cons member members =>
      obtain ⟨parts, meanings, all, fills⟩ :=
        exists_fills (·.append_blanks (layout.blanks_lineBreak depth))
          (fun member => (member.1, member.2.value)) _ member members fun member found =>
            (written member found).member (layout.blanks_lineBreak (depth + 1)) member.1 layout
      have whole := ValueText.object all fills
      rw [meanings] at whole
      simpa [characters, moreMembers_eq] using whole

/-! ### Documents -/

mutual

/-- A document is printed as a text of its value. -/
theorem valueText (layout : Layout) (depth : Nat) :
    (document : Json) → ValueText document.value (document.characters layout depth)
  | .null => .scalar .null
  | .bool true => .scalar .yes
  | .bool false => .scalar .no
  | .number n => .scalar (scalarText_toDigits n)
  | .string text => by
      have written := ScalarText.string (stringBody_escaped text.toList)
      rw [String.ofList_toList] at written
      exact .scalar written
  | .array items => valueText_array layout depth items (itemTexts layout (depth + 1) items)
  | .object members =>
      valueText_object layout depth members (memberTexts layout (depth + 1) members)

theorem itemTexts (layout : Layout) (depth : Nat) :
    (items : List Json) → ∀ item ∈ items, ValueText item.value (item.characters layout depth)
  | [] => by simp
  | item :: items =>
      List.forall_mem_cons.2 ⟨valueText layout depth item, itemTexts layout depth items⟩

theorem memberTexts (layout : Layout) (depth : Nat) :
    (members : List (String × Json)) → ∀ member ∈ members,
      ValueText member.2.value (member.2.characters layout depth)
  | [] => by simp
  | (_, item) :: members =>
      List.forall_mem_cons.2 ⟨valueText layout depth item, memberTexts layout depth members⟩

end

/-- The text of a document stands for its value and for no other. -/
theorem itemText_iff (layout : Layout) (document : Json) (value : Value) :
    ItemText value (document.characters layout 0) ↔ value = document.value := by
  have written : ItemText document.value (document.characters layout 0) :=
    (valueText layout 0 document).item blanks_nil
  constructor
  · intro other
    exact other.value_unique written
  · rintro rfl
    exact written

end LexScan.Json
