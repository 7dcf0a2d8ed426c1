/-! Literals between quotes. A backslash takes the next character with it, and in a string a
backslash with `u` takes four more, whatever they are. -/
namespace LexScan.Lexeme

/-- Puts characters in front of what was taken from a text. -/
def extend (taken : List Char) (split : Option (List Char × List Char)) :
    Option (List Char × List Char) :=
  split.map fun parts => (taken ++ parts.1, parts.2)

/-- The text of a string up to and with its closing quote, and what follows it, for a text behind an
opening quote. There is no result if the string is not closed. -/
def stringTail : List Char → Option (List Char × List Char)
  | [] => none
  | '"' :: rest => some (['"'], rest)
  | '\\' :: 'u' :: a :: b :: c :: d :: rest =>
      extend ['\\', 'u', a, b, c, d] (stringTail rest)
  | '\\' :: 'u' :: _ => none
  | '\\' :: c :: rest => extend ['\\', c] (stringTail rest)
  | c :: rest => extend [c] (stringTail rest)

/-- A character literal behind its opening quote, well formed or not. -/
structure CharacterSplit where
  closed : Bool
  tail : List Char
  rest : List Char

/-- Takes a backslash if there is one, then a character if there is one, then the closing quote. -/
def characterTail : List Char → CharacterSplit
  | '\\' :: c :: '\'' :: rest => ⟨true, ['\\', c, '\''], rest⟩
  | '\\' :: c :: rest => ⟨false, ['\\', c], rest⟩
  | ['\\'] => ⟨false, ['\\'], []⟩
  | c :: '\'' :: rest => ⟨true, [c, '\''], rest⟩
  | c :: rest => ⟨false, [c], rest⟩
  | [] => ⟨false, [], []⟩

theorem extend_eq_some_iff {taken tail rest : List Char} {split : Option (List Char × List Char)} :
    extend taken split = some (tail, rest) ↔
      ∃ inner, split = some (inner, rest) ∧ taken ++ inner = tail := by
  cases split with
  | none => simp [extend]
  | some parts =>
      simp only [extend, Option.map_some, Option.some.injEq, Prod.ext_iff]
      constructor
      · rintro ⟨same, rfl⟩
        exact ⟨parts.1, ⟨rfl, rfl⟩, same⟩
      · rintro ⟨_, ⟨rfl, rfl⟩, same⟩
        exact ⟨same, rfl⟩

/-- A character that neither closes a string nor escapes stands for itself. -/
theorem stringTail_plain {c : Char} (unquoted : c ≠ '"') (unescaped : c ≠ '\\') (rest : List Char) :
    stringTail (c :: rest) = extend [c] (stringTail rest) := by
  apply stringTail.eq_6 c rest unquoted
  · exact fun _ _ _ _ _ same => absurd same unescaped
  · exact fun _ same => absurd same unescaped
  · exact fun _ _ same => absurd same unescaped

theorem stringTail_escape {c : Char} (short : c ≠ 'u') (rest : List Char) :
    stringTail ('\\' :: c :: rest) = extend ['\\', c] (stringTail rest) :=
  stringTail.eq_5 c rest (fun _ _ _ _ _ same => absurd same short) short

theorem stringTail_append {text tail rest : List Char}
    (closed : stringTail text = some (tail, rest)) : tail ++ rest = text := by
  fun_induction stringTail text generalizing tail with
  | case1 => simp at closed
  | case2 text =>
      simp only [Option.some.injEq, Prod.mk.injEq] at closed
      obtain ⟨rfl, rfl⟩ := closed
      rfl
  | case3 a b c d text ih =>
      obtain ⟨inner, read, rfl⟩ := extend_eq_some_iff.1 closed
      simp [ih read]
  | case4 => simp at closed
  | case5 c text _ _ ih =>
      obtain ⟨inner, read, rfl⟩ := extend_eq_some_iff.1 closed
      simp [ih read]
  | case6 c text _ _ _ _ ih =>
      obtain ⟨inner, read, rfl⟩ := extend_eq_some_iff.1 closed
      simp [ih read]

theorem characterTail_append (text : List Char) :
    (characterTail text).tail ++ (characterTail text).rest = text := by
  unfold characterTail
  split <;> simp

end LexScan.Lexeme
