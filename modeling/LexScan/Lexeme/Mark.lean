import LexScan.Kind

/-! Operators and punctuators: fixed texts of one or two characters, of which the longer one
wins. -/
namespace LexScan.Lexeme

def pairKind : Char → Char → Option Kind
  | '+', '+' => some (.operator .increment)
  | '-', '-' => some (.operator .increment)
  | '+', '=' => some (.operator .assignment)
  | '-', '=' => some (.operator .assignment)
  | '*', '=' => some (.operator .assignment)
  | '/', '=' => some (.operator .assignment)
  | '*', '*' => some (.operator .arithmetic)
  | '=', '=' => some (.operator .relational)
  | '!', '=' => some (.operator .relational)
  | '<', '=' => some (.operator .relational)
  | '>', '=' => some (.operator .relational)
  | '&', '&' => some (.operator .logical)
  | '|', '|' => some (.operator .logical)
  | _, _ => none

/-- The second character of a mark is an equals sign or the first one again. -/
theorem pairKind_eq_none {c d : Char} (unequal : d ≠ '=') (single : d ≠ c) :
    pairKind c d = none := by
  unfold pairKind
  split <;> simp_all

def singleKind : Char → Option Kind
  | '(' => some (.punctuator .leftParen)
  | ')' => some (.punctuator .rightParen)
  | '{' => some (.punctuator .leftBrace)
  | '}' => some (.punctuator .rightBrace)
  | '[' => some (.punctuator .leftBracket)
  | ']' => some (.punctuator .rightBracket)
  | ',' => some (.punctuator .comma)
  | ';' => some (.punctuator .semicolon)
  | ':' => some (.punctuator .colon)
  | '+' => some (.operator .arithmetic)
  | '-' => some (.operator .arithmetic)
  | '*' => some (.operator .arithmetic)
  | '/' => some (.operator .arithmetic)
  | '%' => some (.operator .arithmetic)
  | '=' => some (.operator .assignment)
  | '!' => some (.operator .logical)
  | '<' => some (.operator .relational)
  | '>' => some (.operator .relational)
  | _ => none

structure MarkSplit where
  kind : Kind
  lexeme : List Char
  rest : List Char

/-- The mark that starts with a character, with the text behind that character. -/
def mark? (c : Char) : List Char → Option MarkSplit
  | [] => (singleKind c).map fun kind => ⟨kind, [c], []⟩
  | d :: rest =>
      match pairKind c d with
      | some kind => some ⟨kind, [c, d], rest⟩
      | none => (singleKind c).map fun kind => ⟨kind, [c], d :: rest⟩

theorem mark?_append {c : Char} {text : List Char} {split : MarkSplit}
    (found : mark? c text = some split) : split.lexeme ++ split.rest = c :: text := by
  unfold mark? at found
  split at found
  · obtain ⟨kind, _, rfl⟩ := Option.map_eq_some_iff.1 found
    rfl
  · split at found
    · simp only [Option.some.injEq] at found
      subst found
      rfl
    · obtain ⟨kind, _, rfl⟩ := Option.map_eq_some_iff.1 found
      rfl

theorem mark?_head {c : Char} {text : List Char} {split : MarkSplit}
    (found : mark? c text = some split) : ∃ tail, split.lexeme = c :: tail := by
  unfold mark? at found
  split at found
  · obtain ⟨kind, _, rfl⟩ := Option.map_eq_some_iff.1 found
    exact ⟨[], rfl⟩
  · split at found
    · simp only [Option.some.injEq] at found
      subst found
      exact ⟨_, rfl⟩
    · obtain ⟨kind, _, rfl⟩ := Option.map_eq_some_iff.1 found
      exact ⟨[], rfl⟩

end LexScan.Lexeme
