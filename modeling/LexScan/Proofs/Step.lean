import LexScan.Scanner

/-! What one step of a scanner does. A segment decides by itself, given its place, which token it
yields, which diagnostics it leaves and whether it ends the stream; the lemmas below say that a step
does no more than that, field by field, so that later arguments never open `absorb`. -/
namespace LexScan

namespace Token

/-- What is wrong with a token as a name, for a length limit. -/
def nameFault? (limit : Nat) (token : Token) : Option Diagnostic :=
  if token.kind ≠ .literal .identifier then none
  else if !Scanner.startsUppercase token.lexeme then
    some ⟨.invalidIdentifier, token.position, token.lexeme, "Identifiers must start with Uppercase"⟩
  else if limit < token.lexeme.length then
    some ⟨.identifierLength, token.position, token.lexeme,
      "Exceeds " ++ toString limit ++ " characters"⟩
  else none

theorem nameFault?_of_ne {limit : Nat} {token : Token}
    (other : token.kind ≠ .literal .identifier) : token.nameFault? limit = none := by
  simp [nameFault?, other]

/-- The fault of a name shows the place and the text of its token. -/
theorem of_nameFault?_eq_some {limit : Nat} {token : Token} {d : Diagnostic}
    (fault : token.nameFault? limit = some d) :
    d.position = token.position ∧ d.lexeme = token.lexeme ∧
      (d.fault = .invalidIdentifier ∨ d.fault = .identifierLength) := by
  unfold nameFault? at fault
  split at fault
  · simp at fault
  · split at fault
    · simp [← Option.some.inj fault]
    · split at fault
      · simp [← Option.some.inj fault]
      · simp at fault

/-- It depends on the place only in that it shows it. -/
theorem nameFault?_eq_map (limit : Nat) (kind : Kind) (lexeme : String) (place : Position) :
    nameFault? limit ⟨kind, lexeme, place⟩ =
      (nameFault? limit ⟨kind, lexeme, .start⟩).map fun d => { d with position := place } := by
  simp only [nameFault?]
  split
  · rfl
  · split
    · rfl
    · split <;> rfl

end Token

namespace Segment

def token? (place : Position) : Segment → Option Token
  | .token kind lexeme => some ⟨kind, String.ofList lexeme, place⟩
  | _ => none

/-- What is logged about a segment at a place, for a length limit of identifiers. -/
def diagnostics (limit : Nat) (place : Position) : Segment → List Diagnostic
  | .token kind lexeme => (Token.nameFault? limit ⟨kind, String.ofList lexeme, place⟩).toList
  | .strayCharacter c => [⟨.invalidCharacter, place, c.toString, "Unexpected character"⟩]
  | .malformedCharacter lexeme =>
      [⟨.malformedCharacter, place, String.ofList lexeme, "Malformed character"⟩]
  | .unterminatedString lexeme =>
      [⟨.unterminatedString, place, String.ofList lexeme, "Unterminated string"⟩]
  | .unclosedComment _ _ => [⟨.unclosedComment, place, "#*", "Nested comment not closed"⟩]
  | _ => []

/-- What is logged about a segment depends on the place only in that it bears it. -/
theorem diagnostics_eq_map (limit : Nat) (place : Position) (segment : Segment) :
    segment.diagnostics limit place =
      (segment.diagnostics limit .start).map fun d => { d with position := place } := by
  cases segment with
  | token kind lexeme =>
      rw [diagnostics, Token.nameFault?_eq_map, diagnostics, Option.toList_map]
  | _ => rfl

end Segment

namespace Step

def token? : Step → Option Token
  | .found token _ => some token
  | _ => none

def isStop : Step → Bool
  | .stop _ => true
  | _ => false

/-- What the next token is, given the outcome of the first step towards it. -/
def pull : Step → Option Token × Scanner
  | .skip next => next.pull
  | .found token next => (some token, next.note (.token token))
  | .stop next => (none, next.note (.token next.endToken))

end Step

namespace Scanner

theorem pull_eq_step (s : Scanner) : s.pull = s.step.pull := by
  rw [pull]
  split <;> simp_all [Step.pull]

/-- What is logged about a token is its fault as a name. -/
theorem checkToken_fields (s : Scanner) (token : Token) :
    (s.checkToken token).limit = s.limit ∧
    (s.checkToken token).position = s.position ∧
    (s.checkToken token).diagnostics.toList =
      s.diagnostics.toList ++ (token.nameFault? s.limit).toList := by
  by_cases identifier : token.kind = .literal .identifier
  · have named : ¬ token.kind ≠ .literal .identifier := fun other => other identifier
    rw [checkToken, if_pos identifier, checkIdentifier, Token.nameFault?, if_neg named]
    split
    · simp [report]
    · split <;> simp [report, recordSymbol]
  · rw [checkToken, if_neg identifier, Token.nameFault?_of_ne identifier]
    simp

@[simp] theorem limit_absorb (s : Scanner) (segment : Segment) (rest : List Char) :
    (s.absorb segment rest).scanner.limit = s.limit := by
  cases segment with
  | token kind lexeme => exact (checkToken_fields _ _).1
  | _ => rfl

@[simp] theorem position_absorb (s : Scanner) (segment : Segment) (rest : List Char) :
    (s.absorb segment rest).scanner.position = s.position.advanceOver segment.text := by
  cases segment with
  | token kind lexeme => exact (checkToken_fields _ _).2.1
  | _ => rfl

theorem diagnostics_absorb (s : Scanner) (segment : Segment) (rest : List Char) :
    (s.absorb segment rest).scanner.diagnostics.toList =
      s.diagnostics.toList ++ segment.diagnostics s.limit s.position.next := by
  cases segment with
  | token kind lexeme => exact (checkToken_fields _ _).2.2
  | _ => simp [absorb, Step.scanner, Segment.diagnostics, report, note, moveOver]

theorem token?_absorb (s : Scanner) (segment : Segment) (rest : List Char) :
    (s.absorb segment rest).token? = segment.token? s.position.next := by
  cases segment <;> rfl

theorem isStop_absorb (s : Scanner) (segment : Segment) (rest : List Char) :
    (s.absorb segment rest).isStop = segment.isFatal := by
  cases segment <;> rfl

theorem step_of_rest {s : Scanner} {c : Char} {rest : List Char} (unread : s.rest = c :: rest) :
    s.step = s.absorb (Segment.read c rest).1 (Segment.read c rest).2 := by
  simp [step, unread]

theorem read_of_step_eq_found {s next : Scanner} {token : Token}
    (found : s.step = .found token next) : ∃ c rest, s.rest = c :: rest ∧
      Segment.read c rest = (.token token.kind token.lexeme.toList, next.rest) := by
  obtain ⟨c, rest, unread⟩ := List.exists_cons_of_ne_nil (unread_of_step_eq_found found)
  refine ⟨c, rest, unread, ?_⟩
  rw [step_of_rest unread] at found
  have yielded := token?_absorb s (Segment.read c rest).1 (Segment.read c rest).2
  have left := rest_absorb s (Segment.read c rest).1 (Segment.read c rest).2
  rw [found] at yielded left
  cases segment : (Segment.read c rest).1 with
  | token kind lexeme =>
      simp only [segment, Step.token?, Segment.token?, Option.some.injEq] at yielded
      rw [yielded, String.toList_ofList, ← segment]
      exact Prod.ext rfl left.symm
  | _ => simp [segment, Step.token?, Segment.token?] at yielded

theorem step_eq_found_of_read {s : Scanner} {c : Char} {rest lexeme : List Char} {kind : Kind}
    (unread : s.rest = c :: rest) (segment : (Segment.read c rest).1 = .token kind lexeme) :
    ∃ next, s.step = .found ⟨kind, String.ofList lexeme, s.position.next⟩ next := by
  rw [step_of_rest unread, segment]
  exact ⟨_, rfl⟩

end Scanner
end LexScan
