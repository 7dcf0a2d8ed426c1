import LexScan.Proofs.BlockComment
import LexScan.Proofs.LongestMatch
import LexScan.Proofs.Run
import Mathlib.Data.List.Basic

/-! A source is the concatenation of its segments, and each of them is accounted for: blanks and
comments are skipped, tokens are returned, faulty pieces are reported. Nothing else is in the text,
and a fatal fault can only be the last piece of it. -/
namespace LexScan

/-- Faults of identifiers are reported in addition to the token. -/
def Fault.concernsIdentifier : Fault → Bool
  | .invalidIdentifier | .identifierLength => true
  | _ => false

theorem Fault.isFatal_of_concernsIdentifier {fault : Fault}
    (concerns : fault.concernsIdentifier = true) : fault.isFatal = false := by
  cases fault <;> simp_all [concernsIdentifier, isFatal]

namespace Segment

open Text Lexeme Grammar

/-- What a segment of each form looks like, given the text that follows it. -/
def WellFormed (left : List Char) : Segment → Prop
  | .blank c => c = ' ' ∨ c = '\t' ∨ c = '\r' ∨ c = '\n'
  | .lineComment text =>
      ∃ line, text = '#' :: '#' :: line ∧ '\n' ∉ line ∧ (left = [] ∨ left.head? = some '\n')
  | .blockComment text => BlockComment text
  | .token kind lexeme => TokenText kind lexeme
  | .strayCharacter c => isBlank c = false
  | .malformedCharacter lexeme => lexeme.head? = some '\'' ∧ lexeme.length ≤ 3
  | .unterminatedString lexeme => UnclosedString lexeme ∧ left = []
  | .unclosedComment text _ => UnclosedComment text ∧ left = []

/-- Segments that are well formed where they stand, none behind a fatal one. -/
def AllWellFormed : List Segment → Prop
  | [] => True
  | segment :: later =>
      segment.WellFormed (later.flatMap text) ∧ (segment.isFatal = true → later = []) ∧
        AllWellFormed later

def lexeme? : Segment → Option (Kind × String)
  | .token kind lexeme => some (kind, String.ofList lexeme)
  | _ => none

/-- The fault of a faulty segment and the text that its report shows: all of the segment, or only
the opening mark of a comment. -/
def fault? : Segment → Option (Fault × String)
  | .strayCharacter c => some (.invalidCharacter, String.ofList [c])
  | .malformedCharacter lexeme => some (.malformedCharacter, String.ofList lexeme)
  | .unterminatedString lexeme => some (.unterminatedString, String.ofList lexeme)
  | .unclosedComment _ _ => some (.unclosedComment, "#*")
  | _ => none

theorem unclosedString_of_stringTail {rest : List Char} (endless : stringTail rest = none) :
    UnclosedString ('"' :: rest) := by
  refine ⟨rfl, ?_⟩
  rintro literal ⟨body, closed, rfl⟩ ⟨left, whole⟩
  obtain rfl : body ++ left = rest := by simpa using whole
  simp [stringTail_eq_some_iff.2 ⟨closed, rfl⟩] at endless

theorem unclosedComment_of_commentTail {rest : List Char} {depth : Nat}
    (endless : commentTail 1 rest = .unclosed depth) : UnclosedComment ('#' :: '*' :: rest) := by
  refine ⟨by simp, ?_⟩
  rintro comment ⟨body, closed, rfl⟩ ⟨left, whole⟩
  obtain rfl : body ++ left = rest := by simpa using whole
  simp [commentTail_eq_closed_iff.2 ⟨closed, rfl⟩] at endless

theorem wellFormed_readString (rest : List Char) :
    (readString '"' rest).1.WellFormed (readString '"' rest).2 := by
  unfold readString
  split
  · next tail left closed => exact .string (stringTail_eq_some_iff.1 closed).1
  · next endless => exact ⟨unclosedString_of_stringTail endless, rfl⟩

theorem wellFormed_readCharacter (rest : List Char) :
    (readCharacter '\'' rest).1.WellFormed (readCharacter '\'' rest).2 := by
  have short : (characterTail rest).closed = false → (characterTail rest).tail.length ≤ 2 := by
    unfold characterTail
    split <;> simp
  cases closed : (characterTail rest).closed with
  | true =>
      have segment : (readCharacter '\'' rest).1 =
          .token (.literal .character) ('\'' :: (characterTail rest).tail) := by
        simp [readCharacter, closed]
      rw [segment]
      exact tokenText_readCharacter segment
  | false =>
      have segment : (readCharacter '\'' rest).1 =
          .malformedCharacter ('\'' :: (characterTail rest).tail) := by
        simp [readCharacter, closed]
      have bound := short closed
      rw [segment]
      refine ⟨rfl, ?_⟩
      simp only [List.length_cons]
      omega

theorem wellFormed_readMark {c : Char} (visible : isBlank c = false) (rest : List Char) :
    (readMark c rest).1.WellFormed (readMark c rest).2 := by
  unfold readMark
  split
  · next split taken => exact .mark (listed_of_mark? taken)
  · exact visible

theorem head?_dropWhile_feed (text : List Char) :
    text.dropWhile (· != '\n') = [] ∨ (text.dropWhile (· != '\n')).head? = some '\n' := by
  cases left : text.dropWhile (· != '\n') with
  | nil => exact .inl rfl
  | cons c later =>
      have stop := List.head?_dropWhile_not (· != '\n') text
      rw [left] at stop
      simpa using stop

theorem wellFormed_readNumberSign (rest : List Char) :
    (readNumberSign '#' rest).1.WellFormed (readNumberSign '#' rest).2 := by
  unfold readNumberSign
  split
  · next rest =>
      refine ⟨_, rfl, ?_, head?_dropWhile_feed rest⟩
      intro member
      simpa using List.mem_takeWhile_imp member
  · next rest =>
      split
      · next tail left closed => exact ⟨tail, (commentTail_eq_closed_iff.1 closed).1, rfl⟩
      · next depth endless => exact ⟨unclosedComment_of_commentTail endless, rfl⟩
  · exact wellFormed_readMark (by decide) _

theorem wellFormed_read (c : Char) (rest : List Char) :
    (read c rest).1.WellFormed (read c rest).2 := by
  refine read_cases c rest ?_ ?_ ?_ ?_ ?_ ?_ ?_
  · exact fun blank => isBlank_iff.1 blank
  · exact fun letter => tokenText_readWord letter rfl
  · exact fun starts => tokenText_readNumber starts rfl
  · intro same
    subst same
    exact wellFormed_readString rest
  · intro same
    subst same
    exact wellFormed_readCharacter rest
  · intro same
    subst same
    exact wellFormed_readNumberSign rest
  · exact fun visible => wellFormed_readMark visible rest

theorem flatMap_text_split (source : List Char) : (split source).flatMap text = source := by
  fun_induction split source with
  | case1 => rfl
  | case2 c rest ih => rw [List.flatMap_cons, ih, read_append]

theorem allWellFormed_split (source : List Char) : AllWellFormed (split source) := by
  fun_induction split source with
  | case1 => trivial
  | case2 c rest ih =>
      refine ⟨?_, ?_, ih⟩
      · rw [flatMap_text_split]
        exact wellFormed_read c rest
      · intro fatal
        rw [rest_eq_nil_of_isFatal c rest fatal, split_nil]

/-- What is logged about a token concerns it as a name. -/
theorem mem_diagnostics_token {limit : Nat} {place : Position} {kind : Kind} {lexeme : List Char}
    {d : Diagnostic} (member : d ∈ (token kind lexeme).diagnostics limit place) :
    d.position = place ∧ d.lexeme = String.ofList lexeme ∧ d.fault.concernsIdentifier = true := by
  obtain ⟨position, same, fault⟩ := Token.of_nameFault?_eq_some (Option.mem_toList.1 member)
  refine ⟨position, same, ?_⟩
  rcases fault with fault | fault <;> rw [fault] <;> rfl

/-- A faulty segment is reported once, and any other at most for its identifier. -/
theorem faults_diagnostics (limit : Nat) (place : Position) (segment : Segment) :
    ((segment.diagnostics limit place).filter (!·.fault.concernsIdentifier)).map
      (fun d => (d.fault, d.lexeme)) = segment.fault?.toList := by
  cases segment with
  | token kind lexeme =>
      have none_other : ((token kind lexeme).diagnostics limit place).filter
          (!·.fault.concernsIdentifier) = [] := by
        rw [List.filter_eq_nil_iff]
        intro d member
        simp [(mem_diagnostics_token member).2.2]
      rw [none_other]
      rfl
  | strayCharacter c => simp [diagnostics, fault?, Fault.concernsIdentifier]
  | _ => rfl

end Segment

namespace Scanner

theorem map_tokensAhead (s : Scanner) :
    s.tokensAhead.map (fun token => (token.kind, token.lexeme)) =
      (Segment.split s.rest).filterMap Segment.lexeme? := by
  have yields : ∀ entry : Position × Segment,
      (entry.2.token? entry.1).map (fun token => (token.kind, token.lexeme)) = entry.2.lexeme? := by
    rintro ⟨place, segment⟩
    cases segment <;> rfl
  rw [tokensAhead, List.map_filterMap, ← Segment.map_snd_placed s.position (Segment.split s.rest),
    List.filterMap_map]
  exact List.filterMap_congr fun entry _ => yields entry

theorem faults_diagnosticsAhead (s : Scanner) :
    (s.diagnosticsAhead.filter (!·.fault.concernsIdentifier)).map (fun d => (d.fault, d.lexeme)) =
      (Segment.split s.rest).filterMap Segment.fault? := by
  rw [← Segment.map_snd_placed s.position (Segment.split s.rest), List.filterMap_map,
    List.filterMap_eq_flatMap_toList, diagnosticsAhead, List.filter_flatMap, List.map_flatMap]
  exact List.flatMap_congr fun entry _ => Segment.faults_diagnostics s.limit entry.1 entry.2

/-- The source is made up of segments that are well formed where they stand. Those that are tokens
are, in their order, the tokens returned before the one for the end; those that are faulty are, in
their order, the diagnostics that do not concern an identifier. -/
theorem drain_partitions (source : String) (limit : Nat) :
    ∃ segments : List Segment, ∃ tokens : List Token, ∃ place : Position,
      segments.flatMap Segment.text = source.toList ∧
      Segment.AllWellFormed segments ∧
      (ofSource source limit).drain.1 = tokens ++ [.endOfInput place] ∧
      segments.filterMap Segment.lexeme? = tokens.map (fun token => (token.kind, token.lexeme)) ∧
      segments.filterMap Segment.fault? =
        (((ofSource source limit).drain.2.diagnostics.toList.filter
          (!·.fault.concernsIdentifier)).map fun d => (d.fault, d.lexeme)) := by
  refine ⟨Segment.split source.toList, (ofSource source limit).tokensAhead,
    (ofSource source limit).finalPosition, Segment.flatMap_text_split _,
    Segment.allWellFormed_split _, drain_tokens _, ?_, ?_⟩
  · exact (map_tokensAhead (ofSource source limit)).symm
  · rw [diagnostics_drain]
    exact (faults_diagnosticsAhead (ofSource source limit)).symm

end Scanner
end LexScan
