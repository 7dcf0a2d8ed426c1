import LexScan.Proofs.Boundary
import LexScan.Proofs.Relocation

/-! Two sources with a line feed between them. No segment of the first reaches over the line feed
unless the end of the source had cut it short, and what is read of the second depends on nothing
before it but the number of lines. So scanning the whole is scanning the two one after the other,
with the second moved down by the lines of the first. -/
namespace LexScan

/-! ### Moving down -/

def Position.shiftLines (lines : Nat) (p : Position) : Position := ⟨p.line + lines, p.column⟩

def Token.shiftLines (lines : Nat) (token : Token) : Token :=
  { token with position := token.position.shiftLines lines }

def Diagnostic.shiftLines (lines : Nat) (d : Diagnostic) : Diagnostic :=
  { d with position := d.position.shiftLines lines }

theorem Token.sightings_shiftLines (lines : Nat) (tokens : List Token) :
    sightings (tokens.map (shiftLines lines)) =
      (sightings tokens).map fun seen => { seen with line := seen.line + lines } :=
  sightings_relocate (Position.shiftLines lines) (· + lines) (fun _ => rfl) tokens

namespace Position

theorem advance_shiftLines (lines : Nat) (p : Position) (c : Char) :
    (p.shiftLines lines).advance c = (p.advance c).shiftLines lines := by
  by_cases feed : c = '\n'
  · simp only [advance, shiftLines, feed, if_true, Position.mk.injEq, and_true]
    omega
  · simp [advance, shiftLines, feed]

theorem keepsStep_shiftLines (lines : Nat) (p : Position) : KeepsStep (shiftLines lines) p :=
  .of_advance (fun _ => True) (fun q c _ => ⟨trivial, (advance_shiftLines lines q c).symm⟩)
    (fun _ => rfl) trivial

/-- Behind a line feed the cursor stands as at the start, so many lines further down. -/
theorem advance_feed (p : Position) : p.advance '\n' = start.shiftLines p.line := by
  simp [advance, start, shiftLines, Nat.add_comm]

end Position

namespace Segment

theorem placed_append (p : Position) (first second : List Segment) :
    placed p (first ++ second) =
      placed p first ++ placed (p.advanceOver (first.flatMap text)) second := by
  induction first generalizing p with
  | nil => rfl
  | cons segment later ih =>
      simp [placed, ih, Position.advanceOver_append]

/-! ### Over a line feed -/

/-- A segment that did not miss anything at the end of the source. -/
def isClosed : Segment → Bool
  | .malformedCharacter _ | .unterminatedString _ | .unclosedComment _ _ => false
  | _ => true

theorem settled_of_isClosed {result : Segment × List Char} (closed : result.1.isClosed = true)
    (second : List Char) : Settled result ('\n' :: second) where
  recoverable := by cases segment : result.1 <;> simp_all [isClosed, isFatal]
  apart := .inr rfl
  unquoted lexeme same := by simp [same, isClosed] at closed

theorem split_append_feed {first : List Char}
    (closed : ∀ segment ∈ split first, segment.isClosed = true) (second : List Char) :
    split (first ++ '\n' :: second) = split first ++ .blank '\n' :: split second := by
  fun_induction split first with
  | case1 => rw [List.nil_append, split_cons]; rfl
  | case2 c rest ih =>
      have settled : Settled (read c rest) ('\n' :: second) :=
        settled_of_isClosed (closed _ (by simp)) second
      have later := ih fun segment member => closed segment (by simp [member])
      rw [List.cons_append, split_cons, read_append_right settled, later]
      rfl

theorem isClosed_of_diagnostics {segment : Segment} {limit : Nat} {place : Position}
    (calm : ∀ d ∈ segment.diagnostics limit place,
      d.fault.isFatal = false ∧ d.fault ≠ .malformedCharacter) : segment.isClosed = true := by
  cases segment <;> simp_all [diagnostics, isClosed, Fault.isFatal]

end Segment

namespace Scanner

theorem isClosed_of_diagnosticsAhead {s : Scanner}
    (calm : ∀ d ∈ s.diagnosticsAhead, d.fault.isFatal = false ∧ d.fault ≠ .malformedCharacter) :
    ∀ segment ∈ Segment.split s.rest, segment.isClosed = true := by
  intro segment member
  rw [← Segment.map_snd_placed s.position (Segment.split s.rest)] at member
  obtain ⟨entry, ahead, rfl⟩ := List.mem_map.1 member
  exact Segment.isClosed_of_diagnostics fun d logged =>
    calm d (List.mem_flatMap.2 ⟨entry, ahead, logged⟩)

theorem toList_joined (first second : String) :
    (first ++ "\n" ++ second).toList = first.toList ++ '\n' :: second.toList := by simp

theorem finalPosition_joined (first second : String) (limit : Nat) :
    (ofSource (first ++ "\n" ++ second) limit).finalPosition =
      (ofSource second limit).finalPosition.shiftLines
        (ofSource first limit).finalPosition.line := by
  change Position.start.advanceOver (first ++ "\n" ++ second).toList = _
  rw [toList_joined, Position.advanceOver_append, Position.advanceOver_cons, Position.advance_feed,
    ← (Position.keepsStep_shiftLines _ _).cursor]
  rfl

section

variable {first : String} (second : String) (limit : Nat)
  (closed : ∀ segment ∈ Segment.split first.toList, segment.isClosed = true)

include closed

theorem ahead_joined :
    (ofSource (first ++ "\n" ++ second) limit).ahead =
      (ofSource first limit).ahead ++
        ((ofSource first limit).finalPosition.next, .blank '\n') ::
          (ofSource second limit).ahead.map fun entry =>
            (entry.1.shiftLines (ofSource first limit).finalPosition.line, entry.2) := by
  change Segment.placed .start (Segment.split (first ++ "\n" ++ second).toList) = _
  have behind : (Position.start.advanceOver first.toList).advanceOver ['\n'] =
      Position.start.shiftLines (Position.start.advanceOver first.toList).line :=
    Position.advance_feed _
  rw [toList_joined, Segment.split_append_feed closed, Segment.placed_append,
    Segment.flatMap_text_split, Segment.placed, Segment.text, behind,
    Segment.placed_relocate (Position.keepsStep_shiftLines _ _)]
  rfl

theorem tokensAhead_joined :
    (ofSource (first ++ "\n" ++ second) limit).tokensAhead =
      (ofSource first limit).tokensAhead ++ (ofSource second limit).tokensAhead.map
        (Token.shiftLines (ofSource first limit).finalPosition.line) := by
  simp only [tokensAhead, ahead_joined second limit closed, List.filterMap_append,
    List.filterMap_cons, Segment.token?, List.filterMap_map, List.map_filterMap]
  congr 2
  funext entry
  exact Segment.token?_relocate (Position.shiftLines _) entry.1 entry.2

theorem diagnosticsAhead_joined :
    (ofSource (first ++ "\n" ++ second) limit).diagnosticsAhead =
      (ofSource first limit).diagnosticsAhead ++ (ofSource second limit).diagnosticsAhead.map
        (Diagnostic.shiftLines (ofSource first limit).finalPosition.line) := by
  simp only [diagnosticsAhead, ahead_joined second limit closed, List.flatMap_append,
    List.flatMap_cons, List.flatMap_map, List.map_flatMap, Segment.diagnostics_relocate]
  rfl

theorem symbols_joined :
    (ofSource (first ++ "\n" ++ second) limit).drain.2.symbols =
      (ofSource first limit).drain.2.symbols.merge
        ((ofSource second limit).drain.2.symbols.shiftLines
          (ofSource first limit).finalPosition.line) := by
  have whole := tallies_drain (first ++ "\n" ++ second) limit
  rw [tokensAhead_joined second limit closed, Token.sightings_append,
    Token.sightings_shiftLines] at whole
  exact whole.unique ((tallies_drain first limit).merge ((tallies_drain second limit).shiftLines _))

end

theorem line_drain (s : Scanner) : s.drain.2.line = s.finalPosition.line := by
  have reached := (stable_continues s).drain (Continues.refl s)
  rw [line, position_of_rest_eq_nil reached (rest_drain s)]

theorem hasFatal_append_shiftLines {first second whole : DiagnosticLog} {lines : Nat}
    (complete : first.hasFatal = false)
    (joined : whole.toList = first.toList ++ second.toList.map (Diagnostic.shiftLines lines)) :
    whole.hasFatal = second.hasFatal := by
  rw [DiagnosticLog.hasFatal_eq] at complete ⊢
  rw [joined, List.any_append, complete, Bool.false_or, List.any_map, DiagnosticLog.hasFatal_eq]
  rfl

/-- The outcome of scanning two sources one after the other, the second moved down by the lines of
the first. -/
structure Joins (first second whole : List Token × Scanner) : Prop where
  tokens : whole.1 = first.1.filter (!·.isEndOfInput) ++
    second.1.map (Token.shiftLines first.2.line)
  diagnostics : whole.2.diagnostics.toList = first.2.diagnostics.toList ++
    second.2.diagnostics.toList.map (Diagnostic.shiftLines first.2.line)
  symbols : whole.2.symbols = first.2.symbols.merge (second.2.symbols.shiftLines first.2.line)
  line : whole.2.line = first.2.line + second.2.line
  hasFatal : whole.2.diagnostics.hasFatal = second.2.diagnostics.hasFatal

/-- If nothing in the first of two sources was cut short, neither a string nor a comment nor a
character, then scanning them with a line feed between them is scanning one after the other. -/
theorem drain_joins (first second : String) (limit : Nat)
    (complete : (ofSource first limit).drain.2.diagnostics.hasFatal = false)
    (wellFormed : ∀ d ∈ (ofSource first limit).drain.2.diagnostics.toList,
      d.fault ≠ .malformedCharacter) :
    Joins (ofSource first limit).drain (ofSource second limit).drain
      (ofSource (first ++ "\n" ++ second) limit).drain := by
  have recoverable : ∀ d ∈ (ofSource first limit).drain.2.diagnostics.toList,
      d.fault.isFatal = false := by
    simpa [DiagnosticLog.hasFatal_eq] using complete
  have closed : ∀ segment ∈ Segment.split first.toList, segment.isClosed = true := by
    apply isClosed_of_diagnosticsAhead (s := ofSource first limit)
    intro d member
    rw [← diagnostics_drain_ofSource] at member
    exact ⟨recoverable d member, wellFormed d member⟩
  have diagnosed := diagnosticsAhead_joined second limit closed
  simp only [← diagnostics_drain_ofSource, ← line_drain] at diagnosed
  refine ⟨?_, diagnosed, ?_, ?_, hasFatal_append_shiftLines complete diagnosed⟩
  · rw [filter_drain, drain_tokens, drain_tokens, tokensAhead_joined second limit closed,
      finalPosition_joined, line_drain, List.map_append, List.append_assoc]
    rfl
  · rw [symbols_joined second limit closed, line_drain]
  · rw [line_drain, line_drain, line_drain, finalPosition_joined, Position.shiftLines, Nat.add_comm]

/-- The second source has a name in common with the first and ends inside a string. -/
theorem drain_joins_open_string :
    Joins (ofSource "Ab 'x' Cd ## Ab" 30).drain (ofSource "Ef\nAb \"" 30).drain
      (ofSource ("Ab 'x' Cd ## Ab" ++ "\n" ++ "Ef\nAb \"") 30).drain ∧
    (ofSource ("Ab 'x' Cd ## Ab" ++ "\n" ++ "Ef\nAb \"") 30).drain.2.symbols.entries =
      [("Ab", ⟨"IDENTIFIER", 1, 2⟩), ("Cd", ⟨"IDENTIFIER", 1, 1⟩),
       ("Ef", ⟨"IDENTIFIER", 2, 1⟩)] :=
  ⟨drain_joins _ _ _ (by decide +kernel) (by decide +kernel), by decide +kernel⟩

end Scanner
end LexScan
