import LexScan.Proofs.Boundary
import LexScan.Proofs.Relocation

/-! Scanning what was scanned. The texts of the tokens of any source, written with single spaces
between them, are read as the same tokens again, also those that were cut out of faulty text. What
else was in the source is gone, and with it all diagnostics that do not concern a name. -/
namespace LexScan

open Grammar

namespace Token

/-- The texts of some tokens with single spaces between them. -/
def spaced (tokens : List Token) : String := " ".intercalate (tokens.map Token.lexeme)

def segment (token : Token) : Segment := .token token.kind token.lexeme.toList

theorem toList_spaced_cons (token next : Token) (later : List Token) :
    (spaced (token :: next :: later)).toList =
      token.lexeme.toList ++ ' ' :: (spaced (next :: later)).toList := by
  simp [spaced]

end Token

namespace Segment

/-- Texts of tokens with spaces between them are read as they were written. -/
theorem split_spaced {tokens : List Token}
    (texts : ∀ token ∈ tokens, TokenText token.kind token.lexeme.toList) :
    split (Token.spaced tokens).toList = (tokens.map Token.segment).intersperse (.blank ' ') := by
  induction tokens with
  | nil => simp [Token.spaced]
  | cons token later ih =>
      have text := texts token (by simp)
      cases later with
      | nil =>
          have alone := split_of_ends text (by simp [Ends] : Ends [])
          simpa [Token.spaced, Token.segment] using alone
      | cons next later =>
          have others := ih fun other member => texts other (by simp [member])
          have ends : Ends (' ' :: (Token.spaced (next :: later)).toList) := by
            simp [Ends, Text.isBlank]
          have space : split (' ' :: (Token.spaced (next :: later)).toList) =
              .blank ' ' :: split (Token.spaced (next :: later)).toList := by
            rw [split_cons]
            rfl
          rw [Token.toList_spaced_cons, split_of_ends text ends, space, others]
          rfl

theorem flatMap_intersperse {α : Type} {f : Segment → List α} (nothing : f (.blank ' ') = [])
    (segments : List Segment) :
    (segments.intersperse (.blank ' ')).flatMap f = segments.flatMap f := by
  induction segments with
  | nil => rfl
  | cons segment later ih =>
      cases later with
      | nil => rfl
      | cons next later =>
          rw [List.intersperse_cons_cons, List.flatMap_cons, List.flatMap_cons, nothing, ih]
          rfl

/-- Of what is logged about segments, just that about tokens concerns names. -/
theorem filter_diagnostics (limit : Nat) (place : Position) (segment : Segment) :
    (segment.diagnostics limit place).filter (·.fault.concernsIdentifier) =
      (segment.token? place).toList.flatMap fun token => token.segment.diagnostics limit place := by
  cases segment with
  | token kind lexeme =>
      have all : ∀ d ∈ (Segment.token kind lexeme).diagnostics limit place,
          d.fault.concernsIdentifier = true := fun d member => (mem_diagnostics_token member).2.2
      rw [List.filter_eq_self.2 all]
      simp [token?, Token.segment]
  | _ => simp [diagnostics, token?, Fault.concernsIdentifier]

theorem tokens_spaced {tokens : List Token}
    (texts : ∀ token ∈ tokens, TokenText token.kind token.lexeme.toList) :
    (split (Token.spaced tokens).toList).filterMap (token? .start) =
      tokens.map (Token.relocate fun _ => .start) := by
  rw [split_spaced texts, List.filterMap_eq_flatMap_toList, flatMap_intersperse rfl,
    List.flatMap_map, List.map_eq_flatMap]
  apply List.flatMap_congr
  intro token _
  simp [Token.segment, token?, Token.relocate]

theorem diagnostics_spaced {tokens : List Token}
    (texts : ∀ token ∈ tokens, TokenText token.kind token.lexeme.toList) (limit : Nat) :
    (split (Token.spaced tokens).toList).flatMap (diagnostics limit .start) =
      tokens.flatMap fun token => token.segment.diagnostics limit .start := by
  rw [split_spaced texts, flatMap_intersperse rfl, List.flatMap_map]

end Segment

namespace SymbolTable

/-- The names of a table with all that is listed of them but their lines. -/
def counts (table : SymbolTable) : List (String × String × Nat) :=
  table.entries.map fun entry => (entry.1, entry.2.kind, entry.2.frequency)

theorem counts_mapLines (change : Nat → Nat) (table : SymbolTable) :
    (table.mapLines change).counts = table.counts := by
  simp [counts, mapLines, Function.comp_def]

end SymbolTable

namespace Scanner

/-- Names and counts do not depend on where the tokens stand. -/
theorem counts_of_unplaced {first second : String} {limit : Nat}
    (same : (ofSource first limit).tokensAhead.map (Token.relocate fun _ => .start) =
      (ofSource second limit).tokensAhead.map (Token.relocate fun _ => .start)) :
    (ofSource first limit).drain.2.symbols.counts =
      (ofSource second limit).drain.2.symbols.counts := by
  have unplaced := Token.sightings_relocate (fun _ => .start) (fun _ => 1) (fun _ => rfl)
  have one := (tallies_drain first limit).mapLines fun _ => 1
  have other := (tallies_drain second limit).mapLines fun _ => 1
  rw [← unplaced, same] at one
  rw [← unplaced] at other
  have tables := congrArg SymbolTable.counts (one.unique other)
  rwa [SymbolTable.counts_mapLines, SymbolTable.counts_mapLines] at tables

/-- The diagnostics about names, without their places, are those of the tokens alone. -/
theorem nameDiagnostics_unplaced (s : Scanner) :
    (s.diagnosticsAhead.filter (·.fault.concernsIdentifier)).map
        (Diagnostic.relocate fun _ => .start) =
      s.tokensAhead.flatMap fun token => token.segment.diagnostics s.limit .start := by
  have forgotten : (s.diagnosticsAhead.filter (·.fault.concernsIdentifier)).map
      (Diagnostic.relocate fun _ => .start) =
        (s.diagnosticsAhead.map (Diagnostic.relocate fun _ => .start)).filter
          (·.fault.concernsIdentifier) := by
    rw [List.filter_map]
    rfl
  have tokens := tokensAhead_unplaced s
  rw [forgotten, diagnosticsAhead_unplaced, List.filter_flatMap]
  simp only [Segment.filter_diagnostics]
  rw [← List.flatMap_assoc, ← List.filterMap_eq_flatMap_toList, ← tokens, List.flatMap_map]
  rfl

/-! ### Twice -/

section

variable (source : String) (limit : Nat)

/-- The scanner of the texts of all tokens of a source. -/
def rescanner : Scanner :=
  ofSource (Token.spaced ((ofSource source limit).drain.1.filter (!·.isEndOfInput))) limit

theorem rest_rescanner : (rescanner source limit).rest =
    (Token.spaced (ofSource source limit).tokensAhead).toList := by
  rw [rescanner, filter_drain]
  rfl

theorem tokensAhead_rescanner :
    (rescanner source limit).tokensAhead.map (Token.relocate fun _ => .start) =
      (ofSource source limit).tokensAhead.map (Token.relocate fun _ => .start) := by
  rw [tokensAhead_unplaced, rest_rescanner]
  exact Segment.tokens_spaced fun token => tokenText_of_mem_tokensAhead

theorem diagnosticsAhead_rescanner :
    (rescanner source limit).diagnosticsAhead.map (Diagnostic.relocate fun _ => .start) =
      ((ofSource source limit).diagnosticsAhead.filter (·.fault.concernsIdentifier)).map
        (Diagnostic.relocate fun _ => .start) := by
  rw [diagnosticsAhead_unplaced, rest_rescanner, nameDiagnostics_unplaced]
  exact Segment.diagnostics_spaced (fun token => tokenText_of_mem_tokensAhead) limit

theorem fault_of_mem_rescanner {d : Diagnostic}
    (member : d ∈ (rescanner source limit).diagnosticsAhead) :
    d.fault.concernsIdentifier = true := by
  have moved := List.mem_map_of_mem (f := Diagnostic.relocate fun _ => .start) member
  rw [diagnosticsAhead_rescanner] at moved
  obtain ⟨original, kept, same⟩ := List.mem_map.1 moved
  have fault : original.fault = d.fault := by
    simpa [Diagnostic.relocate] using congrArg Diagnostic.fault same
  have concerns := (List.mem_filter.1 kept).2
  rwa [fault] at concerns

end

/-- A second scan that found what the first one had found, places apart, and had nothing to report
but what concerns names. -/
structure Repeats (first second : List Token × Scanner) : Prop where
  tokens : second.1.map (fun token => (token.kind, token.lexeme)) =
    (first.1.filter (!·.isEndOfInput)).map (fun token => (token.kind, token.lexeme)) ++
      [(.endOfInput, "")]
  symbols : second.2.symbols.counts = first.2.symbols.counts
  complete : second.2.diagnostics.hasFatal = false
  diagnostics : second.2.diagnostics.toList.map (fun d => (d.fault, d.lexeme, d.reason)) =
    (first.2.diagnostics.toList.filter (·.fault.concernsIdentifier)).map
      (fun d => (d.fault, d.lexeme, d.reason))

/-- Whatever is in a source, scanning the texts of its tokens with single spaces between them
returns these tokens again, counts the same names and reports the same faults of names and no
others. -/
theorem rescan_repeats (source : String) (limit : Nat) :
    Repeats (ofSource source limit).drain (rescanner source limit).drain := by
  have tokens := congrArg (List.map fun token : Token => (token.kind, token.lexeme))
    (tokensAhead_rescanner source limit)
  have diagnostics := congrArg (List.map fun d : Diagnostic => (d.fault, d.lexeme, d.reason))
    (diagnosticsAhead_rescanner source limit)
  simp only [List.map_map] at tokens diagnostics
  have logged : (rescanner source limit).drain.2.diagnostics.toList =
      (rescanner source limit).diagnosticsAhead := diagnostics_drain_ofSource _ limit
  refine ⟨?_, counts_of_unplaced (tokensAhead_rescanner source limit), ?_, ?_⟩
  · rw [drain_tokens, List.map_append, filter_drain]
    exact congrArg (· ++ [(Kind.endOfInput, "")]) tokens
  · rw [DiagnosticLog.hasFatal_eq, logged, List.any_eq_false]
    intro d member
    have concerns := fault_of_mem_rescanner source limit member
    simp [Fault.isFatal_of_concernsIdentifier concerns]
  · rw [logged, diagnostics_drain_ofSource]
    exact diagnostics

end Scanner
end LexScan
