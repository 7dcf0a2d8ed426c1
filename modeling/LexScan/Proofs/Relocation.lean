import LexScan.Proofs.SymbolStream

/-! What lies ahead of a scanner, seen from another place. Of all that was read before a cursor, only
its line and column matter for what follows. So when places are moved in a way that keeps step with
the cursor, the tokens and diagnostics ahead are moved with it and stay as they are otherwise. -/
namespace LexScan

namespace Position

/-- Places that are moved keep step with a cursor, wherever it goes from here. -/
structure KeepsStep (move : Position → Position) (p : Position) : Prop where
  cursor : ∀ text, move (p.advanceOver text) = (move p).advanceOver text
  next : ∀ text, move (p.advanceOver text).next = (move (p.advanceOver text)).next

/-- It is enough to keep step over one character, as long as something holds of the cursor. -/
theorem KeepsStep.of_advance {move : Position → Position} (holds : Position → Prop)
    (advance : ∀ p c, holds p → holds (p.advance c) ∧ move (p.advance c) = (move p).advance c)
    (next : ∀ p, move p.next = (move p).next) {p : Position} (here : holds p) :
    KeepsStep move p where
  cursor text := by
    induction text generalizing p with
    | nil => rfl
    | cons c text ih =>
        obtain ⟨there, moved⟩ := advance p c here
        rw [advanceOver_cons, advanceOver_cons, ih there, moved]
  next _ := next _

theorem KeepsStep.advanceOver {move : Position → Position} {p : Position}
    (steady : KeepsStep move p) (text : List Char) : KeepsStep move (p.advanceOver text) where
  cursor later := by
    have whole := steady.cursor (text ++ later)
    rw [advanceOver_append, advanceOver_append, ← steady.cursor text] at whole
    exact whole
  next later := by
    have whole := steady.next (text ++ later)
    rw [advanceOver_append] at whole
    exact whole

end Position

def Token.relocate (move : Position → Position) (token : Token) : Token :=
  { token with position := move token.position }

def Diagnostic.relocate (move : Position → Position) (d : Diagnostic) : Diagnostic :=
  { d with position := move d.position }

theorem Token.sightings_relocate (move : Position → Position) (change : Nat → Nat)
    (lines : ∀ p, (move p).line = change p.line) (tokens : List Token) :
    sightings (tokens.map (relocate move)) =
      (sightings tokens).map fun seen => { seen with line := change seen.line } := by
  simp only [sightings, List.filter_map, List.map_map]
  apply List.map_congr_left
  intro token _
  simp only [Function.comp_apply, sighting, relocate, lines]

namespace Segment

open Position

theorem placed_relocate {move : Position → Position} {p : Position} (steady : KeepsStep move p)
    (segments : List Segment) :
    placed (move p) segments =
      (placed p segments).map fun entry => (move entry.1, entry.2) := by
  induction segments generalizing p with
  | nil => rfl
  | cons segment later ih =>
      have here : move p.next = (move p).next := steady.next []
      rw [placed, ← steady.cursor, ih (steady.advanceOver segment.text), ← here]
      rfl

theorem token?_relocate (move : Position → Position) (place : Position) (segment : Segment) :
    segment.token? (move place) = (segment.token? place).map (Token.relocate move) := by
  cases segment <;> rfl

theorem diagnostics_relocate (limit : Nat) (move : Position → Position) (place : Position)
    (segment : Segment) :
    segment.diagnostics limit (move place) =
      (segment.diagnostics limit place).map (Diagnostic.relocate move) := by
  rw [diagnostics_eq_map limit (move place), diagnostics_eq_map limit place, List.map_map]
  rfl

end Segment

namespace Scanner

section

variable {s t : Scanner} {move : Position → Position} (rest : s.rest = t.rest)
  (moved : s.position = move t.position) (steady : Position.KeepsStep move t.position)

include rest moved steady

theorem ahead_relocate : s.ahead = t.ahead.map fun entry => (move entry.1, entry.2) := by
  rw [ahead, rest, moved, Segment.placed_relocate steady]
  rfl

theorem tokensAhead_relocate : s.tokensAhead = t.tokensAhead.map (Token.relocate move) := by
  rw [tokensAhead, ahead_relocate rest moved steady, tokensAhead, List.filterMap_map,
    List.map_filterMap]
  apply List.filterMap_congr
  intro entry _
  exact Segment.token?_relocate move entry.1 entry.2

theorem diagnosticsAhead_relocate (limit : s.limit = t.limit) :
    s.diagnosticsAhead = t.diagnosticsAhead.map (Diagnostic.relocate move) := by
  rw [diagnosticsAhead, ahead_relocate rest moved steady, diagnosticsAhead, List.flatMap_map,
    List.map_flatMap, limit]
  apply List.flatMap_congr
  intro entry _
  exact Segment.diagnostics_relocate t.limit move entry.1 entry.2

theorem finalPosition_relocate : s.finalPosition = move t.finalPosition := by
  rw [finalPosition, finalPosition, rest, moved, ← steady.cursor]

end

/-! ### Without places -/

theorem tokensAhead_unplaced (s : Scanner) :
    s.tokensAhead.map (Token.relocate fun _ => .start) =
      (Segment.split s.rest).filterMap (Segment.token? .start) := by
  rw [← Segment.map_snd_placed s.position (Segment.split s.rest), List.filterMap_map, tokensAhead,
    List.map_filterMap]
  apply List.filterMap_congr
  intro entry _
  exact (Segment.token?_relocate (fun _ => .start) entry.1 entry.2).symm

theorem diagnosticsAhead_unplaced (s : Scanner) :
    s.diagnosticsAhead.map (Diagnostic.relocate fun _ => .start) =
      (Segment.split s.rest).flatMap (Segment.diagnostics s.limit .start) := by
  rw [← Segment.map_snd_placed s.position (Segment.split s.rest), List.flatMap_map,
    diagnosticsAhead, List.map_flatMap]
  apply List.flatMap_congr
  intro entry _
  exact (Segment.diagnostics_relocate s.limit (fun _ => .start) entry.1 entry.2).symm

end Scanner
end LexScan
