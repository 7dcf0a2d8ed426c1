import LexScan.Proofs.Relocation

/-! Scanning can begin anew wherever a scanner stands. A fresh scanner that is given the rest of the
source finds what the first one goes on to find: the same tokens and the same faults, at places that
count from where it began. -/
namespace LexScan

namespace Position

/-- The place in the whole of a place in the text that begins at a cursor. On the first line of that
text the columns go on from the cursor. -/
def resume (cursor place : Position) : Position :=
  ⟨place.line + cursor.line - 1,
    if place.line = 1 then place.column + cursor.column else place.column⟩

theorem resume_start (cursor : Position) : cursor.resume start = cursor := by
  simp [resume, start]

theorem next_resume (cursor place : Position) :
    cursor.resume place.next = (cursor.resume place).next := by
  by_cases first : place.line = 1
  · simp only [resume, next, first, if_true, mk.injEq, true_and]
    omega
  · simp [resume, next, first]

theorem advance_resume (cursor : Position) {place : Position} (counted : 0 < place.line)
    (c : Char) : cursor.resume (place.advance c) = (cursor.resume place).advance c := by
  by_cases feed : c = '\n'
  · have later : place.line ≠ 0 := by omega
    have line : place.line + 1 + cursor.line - 1 = place.line + cursor.line - 1 + 1 := by omega
    simp [resume, advance, feed, later, line]
  · have moved := next_resume cursor place
    simpa [advance, feed, next] using moved

theorem line_pos_advance {place : Position} (counted : 0 < place.line) (c : Char) :
    0 < (place.advance c).line := by
  have grown := line_advanceOver place [c]
  simp only [advanceOver_cons, advanceOver_nil] at grown
  omega

theorem keepsStep_resume (cursor : Position) : KeepsStep cursor.resume start :=
  .of_advance (fun place => 0 < place.line)
    (fun _ c counted => ⟨line_pos_advance counted c, advance_resume cursor counted c⟩)
    (next_resume cursor) Nat.one_pos

end Position

namespace Scanner

/-- What a scanner goes on to find is what a fresh one finds, with the places moved to where the
first one stands, and names are recorded as the fresh one records them. -/
structure Restarts (s fresh : Scanner) : Prop where
  tokens : s.drain.1 = fresh.drain.1.map (Token.relocate s.position.resume)
  diagnostics : s.drain.2.diagnostics.toList = s.diagnostics.toList ++
    fresh.drain.2.diagnostics.toList.map (Diagnostic.relocate s.position.resume)
  recorded : fresh.drain.2.symbols = SymbolTable.empty.recordAll (Token.sightings fresh.drain.1)
  symbols : s.drain.2.symbols = s.symbols.recordAll ((Token.sightings fresh.drain.1).map
    fun seen => { seen with line := seen.line + s.position.line - 1 })

theorem restarts_of_rest {s : Scanner} {source : String} (unread : source.toList = s.rest) :
    Restarts s (ofSource source s.limit) := by
  have rest : s.rest = (ofSource source s.limit).rest := unread.symm
  have moved : s.position = s.position.resume .start := (Position.resume_start _).symm
  have steady := Position.keepsStep_resume s.position
  have tokens : s.drain.1 =
      (ofSource source s.limit).drain.1.map (Token.relocate s.position.resume) := by
    rw [drain_tokens, tokensAhead_relocate rest moved steady,
      finalPosition_relocate rest moved steady, drain_tokens, List.map_append]
    rfl
  refine ⟨tokens, ?_, symbols_drain _, ?_⟩
  · rw [diagnostics_drain, diagnosticsAhead_relocate rest moved steady rfl,
      diagnostics_drain_ofSource]
  · have sightings := Token.sightings_relocate s.position.resume (· + s.position.line - 1)
      (fun _ => rfl) (ofSource source s.limit).drain.1
    rw [symbols_drain, tokens, sightings]

/-- Whatever has been called, what the scanner still finds is what scanning the source from its
cursor onwards finds. -/
theorem scan_restarts (source : String) (limit : Nat) (calls : List Call) :
    Restarts (afterCalls source limit calls)
      (ofSource (String.ofList
        (source.toList.drop ((afterCalls source limit calls).offset source))) limit) := by
  have unread := (standsIn_afterCalls source limit calls).drop_offset
  have same : (afterCalls source limit calls).limit = limit :=
    (continues_afterCalls source limit calls).limit
  have restarted := restarts_of_rest (s := afterCalls source limit calls)
    (String.toList_ofList.trans unread)
  rw [same] at restarted
  exact restarted

end Scanner
end LexScan
