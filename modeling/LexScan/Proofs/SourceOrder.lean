import LexScan.Proofs.NameFault
import Mathlib.Data.List.Nodup

/-! Everything is told in the order of the source. Places are compared line by line, and within a
line from left to right. A segment takes at least one character, so each one begins behind the place
where the last one began, whatever line feeds it contains. Tokens and diagnostics bear the places of
their segments: both lists go strictly forward, and at one place there is at most one of each. -/
namespace LexScan

namespace Position

/-- Earlier in reading order. -/
def Before (p q : Position) : Prop := p.line < q.line ∨ p.line = q.line ∧ p.column < q.column

instance : DecidableRel Before :=
  fun p q => inferInstanceAs (Decidable (p.line < q.line ∨ p.line = q.line ∧ p.column < q.column))

theorem Before.ne {p q : Position} (before : p.Before q) : p ≠ q := by
  rintro rfl
  unfold Before at before
  omega

/-- A cursor that reads a text comes to a later line, or goes along its own one. -/
theorem advanceOver_forward (p : Position) (text : List Char) :
    p.line < (p.advanceOver text).line ∨
      p.advanceOver text = ⟨p.line, p.column + text.length⟩ := by
  by_cases feed : '\n' ∈ text
  · have lines := line_advanceOver p text
    have some_feed := List.count_pos_iff.2 feed
    left
    omega
  · exact .inr (advanceOver_of_no_feed p feed)

theorem before_next_advanceOver (p : Position) {text : List Char} (solid : text ≠ []) :
    p.next.Before (p.advanceOver text).next := by
  have some_text := List.length_pos_iff.2 solid
  rcases advanceOver_forward p text with later | along
  · exact .inl later
  · rw [along]
    exact .inr ⟨rfl, by simp only [next]; omega⟩

/-- Behind a text is not before its first character, though it may be at it. -/
theorem not_advanceOver_before_next (p : Position) {text : List Char} (solid : text ≠ []) :
    ¬ (p.advanceOver text).Before p.next := by
  have some_text := List.length_pos_iff.2 solid
  rcases advanceOver_forward p text with later | along
  · simp only [Before, next]
    omega
  · rw [along]
    simp only [Before, next]
    omega

/-- Of all characters of a source, only the last one can be where the cursor comes to rest. -/
theorem offset_of_ofOffset_eq_behind {source : List Char} {offset : Nat}
    (within : offset < source.length) (same : ofOffset source offset = behind source) :
    offset = source.length - 1 := by
  rcases List.eq_nil_or_concat' source with rfl | ⟨before, last, rfl⟩
  · simp at within
  · rw [← advanceOver_start, advanceOver_concat] at same
    by_cases feed : last = '\n'
    · have column := congrArg Position.column same
      simp [ofOffset, advance, feed] at column
    · have place : (start.advanceOver before).advance last =
          ofOffset (before ++ [last]) before.length := by
        rw [← next_advanceOver_start]
        exact if_neg feed
      have length : (before ++ [last]).length = before.length + 1 := by simp
      have offsets := ofOffset_injective (by omega) (by omega) (same.trans place)
      omega

theorem Locates.eq_last {place : Position} {source text : List Char}
    (located : place.Locates source text) (same : place = behind source) :
    place = ofOffset source (source.length - 1) := by
  obtain ⟨offset, within, _, rfl⟩ := located
  rw [← offset_of_ofOffset_eq_behind within same]

end Position

namespace Segment

open Position

theorem text_read_ne_nil (c : Char) (rest : List Char) : (read c rest).1.text ≠ [] := by
  obtain ⟨tail, head⟩ := read_head c rest
  simp [head]

theorem text_ne_nil_of_mem_split {source : List Char} {segment : Segment}
    (member : segment ∈ split source) : segment.text ≠ [] := by
  obtain ⟨c, rest, rfl⟩ := exists_read_of_mem_split member
  exact text_read_ne_nil c rest

theorem pairwise_placed (p : Position) {segments : List Segment}
    (solid : ∀ segment ∈ segments, segment.text ≠ []) :
    (placed p segments).Pairwise fun first second => first.1.Before second.1 := by
  induction segments generalizing p with
  | nil => exact .nil
  | cons segment later ih =>
      rw [placed, List.pairwise_cons]
      refine ⟨?_, ih _ fun other member => solid other (by simp [member])⟩
      intro entry member
      obtain ⟨passed, _, _, place⟩ := exists_of_mem_placed member
      rw [place, ← advanceOver_append]
      exact before_next_advanceOver p (by simp [solid segment])

theorem position_of_token? {place : Position} {segment : Segment} {token : Token}
    (yielded : segment.token? place = some token) : token.position = place := by
  cases segment <;> simp_all [token?]
  rw [← yielded]

theorem position_of_mem_diagnostics {limit : Nat} {place : Position} {segment : Segment}
    {d : Diagnostic} (member : d ∈ segment.diagnostics limit place) : d.position = place := by
  rw [diagnostics_eq_map] at member
  obtain ⟨_, _, rfl⟩ := List.mem_map.1 member
  rfl

/-- About one segment there is at most one diagnostic. -/
theorem length_diagnostics_le_one (limit : Nat) (place : Position) (segment : Segment) :
    (segment.diagnostics limit place).length ≤ 1 := by
  cases segment with
  | token kind lexeme => exact Option.length_toList_le
  | _ => simp [diagnostics]

/-- A diagnostic about a segment that yields a token is the fault of that token as a name. -/
theorem nameFault?_of_mem_diagnostics {limit : Nat} {place : Position} {segment : Segment}
    {token : Token} {d : Diagnostic} (yielded : segment.token? place = some token)
    (member : d ∈ segment.diagnostics limit place) : token.nameFault? limit = some d := by
  have concerns : d.fault.concernsIdentifier = true := by
    cases segment with
    | token kind lexeme => exact (mem_diagnostics_token member).2.2
    | _ => simp [token?] at yielded
  have kept : d ∈ (segment.diagnostics limit place).filter (·.fault.concernsIdentifier) :=
    List.mem_filter.2 ⟨member, concerns⟩
  rw [filter_diagnostics_eq, yielded] at kept
  simpa using kept

end Segment

namespace Scanner

open Position

theorem pairwise_ahead (s : Scanner) :
    s.ahead.Pairwise fun first second => first.1.Before second.1 :=
  Segment.pairwise_placed _ fun _ => Segment.text_ne_nil_of_mem_split

theorem pairwise_tokensAhead (s : Scanner) :
    s.tokensAhead.Pairwise fun first second => first.position.Before second.position := by
  rw [tokensAhead, List.pairwise_filterMap]
  refine s.pairwise_ahead.imp ?_
  intro first second before one firstYielded other secondYielded
  rw [Segment.position_of_token? firstYielded, Segment.position_of_token? secondYielded]
  exact before

theorem pairwise_diagnosticsAhead (s : Scanner) :
    s.diagnosticsAhead.Pairwise fun first second => first.position.Before second.position := by
  rw [diagnosticsAhead, List.pairwise_flatMap]
  constructor
  · intro entry _
    have single := Segment.length_diagnostics_le_one s.limit entry.1 entry.2
    rw [List.pairwise_iff_getElem]
    intro first second _ _ _
    omega
  · refine s.pairwise_ahead.imp ?_
    intro first second before one firstLogged other secondLogged
    rw [Segment.position_of_mem_diagnostics firstLogged,
      Segment.position_of_mem_diagnostics secondLogged]
    exact before

/-- What lies ahead at one place is one segment. -/
theorem eq_of_mem_ahead {s : Scanner} {first second : Position × Segment}
    (one : first ∈ s.ahead) (other : second ∈ s.ahead) (same : first.1 = second.1) :
    first = second := by
  have distinct : (s.ahead.map Prod.fst).Nodup :=
    List.pairwise_map.2 (s.pairwise_ahead.imp Before.ne)
  exact List.inj_on_of_nodup_map distinct one other same

theorem nameFault?_of_same_position {s : Scanner} {token : Token} {d : Diagnostic}
    (found : token ∈ s.tokensAhead) (logged : d ∈ s.diagnosticsAhead)
    (same : d.position = token.position) : token.nameFault? s.limit = some d := by
  obtain ⟨first, one, yielded⟩ := List.mem_filterMap.1 found
  obtain ⟨second, other, member⟩ := List.mem_flatMap.1 logged
  have place : first.1 = second.1 := by
    rw [← Segment.position_of_token? yielded, ← Segment.position_of_mem_diagnostics member, same]
  rw [← eq_of_mem_ahead one other place] at member
  exact Segment.nameFault?_of_mem_diagnostics yielded member

theorem not_finalPosition_before {s : Scanner} {token : Token} (found : token ∈ s.tokensAhead) :
    ¬ s.finalPosition.Before token.position := by
  obtain ⟨entry, ahead, yielded⟩ := List.mem_filterMap.1 found
  obtain ⟨earlier, later, whole, place⟩ := Segment.exists_of_mem_placed ahead
  have solid : entry.2.text ≠ [] := by
    obtain ⟨c, rest, same⟩ := Segment.exists_read_of_mem_placed ahead
    exact same ▸ Segment.text_read_ne_nil c rest
  rw [Segment.flatMap_text_split] at whole
  rw [finalPosition, whole, advanceOver_append, Segment.position_of_token? yielded, place]
  exact not_advanceOver_before_next _ (by simp [solid])

/-! ### The log grows at its end -/

theorem stable_logged (earlier : List Diagnostic) :
    Stable fun s => earlier <+: s.diagnostics.toList where
  step s before := by
    cases unread : s.rest with
    | nil =>
        rw [step_eq_stop unread]
        exact before
    | cons c rest =>
        rw [step_of_rest unread, diagnostics_absorb]
        exact before.trans (List.prefix_append _ _)
  note _ _ before := before

theorem diagnostics_afterCalls_append (source : String) (limit : Nat) (calls later : List Call) :
    (afterCalls source limit calls).diagnostics.toList <+:
      (afterCalls source limit (calls ++ later)).diagnostics.toList := by
  rw [afterCalls, afterCalls, perform_append]
  exact (stable_logged _).perform later List.prefix_rfl

/-! ### All calls -/

theorem mem_returned {source : String} {limit : Nat} {calls : List Call} {token : Token}
    (member : token ∈ returned source limit calls) :
    token ∈ (ofSource source limit).tokensAhead ∨
      token = .endOfInput (behind source.toList) := by
  obtain ⟨answer, answered, within⟩ := List.mem_flatMap.1 member
  rw [← finalPosition_ofSource source limit]
  exact mem_answers _ calls answered within

theorem diagnostics_afterCalls_isPrefix (source : String) (limit : Nat) (calls : List Call) :
    (afterCalls source limit calls).diagnostics.toList <+:
      (ofSource source limit).diagnosticsAhead := by
  have all := (continues_afterCalls source limit calls).diagnostics
  rw [diagnostics_ofSource, List.nil_append] at all
  exact ⟨_, all⟩

/-- How the tokens that some calls return and the diagnostics they log lie in a source. -/
structure InSourceOrder (source : List Char) (limit : Nat) (found : List Token)
    (log : List Diagnostic) : Prop where
  tokens : (found.filter (!·.isEndOfInput)).Pairwise fun first second =>
    first.position.Before second.position
  diagnostics : log.Pairwise fun first second => first.position.Before second.position
  shared : ∀ token ∈ found, token.isEndOfInput = false → ∀ d ∈ log,
    d.position = token.position → token.nameFault? limit = some d ∧ d.lexeme = token.lexeme
  ended : ∀ last ∈ found, last.isEndOfInput = true →
    (∀ token ∈ found, ¬ last.position.Before token.position ∧
      (token.isEndOfInput = false → token.position = last.position →
        token.position = ofOffset source (source.length - 1))) ∧
    ∀ d ∈ log, d.position = last.position → d.position = ofOffset source (source.length - 1)

/-- Whatever is called, tokens and diagnostics come in the order of the source, each strictly behind
the one before; a token and a diagnostic stand at the same place only if the diagnostic is the fault
of that token as a name. The token for the end is before no other, and what stands at its place is
the last character of the source. Later calls only append to the log. -/
theorem calls_keep_source_order (source : String) (limit : Nat) (calls : List Call) :
    InSourceOrder source.toList limit (returned source limit calls)
      (afterCalls source limit calls).diagnostics.toList ∧
    ∀ later, (afterCalls source limit calls).diagnostics.toList <+:
      (afterCalls source limit (calls ++ later)).diagnostics.toList := by
  have logged := diagnostics_afterCalls_isPrefix source limit calls
  have taken := tokens_perform (ofSource source limit) calls
  refine ⟨⟨?_, ?_, ?_, ?_⟩, diagnostics_afterCalls_append source limit calls⟩
  · have all := (ofSource source limit).pairwise_tokensAhead
    rw [← taken] at all
    exact (List.pairwise_append.1 all).1
  · exact (ofSource source limit).pairwise_diagnosticsAhead.sublist logged.sublist
  · intro token member visible d listed same
    rcases mem_returned member with ahead | rfl
    · have fault := nameFault?_of_same_position ahead (logged.subset listed) same
      exact ⟨fault, (Token.of_nameFault?_eq_some fault).2.1⟩
    · simp at visible
  · intro last member ended
    have place : last.position = behind source.toList := by
      rcases mem_returned member with ahead | rfl
      · simp [isEndOfInput_of_mem_tokensAhead ahead] at ended
      · rfl
    rw [place]
    refine ⟨fun token other => ?_, fun d listed same => ?_⟩
    · rcases mem_returned other with ahead | rfl
      · rw [← finalPosition_ofSource source limit]
        refine ⟨not_finalPosition_before ahead, fun _ same => ?_⟩
        rw [finalPosition_ofSource] at same
        exact (locates_of_mem_tokensAhead ahead).1.eq_last same
      · exact ⟨fun before => before.ne rfl, by simp⟩
    · exact (locates_of_mem_diagnosticsAhead (logged.subset listed)).eq_last same

end Scanner
end LexScan
