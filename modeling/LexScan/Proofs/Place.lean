import LexScan.Proofs.Calls
import LexScan.Proofs.Partition
import Mathlib.Data.List.Induction

/-! Places are true. The cursor's line and column are kept up character by character; here they are
compared with counting in the source: line feeds before an offset, and characters behind the last of
them. Every token and every diagnostic stands in the source at an offset that its place names. -/
namespace LexScan

namespace Position

def lastLineLength (text : List Char) : Nat := (text.reverse.takeWhile (· != '\n')).length

/-- The place of the character at an offset. -/
def ofOffset (source : List Char) (offset : Nat) : Position :=
  ⟨1 + (source.take offset).count '\n', 1 + lastLineLength (source.take offset)⟩

/-- The place behind all characters. -/
def behind (source : List Char) : Position := ⟨1 + source.count '\n', lastLineLength source⟩

/-- A text stands in a source at an offset with a given place. -/
def Locates (place : Position) (source text : List Char) : Prop :=
  ∃ offset < source.length, text <+: source.drop offset ∧ place = ofOffset source offset

theorem advanceOver_concat (p : Position) (text : List Char) (c : Char) :
    p.advanceOver (text ++ [c]) = (p.advanceOver text).advance c := by
  simp [advanceOver_append]

/-- The cursor counts: from the start, it is behind the text that it has passed. -/
theorem advanceOver_start (text : List Char) : start.advanceOver text = behind text := by
  -- from the back, since the cursor counts a character after all those before it
  induction text using List.reverseRecOn with
  | nil => rfl
  | append_singleton text c ih =>
      rw [advanceOver_concat, ih]
      by_cases feed : c = '\n'
      · simp [advance, behind, lastLineLength, feed]
        omega
      · simp [advance, behind, lastLineLength, feed]

theorem next_advanceOver_start (before later : List Char) :
    (start.advanceOver before).next = ofOffset (before ++ later) before.length := by
  rw [advanceOver_start, next, ofOffset, behind, List.take_left, Nat.add_comm 1]
  simp [Nat.add_comm]

theorem advanceOver_of_no_feed (p : Position) {text : List Char} (plain : '\n' ∉ text) :
    p.advanceOver text = ⟨p.line, p.column + text.length⟩ := by
  induction text generalizing p with
  | nil => rfl
  | cons c text ih =>
      rw [List.mem_cons, not_or] at plain
      have here : p.advance c = ⟨p.line, p.column + 1⟩ := if_neg (Ne.symm plain.1)
      rw [advanceOver_cons, here, ih _ plain.2, List.length_cons]
      simp only [mk.injEq, true_and]
      omega

/-- A cursor that reads something does not stay where it is. -/
theorem eq_nil_of_advanceOver_eq {p : Position} {text : List Char}
    (same : p.advanceOver text = p) : text = [] := by
  have lines := line_advanceOver p text
  rw [same] at lines
  have plain : '\n' ∉ text := List.count_eq_zero.1 (by omega)
  have columns := congrArg column (advanceOver_of_no_feed p plain)
  rw [same] at columns
  exact List.length_eq_zero_iff.1 (by simp only at columns; omega)

theorem eq_of_isPrefix_of_advanceOver_eq {p : Position} {first second : List Char}
    (part : first <+: second) (same : p.advanceOver first = p.advanceOver second) :
    first = second := by
  obtain ⟨more, rfl⟩ := part
  rw [advanceOver_append] at same
  rw [eq_nil_of_advanceOver_eq same.symm, List.append_nil]

/-- Different offsets in a source have different places. -/
theorem ofOffset_injective {source : List Char} {first second : Nat}
    (one : first ≤ source.length) (other : second ≤ source.length)
    (same : ofOffset source first = ofOffset source second) : first = second := by
  have placed : ∀ offset, offset ≤ source.length →
      ofOffset source offset = (start.advanceOver (source.take offset)).next := by
    intro offset within
    have place := next_advanceOver_start (source.take offset) (source.drop offset)
    rw [List.take_append_drop, List.length_take, Nat.min_eq_left within] at place
    exact place.symm
  have taken : source.take first = source.take second := by
    rw [placed first one, placed second other, next, next, mk.injEq] at same
    have cursors : start.advanceOver (source.take first) =
        start.advanceOver (source.take second) :=
      congrArg₂ mk same.1 (Nat.add_right_cancel same.2)
    rcases Nat.le_total first second with ordered | ordered
    · exact eq_of_isPrefix_of_advanceOver_eq (List.take_prefix_take_left ordered) cursors
    · exact (eq_of_isPrefix_of_advanceOver_eq (List.take_prefix_take_left ordered) cursors.symm).symm
  have lengths := congrArg List.length taken
  rwa [List.length_take, List.length_take, Nat.min_eq_left one, Nat.min_eq_left other] at lengths

end Position

namespace Segment

open Grammar Position

theorem exists_read_of_mem_split {source : List Char} {segment : Segment}
    (member : segment ∈ split source) : ∃ c rest, (read c rest).1 = segment := by
  fun_induction split source with
  | case1 => simp at member
  | case2 c rest ih =>
      rcases List.mem_cons.1 member with rfl | later
      · exact ⟨c, rest, rfl⟩
      · exact ih later

/-- What is logged about a segment bears the segment's place and quotes it from its front. -/
theorem mem_diagnostics {limit : Nat} {place : Position} {segment : Segment} {left : List Char}
    {d : Diagnostic} (formed : segment.WellFormed left)
    (member : d ∈ segment.diagnostics limit place) :
    d.position = place ∧ d.lexeme.toList <+: segment.text := by
  cases segment with
  | token kind lexeme =>
      obtain ⟨rfl, same, _⟩ := mem_diagnostics_token member
      exact ⟨rfl, by simp [same, text]⟩
  | unclosedComment comment depth =>
      simp only [diagnostics, List.mem_singleton] at member
      rw [member]
      exact ⟨rfl, by simpa [text] using formed.1.1⟩
  | _ => simp_all [diagnostics, text]

theorem exists_of_mem_placed {p : Position} {segments : List Segment}
    {entry : Position × Segment} (member : entry ∈ placed p segments) :
    ∃ earlier later, segments.flatMap text = earlier ++ (entry.2.text ++ later) ∧
      entry.1 = (p.advanceOver earlier).next := by
  induction segments generalizing p with
  | nil => simp [placed] at member
  | cons segment others ih =>
      simp only [placed, List.mem_cons] at member
      rcases member with rfl | member
      · exact ⟨[], others.flatMap text, by simp, rfl⟩
      · obtain ⟨earlier, later, whole, place⟩ := ih member
        exact ⟨segment.text ++ earlier, later, by simp [whole], by rw [place, advanceOver_append]⟩

theorem exists_read_of_mem_placed {p : Position} {source : List Char} {entry : Position × Segment}
    (member : entry ∈ placed p (split source)) : ∃ c rest, (read c rest).1 = entry.2 := by
  have listed := List.mem_map_of_mem (f := Prod.snd) member
  rw [map_snd_placed] at listed
  exact exists_read_of_mem_split listed

theorem locates_of_mem_placed {source quoted : List Char} {entry : Position × Segment}
    (member : entry ∈ placed start (split source)) (quotes : quoted <+: entry.2.text) :
    entry.1.Locates source quoted := by
  obtain ⟨earlier, later, whole, place⟩ := exists_of_mem_placed member
  obtain ⟨c, rest, same⟩ := exists_read_of_mem_placed member
  obtain ⟨tail, head⟩ := read_head c rest
  rw [flatMap_text_split] at whole
  rw [whole]
  refine ⟨earlier.length, ?_, ?_, ?_⟩
  · simp [← same, head]
  · rw [List.drop_left]
    exact quotes.trans (List.prefix_append _ _)
  · rw [place, next_advanceOver_start]

end Segment

namespace Scanner

open Position

theorem locates_of_mem_tokensAhead {source : String} {limit : Nat} {token : Token}
    (member : token ∈ (ofSource source limit).tokensAhead) :
    token.position.Locates source.toList token.lexeme.toList ∧ token.isEndOfInput = false := by
  obtain ⟨⟨place, segment⟩, ahead, yielded⟩ := List.mem_filterMap.1 member
  cases segment with
  | token kind lexeme =>
      simp only [Segment.token?, Option.some.injEq] at yielded
      subst yielded
      refine ⟨Segment.locates_of_mem_placed ahead (by simp [Segment.text]), ?_⟩
      obtain ⟨c, rest, read⟩ := Segment.exists_read_of_mem_placed ahead
      simpa [Token.isEndOfInput] using (Segment.tokenText_of_read read).ne_endOfInput
  | _ => simp [Segment.token?] at yielded

theorem locates_of_mem_diagnosticsAhead {source : String} {limit : Nat} {d : Diagnostic}
    (member : d ∈ (ofSource source limit).diagnosticsAhead) :
    d.position.Locates source.toList d.lexeme.toList := by
  obtain ⟨entry, ahead, logged⟩ := List.mem_flatMap.1 member
  obtain ⟨c, rest, read⟩ := Segment.exists_read_of_mem_placed ahead
  have formed := Segment.wellFormed_read c rest
  rw [read] at formed
  obtain ⟨same, quotes⟩ := Segment.mem_diagnostics formed logged
  rw [same]
  exact Segment.locates_of_mem_placed ahead quotes

/-- The cursor stands behind what has been read of a source. -/
def StandsIn (source : List Char) (s : Scanner) : Prop :=
  ∃ before, before ++ s.rest = source ∧ s.position = start.advanceOver before

theorem stable_standsIn (source : List Char) : Stable (StandsIn source) where
  step s reached := by
    obtain ⟨before, whole, place⟩ := reached
    cases unread : s.rest with
    | nil =>
        rw [step_eq_stop unread]
        exact ⟨before, whole, place⟩
    | cons c rest =>
        rw [step_of_rest unread]
        refine ⟨before ++ (Segment.read c rest).1.text, ?_, ?_⟩
        · rw [rest_absorb, List.append_assoc, Segment.read_append, ← unread, whole]
        · rw [position_absorb, place, advanceOver_append]
  note _ _ reached := reached

theorem StandsIn.exists_offset {source : List Char} {s : Scanner} (stands : StandsIn source s) :
    ∃ offset, source.drop offset = s.rest ∧ s.position.next = ofOffset source offset := by
  obtain ⟨before, whole, place⟩ := stands
  refine ⟨before.length, ?_, ?_⟩
  · rw [← whole, List.drop_left]
  · rw [place, ← whole, next_advanceOver_start]

theorem standsIn_afterCalls (source : String) (limit : Nat) (calls : List Call) :
    StandsIn source.toList (afterCalls source limit calls) :=
  (stable_standsIn _).perform calls ⟨[], rfl, rfl⟩

/-- The number of characters of a source that a scanner has read. -/
def offset (source : String) (s : Scanner) : Nat := source.length - s.rest.length

theorem StandsIn.drop_offset {source : String} {s : Scanner} (stands : StandsIn source.toList s) :
    source.toList.drop (s.offset source) = s.rest := by
  obtain ⟨before, whole, _⟩ := stands
  have length : before.length + s.rest.length = source.length := by
    rw [← String.length_toList, ← whole, List.length_append]
  have read : s.offset source = before.length := by
    simp only [offset]
    omega
  rw [read, ← whole, List.drop_left]

theorem finalPosition_ofSource (source : String) (limit : Nat) :
    (ofSource source limit).finalPosition = behind source.toList :=
  advanceOver_start source.toList

/-- Whatever is called, tokens and diagnostics stand in the source where their places say, and the
token for the end stands behind the source, as the cursor does once all tokens are taken. -/
theorem places_true (source : String) (limit : Nat) (calls : List Call) :
    (∀ answer ∈ ((ofSource source limit).perform calls).1, ∀ token ∈ answer.toList,
      if token.isEndOfInput then token.position = behind source.toList
      else token.position.Locates source.toList token.lexeme.toList) ∧
    (∀ d ∈ (afterCalls source limit calls).diagnostics.toList,
      d.position.Locates source.toList d.lexeme.toList) ∧
    (afterCalls source limit calls).drain.2.line = 1 + source.toList.count '\n' := by
  have reached := continues_afterCalls source limit calls
  refine ⟨?_, ?_, ?_⟩
  · intro answer answered token member
    rcases mem_answers _ calls answered member with ahead | rfl
    · obtain ⟨located, visible⟩ := locates_of_mem_tokensAhead ahead
      simpa [visible] using located
    · rw [finalPosition_ofSource]
      rfl
  · intro d logged
    have ahead : d ∈ (ofSource source limit).diagnosticsAhead := by
      have all := reached.diagnostics
      rw [diagnostics_ofSource, List.nil_append] at all
      rw [← all]
      exact List.mem_append_left _ logged
    exact locates_of_mem_diagnosticsAhead ahead
  · have drained := (stable_continues _).drain reached
    rw [line, position_of_rest_eq_nil drained (rest_drain _), finalPosition_ofSource]
    rfl

end Scanner
end LexScan
