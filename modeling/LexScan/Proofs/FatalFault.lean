import LexScan.Proofs.Place
import LexScan.Report

/-! Fatal faults. A scanner stops early just at a string or comment that is opened where a token may
begin and never closed. No flag records that it has stopped: the fault takes all that is left of the
text, so that nothing more can be found, reported or read. All other faults are passed over. -/
namespace LexScan

open Grammar

/-- What a call answers when nothing is left. -/
def Call.endAnswer (place : Position) : Call → Answer
  | .nextToken => .one (.endOfInput place)
  | .next => .perhaps none
  | .take _ => .many []
  | .tokenize => .many [.endOfInput place]

namespace Segment

open Lexeme

theorem read_of_unclosedString {text : List Char} (unclosed : UnclosedString text) :
    ∃ rest, text = '"' :: rest ∧ read '"' rest = (.unterminatedString text, []) := by
  obtain ⟨opened, endless⟩ := unclosed
  obtain ⟨rest, rfl⟩ := List.head?_eq_some_iff.1 opened
  refine ⟨rest, rfl, ?_⟩
  rw [read_quote, readString]
  cases closed : stringTail rest with
  | none => rfl
  | some parts =>
      obtain ⟨body, whole⟩ := stringTail_eq_some_iff.1 closed
      exact absurd ⟨parts.2, by simp [← whole]⟩ (endless _ ⟨parts.1, body, rfl⟩)

theorem read_of_unclosedComment {text : List Char} (unclosed : UnclosedComment text) :
    ∃ rest depth, text = '#' :: rest ∧ read '#' rest = (.unclosedComment text depth, []) := by
  obtain ⟨⟨later, rfl⟩, endless⟩ := unclosed
  have start : read '#' ('*' :: later) = readNumberSign '#' ('*' :: later) := rfl
  cases closed : commentTail 1 later with
  | unclosed depth => exact ⟨_, depth, rfl, by simp [start, readNumberSign, closed]⟩
  | closed tail left =>
      obtain ⟨body, whole⟩ := commentTail_eq_closed_iff.1 closed
      exact absurd ⟨left, by simp [← whole]⟩ (endless _ ⟨tail, body, rfl⟩)

theorem unclosed_of_isFatal {c : Char} {rest : List Char}
    (fatal : (read c rest).1.isFatal = true) :
    UnclosedString (c :: rest) ∨ UnclosedComment (c :: rest) := by
  have formed := wellFormed_read c rest
  have whole := read_append c rest
  cases segment : (read c rest).1 with
  | unterminatedString lexeme =>
      rw [segment] at formed whole
      obtain ⟨unclosed, left⟩ := formed
      rw [left, List.append_nil] at whole
      exact .inl (whole ▸ unclosed)
  | unclosedComment comment depth =>
      rw [segment] at formed whole
      obtain ⟨unclosed, left⟩ := formed
      rw [left, List.append_nil] at whole
      exact .inr (whole ▸ unclosed)
  | _ => simp [segment, isFatal] at fatal

/-- Reading is fatal just at a string or comment that is opened and never closed. -/
theorem isFatal_read_iff (c : Char) (rest : List Char) : (read c rest).1.isFatal = true ↔
    UnclosedString (c :: rest) ∨ UnclosedComment (c :: rest) := by
  refine ⟨unclosed_of_isFatal, ?_⟩
  intro unclosed
  rcases unclosed with unclosed | unclosed
  · obtain ⟨later, same, read⟩ := read_of_unclosedString unclosed
    obtain ⟨rfl, rfl⟩ := List.cons.inj same
    rw [read]
    rfl
  · obtain ⟨later, depth, same, read⟩ := read_of_unclosedComment unclosed
    obtain ⟨rfl, rfl⟩ := List.cons.inj same
    rw [read]
    rfl

theorem diagnostics_of_isFatal {segment : Segment} (fatal : segment.isFatal = true) (limit : Nat)
    (place : Position) :
    ∃ d, segment.diagnostics limit place = [d] ∧ d.fault.isFatal = true := by
  cases segment with
  | unterminatedString lexeme => exact ⟨_, rfl, rfl⟩
  | unclosedComment comment depth => exact ⟨_, rfl, rfl⟩
  | _ => simp [isFatal] at fatal

theorem isFatal_of_mem_diagnostics {segment : Segment} {limit : Nat} {place : Position}
    {d : Diagnostic} (member : d ∈ segment.diagnostics limit place)
    (fatal : d.fault.isFatal = true) : segment.isFatal = true := by
  cases segment with
  | token kind lexeme =>
      obtain ⟨_, _, identifier⟩ := mem_diagnostics_token member
      simp [Fault.isFatal_of_concernsIdentifier identifier] at fatal
  | unterminatedString lexeme => rfl
  | unclosedComment comment depth => rfl
  | _ => simp_all [diagnostics, Fault.isFatal]

end Segment

namespace Scanner

/-- The scanners at which a step begins while all tokens are taken, each at a place where a token
may begin: a step passes a comment or a literal as a whole. -/
inductive Visits : Scanner → Scanner → Prop where
  | here (s : Scanner) : Visits s s
  | skip {s next t : Scanner} (skipped : s.step = .skip next) (later : Visits next t) : Visits s t
  | found {s next t : Scanner} {token : Token} (found : s.step = .found token next)
      (later : Visits (next.note (.token token)) t) : Visits s t

theorem Stable.visits {holds : Scanner → Prop} (stable : Stable holds) {s t : Scanner}
    (visited : Visits s t) (before : holds s) : holds t := by
  induction visited with
  | here s => exact before
  | skip skipped later ih => exact ih (stable.of_step skipped before)
  | found found later ih => exact ih (stable.note _ _ (stable.of_step found before))

theorem exists_visits_of_mem_ahead {s : Scanner} {entry : Position × Segment}
    (member : entry ∈ s.ahead) :
    ∃ t c rest, Visits s t ∧ t.rest = c :: rest ∧ (Segment.read c rest).1 = entry.2 := by
  cases unread : s.rest with
  | nil => simp [ahead_eq_nil unread] at member
  | cons c rest =>
      rw [ahead_eq_cons unread] at member
      rcases List.mem_cons.1 member with rfl | later
      · exact ⟨s, c, rest, .here s, unread, rfl⟩
      · cases stepped : s.step with
        | skip next =>
            have shorter := length_rest_of_step_eq_skip stepped
            rw [stepped] at later
            obtain ⟨t, d, left, visited, read⟩ := exists_visits_of_mem_ahead later
            exact ⟨t, d, left, .skip stepped visited, read⟩
        | found token next =>
            have shorter := length_rest_of_step_eq_found stepped
            rw [stepped, ← ahead_note _ (.token token)] at later
            obtain ⟨t, d, left, visited, read⟩ := exists_visits_of_mem_ahead later
            exact ⟨t, d, left, .found stepped visited, read⟩
        | stop next =>
            rw [stepped] at later
            have ended := ahead_eq_nil (rest_of_step_eq_stop stepped)
            simp [Step.scanner, ended] at later
termination_by s.rest.length
decreasing_by
  · exact shorter
  · exact shorter

/-- A step stops at the end and at a string or comment that is never closed, and nowhere else. -/
theorem step_eq_stop_iff (s : Scanner) : (∃ next, s.step = .stop next) ↔
    s.rest = [] ∨ UnclosedString s.rest ∨ UnclosedComment s.rest := by
  cases unread : s.rest with
  | nil => simp [step_eq_stop unread]
  | cons c rest =>
      have stops := isStop_absorb s (Segment.read c rest).1 (Segment.read c rest).2
      rw [← step_of_rest unread] at stops
      rw [← Segment.isFatal_read_iff, ← stops]
      cases s.step <;> simp [Step.isStop]

theorem rest_step_of_isFatal {s : Scanner} {c : Char} {rest : List Char}
    (unread : s.rest = c :: rest) (fatal : (Segment.read c rest).1.isFatal = true) :
    s.step.scanner.rest = [] := by
  rw [step_of_rest unread, rest_absorb, Segment.rest_eq_nil_of_isFatal c rest fatal]

theorem diagnosticsAhead_of_isFatal {s : Scanner} {c : Char} {rest : List Char}
    (unread : s.rest = c :: rest) (fatal : (Segment.read c rest).1.isFatal = true) :
    s.diagnosticsAhead = (Segment.read c rest).1.diagnostics s.limit s.position.next := by
  have ended := rest_step_of_isFatal unread fatal
  simp [diagnosticsAhead, ahead_eq_cons unread, ahead_eq_nil ended]

/-- Nothing fatal is logged, or a fatal fault was logged last and has taken all of the text. -/
def FatalIsFinal (s : Scanner) : Prop :=
  (∀ d ∈ s.diagnostics.toList, d.fault.isFatal = false) ∨
  (s.rest = [] ∧ ∃ earlier d, s.diagnostics.toList = earlier ++ [d] ∧ d.fault.isFatal = true ∧
    ∀ e ∈ earlier, e.fault.isFatal = false)

theorem stable_fatalIsFinal : Stable FatalIsFinal where
  step s before := by
    cases unread : s.rest with
    | nil =>
        rw [step_eq_stop unread]
        exact before
    | cons c rest =>
        -- as long as something is left to read, nothing fatal has been logged
        have recoverable : ∀ d ∈ s.diagnostics.toList, d.fault.isFatal = false := by
          rcases before with recoverable | ⟨ended, _⟩
          · exact recoverable
          · simp [unread] at ended
        cases fatal : (Segment.read c rest).1.isFatal with
        | true =>
            obtain ⟨d, logged, final⟩ :=
              Segment.diagnostics_of_isFatal fatal s.limit s.position.next
            refine .inr ⟨?_, s.diagnostics.toList, d, ?_, final, recoverable⟩
            · exact rest_step_of_isFatal unread fatal
            · rw [step_of_rest unread, diagnostics_absorb, logged]
        | false =>
            left
            intro d member
            rw [step_of_rest unread, diagnostics_absorb, List.mem_append] at member
            rcases member with earlier | logged
            · exact recoverable d earlier
            · cases severe : d.fault.isFatal with
              | false => rfl
              | true => simp [Segment.isFatal_of_mem_diagnostics logged severe] at fatal
  note _ _ before := before

theorem fatalIsFinal_afterCalls (source : String) (limit : Nat) (calls : List Call) :
    FatalIsFinal (afterCalls source limit calls) :=
  stable_fatalIsFinal.perform calls (.inl (by simp [diagnostics_ofSource]))

/-! ### Behind the end -/

def SameEnd (ended s : Scanner) : Prop :=
  s.rest = [] ∧ s.position = ended.position ∧ s.diagnostics = ended.diagnostics

theorem stable_sameEnd (ended : Scanner) : Stable (SameEnd ended) where
  step s before := by
    rw [step_eq_stop before.1]
    exact before
  note _ _ before := before

theorem perform_of_sameEnd {ended s : Scanner} (same : SameEnd ended s) (call : Call) :
    (call.perform s).1 = call.endAnswer ended.position := by
  have none_left : s.tokensAhead = [] := by simp [tokensAhead, ahead_eq_nil same.1]
  have final : s.finalPosition = ended.position := by
    rw [finalPosition, same.1, Position.advanceOver_nil, same.2.1]
  cases call <;>
    simp [Call.perform, Call.endAnswer, nextToken_token, pull_token, take_tokens, drain_tokens,
      none_left, final]

theorem answers_of_sameEnd {ended s : Scanner} (same : SameEnd ended s) (calls : List Call) :
    (s.perform calls).1 = calls.map (Call.endAnswer ended.position) := by
  induction calls generalizing s with
  | nil => rfl
  | cons call later ih =>
      have after := (stable_sameEnd ended).call call same
      rw [perform, List.map_cons, perform_of_sameEnd same, ih after]

theorem perform_of_rest_eq_nil {s : Scanner} (ended : s.rest = []) (calls : List Call) :
    (s.perform calls).1 = calls.map (Call.endAnswer s.position) ∧
      (s.perform calls).2.diagnostics = s.diagnostics := by
  have same : SameEnd s s := ⟨ended, rfl, rfl⟩
  exact ⟨answers_of_sameEnd same calls, ((stable_sameEnd s).perform calls same).2.2⟩

/-! ### The whole scan -/

/-- A scan of the source comes, where a token may begin, to a string or comment that is opened there
and never closed. -/
def MeetsUnclosed (source : String) (limit : Nat) : Prop :=
  ∃ t, Visits (ofSource source limit) t ∧ (UnclosedString t.rest ∨ UnclosedComment t.rest)

theorem diagnostics_drain_afterCalls (source : String) (limit : Nat) (calls : List Call) :
    (afterCalls source limit calls).drain.2.diagnostics.toList =
      (ofSource source limit).diagnosticsAhead := by
  have drained := (stable_continues _).drain (continues_afterCalls source limit calls)
  rw [diagnostics_of_rest_eq_nil drained (rest_drain _), diagnostics_ofSource, List.nil_append]

theorem diagnosticsAhead_of_visits {source : String} {limit : Nat} {t : Scanner}
    (visited : Visits (ofSource source limit) t) {c : Char} {rest : List Char}
    (unread : t.rest = c :: rest) (fatal : (Segment.read c rest).1.isFatal = true) :
    (ofSource source limit).diagnosticsAhead =
      t.diagnostics.toList ++ (Segment.read c rest).1.diagnostics t.limit t.position.next := by
  have reached := (stable_continues (ofSource source limit)).visits visited (.refl _)
  rw [← diagnosticsAhead_of_isFatal unread fatal, reached.diagnostics, diagnostics_ofSource,
    List.nil_append]

theorem fatal_diagnosticsAhead_iff (source : String) (limit : Nat) :
    (∃ d ∈ (ofSource source limit).diagnosticsAhead, d.fault.isFatal = true) ↔
      MeetsUnclosed source limit := by
  constructor
  · rintro ⟨d, member, severe⟩
    obtain ⟨entry, ahead, logged⟩ := List.mem_flatMap.1 member
    obtain ⟨t, c, rest, visited, unread, read⟩ := exists_visits_of_mem_ahead ahead
    have fatal := Segment.isFatal_of_mem_diagnostics logged severe
    rw [← read, Segment.isFatal_read_iff, ← unread] at fatal
    exact ⟨t, visited, fatal⟩
  · rintro ⟨t, visited, unclosed⟩
    cases unread : t.rest with
    | nil => simp [unread, UnclosedString, UnclosedComment] at unclosed
    | cons c rest =>
        rw [unread, ← Segment.isFatal_read_iff] at unclosed
        obtain ⟨d, logged, severe⟩ :=
          Segment.diagnostics_of_isFatal unclosed t.limit t.position.next
        refine ⟨d, ?_, severe⟩
        rw [diagnosticsAhead_of_visits visited unread unclosed, logged]
        simp

theorem hasFatal_drain_iff (source : String) (limit : Nat) (calls : List Call) :
    (afterCalls source limit calls).drain.2.diagnostics.hasFatal = true ↔
      MeetsUnclosed source limit := by
  rw [DiagnosticLog.hasFatal_eq, diagnostics_drain_afterCalls, List.any_eq_true]
  exact fatal_diagnosticsAhead_iff source limit

theorem complete_eq_false_iff (source : String) (limit : Nat) :
    (Report.ofSource source limit).complete = false ↔ MeetsUnclosed source limit := by
  rw [← hasFatal_drain_iff source limit []]
  simp [Report.ofSource, Report.ofDrained, afterCalls, perform]

theorem getLast?_of_unclosedString {source : String} {limit : Nat} {t : Scanner}
    (visited : Visits (ofSource source limit) t) (unclosed : UnclosedString t.rest) :
    (ofSource source limit).diagnosticsAhead.getLast? = some ⟨.unterminatedString,
      t.position.next, String.ofList t.rest, "Unterminated string"⟩ := by
  obtain ⟨rest, unread, read⟩ := Segment.read_of_unclosedString unclosed
  rw [diagnosticsAhead_of_visits visited unread (by rw [read]; rfl), read]
  simp [Segment.diagnostics]

theorem getLast?_of_unclosedComment {source : String} {limit : Nat} {t : Scanner}
    (visited : Visits (ofSource source limit) t) (unclosed : UnclosedComment t.rest) :
    (ofSource source limit).diagnosticsAhead.getLast? = some ⟨.unclosedComment,
      t.position.next, "#*", "Nested comment not closed"⟩ := by
  obtain ⟨rest, depth, unread, read⟩ := Segment.read_of_unclosedComment unclosed
  rw [diagnosticsAhead_of_visits visited unread (by rw [read]; rfl), read]
  simp [Segment.diagnostics]

theorem FatalIsFinal.ends {s : Scanner} (final : FatalIsFinal s) :
    (s.diagnostics.toList.filter (·.fault.isFatal)).length ≤ 1 ∧
    ∀ d ∈ s.diagnostics.toList, d.fault.isFatal = true →
      s.diagnostics.toList.getLast? = some d ∧ s.rest = [] := by
  rcases final with recoverable | ⟨ended, earlier, last, same, severe, recoverable⟩
  · have none_fatal : s.diagnostics.toList.filter (·.fault.isFatal) = [] := by
      simpa [List.filter_eq_nil_iff] using recoverable
    refine ⟨by simp [none_fatal], fun d member fatal => ?_⟩
    simp [recoverable d member] at fatal
  · have none_fatal : earlier.filter (·.fault.isFatal) = [] := by
      simpa [List.filter_eq_nil_iff] using recoverable
    rw [same]
    refine ⟨by simp [none_fatal, severe], fun d member fatal => ⟨?_, ended⟩⟩
    rcases List.mem_append.1 member with before | single
    · simp [recoverable d before] at fatal
    · simp [List.mem_singleton.1 single]

/-- At any time at most one fatal diagnostic is logged; then it is the last one, the text is read to
its end, and whatever is called answers that it is the end and logs nothing. Once all tokens are
taken there is one just if the scan met a string or comment that was never closed: that took the
whole remaining text, and the diagnostic stands at the character that opened it. The report is
incomplete in the same cases, and a step stops nowhere else, whatever other faults there are. -/
theorem fatal_faults_end_scan (source : String) (limit : Nat) (calls : List Call) :
    ((afterCalls source limit calls).diagnostics.toList.filter (·.fault.isFatal)).length ≤ 1 ∧
    (∀ d ∈ (afterCalls source limit calls).diagnostics.toList, d.fault.isFatal = true →
      (afterCalls source limit calls).diagnostics.toList.getLast? = some d ∧
      (afterCalls source limit calls).rest = [] ∧
      ∀ later, ((afterCalls source limit calls).perform later).1 =
          later.map (Call.endAnswer (afterCalls source limit calls).position) ∧
        ((afterCalls source limit calls).perform later).2.diagnostics =
          (afterCalls source limit calls).diagnostics) ∧
    ((afterCalls source limit calls).drain.2.diagnostics.hasFatal = true ↔
      MeetsUnclosed source limit) ∧
    ((Report.ofSource source limit).complete = false ↔ MeetsUnclosed source limit) ∧
    ∀ t, Visits (ofSource source limit) t →
      ((∃ next, t.step = .stop next) ↔
        t.rest = [] ∨ UnclosedString t.rest ∨ UnclosedComment t.rest) ∧
      ∃ offset, source.toList.drop offset = t.rest ∧
        (UnclosedString t.rest → t.step.scanner.rest = [] ∧
          (afterCalls source limit calls).drain.2.diagnostics.toList.getLast? =
            some ⟨.unterminatedString, .ofOffset source.toList offset, String.ofList t.rest,
              "Unterminated string"⟩) ∧
        (UnclosedComment t.rest → t.step.scanner.rest = [] ∧
          (afterCalls source limit calls).drain.2.diagnostics.toList.getLast? =
            some ⟨.unclosedComment, .ofOffset source.toList offset, "#*",
              "Nested comment not closed"⟩) := by
  obtain ⟨single, final⟩ := (fatalIsFinal_afterCalls source limit calls).ends
  refine ⟨single, ?_, hasFatal_drain_iff source limit calls, complete_eq_false_iff source limit, ?_⟩
  · intro d member fatal
    obtain ⟨last, ended⟩ := final d member fatal
    exact ⟨last, ended, perform_of_rest_eq_nil ended⟩
  · intro t visited
    have stands : StandsIn source.toList t :=
      (stable_standsIn _).visits visited ⟨[], rfl, rfl⟩
    obtain ⟨offset, left, place⟩ := stands.exists_offset
    refine ⟨step_eq_stop_iff t, offset, left, fun unclosed => ?_, fun unclosed => ?_⟩
    · obtain ⟨next, stopped⟩ := (step_eq_stop_iff t).2 (.inr (.inl unclosed))
      rw [stopped, diagnostics_drain_afterCalls, ← place]
      exact ⟨rest_of_step_eq_stop stopped, getLast?_of_unclosedString visited unclosed⟩
    · obtain ⟨next, stopped⟩ := (step_eq_stop_iff t).2 (.inr (.inr unclosed))
      rw [stopped, diagnostics_drain_afterCalls, ← place]
      exact ⟨rest_of_step_eq_stop stopped, getLast?_of_unclosedComment visited unclosed⟩

end Scanner
end LexScan
