import LexScan.Proofs.Agreement

/-! The cursor keeps within the source and moves on. Taking a character raises the index whether
there is a character or not, a lexeme is asked for by its bounds, and the loops around the attempts
count nothing down. Yet in every state that a source leads to, only characters have been taken that
are there, an attempt gets its lexemes, and it moves the index on or finds the end; and so the loops
end. -/
namespace LexScan

open Text

namespace Segment

/-- A segment is a token or a faulty piece or neither, and takes a character at least. -/
theorem length_lexemes_add_length_faults_le (source : List Char) :
    ((split source).filterMap lexeme?).length + ((split source).filterMap fault?).length ≤
      source.length := by
  fun_induction split source with
  | case1 => simp
  | case2 c rest ih =>
      have shorter := length_read_lt c rest
      cases (read c rest).1 with
      | _ => simp only [List.filterMap_cons, lexeme?, fault?, List.length_cons] at shorter ⊢; omega

end Segment

namespace Scanner

/-- An attempt answers with the token for the end where nothing is left, or it takes something. -/
theorem attempt_cases (s : Scanner) :
    (s.attempt.answer.1.any Token.isEndOfInput = true ∧ s.attempt.answer.2.rest = []) ∨
      (s.attempt.answer.1.any Token.isEndOfInput = false ∧
        s.attempt.answer.2.rest.length < s.rest.length) := by
  cases tried : s.attempt with
  | skip next => exact .inr ⟨rfl, length_rest_of_attempt_eq_skip tried⟩
  | found token next =>
      have ahead : token ∈ s.skipBlanks.tokensAhead := by
        rw [tokensAhead_step, show s.skipBlanks.step = .found token next from tried]
        exact List.mem_cons_self
      have shorter := length_rest_of_step_eq_found tried
      exact .inr ⟨isEndOfInput_of_mem_tokensAhead ahead,
        Nat.lt_of_lt_of_le shorter (List.dropWhile_suffix _).length_le⟩
  | stop next => exact .inl ⟨rfl, rest_of_step_eq_stop tried⟩

theorem Stable.skipBlanks {holds : Scanner → Prop} (stable : Stable holds) {s : Scanner}
    (before : holds s) : holds s.skipBlanks := by
  generalize unread : s.rest = text
  induction text generalizing s with
  | nil => rwa [skipBlanks_of_rest_eq_nil unread]
  | cons c rest ih =>
      cases blank : isBlank c with
      | false => rwa [skipBlanks_of_visible unread blank]
      | true =>
          obtain ⟨skipped, same⟩ := skipBlanks_of_blank unread blank
          rw [same]
          exact ih (stable.of_step skipped before) rfl

theorem Stable.attempt {holds : Scanner → Prop} (stable : Stable holds) {s : Scanner}
    (before : holds s) : holds s.attempt.answer.2 := by
  rw [Step.scanner_answer]
  exact stable.step _ (stable.skipBlanks before)

/-- Whatever was called before, the tokens that are drained and the faulty pieces that have been
logged by then are not more than there are characters. -/
theorem length_tokens_add_length_faults_le {source : String} {limit : Nat} {s : Scanner}
    (reached : Continues (ofSource source limit) s) :
    (s.drain.1.filter (!·.isEndOfInput)).length +
      (s.drain.2.diagnostics.toList.filter (!·.fault.concernsIdentifier)).length ≤
      source.length := by
  have fewer := reached.tokens.length_le
  have tokens := congrArg List.length (map_tokensAhead (ofSource source limit))
  have faults := congrArg List.length (faults_diagnosticsAhead (ofSource source limit))
  have bound := Segment.length_lexemes_add_length_faults_le source.toList
  rw [String.length_toList] at bound
  simp only [List.length_map] at tokens faults
  rw [filter_drain, diagnostics_drain, reached.diagnostics, diagnostics_ofSource, List.nil_append]
  exact Nat.le_trans (Nat.add_le_add (Nat.le_trans fewer (Nat.le_of_eq tokens))
    (Nat.le_of_eq faults)) bound

end Scanner

namespace IndexedScanner

/-- The states that a source leads to, by attempts at tokens and by calls. -/
inductive Reached (source : String) (limit : Nat) : IndexedScanner → Prop where
  | new : Reached source limit (ofSource source limit)
  | attempt {s next : IndexedScanner} {answer : Option Token} (before : Reached source limit s)
      (tried : s.scanToken = some (answer, next)) : Reached source limit next
  | call {s next : IndexedScanner} {answer : Answer} (before : Reached source limit s) (call : Call)
      (called : s.call call = .some (answer, next)) : Reached source limit next

/-- A state within a source: the bounds of the current piece lie in it, and no character has been
taken that is not there. -/
structure Within (source : String) (limit : Nat) (s : IndexedScanner) : Prop where
  chars : s.cursor.chars = source.toList.toArray
  start : s.cursor.start ≤ s.cursor.index
  bound : s.cursor.index ≤ source.length
  overruns : s.cursor.overruns = 0
  continues : Scanner.Continues (Scanner.ofSource source limit) s.toScanner

theorem within_ofSource (source : String) (limit : Nat) :
    Within source limit (ofSource source limit) :=
  ⟨rfl, Nat.le_refl _, Nat.zero_le _, rfl, .refl _⟩

section

variable {source : String} {limit : Nat} {s next : IndexedScanner}

theorem Within.of_follows (within : Within source limit s) (follows : s.cursor.Follows next.cursor)
    (continues : Scanner.Continues (Scanner.ofSource source limit) next.toScanner) :
    Within source limit next := by
  have size : s.cursor.chars.size = source.length := by
    simp [within.chars, String.length_toList]
  have bound := follows.bound (size ▸ within.bound)
  rw [follows.chars, size] at bound
  exact ⟨follows.chars.trans within.chars, follows.start within.start, bound,
    follows.overruns.trans within.overruns, continues⟩

/-- What is left of the text is what lies behind the index. -/
theorem Within.length_unread (within : Within source limit s) :
    s.toScanner.rest.length = source.length - s.cursor.index := by
  simp [toScanner, Cursor.unread, within.chars, String.length_toList]

/-- A result that agrees with one of the list scanner is within the source as the list scanner goes
on from its beginning. -/
theorem Within.of_agrees {α : Type} {result : Part (α × IndexedScanner)} {expected : α × Scanner}
    {value : α} (within : Within source limit s) (agrees : s.Agrees result expected)
    (reached : result = .some (value, next))
    (continues : Scanner.Continues (Scanner.ofSource source limit) expected.2) :
    Within source limit next := by
  obtain ⟨found, known, same, follows⟩ := agrees
  rw [reached, Part.some_inj, Prod.mk.injEq] at known
  obtain ⟨_, rfl⟩ := known
  exact within.of_follows follows (same ▸ continues)

theorem Within.attempt (within : Within source limit s) {answer : Option Token}
    (tried : s.scanToken = some (answer, next)) : Within source limit next :=
  within.of_agrees (agrees_scanToken s) (congrArg Part.ofOption tried)
    ((Scanner.stable_continues _).attempt within.continues)

theorem Within.call (within : Within source limit s) {call : Call} {answer : Answer}
    (called : s.call call = .some (answer, next)) : Within source limit next :=
  within.of_agrees (agrees_call s call) called
    ((Scanner.stable_continues _).call call within.continues)

theorem Within.perform (within : Within source limit s) {calls : List Call} {answers : List Answer}
    (performed : s.perform calls = .some (answers, next)) : Within source limit next :=
  within.of_agrees (agrees_perform s calls) performed
    ((Scanner.stable_continues _).perform calls within.continues)

/-- The index counts the characters that the list scanner has read. -/
theorem Within.offset (within : Within source limit s) :
    s.toScanner.offset source = s.cursor.index := by
  have bound := within.bound
  rw [Scanner.offset, within.length_unread]
  omega

theorem Reached.within (reached : Reached source limit s) : Within source limit s := by
  induction reached with
  | new => exact within_ofSource source limit
  | attempt _ tried within => exact within.attempt tried
  | call _ _ called within => exact within.call called

/-- An attempt has a result, and it moves the index on unless it finds the end. -/
theorem Within.progress (within : Within source limit s) :
    ∃ answer next, s.scanToken = some (answer, next) ∧
      if answer.any Token.isEndOfInput then next.cursor.index = source.length
      else s.cursor.index < next.cursor.index := by
  obtain ⟨next, tried, same, _⟩ := scanToken_eq_some s
  have after := within.attempt tried
  have before := within.length_unread
  have later := after.length_unread
  have bound := after.bound
  refine ⟨_, next, tried, ?_⟩
  rcases Scanner.attempt_cases s.toScanner with ⟨ended, none_left⟩ | ⟨goes_on, shorter⟩
  · rw [if_pos ended]
    rw [same, none_left, List.length_nil] at later
    omega
  · rw [if_neg (by simp [goes_on])]
    rw [← same] at shorter
    omega

end

/-- In every state that a source leads to, whatever has been called, the current piece lies within
the source and no character has been taken that is not there; an attempt at a token gets all lexemes
that it asks for, and moves on or comes to the end; and every call returns, so that its loops end,
with no more tokens and faulty pieces in the end than there are characters. All this is done as the
list scanner does it. -/
theorem scan_keeps_within_and_ends (source : String) (limit : Nat) :
    (∀ s, Reached source limit s →
      (s.cursor.start ≤ s.cursor.index ∧ s.cursor.index ≤ source.length ∧ s.cursor.overruns = 0) ∧
      (∃ answer next, s.scanToken = some (answer, next) ∧
        if answer.any Token.isEndOfInput then next.cursor.index = source.length
        else s.cursor.index < next.cursor.index) ∧
      (∀ call, ∃ answer next, s.call call = .some (answer, next)) ∧
      ∃ tokens final, s.tokenize = .some (tokens, final) ∧
        (tokens.filter (!·.isEndOfInput)).length +
          (final.diagnostics.toList.filter (!·.fault.concernsIdentifier)).length ≤
          source.length) ∧
    ∀ calls, ∃ s,
      (ofSource source limit).perform calls =
        .some (((Scanner.ofSource source limit).perform calls).1, s) ∧
      s.toScanner = Scanner.afterCalls source limit calls ∧
      s.cursor.index = (Scanner.afterCalls source limit calls).offset source := by
  constructor
  · intro s reached
    have within := reached.within
    refine ⟨⟨within.start, within.bound, within.overruns⟩, within.progress, ?_, ?_⟩
    · intro call
      obtain ⟨next, called, _⟩ := agrees_call s call
      exact ⟨_, next, called⟩
    · obtain ⟨final, drained, same, _⟩ := agrees_tokenize s
      have bound := Scanner.length_tokens_add_length_faults_le within.continues
      rw [← same] at bound
      exact ⟨_, final, drained, bound⟩
  · intro calls
    obtain ⟨s, performed, same, _⟩ := agrees_perform (ofSource source limit) calls
    have within := (within_ofSource source limit).perform performed
    rw [toScanner_ofSource] at performed same
    refine ⟨s, performed, same, ?_⟩
    rw [← within.offset, same, Scanner.afterCalls]

end IndexedScanner
end LexScan
