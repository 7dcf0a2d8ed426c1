import LexScan.Proofs.Step

/-! What lies ahead of a scanner. The segments of a text do not depend on what was read before it,
so a scanner's text alone fixes the tokens and diagnostics that are still to come. A step moves the
first segment from what lies ahead to what is done; therefore the two together never change, and
whatever order tokens are asked for in, the run ends with the same ones. -/
namespace LexScan

namespace Segment

def split (source : List Char) : List Segment :=
  match source with
  | [] => []
  | c :: rest => (read c rest).1 :: split (read c rest).2
termination_by source.length
decreasing_by exact length_read_lt c rest

@[simp] theorem split_nil : split [] = [] := by simp [split]

theorem split_cons (c : Char) (rest : List Char) :
    split (c :: rest) = (read c rest).1 :: split (read c rest).2 := by
  rw [split]

/-- Segments with the places of their first characters, for a cursor that stands before them. -/
def placed (p : Position) : List Segment → List (Position × Segment)
  | [] => []
  | segment :: later => (p.next, segment) :: placed (p.advanceOver segment.text) later

theorem map_snd_placed (p : Position) (segments : List Segment) :
    (placed p segments).map Prod.snd = segments := by
  induction segments generalizing p with
  | nil => rfl
  | cons segment later ih => simp [placed, ih]

end Segment

namespace Scanner

/-- The segments that a scanner has still to read, with their places. -/
def ahead (s : Scanner) : List (Position × Segment) :=
  Segment.placed s.position (Segment.split s.rest)

/-- The tokens that are still to come, without the one for the end. -/
def tokensAhead (s : Scanner) : List Token := s.ahead.filterMap fun entry => entry.2.token? entry.1

def diagnosticsAhead (s : Scanner) : List Diagnostic :=
  s.ahead.flatMap fun entry => entry.2.diagnostics s.limit entry.1

/-- Where the cursor comes to rest. -/
def finalPosition (s : Scanner) : Position := s.position.advanceOver s.rest

@[simp] theorem ahead_note (s : Scanner) (event : Event) : (s.note event).ahead = s.ahead := rfl

theorem ahead_eq_nil {s : Scanner} (ended : s.rest = []) : s.ahead = [] := by
  simp [ahead, ended, Segment.placed]

theorem step_eq_stop {s : Scanner} (ended : s.rest = []) : s.step = .stop s := by
  simp [step, ended]

theorem ahead_eq_cons {s : Scanner} {c : Char} {rest : List Char} (unread : s.rest = c :: rest) :
    s.ahead = (s.position.next, (Segment.read c rest).1) :: s.step.scanner.ahead := by
  simp only [ahead, unread, Segment.split_cons, Segment.placed, step_of_rest unread,
    position_absorb, rest_absorb]

theorem limit_step (s : Scanner) : s.step.scanner.limit = s.limit := by
  cases unread : s.rest with
  | nil => rw [step_eq_stop unread]; rfl
  | cons c rest => rw [step_of_rest unread, limit_absorb]

theorem tokensAhead_step (s : Scanner) :
    s.tokensAhead = s.step.token?.toList ++ s.step.scanner.tokensAhead := by
  cases unread : s.rest with
  | nil => simp [tokensAhead, step_eq_stop unread, ahead_eq_nil unread, Step.token?, Step.scanner]
  | cons c rest =>
      rw [tokensAhead, ahead_eq_cons unread, List.filterMap_cons, tokensAhead, step_of_rest unread,
        token?_absorb]
      cases (Segment.read c rest).1.token? s.position.next <;> rfl

/-- What is logged and what is still to be logged stay the same together. -/
theorem diagnostics_step (s : Scanner) :
    s.step.scanner.diagnostics.toList ++ s.step.scanner.diagnosticsAhead =
      s.diagnostics.toList ++ s.diagnosticsAhead := by
  cases unread : s.rest with
  | nil => rw [step_eq_stop unread]; rfl
  | cons c rest =>
      rw [diagnosticsAhead, diagnosticsAhead, limit_step, ahead_eq_cons unread, List.flatMap_cons,
        ← List.append_assoc]
      rw [step_of_rest unread, diagnostics_absorb]

theorem finalPosition_step (s : Scanner) : s.step.scanner.finalPosition = s.finalPosition := by
  cases unread : s.rest with
  | nil => rw [step_eq_stop unread]; rfl
  | cons c rest =>
      rw [finalPosition, finalPosition, step_of_rest unread, position_absorb, rest_absorb,
        ← Position.advanceOver_append, Segment.read_append, unread]

/-- A stream stops only when nothing is left to read. -/
theorem rest_of_step_eq_stop {s next : Scanner} (stopped : s.step = .stop next) :
    next.rest = [] := by
  cases unread : s.rest with
  | nil =>
      rw [step_eq_stop unread, Step.stop.injEq] at stopped
      rw [← stopped, unread]
  | cons c rest =>
      rw [step_of_rest unread] at stopped
      have fatal := isStop_absorb s (Segment.read c rest).1 (Segment.read c rest).2
      have left := rest_absorb s (Segment.read c rest).1 (Segment.read c rest).2
      rw [stopped] at fatal left
      exact left.trans (Segment.rest_eq_nil_of_isFatal c rest fatal.symm)

/-! ### Runs -/

/-- A property that every step keeps and that does not depend on the trace. -/
structure Stable (holds : Scanner → Prop) : Prop where
  step : ∀ s : Scanner, holds s → holds s.step.scanner
  note : ∀ (s : Scanner) (event : Event), holds s → holds (s.note event)

namespace Stable

variable {holds : Scanner → Prop}

theorem of_step (stable : Stable holds) {s : Scanner} {result : Step} (stepped : s.step = result)
    (before : holds s) : holds result.scanner := by
  rw [← stepped]
  exact stable.step s before

theorem pull (stable : Stable holds) {s : Scanner} (before : holds s) : holds s.pull.2 := by
  fun_induction Scanner.pull s with
  | case1 s next skipped ih => exact ih (stable.of_step skipped before)
  | case2 s token next found => exact stable.note next _ (stable.of_step found before)
  | case3 s next stopped => exact stable.note next _ (stable.of_step stopped before)

theorem of_pull (stable : Stable holds) {s next : Scanner} {answer : Option Token}
    (pulled : s.pull = (answer, next)) (before : holds s) : holds next := by
  have after := stable.pull before
  rwa [pulled] at after

theorem nextToken (stable : Stable holds) {s : Scanner} (before : holds s) :
    holds s.nextToken.2 := by
  unfold Scanner.nextToken
  split
  · next token next pulled => exact stable.of_pull pulled before
  · next next pulled => exact stable.of_pull pulled before

theorem take (stable : Stable holds) (count : Nat) {s : Scanner} (before : holds s) :
    holds (Scanner.take count s).2 := by
  induction count generalizing s with
  | zero => exact before
  | succ count ih =>
      unfold Scanner.take
      split
      · next next pulled => exact stable.of_pull pulled before
      · next token next pulled => exact ih (stable.of_pull pulled before)

theorem drain (stable : Stable holds) {s : Scanner} (before : holds s) : holds s.drain.2 := by
  fun_induction Scanner.drain s with
  | case1 s next pulled => exact stable.of_pull pulled before
  | case2 s token next pulled later ih => exact ih (stable.of_pull pulled before)

end Stable

/-- One scanner is reached from another: together with what it has done, what lies ahead of it is
what lay ahead of the other. -/
structure Continues (origin s : Scanner) : Prop where
  limit : s.limit = origin.limit
  tokens : s.tokensAhead <:+ origin.tokensAhead
  diagnostics : s.diagnostics.toList ++ s.diagnosticsAhead =
    origin.diagnostics.toList ++ origin.diagnosticsAhead
  finalPosition : s.finalPosition = origin.finalPosition

theorem Continues.refl (s : Scanner) : Continues s s := ⟨rfl, List.suffix_rfl, rfl, rfl⟩

theorem stable_continues (origin : Scanner) : Stable (Continues origin) where
  step s reached := {
    limit := (limit_step s).trans reached.limit
    tokens := by
      have taken : s.step.scanner.tokensAhead <:+ s.tokensAhead := by
        rw [tokensAhead_step s]
        exact List.suffix_append _ _
      exact taken.trans reached.tokens
    diagnostics := (diagnostics_step s).trans reached.diagnostics
    finalPosition := (finalPosition_step s).trans reached.finalPosition }
  note s _ reached := ⟨reached.limit, reached.tokens, reached.diagnostics, reached.finalPosition⟩

theorem Continues.of_pull {s next : Scanner} {answer : Option Token}
    (pulled : s.pull = (answer, next)) : Continues s next :=
  (stable_continues s).of_pull pulled (Continues.refl s)

theorem tokensAhead_of_pull_eq_some {s next : Scanner} {token : Token}
    (pulled : s.pull = (some token, next)) : s.tokensAhead = token :: next.tokensAhead := by
  fun_induction pull s with
  | case1 s middle skipped ih =>
      rw [tokensAhead_step s, skipped]
      exact ih pulled
  | case2 s token middle found =>
      simp only [Prod.mk.injEq, Option.some.injEq] at pulled
      obtain ⟨rfl, rfl⟩ := pulled
      rw [tokensAhead_step s, found]
      rfl
  | case3 => simp at pulled

theorem rest_of_pull_eq_none {s next : Scanner} (pulled : s.pull = (none, next)) :
    next.rest = [] := by
  fun_induction pull s with
  | case1 s middle skipped ih => exact ih pulled
  | case2 => simp at pulled
  | case3 s middle stopped =>
      simp only [Prod.mk.injEq, true_and] at pulled
      rw [← pulled, rest_note]
      exact rest_of_step_eq_stop stopped

theorem tokensAhead_of_pull_eq_none {s next : Scanner} (pulled : s.pull = (none, next)) :
    s.tokensAhead = [] := by
  fun_induction pull s with
  | case1 s middle skipped ih =>
      rw [tokensAhead_step s, skipped]
      exact ih pulled
  | case2 => simp at pulled
  | case3 s middle stopped =>
      have ended := ahead_eq_nil (rest_of_step_eq_stop stopped)
      rw [tokensAhead_step s, stopped]
      simp [Step.token?, Step.scanner, tokensAhead, ended]

theorem position_of_rest_eq_nil {origin s : Scanner} (reached : Continues origin s)
    (ended : s.rest = []) : s.position = origin.finalPosition := by
  rw [← reached.finalPosition, finalPosition, ended, Position.advanceOver_nil]

theorem endToken_of_pull_eq_none {s next : Scanner} (pulled : s.pull = (none, next)) :
    next.endToken = .endOfInput s.finalPosition := by
  rw [endToken, position_of_rest_eq_nil (.of_pull pulled) (rest_of_pull_eq_none pulled)]

theorem drain_of_pull_eq_some {s next : Scanner} {token : Token}
    (pulled : s.pull = (some token, next)) : s.drain = (token :: next.drain.1, next.drain.2) := by
  rw [drain]
  split <;> simp_all

theorem drain_of_pull_eq_none {s next : Scanner} (pulled : s.pull = (none, next)) :
    s.drain = ([next.endToken], next) := by
  rw [drain]
  split <;> simp_all

theorem rest_drain (s : Scanner) : s.drain.2.rest = [] := by
  fun_induction drain s with
  | case1 s next pulled => exact rest_of_pull_eq_none pulled
  | case2 s token next pulled later ih => exact ih

/-- Draining returns all tokens ahead and the token for the end, where the cursor comes to rest. -/
theorem drain_tokens (s : Scanner) :
    s.drain.1 = s.tokensAhead ++ [.endOfInput s.finalPosition] := by
  fun_induction drain s with
  | case1 s next pulled =>
      rw [tokensAhead_of_pull_eq_none pulled, endToken_of_pull_eq_none pulled]
      rfl
  | case2 s token next pulled later ih =>
      rw [tokensAhead_of_pull_eq_some pulled, ← (Continues.of_pull pulled).finalPosition]
      exact congrArg (token :: ·) ih

theorem diagnostics_ofSource (source : String) (limit : Nat) :
    (ofSource source limit).diagnostics.toList = [] := rfl

theorem diagnostics_of_rest_eq_nil {origin s : Scanner} (reached : Continues origin s)
    (ended : s.rest = []) :
    s.diagnostics.toList = origin.diagnostics.toList ++ origin.diagnosticsAhead := by
  have none_left : s.diagnosticsAhead = [] := by simp [diagnosticsAhead, ahead_eq_nil ended]
  rw [← reached.diagnostics, none_left, List.append_nil]

theorem diagnostics_drain (s : Scanner) :
    s.drain.2.diagnostics.toList = s.diagnostics.toList ++ s.diagnosticsAhead :=
  diagnostics_of_rest_eq_nil ((stable_continues s).drain (Continues.refl s)) (rest_drain s)

theorem diagnostics_drain_ofSource (source : String) (limit : Nat) :
    (ofSource source limit).drain.2.diagnostics.toList =
      (ofSource source limit).diagnosticsAhead := by
  rw [diagnostics_drain, diagnostics_ofSource, List.nil_append]

end Scanner
end LexScan
