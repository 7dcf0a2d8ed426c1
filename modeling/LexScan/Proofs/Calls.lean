import LexScan.Proofs.Run

/-! Calls on one scanner, in any number and order. Whatever was called before, a call answers with
the first of the tokens that lie ahead, and with the token for the end once there are none. -/
namespace LexScan

/-- A call that takes tokens from a scanner. -/
inductive Call where
  | nextToken
  | next
  | take (count : Nat)
  | tokenize
deriving DecidableEq, Repr

inductive Answer where
  | one (token : Token)
  | perhaps (token : Option Token)
  | many (tokens : List Token)
deriving DecidableEq, Repr

def Answer.toList : Answer → List Token
  | .one token => [token]
  | .perhaps token => token.toList
  | .many tokens => tokens

def Call.perform (s : Scanner) : Call → Answer × Scanner
  | .nextToken => (.one s.nextToken.1, s.nextToken.2)
  | .next => (.perhaps s.pull.1, s.pull.2)
  | .take count => (.many (Scanner.take count s).1, (Scanner.take count s).2)
  | .tokenize => (.many s.drain.1, s.drain.2)

namespace Scanner

/-- The answers to some calls, one after another, and the scanner behind them. -/
def perform (s : Scanner) : List Call → List Answer × Scanner
  | [] => ([], s)
  | call :: later =>
      ((call.perform s).1 :: ((call.perform s).2.perform later).1,
        ((call.perform s).2.perform later).2)

/-- The scanner of a source once some calls have been made on it. -/
def afterCalls (source : String) (limit : Nat) (calls : List Call) : Scanner :=
  ((ofSource source limit).perform calls).2

theorem Stable.call {holds : Scanner → Prop} (stable : Stable holds) (call : Call) {s : Scanner}
    (before : holds s) : holds (call.perform s).2 := by
  cases call with
  | nextToken => exact stable.nextToken before
  | next => exact stable.pull before
  | take count => exact stable.take count before
  | tokenize => exact stable.drain before

/-- What every step keeps, every series of calls keeps. -/
theorem Stable.perform {holds : Scanner → Prop} (stable : Stable holds) (calls : List Call)
    {s : Scanner} (before : holds s) : holds (s.perform calls).2 := by
  induction calls generalizing s with
  | nil => exact before
  | cons call later ih => exact ih (stable.call call before)

theorem continues_afterCalls (source : String) (limit : Nat) (calls : List Call) :
    Continues (ofSource source limit) (afterCalls source limit calls) :=
  (stable_continues _).perform calls (Continues.refl _)

theorem nextToken_token (s : Scanner) :
    s.nextToken.1 = s.tokensAhead.head?.getD (.endOfInput s.finalPosition) := by
  unfold nextToken
  split
  · next token next pulled => simp [tokensAhead_of_pull_eq_some pulled]
  · next next pulled =>
      simp [tokensAhead_of_pull_eq_none pulled, endToken_of_pull_eq_none pulled]

theorem pull_token (s : Scanner) : s.pull.1 = s.tokensAhead.head? := by
  cases pulled : s.pull with
  | mk answer next =>
      cases answer with
      | none => simp [tokensAhead_of_pull_eq_none pulled]
      | some token => simp [tokensAhead_of_pull_eq_some pulled]

theorem take_tokens (s : Scanner) (count : Nat) :
    (take count s).1 = s.tokensAhead.take count := by
  induction count generalizing s with
  | zero => simp [take]
  | succ count ih =>
      unfold take
      split
      · next next pulled => simp [tokensAhead_of_pull_eq_none pulled]
      · next token next pulled => simp [tokensAhead_of_pull_eq_some pulled, ih]

theorem mem_answer (s : Scanner) (call : Call) {token : Token}
    (member : token ∈ (call.perform s).1.toList) :
    token ∈ s.tokensAhead ∨ token = .endOfInput s.finalPosition := by
  cases call with
  | nextToken =>
      simp only [Call.perform, Answer.toList, List.mem_singleton, nextToken_token] at member
      cases ahead : s.tokensAhead with
      | nil => simp_all
      | cons first later => simp_all
  | next =>
      simp only [Call.perform, Answer.toList, pull_token, Option.mem_toList] at member
      exact .inl (List.mem_of_mem_head? member)
  | take count =>
      simp only [Call.perform, Answer.toList, take_tokens] at member
      exact .inl (List.mem_of_mem_take member)
  | tokenize =>
      simpa [Call.perform, Answer.toList, drain_tokens] using member

theorem mem_answers (s : Scanner) (calls : List Call) {answer : Answer} {token : Token}
    (answered : answer ∈ (s.perform calls).1) (member : token ∈ answer.toList) :
    token ∈ s.tokensAhead ∨ token = .endOfInput s.finalPosition := by
  induction calls generalizing s with
  | nil => simp [perform] at answered
  | cons call later ih =>
      simp only [perform, List.mem_cons] at answered
      rcases answered with rfl | answered
      · exact mem_answer s call member
      · have reached := (stable_continues s).call call (Continues.refl s)
        rw [← reached.finalPosition]
        exact (ih _ answered).imp_left fun ahead => reached.tokens.subset ahead

end Scanner
end LexScan
