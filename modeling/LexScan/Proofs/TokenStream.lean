import LexScan.Proofs.SymbolStream

/-! One stream of tokens. All calls come down to asking for tokens one at a time, some of them until
the end is seen. Whatever is called and in whatever order, the tokens asked for are those of the one
stream that draining returns, the token for the end again and again at its end. The scanner knows how
often it was asked and nothing else about the calls; behind the end it does not change any more. -/
namespace LexScan

namespace Scanner

/-- Asks for so many tokens, whether the end has come or not. -/
def ask : Nat → Scanner → List Token × Scanner
  | 0, s => ([], s)
  | count + 1, s =>
      (s.nextToken.1 :: (ask count s.nextToken.2).1, (ask count s.nextToken.2).2)

/-- Asks for tokens until the one for the end comes, but at most so often. -/
def askAtMost : Nat → Scanner → List Token × Scanner
  | 0, s => ([], s)
  | count + 1, s =>
      if s.nextToken.1.isEndOfInput then ([s.nextToken.1], s.nextToken.2)
      else (s.nextToken.1 :: (askAtMost count s.nextToken.2).1, (askAtMost count s.nextToken.2).2)

theorem pull_of_visible {s : Scanner} (visible : s.nextToken.1.isEndOfInput = false) :
    s.pull = (some s.nextToken.1, s.nextToken.2) := by
  rcases nextToken_cases s with ⟨next, pulled, ended⟩ | ⟨token, next, pulled, found, _⟩
  · simp [ended, endToken] at visible
  · rw [pulled, found]

theorem pull_of_ended {s : Scanner} (ended : s.nextToken.1.isEndOfInput = true) :
    s.pull = (none, s.nextToken.2) ∧ s.nextToken.1 = s.nextToken.2.endToken := by
  rcases nextToken_cases s with ⟨next, pulled, same⟩ | ⟨token, next, pulled, found, visible⟩
  · rw [pulled, same]
    exact ⟨rfl, rfl⟩
  · simp [found, visible] at ended

/-- Asks for tokens until the one for the end comes. -/
def askUntilEnd (s : Scanner) : List Token × Scanner :=
  if _ended : s.nextToken.1.isEndOfInput then ([s.nextToken.1], s.nextToken.2)
  else (s.nextToken.1 :: (askUntilEnd s.nextToken.2).1, (askUntilEnd s.nextToken.2).2)
termination_by s.rest.length
decreasing_by all_goals exact length_rest_of_pull_eq_some (pull_of_visible (by simpa using _ended))

end Scanner

/-- What some calls come to that are made by asking for tokens one at a time: their answers, the
tokens asked for, and the scanner behind them. -/
structure Asking (α : Type) where
  answer : α
  tokens : List Token
  scanner : Scanner

open Scanner in
def Call.ask (s : Scanner) : Call → Asking Answer
  | .nextToken => ⟨.one s.nextToken.1, [s.nextToken.1], s.nextToken.2⟩
  | .next =>
      ⟨.perhaps (if s.nextToken.1.isEndOfInput then none else some s.nextToken.1),
        [s.nextToken.1], s.nextToken.2⟩
  | .take count =>
      ⟨.many ((askAtMost count s).1.filter (!·.isEndOfInput)), (askAtMost count s).1,
        (askAtMost count s).2⟩
  | .tokenize => ⟨.many (askUntilEnd s).1, (askUntilEnd s).1, (askUntilEnd s).2⟩

namespace Scanner

def performAsking (s : Scanner) : List Call → Asking (List Answer)
  | [] => ⟨[], [], s⟩
  | call :: later =>
      let first := call.ask s
      let others := first.scanner.performAsking later
      ⟨first.answer :: others.answer, first.tokens ++ others.tokens, others.scanner⟩

/-! ### Calls ask for tokens -/

theorem take_eq_askAtMost (count : Nat) (s : Scanner) :
    take count s =
      ((askAtMost count s).1.filter (!·.isEndOfInput), (askAtMost count s).2) := by
  induction count generalizing s with
  | zero => rfl
  | succ count ih =>
      cases ended : s.nextToken.1.isEndOfInput with
      | true => simp [take, askAtMost, (pull_of_ended ended).1, ended]
      | false => simp [take, askAtMost, pull_of_visible ended, ended, ih]

theorem drain_eq_askUntilEnd (s : Scanner) : s.drain = askUntilEnd s := by
  fun_induction askUntilEnd s with
  | case1 s ended =>
      obtain ⟨pulled, token⟩ := pull_of_ended ended
      rw [drain_of_pull_eq_none pulled, token]
  | case2 s visible ih =>
      rw [drain_of_pull_eq_some (pull_of_visible (by simpa using visible)), ih]

theorem perform_eq_ask (s : Scanner) (call : Call) :
    call.perform s = ((call.ask s).answer, (call.ask s).scanner) := by
  cases call with
  | nextToken => rfl
  | next =>
      cases ended : s.nextToken.1.isEndOfInput with
      | true => simp [Call.perform, Call.ask, (pull_of_ended ended).1, ended]
      | false => simp [Call.perform, Call.ask, pull_of_visible ended, ended]
  | take count => simp [Call.perform, Call.ask, take_eq_askAtMost]
  | tokenize => simp [Call.perform, Call.ask, drain_eq_askUntilEnd]

theorem perform_eq_performAsking (s : Scanner) (calls : List Call) :
    s.perform calls = ((s.performAsking calls).answer, (s.performAsking calls).scanner) := by
  induction calls generalizing s with
  | nil => rfl
  | cons call later ih => simp [perform, performAsking, perform_eq_ask, ih]

/-! ### Only the number of tokens asked for matters -/

theorem ask_add (first second : Nat) (s : Scanner) :
    ask (first + second) s =
      ((ask first s).1 ++ (ask second (ask first s).2).1, (ask second (ask first s).2).2) := by
  induction first generalizing s with
  | zero => simp [ask]
  | succ first ih => simp [Nat.succ_add, ask, ih]

theorem length_ask (count : Nat) (s : Scanner) : (ask count s).1.length = count := by
  induction count generalizing s with
  | zero => rfl
  | succ count ih => simp [ask, ih]

/-- The tokens and the scanner behind them are those of asking so many times. -/
def IsAsked (s : Scanner) (result : List Token × Scanner) : Prop :=
  result = ask result.1.length s

theorem IsAsked.cons {s : Scanner} {later : List Token × Scanner}
    (asked : IsAsked s.nextToken.2 later) :
    IsAsked s (s.nextToken.1 :: later.1, later.2) := by
  unfold IsAsked at asked ⊢
  rw [List.length_cons, ask, ← asked]

theorem IsAsked.append {s : Scanner} {first second : List Token × Scanner}
    (one : IsAsked s first) (other : IsAsked first.2 second) :
    IsAsked s (first.1 ++ second.1, second.2) := by
  unfold IsAsked at one other ⊢
  rw [List.length_append, ask_add, ← one, ← other]

theorem isAsked_askAtMost (count : Nat) (s : Scanner) : IsAsked s (askAtMost count s) := by
  induction count generalizing s with
  | zero => rfl
  | succ count ih =>
      unfold askAtMost
      split
      · rfl
      · exact (ih s.nextToken.2).cons

theorem isAsked_askUntilEnd (s : Scanner) : IsAsked s (askUntilEnd s) := by
  fun_induction askUntilEnd s with
  | case1 s ended => rfl
  | case2 s visible ih => exact ih.cons

theorem isAsked_ask (s : Scanner) (call : Call) :
    IsAsked s ((call.ask s).tokens, (call.ask s).scanner) := by
  cases call with
  | nextToken => rfl
  | next => rfl
  | take count => exact isAsked_askAtMost count s
  | tokenize => exact isAsked_askUntilEnd s

theorem isAsked_performAsking (s : Scanner) (calls : List Call) :
    IsAsked s ((s.performAsking calls).tokens, (s.performAsking calls).scanner) := by
  induction calls generalizing s with
  | nil => rfl
  | cons call later ih => exact (isAsked_ask s call).append (ih _)

/-! ### The stream -/

theorem drain_of_rest_eq_nil {s : Scanner} (ended : s.rest = []) :
    s.drain.1 = [.endOfInput s.position] := by
  simp [drain_tokens, tokensAhead_eq_nil ended, finalPosition, ended]

theorem drain_of_ended {s : Scanner} (ended : s.nextToken.1.isEndOfInput = true) :
    s.drain.1 = [s.nextToken.1] ∧ s.nextToken.2.drain.1 = [s.nextToken.1] := by
  obtain ⟨pulled, token⟩ := pull_of_ended ended
  have behind := drain_of_rest_eq_nil (rest_of_pull_eq_none pulled)
  rw [drain_of_pull_eq_none pulled, behind, token]
  exact ⟨rfl, rfl⟩

theorem drain_of_visible {s : Scanner} (visible : s.nextToken.1.isEndOfInput = false) :
    s.drain.1 = s.nextToken.1 :: s.nextToken.2.drain.1 := by
  rw [drain_of_pull_eq_some (pull_of_visible visible)]

theorem length_drain_pos (s : Scanner) : 0 < s.drain.1.length := by
  simp [drain_tokens]

/-- Asking any number of times goes along the stream and stays at its last token. -/
theorem getElem?_ask {count index : Nat} (asked : index < count) (s : Scanner) :
    (ask count s).1[index]? = s.drain.1[min index (s.drain.1.length - 1)]? := by
  induction count generalizing index s with
  | zero => omega
  | succ count ih =>
      cases ended : s.nextToken.1.isEndOfInput with
      | true =>
          obtain ⟨here, behind⟩ := drain_of_ended ended
          cases index with
          | zero => simp [ask, here]
          | succ index =>
              have later := ih (by omega : index < count) s.nextToken.2
              simpa [ask, here, behind] using later
      | false =>
          have here := drain_of_visible ended
          have some_later := length_drain_pos s.nextToken.2
          cases index with
          | zero => simp [ask, here]
          | succ index =>
              have later := ih (by omega : index < count) s.nextToken.2
              have place : min (index + 1) (s.nextToken.2.drain.1.length + 1 - 1) =
                  min index (s.nextToken.2.drain.1.length - 1) + 1 := by omega
              simp only [ask, here, List.getElem?_cons_succ, List.length_cons, place, later]

theorem getElem?_drain_iff {s : Scanner} {index : Nat} {token : Token}
    (visible : token.isEndOfInput = false) :
    s.drain.1[index]? = some token ↔ (ask (index + 1) s).1[index]? = some token := by
  rw [getElem?_ask (Nat.lt_succ_self index)]
  by_cases within : index ≤ s.drain.1.length - 1
  · rw [Nat.min_eq_left within]
  · have beyond : s.drain.1[index]? = none := List.getElem?_eq_none (by omega)
    have last : s.drain.1[s.drain.1.length - 1]? = some (.endOfInput s.finalPosition) := by
      simp [drain_tokens]
    rw [beyond, Nat.min_eq_right (by omega), last]
    constructor
    · simp
    · rintro ⟨rfl⟩
      simp at visible

theorem ask_succ (count : Nat) (s : Scanner) :
    ask (count + 1) s =
      ((ask count s).1 ++ [(ask count s).2.nextToken.1], (ask count s).2.nextToken.2) :=
  ask_add count 1 s

/-! ### Behind the end -/

/-- The same scanner, whatever has been traced. -/
def Unchanged (origin s : Scanner) : Prop := ∃ trace, s = { origin with trace := trace }

theorem stable_unchanged {origin : Scanner} (ended : origin.rest = []) :
    Stable (Unchanged origin) where
  step s before := by
    obtain ⟨trace, rfl⟩ := before
    have stopped : Scanner.step { origin with trace := trace } =
        .stop { origin with trace := trace } := step_eq_stop ended
    rw [stopped]
    exact ⟨trace, rfl⟩
  note s event before := by
    obtain ⟨trace, rfl⟩ := before
    exact ⟨trace.push event, rfl⟩

theorem Stable.ask {holds : Scanner → Prop} (stable : Stable holds) (count : Nat) {s : Scanner}
    (before : holds s) : holds (ask count s).2 := by
  induction count generalizing s with
  | zero => exact before
  | succ count ih => exact ih (stable.nextToken before)

theorem rest_of_end_asked {count : Nat} {s : Scanner} {token : Token}
    (asked : token ∈ (ask count s).1) (ended : token.isEndOfInput = true) :
    (ask count s).2.rest = [] := by
  induction count generalizing s with
  | zero => simp [ask] at asked
  | succ count ih =>
      rw [ask, List.mem_cons] at asked
      rcases asked with rfl | later
      · have none_left := rest_of_pull_eq_none (pull_of_ended ended).1
        obtain ⟨trace, same⟩ := (stable_unchanged none_left).ask count ⟨s.nextToken.2.trace, rfl⟩
        rw [ask, same]
        exact none_left
      · exact ih later

theorem perform_unchanged {s : Scanner} (ended : s.rest = []) (calls : List Call) :
    Unchanged s (s.perform calls).2 :=
  (stable_unchanged ended).perform calls ⟨s.trace, rfl⟩

/-- How some calls on a scanner go along its stream of tokens. -/
structure FollowsStream (s : Scanner) (calls : List Call) : Prop where
  stream : ∃ tokens place, s.drain.1 = tokens ++ [.endOfInput place] ∧
    ∀ token ∈ tokens, token.isEndOfInput = false
  asks : s.perform calls = ((s.performAsking calls).answer, (s.performAsking calls).scanner)
  tokens : ∀ index < (s.performAsking calls).tokens.length,
    (s.performAsking calls).tokens[index]? = s.drain.1[min index (s.drain.1.length - 1)]?
  counts : (s.perform calls).2 = (ask (s.performAsking calls).tokens.length s).2
  rests : ∀ token ∈ (s.performAsking calls).tokens, token.isEndOfInput = true →
    ∀ later, Unchanged (s.perform calls).2 (s.perform (calls ++ later)).2

/-- Whatever is called on the scanner of a source, answers and scanner are those of asking for tokens
one at a time. What is asked for at any index is the token at that index of the drained stream, or its
last one, which alone stands for the end, if the stream is not that long. The scanner depends only on
how many tokens were asked for, and once one for the end was among them, nothing but the trace
changes any more. -/
theorem calls_follow_stream (source : String) (limit : Nat) (calls : List Call) :
    FollowsStream (ofSource source limit) calls := by
  have asked := isAsked_performAsking (ofSource source limit) calls
  have asks := perform_eq_performAsking (ofSource source limit) calls
  have tokens := congrArg Prod.fst asked
  have scanner := congrArg Prod.snd asked
  simp only at tokens scanner
  refine ⟨?_, asks, ?_, ?_, ?_⟩
  · exact ⟨_, _, drain_tokens _, fun token => isEndOfInput_of_mem_tokensAhead⟩
  · intro index within
    rw [tokens]
    exact getElem?_ask within _
  · rw [asks]
    exact scanner
  · intro token member ended later
    have none_left : ((ofSource source limit).perform calls).2.rest = [] := by
      rw [tokens] at member
      rw [asks, scanner]
      exact rest_of_end_asked member ended
    rw [perform_append]
    exact perform_unchanged none_left later

end Scanner
end LexScan
