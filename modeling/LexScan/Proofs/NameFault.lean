import LexScan.Proofs.SymbolStream

/-! Faults of names. What is wrong with an identifier is logged while its word is read, before its
token is returned. The log nevertheless says of each identifier token just what the token itself
shows, in the order of the tokens. The length limit decides about the faults of names that are too
long and about nothing else: under a higher limit there are fewer of them, and all the rest of a
scan stays as it is. -/
namespace LexScan

namespace Token

theorem nameFault?_of_isEndOfInput {token : Token} (ended : token.isEndOfInput = true)
    (limit : Nat) : token.nameFault? limit = none := by
  have kind : token.kind = .endOfInput := by simpa [isEndOfInput] using ended
  exact nameFault?_of_ne (by simp [kind])

theorem filterMap_nameFault?_filter (limit : Nat) (tokens : List Token) :
    (tokens.filter (!·.isEndOfInput)).filterMap (nameFault? limit) =
      tokens.filterMap (nameFault? limit) := by
  rw [List.filterMap_filter]
  apply List.filterMap_congr
  intro token _
  cases ended : token.isEndOfInput with
  | true => simp [nameFault?_of_isEndOfInput ended]
  | false => simp

end Token

namespace Diagnostic

/-- What becomes of a diagnostic when names may be longer: names that are still too long are
reported with the new limit, and those that are not are no longer reported. -/
def underLimit (limit : Nat) (d : Diagnostic) : Option Diagnostic :=
  if d.fault ≠ .identifierLength then some d
  else if limit < d.lexeme.length then
    some { d with reason := "Exceeds " ++ toString limit ++ " characters" }
  else none

/-- A diagnostic without the words that give the reason. -/
def unexplained (d : Diagnostic) : Fault × Position × String := (d.fault, d.position, d.lexeme)

theorem filter_underLimit_others (limit : Nat) (log : List Diagnostic) :
    (log.filterMap (underLimit limit)).filter (·.fault ≠ .identifierLength) =
      log.filter (·.fault ≠ .identifierLength) := by
  rw [List.filter_filterMap, ← List.filterMap_eq_filter]
  apply List.filterMap_congr
  intro d _
  by_cases length : d.fault = .identifierLength
  · by_cases long : limit < d.lexeme.length <;>
      simp [underLimit, length, long, Option.guard, Option.filter]
  · simp [underLimit, length, Option.guard, Option.filter]

theorem filter_underLimit_lengths (limit : Nat) (log : List Diagnostic) :
    ((log.filterMap (underLimit limit)).filter (·.fault = .identifierLength)).map unexplained =
      ((log.filter (·.fault = .identifierLength)).filter (limit < ·.lexeme.length)).map
        unexplained := by
  rw [List.filter_filterMap, List.filter_filter, ← List.filterMap_eq_filter, List.map_filterMap,
    List.map_filterMap]
  apply List.filterMap_congr
  intro d _
  by_cases length : d.fault = .identifierLength
  · by_cases long : limit < d.lexeme.length <;>
      simp [underLimit, length, long, unexplained, Option.guard, Option.filter]
  · simp [underLimit, length, Option.guard, Option.filter]

/-- Names that are too long are never fatal. -/
theorem any_isFatal_underLimit (limit : Nat) (log : List Diagnostic) :
    (log.filterMap (underLimit limit)).any (·.fault.isFatal) = log.any (·.fault.isFatal) := by
  have others : ∀ log : List Diagnostic, log.any (·.fault.isFatal) =
      (log.filter (·.fault ≠ .identifierLength)).any (·.fault.isFatal) := by
    intro log
    rw [List.any_filter]
    congr
    funext d
    cases fault : d.fault <;> rfl
  rw [others, filter_underLimit_others, ← others]

end Diagnostic

/-- Under a higher limit a name that is too long is still too long, or it is in order. -/
theorem Token.nameFault?_underLimit {limit higher : Nat} (ordered : limit ≤ higher)
    (token : Token) :
    (token.nameFault? higher).toList =
      (token.nameFault? limit).toList.filterMap (Diagnostic.underLimit higher) := by
  by_cases identifier : token.kind = .literal .identifier
  · cases upper : Scanner.startsUppercase token.lexeme with
    | false => simp [nameFault?, identifier, upper, Diagnostic.underLimit]
    | true =>
        by_cases long : limit < token.lexeme.length
        · by_cases longer : higher < token.lexeme.length <;>
            simp [nameFault?, identifier, upper, long, longer, Diagnostic.underLimit]
        · have shorter : ¬ higher < token.lexeme.length := by omega
          simp [nameFault?, identifier, upper, long, shorter]
  · simp [nameFault?_of_ne identifier]

namespace Segment

/-- Of what is logged about a segment, only the fault of its token concerns a name. -/
theorem filter_diagnostics_eq (limit : Nat) (place : Position) (segment : Segment) :
    (segment.diagnostics limit place).filter (·.fault.concernsIdentifier) =
      ((segment.token? place).bind (Token.nameFault? limit)).toList := by
  cases segment with
  | token kind lexeme =>
      rw [diagnostics, token?, Option.bind_some, List.filter_eq_self]
      exact fun d member => (mem_diagnostics_token member).2.2
  | _ => simp [diagnostics, token?, Fault.concernsIdentifier]

/-- A higher limit only takes away names that are too long. -/
theorem diagnostics_underLimit {limit higher : Nat} (ordered : limit ≤ higher) (place : Position)
    (segment : Segment) :
    segment.diagnostics higher place =
      (segment.diagnostics limit place).filterMap (Diagnostic.underLimit higher) := by
  cases segment with
  | token kind lexeme =>
      exact Token.nameFault?_underLimit ordered _
  | _ => simp [diagnostics, Diagnostic.underLimit]

end Segment

namespace Scanner

theorem nameFaults_ahead (s : Scanner) :
    s.diagnosticsAhead.filter (·.fault.concernsIdentifier) =
      s.tokensAhead.filterMap (Token.nameFault? s.limit) := by
  rw [diagnosticsAhead, List.filter_flatMap, tokensAhead, List.filterMap_filterMap,
    List.filterMap_eq_flatMap_toList]
  apply List.flatMap_congr
  intro entry _
  exact Segment.filter_diagnostics_eq s.limit entry.1 entry.2

/-- Whatever has been called, the faults of names in the log are those of the tokens returned. -/
theorem nameFaults_afterCalls (source : String) (limit : Nat) (calls : List Call) :
    (afterCalls source limit calls).diagnostics.toList.filter (·.fault.concernsIdentifier) =
      (returned source limit calls).filterMap (Token.nameFault? limit) := by
  have reached := continues_afterCalls source limit calls
  have taken := tokens_perform (ofSource source limit) calls
  have logged := congrArg (List.filter (·.fault.concernsIdentifier)) reached.diagnostics
  -- what lies ahead of both scanners is accounted for, so the rest of the two lists is the same
  rw [diagnostics_ofSource, List.nil_append, List.filter_append, nameFaults_ahead, nameFaults_ahead,
    ← taken, List.filterMap_append, reached.limit] at logged
  rw [returned, ← Token.filterMap_nameFault?_filter]
  exact List.append_cancel_right logged

theorem nameFaults_drain (source : String) (limit : Nat) :
    (ofSource source limit).drain.2.diagnostics.toList.filter (·.fault.concernsIdentifier) =
      (ofSource source limit).drain.1.filterMap (Token.nameFault? limit) := by
  simpa [afterCalls, returned, perform, Call.perform, Answer.toList] using
    nameFaults_afterCalls source limit [.tokenize]

/-! ### Another limit -/

/-- The outcome of a scan under a higher limit, beside that under a lower one. -/
structure Loosens (higher : Nat) (strict loose : List Token × Scanner) : Prop where
  tokens : loose.1 = strict.1
  symbols : loose.2.symbols = strict.2.symbols
  line : loose.2.line = strict.2.line
  hasFatal : loose.2.diagnostics.hasFatal = strict.2.diagnostics.hasFatal
  others : loose.2.diagnostics.toList.filter (·.fault ≠ .identifierLength) =
    strict.2.diagnostics.toList.filter (·.fault ≠ .identifierLength)
  lengths : (loose.2.diagnostics.toList.filter (·.fault = .identifierLength)).map
      Diagnostic.unexplained =
    ((strict.2.diagnostics.toList.filter (·.fault = .identifierLength)).filter
      (higher < ·.lexeme.length)).map Diagnostic.unexplained

theorem ahead_ofSource (source : String) (limit other : Nat) :
    (ofSource source limit).ahead = (ofSource source other).ahead := rfl

theorem drain_tokens_limit (source : String) (limit other : Nat) :
    (ofSource source limit).drain.1 = (ofSource source other).drain.1 := by
  rw [drain_tokens, drain_tokens]
  rfl

theorem diagnostics_drain_underLimit (source : String) {limit higher : Nat}
    (ordered : limit ≤ higher) :
    (ofSource source higher).drain.2.diagnostics.toList =
      (ofSource source limit).drain.2.diagnostics.toList.filterMap
        (Diagnostic.underLimit higher) := by
  rw [diagnostics_drain_ofSource, diagnostics_drain_ofSource, diagnosticsAhead, diagnosticsAhead,
    List.filterMap_flatMap, ahead_ofSource source higher limit]
  apply List.flatMap_congr
  intro entry _
  exact Segment.diagnostics_underLimit ordered entry.1 entry.2

theorem position_drain (source : String) (limit : Nat) :
    (ofSource source limit).drain.2.position = Position.behind source.toList := by
  have drained := (stable_continues _).drain (Continues.refl (ofSource source limit))
  rw [position_of_rest_eq_nil drained (rest_drain _), finalPosition_ofSource]

/-- Whatever has been called, the log says of each identifier returned, in their order, that it does
not begin with an upper-case letter, or else that it is too long, or nothing, and it says no more
about names. A higher limit changes nothing but this: of the names that are too long, those that
exceed it are still reported. -/
theorem name_faults_exact (source : String) {limit higher : Nat} (ordered : limit ≤ higher) :
    (∀ calls,
      (afterCalls source limit calls).diagnostics.toList.filter (·.fault.concernsIdentifier) =
        (returned source limit calls).filterMap (Token.nameFault? limit)) ∧
    Loosens higher (ofSource source limit).drain (ofSource source higher).drain := by
  have tokens := drain_tokens_limit source higher limit
  have diagnostics := diagnostics_drain_underLimit source ordered
  refine ⟨nameFaults_afterCalls source limit, tokens, ?_, ?_, ?_, ?_, ?_⟩
  · rw [symbols_drain, symbols_drain, tokens]
    rfl
  · rw [line, line, position_drain, position_drain]
  · rw [DiagnosticLog.hasFatal_eq, DiagnosticLog.hasFatal_eq, diagnostics,
      Diagnostic.any_isFatal_underLimit]
  · rw [diagnostics, Diagnostic.filter_underLimit_others]
  · rw [diagnostics, Diagnostic.filter_underLimit_lengths]

/-- Of the two names that exceed the lower limit, one exceeds the higher one as well. -/
theorem name_faults_two_limits :
    Loosens 4 (ofSource "Été low Fghij A" 2).drain (ofSource "Été low Fghij A" 4).drain ∧
    (afterCalls "Été low Fghij A" 2 [.tokenize]).diagnostics.toList.filter
        (·.fault.concernsIdentifier) =
      [⟨.identifierLength, ⟨1, 1⟩, "Été", "Exceeds 2 characters"⟩,
       ⟨.invalidIdentifier, ⟨1, 5⟩, "low", "Identifiers must start with Uppercase"⟩,
       ⟨.identifierLength, ⟨1, 9⟩, "Fghij", "Exceeds 2 characters"⟩] :=
  ⟨(name_faults_exact _ (by decide)).2,
    ((name_faults_exact _ (by decide : 2 ≤ 4)).1 [.tokenize]).trans (by decide +kernel)⟩

end Scanner
end LexScan
