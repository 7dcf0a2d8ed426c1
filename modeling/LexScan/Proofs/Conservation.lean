import LexScan.Proofs.FatalFault
import LexScan.Proofs.KindCount
import LexScan.Proofs.NameFault

/-! What a report adds up to. Its tokens, its symbol table, its diagnostics and its statistics are
kept apart from each other while a source is scanned. They agree all the same: every token is
counted under its kind, and every identifier is either sighted in the table or reported as no
name. -/
namespace LexScan

theorem Grammar.TokenText.ne_error {kind : Kind} {text : List Char}
    (token : TokenText kind text) : kind ≠ .error := by
  cases token with
  | word letter parts named =>
      cases named with
      | reserved listed =>
          have others : ∀ entry ∈ reservedWords, entry.2 ≠ .error := by decide
          exact others _ listed
      | name unlisted => simp
  | mark listed =>
      have named : ∀ entry ∈ marks, entry.2 ≠ .error := by decide
      exact named _ listed
  | _ => simp

namespace Token

theorem countP_invalid (limit : Nat) (tokens : List Token) :
    (tokens.filterMap (nameFault? limit)).countP (·.fault = .invalidIdentifier) =
      tokens.countP fun token =>
        token.kind = .literal .identifier && !Scanner.startsUppercase token.lexeme := by
  rw [List.countP_filterMap]
  apply List.countP_congr
  intro token _
  unfold nameFault?
  by_cases identifier : token.kind = .literal .identifier
  · cases upper : Scanner.startsUppercase token.lexeme with
    | false => simp [identifier]
    | true => by_cases long : limit < token.lexeme.length <;> simp [identifier, long]
  · simp [identifier]

theorem countP_long_le (limit : Nat) (tokens : List Token) :
    (tokens.filterMap (nameFault? limit)).countP (·.fault = .identifierLength) ≤
      tokens.countP isSighting := by
  rw [List.countP_filterMap]
  apply List.countP_mono_left
  intro token _
  unfold nameFault? isSighting
  by_cases identifier : token.kind = .literal .identifier
  · cases upper : Scanner.startsUppercase token.lexeme with
    | false => simp [identifier]
    | true => simp [identifier]
  · simp [identifier]

/-- An identifier is sighted or it is no name. -/
theorem countP_identifier (tokens : List Token) :
    tokens.countP (·.kind = .literal .identifier) =
      tokens.countP isSighting + tokens.countP fun token =>
        token.kind = .literal .identifier && !Scanner.startsUppercase token.lexeme := by
  rw [List.countP_eq_countP_filter_add tokens _ fun token => Scanner.startsUppercase token.lexeme,
    List.countP_filter, List.countP_filter]
  rfl

end Token

namespace Scanner

theorem frequencies_drain (source : String) (limit : Nat) :
    (ofSource source limit).drain.2.symbols.frequencies =
      (ofSource source limit).drain.1.countP Token.isSighting := by
  have none_yet : (ofSource source limit).symbols.frequencies = 0 := rfl
  rw [symbols_drain, SymbolTable.frequencies_recordAll, none_yet, Token.sightings, List.length_map,
    Nat.zero_add, List.countP_eq_length_filter]

/-- Faults of names can be counted along the tokens. -/
theorem countP_drain (source : String) (limit : Nat) (fault : Fault)
    (concerns : fault.concernsIdentifier = true) :
    (ofSource source limit).drain.2.diagnostics.toList.countP (·.fault = fault) =
      ((ofSource source limit).drain.1.filterMap (Token.nameFault? limit)).countP
        (·.fault = fault) := by
  rw [← nameFaults_drain, List.countP_filter]
  apply List.countP_congr
  intro d _
  simp only [Bool.and_eq_true, decide_eq_true_eq]
  constructor
  · intro same
    exact ⟨same, same ▸ concerns⟩
  · exact And.left

theorem fatalIsFinal_drain (source : String) (limit : Nat) :
    FatalIsFinal (ofSource source limit).drain.2 :=
  fatalIsFinal_afterCalls source limit [.tokenize]

end Scanner

namespace Report

open Scanner

/-- How the parts of a report of a source agree. -/
structure Balanced (source : String) (report : Report) : Prop where
  ended : ∃ tokens place, report.tokens = tokens ++ [.endOfInput place] ∧
    ∀ token ∈ tokens, token.isEndOfInput = false
  total : report.stats.total = report.tokens.length - 1
  sum : (report.stats.counts.map Prod.snd).sum = report.stats.total
  counts : ∀ kind, kind ≠ .endOfInput →
    report.stats.count kind = report.tokens.countP (·.kind = kind)
  unused : report.stats.count .endOfInput = 0 ∧ report.stats.count .error = 0
  lines : report.stats.lines = 1 + source.toList.count '\n'
  identifiers : report.stats.count (.literal .identifier) =
    report.symbols.frequencies + report.diagnostics.countP (·.fault = .invalidIdentifier)
  lengths : report.diagnostics.countP (·.fault = .identifierLength) ≤ report.symbols.frequencies
  complete : report.complete = true ↔ ∀ d ∈ report.diagnostics, d.fault.isFatal = false
  incomplete : report.complete = false → ∃ earlier last, report.diagnostics = earlier ++ [last] ∧
    last.fault.isFatal = true ∧ ∀ d ∈ earlier, d.fault.isFatal = false

theorem countedKinds_drain (s : Scanner) :
    Token.countedKinds s.drain.1 = s.tokensAhead.map Token.kind := by
  rw [Token.countedKinds, filter_drain]

theorem complete_ofSource (source : String) (limit : Nat) :
    (ofSource source limit).complete = true ↔
      ∀ d ∈ (ofSource source limit).diagnostics, d.fault.isFatal = false := by
  simp [ofSource, ofDrained, DiagnosticLog.hasFatal_eq]

theorem incomplete_ofSource {source : String} {limit : Nat}
    (cut : (ofSource source limit).complete = false) :
    ∃ earlier last, (ofSource source limit).diagnostics = earlier ++ [last] ∧
      last.fault.isFatal = true ∧ ∀ d ∈ earlier, d.fault.isFatal = false := by
  rcases fatalIsFinal_drain source limit with recoverable | ⟨_, earlier, last, same, severe, others⟩
  · have whole := (complete_ofSource source limit).2 recoverable
    simp [whole] at cut
  · exact ⟨earlier, last, same, severe, others⟩

theorem count_error_ofSource (source : String) (limit : Nat) :
    (ofSource source limit).tokens.countP (·.kind = .error) = 0 := by
  rw [List.countP_eq_zero]
  intro token member
  have found : token ∈ (Scanner.ofSource source limit).drain.1 := member
  rw [drain_tokens, List.mem_append, List.mem_singleton] at found
  rcases found with ahead | rfl
  · simpa using (tokenText_of_mem_tokensAhead ahead).ne_error
  · simp [Token.endOfInput]

/-- Whatever the source is, its report adds up. -/
theorem report_balanced (source : String) (limit : Nat) :
    Balanced source (Report.ofSource source limit) := by
  have count (kind : Kind) : (Report.ofSource source limit).stats.count kind =
      (Token.countedKinds (Scanner.ofSource source limit).drain.1).count kind :=
    Stats.count_collect _ _ kind
  have counts (kind : Kind) (visible : kind ≠ .endOfInput) :
      (Report.ofSource source limit).stats.count kind =
        (Report.ofSource source limit).tokens.countP (·.kind = kind) :=
    (count kind).trans (Token.count_countedKinds _ visible)
  have frequencies : (Report.ofSource source limit).symbols.frequencies =
      (Report.ofSource source limit).tokens.countP Token.isSighting :=
    frequencies_drain source limit
  refine {
    ended := ⟨_, _, drain_tokens _, fun token => isEndOfInput_of_mem_tokensAhead⟩
    total := ?_
    sum := Stats.sum_counts_collect _ _
    counts := counts
    unused := ⟨(count _).trans (Token.count_endOfInput_countedKinds _),
      (counts .error (by simp)).trans (count_error_ofSource source limit)⟩
    lines := ?_
    identifiers := ?_
    lengths := ?_
    complete := complete_ofSource source limit
    incomplete := incomplete_ofSource }
  · change (Stats.collect _ _).total = (Scanner.ofSource source limit).drain.1.length - 1
    rw [Stats.collect_eq, countedKinds_drain, drain_tokens]
    simp
  · change (Stats.collect _ (Scanner.ofSource source limit).drain.2.line).lines = _
    rw [Stats.collect_eq, line, position_drain]
    rfl
  · have invalid := (countP_drain source limit .invalidIdentifier rfl).trans
      (Token.countP_invalid limit _)
    rw [counts _ (by simp), Token.countP_identifier, frequencies]
    exact congrArg _ invalid.symm
  · have long := countP_drain source limit .identifierLength rfl
    rw [frequencies]
    exact long.trans_le (Token.countP_long_le limit _)

end Report
end LexScan
