import LexScan.Proofs.Place
import LexScan.Proofs.Tally

/-! The symbol table and the token stream. Names are recorded while words are read, apart from the
tokens that are returned for them. At every moment the table is nevertheless the one that the tokens
returned so far come to by counting: each step records what its token says and no more, so a run
leaves behind the tally of what it has taken from the tokens ahead. -/
namespace LexScan

theorem Grammar.ne_identifier_of_listed {text : List Char} {kind : Kind}
    (listed : (text, kind) ∈ marks) : kind ≠ .literal .identifier := by
  have others : ∀ entry ∈ marks, entry.2 ≠ .literal .identifier := by decide
  exact others _ listed

/-- Of all texts of the language, only words are identifiers. -/
theorem Grammar.TokenText.word_of_identifier {kind : Kind} {text : List Char}
    (token : TokenText kind text) (identifier : kind = .literal .identifier) :
    ReservedWord.kindOf (String.ofList text) = kind ∧ ∀ c ∈ text, Text.isWordPart c = true := by
  cases token with
  | word letter parts named =>
      rw [List.forall_mem_cons]
      exact ⟨Segment.wordKind_iff.1 named, Text.isWordPart_of_isAlphabetic letter,
        fun d member => Segment.isWordPart_iff.2 (parts d member)⟩
  | number signed some_digit all fractional scaled => split at identifier <;> simp at identifier
  | mark listed => exact absurd identifier (ne_identifier_of_listed listed)
  | _ => simp at identifier

theorem Grammar.TokenText.kind?_of_identifier {kind : Kind} {text : List Char}
    (token : TokenText kind text) (identifier : kind = .literal .identifier) :
    ReservedWord.kind? (String.ofList text) = none :=
  ReservedWord.kindOf_eq_identifier_iff.1
    ((token.word_of_identifier identifier).1.trans identifier)

namespace Token

/-- An identifier that begins with an upper-case letter counts as a sighting of its name. -/
def isSighting (token : Token) : Bool :=
  token.kind = .literal .identifier && Scanner.startsUppercase token.lexeme

def sighting (token : Token) : Sighting :=
  ⟨token.lexeme, Scanner.identifierLabel, token.position.line⟩

def sightings (tokens : List Token) : List Sighting := (tokens.filter isSighting).map sighting

theorem sightings_append (first second : List Token) :
    sightings (first ++ second) = sightings first ++ sightings second := by
  simp [sightings]

theorem isSighting_of_isEndOfInput {token : Token} (ended : token.isEndOfInput = true) :
    token.isSighting = false := by
  have kind : token.kind = .endOfInput := by simpa [isEndOfInput] using ended
  simp [isSighting, kind]

theorem sightings_filter (tokens : List Token) :
    sightings (tokens.filter (!·.isEndOfInput)) = sightings tokens := by
  have kept : ∀ token : Token, (token.isSighting && !token.isEndOfInput) = token.isSighting := by
    intro token
    cases ended : token.isEndOfInput with
    | true => simp [isSighting_of_isEndOfInput ended]
    | false => simp
  simp [sightings, List.filter_filter, kept]

end Token

namespace Scanner

open SymbolTable

theorem symbols_checkIdentifier (s : Scanner) (word : String) (place : Position) :
    (s.checkIdentifier word place).symbols =
      if startsUppercase word then s.symbols.record word identifierLabel place.line
      else s.symbols := by
  unfold checkIdentifier
  cases upper : startsUppercase word with
  | false => rfl
  | true =>
      by_cases long : s.limit < word.length <;> simp [long, report, recordSymbol]

theorem symbols_checkToken (s : Scanner) (token : Token) :
    (s.checkToken token).symbols = s.symbols.recordAll (Token.sightings [token]) := by
  unfold checkToken
  by_cases identifier : token.kind = .literal .identifier
  · rw [if_pos identifier, symbols_checkIdentifier]
    cases upper : startsUppercase token.lexeme <;>
      simp [Token.sightings, Token.isSighting, Token.sighting, identifier, upper]
  · simp [Token.sightings, Token.isSighting, identifier]

theorem symbols_step (s : Scanner) :
    s.step.scanner.symbols = s.symbols.recordAll (Token.sightings s.step.token?.toList) := by
  cases unread : s.rest with
  | nil => rw [step_eq_stop unread]; rfl
  | cons c rest =>
      rw [step_of_rest unread]
      cases (Segment.read c rest).1 with
      | token kind lexeme => exact symbols_checkToken _ _
      | _ => rfl

/-- A scanner that has taken some tokens since it was another one, and has recorded just those. -/
structure Took (origin : Scanner) (tokens : List Token) (s : Scanner) : Prop where
  ahead : origin.tokensAhead = tokens ++ s.tokensAhead
  symbols : s.symbols = origin.symbols.recordAll (Token.sightings tokens)

theorem stable_took (origin : Scanner) : Stable fun s => ∃ tokens, Took origin tokens s where
  step s reached := by
    obtain ⟨tokens, taken, recorded⟩ := reached
    refine ⟨tokens ++ s.step.token?.toList, ?_, ?_⟩
    · rw [taken, tokensAhead_step s, List.append_assoc]
    · rw [symbols_step, recorded, Token.sightings_append, recordAll_append]
  note _ _ reached := by
    obtain ⟨tokens, taken, recorded⟩ := reached
    exact ⟨tokens, taken, recorded⟩

/-! ### What calls return -/

theorem tokenText_of_mem_tokensAhead {s : Scanner} {token : Token}
    (member : token ∈ s.tokensAhead) : Grammar.TokenText token.kind token.lexeme.toList := by
  obtain ⟨⟨place, segment⟩, ahead, yielded⟩ := List.mem_filterMap.1 member
  obtain ⟨c, rest, read⟩ := Segment.exists_read_of_mem_placed ahead
  cases segment with
  | token kind lexeme =>
      simp only [Segment.token?, Option.some.injEq] at yielded
      subst yielded
      simpa using Segment.tokenText_of_read read
  | _ => simp [Segment.token?] at yielded

theorem isEndOfInput_of_mem_tokensAhead {s : Scanner} {token : Token}
    (member : token ∈ s.tokensAhead) : token.isEndOfInput = false := by
  have kept := (tokenText_of_mem_tokensAhead member).ne_endOfInput
  simpa [Token.isEndOfInput] using kept

/-- Asking for a token is a pull. It finds a token that is not the one for the end, or returns that
one for want of any other. -/
theorem nextToken_cases (s : Scanner) :
    (∃ next, s.pull = (none, next) ∧ s.nextToken = (next.endToken, next)) ∨
      ∃ token next, s.pull = (some token, next) ∧ s.nextToken = (token, next) ∧
        token.isEndOfInput = false := by
  cases pulled : s.pull with
  | mk answer next =>
      cases answer with
      | none => exact .inl ⟨next, rfl, by simp [nextToken, pulled]⟩
      | some token =>
          have ahead : token ∈ s.tokensAhead := by simp [tokensAhead_of_pull_eq_some pulled]
          exact .inr ⟨token, next, rfl, by simp [nextToken, pulled],
            isEndOfInput_of_mem_tokensAhead ahead⟩

theorem filter_of_subset_tokensAhead {s : Scanner} {tokens : List Token}
    (ahead : ∀ token ∈ tokens, token ∈ s.tokensAhead) :
    tokens.filter (!·.isEndOfInput) = tokens := by
  rw [List.filter_eq_self]
  intro token member
  simp [isEndOfInput_of_mem_tokensAhead (ahead token member)]

theorem filter_drain (s : Scanner) : s.drain.1.filter (!·.isEndOfInput) = s.tokensAhead := by
  have visible := filter_of_subset_tokensAhead fun token (member : token ∈ s.tokensAhead) => member
  rw [drain_tokens, List.filter_append, visible]
  simp

theorem tokensAhead_eq_nil {s : Scanner} (ended : s.rest = []) : s.tokensAhead = [] := by
  simp [tokensAhead, ahead_eq_nil ended]

theorem tokens_pull (s : Scanner) : s.pull.1.toList ++ s.pull.2.tokensAhead = s.tokensAhead := by
  cases pulled : s.pull with
  | mk answer next =>
      cases answer with
      | none =>
          have ended := rest_of_pull_eq_none pulled
          simp [tokensAhead_of_pull_eq_none pulled, tokensAhead_eq_nil ended]
      | some token => simp [tokensAhead_of_pull_eq_some pulled]

theorem tokens_take (count : Nat) (s : Scanner) :
    (take count s).1 ++ (take count s).2.tokensAhead = s.tokensAhead := by
  induction count generalizing s with
  | zero => rfl
  | succ count ih =>
      have taken := tokens_pull s
      unfold take
      split
      · next next pulled => simpa [pulled] using taken
      · next token next pulled => simpa [pulled, ih] using taken

/-- The tokens that a call returns, the one for the end apart, are the first of those ahead. -/
theorem tokens_call (call : Call) (s : Scanner) :
    (call.perform s).1.toList.filter (!·.isEndOfInput) ++ (call.perform s).2.tokensAhead =
      s.tokensAhead := by
  have visible {tokens later : List Token} (whole : tokens ++ later = s.tokensAhead) :
      tokens.filter (!·.isEndOfInput) = tokens := by
    apply filter_of_subset_tokensAhead (s := s)
    intro token member
    exact whole ▸ List.mem_append_left later member
  cases call with
  | nextToken =>
      have pulled := tokens_pull s
      have unchanged := visible pulled
      simp only [Call.perform, Answer.toList, nextToken]
      split
      · next token next same =>
          rw [same, Option.toList_some] at pulled unchanged
          rw [unchanged, pulled]
      · next next same => simpa [same, endToken] using pulled
  | next =>
      simpa only [Call.perform, Answer.toList, visible (tokens_pull s)] using tokens_pull s
  | take count =>
      simpa only [Call.perform, Answer.toList, visible (tokens_take count s)] using
        tokens_take count s
  | tokenize =>
      simp [Call.perform, Answer.toList, drain_tokens, tokensAhead_eq_nil (rest_drain s),
        visible (List.append_nil s.tokensAhead)]

theorem tokens_perform (s : Scanner) (calls : List Call) :
    ((s.perform calls).1.flatMap Answer.toList).filter (!·.isEndOfInput) ++
      (s.perform calls).2.tokensAhead = s.tokensAhead := by
  induction calls generalizing s with
  | nil => rfl
  | cons call later ih =>
      simp only [perform, List.flatMap_cons, List.filter_append, List.append_assoc]
      rw [ih, tokens_call]

theorem perform_append (s : Scanner) (first second : List Call) :
    s.perform (first ++ second) =
      ((s.perform first).1 ++ ((s.perform first).2.perform second).1,
        ((s.perform first).2.perform second).2) := by
  induction first generalizing s with
  | nil => rfl
  | cons call later ih => simp [perform, ih]

/-- All tokens that some calls on the scanner of a source return, in their order. -/
def returned (source : String) (limit : Nat) (calls : List Call) : List Token :=
  ((ofSource source limit).perform calls).1.flatMap Answer.toList

theorem returned_append (source : String) (limit : Nat) (calls later : List Call) :
    returned source limit (calls ++ later) = returned source limit calls ++
      ((afterCalls source limit calls).perform later).1.flatMap Answer.toList := by
  simp [returned, perform_append, afterCalls]

theorem tallies_afterCalls (source : String) (limit : Nat) (calls : List Call) :
    Tallies (afterCalls source limit calls).symbols
      (Token.sightings (returned source limit calls)) := by
  obtain ⟨tokens, took⟩ :=
    (stable_took (ofSource source limit)).perform calls ⟨[], rfl, rfl⟩
  have same : tokens = (returned source limit calls).filter (!·.isEndOfInput) :=
    List.append_cancel_right (took.ahead.symm.trans (tokens_perform _ calls).symm)
  rw [← Token.sightings_filter, ← same, afterCalls, took.symbols]
  exact tallies_recordAll _

theorem symbols_drain (s : Scanner) :
    s.drain.2.symbols = s.symbols.recordAll (Token.sightings s.drain.1) := by
  obtain ⟨tokens, took⟩ := (stable_took s).drain ⟨[], rfl, rfl⟩
  have same := took.ahead
  rw [tokensAhead_eq_nil (rest_drain s), List.append_nil] at same
  rw [took.symbols, ← same, ← filter_drain, Token.sightings_filter]

theorem tallies_drain (source : String) (limit : Nat) :
    Tallies (ofSource source limit).drain.2.symbols
      (Token.sightings (ofSource source limit).tokensAhead) := by
  rw [symbols_drain, ← filter_drain, Token.sightings_filter]
  exact tallies_recordAll _

/-! ### Names and where they stand -/

theorem stable_split (source : List Char) :
    Stable fun s => Segment.split s.rest <:+ Segment.split source where
  step s before := by
    cases unread : s.rest with
    | nil =>
        rw [step_eq_stop unread]
        exact before
    | cons c rest =>
        rw [unread, Segment.split_cons] at before
        rw [step_of_rest unread, rest_absorb]
        exact (List.suffix_cons _ _).trans before
  note _ _ before := before

theorem lexemes_of_split {source : String} {limit : Nat} {calls : List Call}
    {segments : List Segment} (whole : Segment.split source.toList =
      segments ++ Segment.split (afterCalls source limit calls).rest) :
    segments.filterMap Segment.lexeme? =
      ((returned source limit calls).filter (!·.isEndOfInput)).map
        (fun token => (token.kind, token.lexeme)) := by
  have all := map_tokensAhead (ofSource source limit)
  have left := map_tokensAhead (afterCalls source limit calls)
  have taken := tokens_perform (ofSource source limit) calls
  rw [← taken, List.map_append, ← afterCalls, left] at all
  change _ = (Segment.split source.toList).filterMap Segment.lexeme? at all
  rw [whole, List.filterMap_append] at all
  exact (List.append_cancel_right all).symm

theorem count_segments (segments : List Segment) (name : String) :
    segments.count (.token (.literal .identifier) name.toList) =
      (segments.filterMap Segment.lexeme?).count (.literal .identifier, name) := by
  rw [List.count, List.count, List.countP_filterMap]
  apply List.countP_congr
  intro segment _
  cases segment with
  | token kind lexeme => simp [Segment.lexeme?, ← String.toList_inj]
  | _ => simp [Segment.lexeme?]

theorem count_sighted {name : String} (upper : startsUppercase name = true) (tokens : List Token) :
    (tokens.filter Token.isSighting).countP (·.lexeme = name) =
      ((tokens.filter (!·.isEndOfInput)).map fun token => (token.kind, token.lexeme)).count
        (.literal .identifier, name) := by
  rw [List.countP_filter, List.count, List.countP_map, List.countP_filter]
  apply List.countP_congr
  intro token _
  simp only [Token.isSighting, Token.isEndOfInput, Function.comp_apply, Bool.and_eq_true,
    decide_eq_true_eq, beq_iff_eq, Bool.not_eq_true', Prod.mk.injEq]
  constructor
  · rintro ⟨same, identifier, _⟩
    simp [same, identifier]
  · rintro ⟨⟨identifier, same⟩, _⟩
    simp [same, identifier, upper]

theorem name_of_sighted {source : String} {limit : Nat} {calls : List Call} {token : Token}
    (member : token ∈ (returned source limit calls).filter Token.isSighting) :
    startsUppercase token.lexeme = true ∧ ReservedWord.kind? token.lexeme = none := by
  obtain ⟨returned, sighted⟩ := List.mem_filter.1 member
  simp only [Token.isSighting, Bool.and_eq_true, decide_eq_true_eq] at sighted
  refine ⟨sighted.2, ?_⟩
  obtain ⟨answer, answered, within⟩ := List.mem_flatMap.1 returned
  rcases mem_answers _ calls answered within with ahead | rfl
  · simpa using (tokenText_of_mem_tokensAhead ahead).kind?_of_identifier sighted.1
  · simp [Token.endOfInput] at sighted

theorem exists_sighted {source : String} {limit : Nat} {calls : List Call}
    {entry : String × Symbol} (member : entry ∈ (afterCalls source limit calls).symbols.entries) :
    ∃ first, ((returned source limit calls).filter Token.isSighting).find? (·.lexeme = entry.1) =
        some first ∧
      entry.2 = ⟨identifierLabel, first.position.line,
        ((returned source limit calls).filter Token.isSighting).countP (·.lexeme = entry.1)⟩ ∧
      startsUppercase entry.1 = true ∧ ReservedWord.kind? entry.1 = none := by
  have tallied := tallies_afterCalls source limit calls
  have found := get?_of_mem tallied.nodup_names member
  rw [tallied.symbols, symbolOf, Token.sightings, List.find?_map, Option.map_map] at found
  obtain ⟨first, earliest, same⟩ := Option.map_eq_some_iff.1 found
  refine ⟨first, earliest, ?_, ?_⟩
  · rw [← same, List.countP_map]
    rfl
  · have lexeme : first.lexeme = entry.1 := by
      have matched := List.find?_some earliest
      simp only [Function.comp_apply, decide_eq_true_eq] at matched
      exact matched
    rw [← lexeme]
    exact name_of_sighted (List.mem_of_find?_eq_some earliest)

/-- Whatever has been called, the names in the table are those of the identifiers returned so far
that begin with an upper-case letter, in the order in which each was returned first; an entry has
the line of the first and the number of all of them. No reserved word is a name, and of the pieces
that the source was read in only such identifiers count, not what stands inside others. Later calls
neither remove entries nor reorder them, nor change their lines, nor count back. -/
theorem symbols_mirror_tokens (source : String) (limit : Nat) (calls : List Call) :
    (afterCalls source limit calls).symbols.names =
      (((returned source limit calls).filter Token.isSighting).map Token.lexeme).eraseDups ∧
    (∀ entry ∈ (afterCalls source limit calls).symbols.entries,
      entry.2.kind = "IDENTIFIER" ∧
      (((returned source limit calls).filter Token.isSighting).find?
        (·.lexeme = entry.1)).map (·.position.line) = some entry.2.firstLine ∧
      entry.2.frequency =
        ((returned source limit calls).filter Token.isSighting).countP (·.lexeme = entry.1) ∧
      startsUppercase entry.1 = true ∧ ReservedWord.kind? entry.1 = none) ∧
    (∃ segments, Segment.split source.toList =
        segments ++ Segment.split (afterCalls source limit calls).rest ∧
      ∀ entry ∈ (afterCalls source limit calls).symbols.entries,
        entry.2.frequency = segments.count (.token (.literal .identifier) entry.1.toList)) ∧
    ∀ later, (afterCalls source limit calls).symbols.Extends
      (afterCalls source limit (calls ++ later)).symbols := by
  have tallied := tallies_afterCalls source limit calls
  refine ⟨?_, ?_, ?_, ?_⟩
  · rw [tallied.names, Token.sightings, List.map_map]
    rfl
  · intro entry member
    obtain ⟨first, earliest, same, named⟩ := exists_sighted member
    rw [earliest, same]
    exact ⟨rfl, rfl, rfl, named⟩
  · obtain ⟨segments, whole⟩ :=
      (stable_split source.toList).perform calls (s := ofSource source limit) List.suffix_rfl
    refine ⟨segments, whole.symm, ?_⟩
    intro entry member
    obtain ⟨first, earliest, same, upper, _⟩ := exists_sighted member
    rw [count_segments, lexemes_of_split whole.symm, ← count_sighted upper, same]
  · intro later
    have after := tallies_afterCalls source limit (calls ++ later)
    rw [returned_append, Token.sightings_append] at after
    exact tallied.extends after

end Scanner
end LexScan
