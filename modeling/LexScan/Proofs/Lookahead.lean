import LexScan.Proofs.Boundary
import LexScan.Proofs.TokenStream

/-! How far the scanner looks ahead. To end a segment it looks at one character behind it at most,
whatever the segment is. So a text that is changed somewhere is read as before up to the last segment
that ends before the change with a character in between, and all that the scanner has learnt on the
way there is the same. -/
namespace LexScan

namespace Segment

open Text Lexeme Grammar

theorem isPrefix_of_append_eq {taken left rest more : List Char}
    (whole : taken ++ left = rest ++ more) (longer : more.length < left.length) :
    taken <+: rest := by
  have lengths := congrArg List.length whole
  simp only [List.length_append] at lengths
  exact List.prefix_of_prefix_length_le ⟨left, whole⟩ ⟨more, rfl⟩ (by omega)

/-! ### Segments that end with the text

None of them takes less of the text when more follows. -/

theorem length_of_token {c : Char} {rest : List Char} {kind : Kind}
    (found : (read c rest).1 = .token kind (c :: rest)) (more : List Char) :
    (read c (rest ++ more)).2.length ≤ more.length := by
  obtain ⟨longest, lexeme, segment, longer⟩ :=
    outdoes_read (tokenText_of_read found) (List.cons_append : c :: rest ++ more = _)
  have reached : (c :: rest).length ≤ lexeme.length := by
    rcases longer with longer | ⟨same, _⟩
    · exact Nat.le_of_lt longer
    · rw [same]
  have lengths := congrArg List.length (read_append c (rest ++ more))
  simp only [segment, text, List.length_append, List.length_cons] at lengths reached
  omega

theorem length_readString_append_le {rest : List Char} (unclosed : stringTail rest = none)
    (more : List Char) : (readString '"' (rest ++ more)).2.length ≤ more.length := by
  cases closed : stringTail (rest ++ more) with
  | none => simp [readString, closed]
  | some parts =>
      obtain ⟨body, whole⟩ := stringTail_eq_some_iff.1 closed
      by_contra longer
      have early : parts.1 <+: rest := by
        apply isPrefix_of_append_eq whole
        simpa [readString, closed] using longer
      obtain ⟨left, front⟩ := early
      rw [stringTail_eq_some_iff.2 ⟨body, front⟩] at unclosed
      simp at unclosed

theorem length_characterTail_cons_le (c : Char) (later : List Char) :
    (characterTail (c :: later)).rest.length ≤ later.length := by
  have whole := congrArg List.length (characterTail_append (c :: later))
  have some_taken : (characterTail (c :: later)).tail ≠ [] := by
    unfold characterTail
    split <;> simp_all
  have taken := List.length_pos_iff.2 some_taken
  simp only [List.length_append, List.length_cons] at whole
  omega

theorem length_characterTail_escaped_le (d : Char) (later : List Char) :
    (characterTail ('\\' :: d :: later)).rest.length ≤ later.length := by
  cases later with
  | nil => simp [characterTail]
  | cons e later => by_cases quote : e = '\'' <;> simp [characterTail, quote]

theorem length_readCharacter_append_le {c : Char} {rest : List Char} (some_rest : rest ≠ [])
    (unclosed : (characterTail rest).closed = false) (ended : (characterTail rest).rest = [])
    (more : List Char) : (readCharacter c (rest ++ more)).2.length ≤ more.length := by
  change (characterTail (rest ++ more)).rest.length ≤ more.length
  obtain ⟨d, later, rfl⟩ := List.exists_cons_of_ne_nil some_rest
  -- without a closing quote only a character, or a backslash and one, can be all of the text
  cases later with
  | nil => exact length_characterTail_cons_le d more
  | cons e later =>
      by_cases escaped : d = '\\'
      · subst escaped
        cases later with
        | nil => exact length_characterTail_escaped_le e more
        | cons f later => by_cases quote : f = '\'' <;> simp_all [characterTail]
      · by_cases quote : e = '\'' <;> simp_all [characterTail]

theorem length_commentTail_append_le {later more taken left : List Char}
    (ended : ∀ tail behind, commentTail 1 later = .closed tail behind → behind = [])
    (closed : commentTail 1 (later ++ more) = .closed taken left) :
    left.length ≤ more.length := by
  obtain ⟨body, whole⟩ := commentTail_eq_closed_iff.1 closed
  by_contra longer
  obtain ⟨between, front⟩ := isPrefix_of_append_eq whole (Nat.lt_of_not_le longer)
  obtain rfl := ended taken between (commentTail_eq_closed_iff.2 ⟨body, front⟩)
  rw [List.append_nil] at front
  rw [front] at whole
  rw [List.append_cancel_left whole] at longer
  exact longer (Nat.le_refl _)

theorem length_readNumberSign_append_le {rest : List Char} (some_rest : rest ≠ [])
    (ended : (readNumberSign '#' rest).2 = []) (more : List Char) :
    (readNumberSign '#' (rest ++ more)).2.length ≤ more.length := by
  obtain ⟨d, later, rfl⟩ := List.exists_cons_of_ne_nil some_rest
  by_cases line : d = '#'
  · subst line
    have inside : ∀ e ∈ later, (e != '\n') = true := List.dropWhile_eq_nil_iff.1 ended
    have left : (readNumberSign '#' ('#' :: later ++ more)).2 = more.dropWhile (· != '\n') :=
      List.dropWhile_append_of_pos inside
    rw [left]
    exact (List.dropWhile_suffix _).length_le
  · by_cases block : d = '*'
    · subst block
      cases closed : commentTail 1 (later ++ more) with
      | unclosed depth => simp [readNumberSign, closed]
      | closed taken left =>
          have reached : left.length ≤ more.length := by
            apply length_commentTail_append_le _ closed
            intro tail behind before
            simpa [readNumberSign, before] using ended
          simpa [readNumberSign, closed] using reached
    · simp [readNumberSign, line, block, readMark, mark?, pairKind, singleKind] at ended

theorem length_read_append_le {c : Char} {rest : List Char} (ended : (read c rest).2 = [])
    (more : List Char) : (read c (rest ++ more)).2.length ≤ more.length := by
  by_cases some_rest : rest = []
  · have shorter := length_read_lt c more
    rw [List.length_cons] at shorter
    rw [some_rest, List.nil_append]
    omega
  have formed := wellFormed_read c rest
  have whole := read_append c rest
  rw [ended, List.append_nil] at whole
  rw [ended] at formed
  cases segment : (read c rest).1 with
  | blank d => simp [segment, text, Ne.symm some_rest] at whole
  | strayCharacter d => simp [segment, text, Ne.symm some_rest] at whole
  | token kind lexeme =>
      obtain rfl : lexeme = c :: rest := by simpa [segment, text] using whole
      exact length_of_token segment more
  | lineComment comment =>
      rw [segment] at formed whole
      obtain ⟨line, rfl, _⟩ := formed
      obtain ⟨rfl, _⟩ := List.cons.inj whole
      exact length_readNumberSign_append_le some_rest ended more
  | blockComment comment =>
      rw [segment] at formed whole
      obtain ⟨body, _, rfl⟩ := formed
      obtain ⟨rfl, _⟩ := List.cons.inj whole
      exact length_readNumberSign_append_le some_rest ended more
  | unclosedComment comment depth =>
      rw [segment] at formed whole
      obtain ⟨⟨⟨later, rfl⟩, _⟩, _⟩ := formed
      obtain ⟨rfl, _⟩ := List.cons.inj whole
      exact length_readNumberSign_append_le some_rest ended more
  | malformedCharacter lexeme =>
      rw [segment] at formed whole
      obtain rfl : lexeme = c :: rest := whole
      obtain rfl : c = '\'' := Option.some.inj formed.1
      have unclosed : (characterTail rest).closed = false := by
        cases closed : (characterTail rest).closed with
        | false => rfl
        | true => simp [read_apostrophe, readCharacter, closed] at segment
      exact length_readCharacter_append_le some_rest unclosed ended more
  | unterminatedString lexeme =>
      rw [segment] at formed whole
      obtain rfl : lexeme = c :: rest := whole
      obtain rfl : c = '"' := Option.some.inj formed.1.1
      have unclosed : stringTail rest = none := by
        cases closed : stringTail rest with
        | none => rfl
        | some parts => simp [read_quote, readString, closed] at segment
      exact length_readString_append_le unclosed more

/-! ### One character ahead -/

theorem settled_of_left {c : Char} {rest : List Char} (some_left : (read c rest).2 ≠ [])
    (more : List Char) : Settled (read c rest) more where
  recoverable := by
    cases fatal : (read c rest).1.isFatal with
    | false => rfl
    | true => exact absurd (rest_eq_nil_of_isFatal c rest fatal) some_left
  apart := .inl some_left
  unquoted _ _ := some_left

/-- A segment that leaves at least one character of a text does not depend on what comes behind the
text. -/
theorem read_append_congr {c : Char} {rest more left : List Char} {segment : Segment}
    (taken : read c (rest ++ more) = (segment, left ++ more)) (some_left : left ≠ [])
    (other : List Char) : read c (rest ++ other) = (segment, left ++ other) := by
  have unended : (read c rest).2 ≠ [] := by
    intro ended
    have bound := length_read_append_le ended more
    have some_length := List.length_pos_iff.2 some_left
    rw [taken, List.length_append] at bound
    omega
  have same := read_append_right (settled_of_left unended more)
  rw [taken, Prod.mk.injEq] at same
  have alone : read c rest = (segment, left) :=
    Prod.ext same.1.symm (List.append_cancel_right same.2).symm
  have settled := settled_of_left unended other
  rw [read_append_right settled, alone]

end Segment

/-! ### Runs over a changed text -/

namespace Scanner

/-- The scanner with another text to read. -/
def withRest (s : Scanner) (rest : List Char) : Scanner := { s with rest := rest }

end Scanner

def Step.withRest (rest : List Char) : Step → Step
  | .skip s => .skip (s.withRest rest)
  | .found token s => .found token (s.withRest rest)
  | .stop s => .stop (s.withRest rest)

namespace Scanner

theorem checkToken_withRest (s : Scanner) (token : Token) (rest : List Char) :
    (s.withRest rest).checkToken token = (s.checkToken token).withRest rest := by
  unfold checkToken checkIdentifier
  split
  · split
    · rfl
    · split
      · next long => rw [if_pos (by exact long)]; rfl
      · next short => rw [if_neg (by exact short)]; rfl
  · rfl

/-- What a segment comes to does not depend on the text. -/
theorem absorb_withRest (s : Scanner) (segment : Segment) (text left other : List Char) :
    (s.withRest text).absorb segment other = (s.absorb segment left).withRest other := by
  cases segment with
  | token kind lexeme =>
      exact congrArg (Step.found _)
        (checkToken_withRest (s.moveOver (.token kind lexeme) left) _ other)
  | _ => rfl

/-- Two scanners with the same past. What they have still to read begins alike; then one goes on with
this text and the other with that. -/
def Agrees (more other : List Char) (s t : Scanner) : Prop :=
  ∃ common, s.rest = common ++ more ∧ t = s.withRest (common ++ other)

theorem length_rest_step_le (s : Scanner) : s.step.scanner.rest.length ≤ s.rest.length := by
  by_cases ended : s.rest = []
  · rw [step_eq_stop ended]
    exact Nat.le_refl _
  · exact Nat.le_of_lt (length_rest_step_lt ended)

theorem Agrees.step {more other : List Char} {s t : Scanner} (agree : Agrees more other s t)
    (longer : more.length < s.step.scanner.rest.length) :
    ∃ common, s.step.scanner.rest = common ++ more ∧ t.step = s.step.withRest (common ++ other) := by
  obtain ⟨common, unread, rfl⟩ := agree
  cases common with
  | nil =>
      have bound := length_rest_step_le s
      rw [unread, List.nil_append] at bound
      omega
  | cons c rest =>
      have stepped : s.step = s.absorb (Segment.read c (rest ++ more)).1
          (Segment.read c (rest ++ more)).2 := step_of_rest unread
      have left : s.step.scanner.rest = (Segment.read c (rest ++ more)).2 := by
        rw [stepped, rest_absorb]
      rw [left] at longer ⊢
      have end_of_text : more <:+ c :: (rest ++ more) := List.suffix_append (c :: rest) more
      have left_of_text : (Segment.read c (rest ++ more)).2 <:+ c :: (rest ++ more) :=
        ⟨_, Segment.read_append c (rest ++ more)⟩
      obtain ⟨between, same⟩ :=
        List.suffix_of_suffix_length_le end_of_text left_of_text (Nat.le_of_lt longer)
      have some_left : between ≠ [] := by
        rintro rfl
        rw [← same] at longer
        simp at longer
      have again := Segment.read_append_congr (Prod.ext rfl same.symm) some_left other
      have restepped : (s.withRest (c :: rest ++ other)).step =
          (s.withRest (c :: rest ++ other)).absorb (Segment.read c (rest ++ other)).1
            (Segment.read c (rest ++ other)).2 := step_of_rest rfl
      refine ⟨between, same.symm, ?_⟩
      rw [restepped, again, stepped]
      exact absorb_withRest _ _ _ _ _

theorem Agrees.pull {more other : List Char} {s t next : Scanner} {token : Token}
    (agree : Agrees more other s t) (pulled : s.pull = (some token, next))
    (longer : more.length < next.rest.length) :
    ∃ next', t.pull = (some token, next') ∧ Agrees more other next next' := by
  fun_induction Scanner.pull s generalizing t with
  | case1 s middle skipped ih =>
      have shorter := length_rest_of_pull_eq_some pulled
      obtain ⟨common, unread, stepped⟩ := agree.step (by
        rw [skipped, Step.scanner]
        omega)
      rw [skipped] at unread stepped
      rw [pull_eq_step t, stepped]
      exact ih ⟨common, unread, rfl⟩ pulled
  | case2 s found middle reached =>
      obtain ⟨same, rfl⟩ := Prod.mk.inj pulled
      obtain rfl := Option.some.inj same
      obtain ⟨common, unread, stepped⟩ := agree.step (by rwa [reached])
      rw [reached] at unread stepped
      rw [pull_eq_step t, stepped]
      exact ⟨_, rfl, common, unread, rfl⟩
  | case3 => simp at pulled

theorem Agrees.nextToken {more other : List Char} {s t : Scanner} (agree : Agrees more other s t)
    (longer : more.length < s.nextToken.2.rest.length) :
    t.nextToken.1 = s.nextToken.1 ∧ Agrees more other s.nextToken.2 t.nextToken.2 := by
  rcases nextToken_cases s with ⟨next, pulled, ended⟩ | ⟨token, next, pulled, found, _⟩
  · rw [ended, rest_of_pull_eq_none pulled] at longer
    simp at longer
  · rw [found] at longer ⊢
    obtain ⟨next', again, later⟩ := agree.pull pulled longer
    have same : t.nextToken = (token, next') := by simp [Scanner.nextToken, again]
    rw [same]
    exact ⟨rfl, later⟩

theorem stable_length_le (bound : Nat) : Stable fun s => s.rest.length ≤ bound where
  step s before := Nat.le_trans (length_rest_step_le s) before
  note _ _ before := before

/-- As long as one scanner leaves something of the common part, the other keeps up with it. -/
theorem Agrees.ask {more other : List Char} {s t : Scanner} (agree : Agrees more other s t)
    {count : Nat} (longer : more.length < (ask count s).2.rest.length) :
    (ask count t).1 = (ask count s).1 ∧ Agrees more other (ask count s).2 (ask count t).2 := by
  induction count generalizing s t with
  | zero => exact ⟨rfl, agree⟩
  | succ count ih =>
      have bound := (stable_length_le s.nextToken.2.rest.length).ask count (Nat.le_refl _)
      rw [Scanner.ask] at longer
      obtain ⟨same, later⟩ := agree.nextToken (Nat.lt_of_lt_of_le longer bound)
      obtain ⟨tokens, behind⟩ := ih later longer
      rw [Scanner.ask, Scanner.ask, same, tokens]
      exact ⟨rfl, behind⟩

/-! ### Where a token ends -/

theorem position_of_step_eq_found {s next : Scanner} {token : Token}
    (found : s.step = .found token next) : token.position = s.position.next := by
  obtain ⟨c, rest, unread, segment⟩ := read_of_step_eq_found found
  have yielded := token?_absorb s (Segment.read c rest).1 (Segment.read c rest).2
  rw [← step_of_rest unread, found, segment] at yielded
  simp only [Step.token?, Segment.token?, Option.some.injEq] at yielded
  rw [yielded]

/-- A token stands at its place, and the cursor right behind it. -/
theorem StandsIn.of_pull_eq_some {source : List Char} {s next : Scanner} {token : Token}
    (stands : StandsIn source s) (pulled : s.pull = (some token, next)) :
    ∃ before, before ++ (token.lexeme.toList ++ next.rest) = source ∧
      token.position = (Position.start.advanceOver before).next := by
  fun_induction Scanner.pull s with
  | case1 s middle skipped ih => exact ih ((stable_standsIn source).of_step skipped stands) pulled
  | case2 s found middle reached =>
      obtain ⟨same, rfl⟩ := Prod.mk.inj pulled
      obtain rfl := Option.some.inj same
      obtain ⟨before, whole, place⟩ := stands
      obtain ⟨c, rest, unread, segment⟩ := read_of_step_eq_found reached
      have taken := Segment.read_append c rest
      rw [segment, ← unread] at taken
      refine ⟨before, ?_, ?_⟩
      · rw [← whole, ← taken]
        rfl
      · rw [position_of_step_eq_found reached, place]
  | case3 => simp at pulled

theorem length_rest_of_asked {source : String} {limit index offset : Nat} {token : Token}
    (asked : (ask (index + 1) (ofSource source limit)).1[index]? = some token)
    (visible : token.isEndOfInput = false)
    (place : token.position = .ofOffset source.toList offset) (within : offset ≤ source.length) :
    offset + token.lexeme.length + (ask (index + 1) (ofSource source limit)).2.rest.length =
      source.length := by
  rw [ask_succ, List.getElem?_append_right (Nat.le_of_eq (length_ask _ _)), length_ask,
    Nat.sub_self, List.getElem?_cons_zero, Option.some.injEq] at asked
  have stands : StandsIn source.toList (ask index (ofSource source limit)).2 :=
    (stable_standsIn source.toList).ask index ⟨[], rfl, rfl⟩
  have pulled := pull_of_visible (s := (ask index (ofSource source limit)).2) (by rwa [asked])
  rw [asked] at pulled
  obtain ⟨before, whole, cursor⟩ := stands.of_pull_eq_some pulled
  have lengths := congrArg List.length whole
  simp only [List.length_append, String.length_toList] at lengths
  have here : offset = before.length := by
    rw [place, Position.next_advanceOver_start before, whole] at cursor
    apply Position.ofOffset_injective _ _ cursor
    · rwa [String.length_toList]
    · rw [String.length_toList]
      omega
  simp only [ask_succ, here]
  omega

/-- A text is changed behind the part that is kept. A token that ends in that part with a character of
it to come is returned as it was, at the same index, and by then the same diagnostics have been logged
and the same symbols recorded. -/
theorem change_keeps_earlier_token (kept tail other : String) (limit index offset : Nat)
    (token : Token) (returned : (ofSource (kept ++ tail) limit).drain.1[index]? = some token)
    (visible : token.isEndOfInput = false)
    (place : token.position = .ofOffset (kept ++ tail).toList offset)
    (inside : offset + token.lexeme.length < kept.length) :
    (ofSource (kept ++ other) limit).drain.1[index]? = some token ∧
    (ask (index + 1) (ofSource (kept ++ other) limit)).2.diagnostics =
      (ask (index + 1) (ofSource (kept ++ tail) limit)).2.diagnostics ∧
    (ask (index + 1) (ofSource (kept ++ other) limit)).2.symbols =
      (ask (index + 1) (ofSource (kept ++ tail) limit)).2.symbols := by
  rw [getElem?_drain_iff visible] at returned ⊢
  have agree : Agrees tail.toList other.toList (ofSource (kept ++ tail) limit)
      (ofSource (kept ++ other) limit) := by
    refine ⟨kept.toList, String.toList_append, ?_⟩
    rw [ofSource, String.toList_append]
    rfl
  have longer : tail.toList.length <
      (ask (index + 1) (ofSource (kept ++ tail) limit)).2.rest.length := by
    have whole : (kept ++ tail).length = kept.length + tail.length := String.length_append ..
    have lengths := length_rest_of_asked returned visible place (by omega)
    rw [String.length_toList]
    omega
  obtain ⟨tokens, common, _, same⟩ := agree.ask longer
  rw [tokens, same]
  exact ⟨returned, rfl, rfl⟩

/-- What comes behind the blank would make the exponent longer if it came before it. -/
theorem change_keeps_empty_exponent :
    (ofSource ("x\n#* *# & Ab 1.e " ++ "2 Ab \"") 30).drain.1[2]? =
      some ⟨.literal .float, "1.e", ⟨2, 12⟩⟩ ∧
    (ofSource ("x\n#* *# & Ab 1.e " ++ "## 3") 30).drain.1[2]? =
      some ⟨.literal .float, "1.e", ⟨2, 12⟩⟩ ∧
    (ask 3 (ofSource ("x\n#* *# & Ab 1.e " ++ "## 3") 30)).2.diagnostics =
      (ask 3 (ofSource ("x\n#* *# & Ab 1.e " ++ "2 Ab \"") 30)).2.diagnostics ∧
    (ask 3 (ofSource ("x\n#* *# & Ab 1.e " ++ "## 3") 30)).2.symbols =
      (ask 3 (ofSource ("x\n#* *# & Ab 1.e " ++ "2 Ab \"") 30)).2.symbols :=
  ⟨by decide +kernel, change_keeps_earlier_token _ _ _ 30 2 13 _ (by decide +kernel) rfl
    (by decide +kernel) (by decide +kernel)⟩

end Scanner
end LexScan
