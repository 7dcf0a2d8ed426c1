import LexScan.Proofs.KindCount
import LexScan.Proofs.TextColumns

/-! Statistics of any list of tokens, also of one that no scan returns. What has been counted depends
on how often each kind occurs and not on the order of the tokens, so that the counts of two lists add
up. On paper, each kind that occurs has a line of its own. -/
namespace LexScan

open Text

namespace Kind

theorem tally_perm {kinds shuffled : List Kind} (same : kinds.Perm shuffled) :
    tally shuffled = tally kinds := by
  have members : (fun kind => decide (kind ∈ shuffled)) = fun kind => decide (kind ∈ kinds) :=
    funext fun kind => decide_eq_decide.2 same.mem_iff.symm
  rw [tally, tally, tallyAlong, tallyAlong, members]
  exact List.map_congr_left fun kind _ => by rw [same.count_eq]

theorem pos_of_mem_tally {kinds : List Kind} {entry : Kind × Nat} (member : entry ∈ tally kinds) :
    0 < entry.2 := by
  obtain ⟨kind, kept, rfl⟩ := List.mem_map.1 member
  exact List.count_pos_iff.2 (by simpa using (List.mem_filter.1 kept).2)

theorem pairwise_tally (kinds : List Kind) :
    (tally kinds).Pairwise fun first second => first.1.rank < second.1.rank :=
  List.pairwise_map.2 (pairwise_rank_all.filter _)

theorem solid_label (kind : Kind) : Solid kind.label := by
  have listed : (all.all fun kind => isSolid kind.label) = true := by decide +kernel
  exact solid_of_isSolid (List.all_eq_true.1 listed kind (mem_all kind))

/-- Every label leaves a space in its column. -/
theorem length_label_lt (kind : Kind) : kind.label.length < 15 := by
  have listed : (all.all fun kind => kind.label.length < 15) = true := by decide +kernel
  simpa using List.all_eq_true.1 listed kind (mem_all kind)

end Kind

namespace Token

theorem countedKinds_append (tokens more : List Token) :
    countedKinds (tokens ++ more) = countedKinds tokens ++ countedKinds more := by
  simp [countedKinds]

theorem countedKinds_perm {tokens shuffled : List Token} (same : tokens.Perm shuffled) :
    (countedKinds tokens).Perm (countedKinds shuffled) := (same.filter _).map _

theorem length_countedKinds (tokens : List Token) :
    (countedKinds tokens).length = tokens.countP (!·.isEndOfInput) := by
  rw [countedKinds, List.length_map, List.countP_eq_length_filter]

theorem mem_countedKinds_iff {tokens : List Token} {kind : Kind} :
    kind ∈ countedKinds tokens ↔ kind ≠ .endOfInput ∧ kind ∈ tokens.map Token.kind := by
  simp only [countedKinds, List.mem_map, List.mem_filter, isEndOfInput, Bool.not_eq_true',
    beq_eq_false_iff_ne]
  constructor
  · rintro ⟨token, ⟨member, visible⟩, rfl⟩
    exact ⟨visible, token, member, rfl⟩
  · rintro ⟨visible, token, member, rfl⟩
    exact ⟨token, ⟨member, visible⟩, rfl⟩

/-- The kinds that occur, in their order, each with the number of its tokens. -/
theorem tally_countedKinds (tokens : List Token) :
    Kind.tally (countedKinds tokens) =
      (Kind.all.filter fun kind => kind ≠ .endOfInput ∧ kind ∈ tokens.map Token.kind).map
        fun kind => (kind, tokens.countP (·.kind = kind)) := by
  simp only [Kind.tally, Kind.tallyAlong, mem_countedKinds_iff]
  apply List.map_congr_left
  intro kind kept
  have occurs := (List.mem_filter.1 kept).2
  simp only [decide_eq_true_eq] at occurs
  rw [count_countedKinds tokens occurs.1]

end Token

namespace Stats

open Kind Token

/-! ### On paper -/

/-- The line of a kind without its line feed. -/
def countText (entry : Kind × Nat) : String :=
  "  " ++ pad .left 15 entry.1.label ++ ": " ++ toString entry.2

theorem countRow_eq : countRow = fun entry => countText entry ++ "\n" := rfl

theorem words_countText (entry : Kind × Nat) :
    words (countText entry) = [entry.1.label, ":", toString entry.2] := by
  have shape : countText entry =
      spaces 2 ++ (pad .left 15 entry.1.label ++ (":" ++ " " ++ toString entry.2)) := by
    rw [← String.toList_inj]
    simp [countText, spaces]
  rw [shape, words_spaces_append, words_pad_append (solid_label _) (length_label_lt _), words_space,
    words_solid (solid_of_isSolid rfl), words_solid (solid_toString _)]
  rfl

theorem feed_not_mem_countText (entry : Kind × Nat) : '\n' ∉ (countText entry).toList := by
  have label := feed_not_mem_pad (solid_label entry.1) 15
  simp [countText, label]

/-- Four lines of totals and headings and a line for each entry. -/
theorem hasLines_render (stats : Stats) :
    HasLines stats.render
      (["--- Scanner Statistics ---", "Total Tokens: " ++ toString stats.total,
        "Lines Processed: " ++ toString stats.lines, "Token Counts by Type:"] ++
        stats.counts.map countText) := by
  have rows : HasLines (String.join (stats.counts.map countRow)) (stats.counts.map countText) := by
    rw [countRow_eq]
    exact hasLines_join countText fun entry _ => feed_not_mem_countText entry
  have title : "--- Scanner Statistics ---\n" = "--- Scanner Statistics ---" ++ "\n" := by decide
  have heading : "Token Counts by Type:\n" = "Token Counts by Type:" ++ "\n" := by decide
  have shape : stats.render = "--- Scanner Statistics ---" ++ "\n" ++
      ("Total Tokens: " ++ toString stats.total ++ "\n" ++
        ("Lines Processed: " ++ toString stats.lines ++ "\n" ++
          ("Token Counts by Type:" ++ "\n" ++ String.join (stats.counts.map countRow)))) := by
    unfold render
    rw [title, heading]
    simp only [String.append_assoc]
  rw [shape]
  exact .cons (by simp) (.cons (by simp) (.cons (by simp) (rows.cons (by simp))))

/-- What statistics say of the tokens they were collected from. -/
structure Summarizes (stats : Stats) (tokens : List Token) (lines : Nat) : Prop where
  total : stats.total = tokens.countP (!·.isEndOfInput)
  lines : stats.lines = lines
  counts : ∀ kind, kind ≠ .endOfInput → stats.count kind = tokens.countP (·.kind = kind)
  uncounted : stats.count .endOfInput = 0
  positive : ∀ entry ∈ stats.counts, 0 < entry.2
  ordered : stats.counts.Pairwise fun first second => first.1.rank < second.1.rank
  sum : (stats.counts.map Prod.snd).sum = stats.total
  printed : ∃ rows, HasLines stats.render
      (["--- Scanner Statistics ---", "Total Tokens: " ++ toString stats.total,
        "Lines Processed: " ++ toString stats.lines, "Token Counts by Type:"] ++ rows) ∧
    rows.map words =
      (Kind.all.filter fun kind => kind ≠ .endOfInput ∧ kind ∈ tokens.map Token.kind).map
        fun kind => [kind.label, ":", toString (tokens.countP (·.kind = kind))]

theorem summarizes_collect (tokens : List Token) (lines : Nat) :
    Summarizes (collect tokens lines) tokens lines where
  total := by rw [collect_eq, length_countedKinds]
  lines := by rw [collect_eq]
  counts kind visible := by rw [count_collect, count_countedKinds tokens visible]
  uncounted := by rw [count_collect, count_endOfInput_countedKinds]
  positive entry member := by
    rw [collect_eq] at member
    exact pos_of_mem_tally member
  ordered := by
    rw [collect_eq]
    exact pairwise_tally _
  sum := sum_counts_collect tokens lines
  printed := by
    refine ⟨_, hasLines_render _, ?_⟩
    rw [collect_eq, tally_countedKinds, List.map_map, List.map_map]
    exact List.map_congr_left fun kind _ => words_countText _

/-- Whatever the tokens are, with tokens for the end among them or not, their statistics summarize
them: all but those for the end are counted under their kinds, the kinds that occur are listed in the
order of kinds, and each is printed on a line of its own. The order of the tokens does not matter,
and the statistics of two lists together are the sums of theirs. -/
theorem collect_refines_counting (tokens : List Token) (lines : Nat) :
    Summarizes (collect tokens lines) tokens lines ∧
    (∀ shuffled, tokens.Perm shuffled → collect shuffled lines = collect tokens lines) ∧
    ∀ more moreLines allLines,
      (collect (tokens ++ more) allLines).total =
        (collect tokens lines).total + (collect more moreLines).total ∧
      ∀ kind, (collect (tokens ++ more) allLines).count kind =
        (collect tokens lines).count kind + (collect more moreLines).count kind := by
  refine ⟨summarizes_collect tokens lines, ?_, ?_⟩
  · intro shuffled same
    have kinds := countedKinds_perm same
    rw [collect_eq, collect_eq, tally_perm kinds, kinds.length_eq]
  · intro more moreLines allLines
    constructor
    · simp only [collect_eq, countedKinds_append, List.length_append]
    · intro kind
      rw [count_collect, count_collect, count_collect, countedKinds_append, List.count_append]

end Stats
end LexScan
