import LexScan.Stats
import Mathlib.Algebra.GroupWithZero.Nat
import Mathlib.Data.List.Basic
import Mathlib.Data.List.Induction

/-! Statistics by counting. Tokens are counted one at a time, each raising one entry of a list that
is kept in the order of kinds. Here that list is compared with the kinds counted: it names those
that occur, in the order of all kinds, each with the number of its occurrences. -/
namespace LexScan

namespace Kind

/-- The kinds of an order that occur in a list, each with the number of its occurrences. -/
def tallyAlong (order kinds : List Kind) : List (Kind × Nat) :=
  (order.filter (· ∈ kinds)).map fun kind => (kind, kinds.count kind)

def tally (kinds : List Kind) : List (Kind × Nat) := tallyAlong all kinds

theorem pairwise_rank_all : all.Pairwise fun first second => first.rank < second.rank := by decide

theorem tallyAlong_cons (first : Kind) (later kinds : List Kind) :
    tallyAlong (first :: later) kinds =
      if first ∈ kinds then (first, kinds.count first) :: tallyAlong later kinds
      else tallyAlong later kinds := by
  by_cases occurs : first ∈ kinds <;> simp [tallyAlong, occurs]

/-- A kind that is not in the order counts for none of it. -/
theorem tallyAlong_concat_of_not_mem {order : List Kind} {kind : Kind} (unlisted : kind ∉ order)
    (kinds : List Kind) : tallyAlong order (kinds ++ [kind]) = tallyAlong order kinds := by
  have other : ∀ listed ∈ order, listed ≠ kind := fun listed member same =>
    unlisted (same ▸ member)
  have kept : order.filter (· ∈ kinds ++ [kind]) = order.filter (· ∈ kinds) := by
    apply List.filter_congr
    intro listed member
    simp [other listed member]
  unfold tallyAlong
  rw [kept]
  apply List.map_congr_left
  intro listed member
  have different := other listed (List.mem_filter.1 member).1
  simp [List.count_append, Ne.symm different]

/-- Below all kinds of an order a kind is put in front of them. -/
theorem bump_tallyAlong_of_lt {order : List Kind} {kind : Kind}
    (below : ∀ listed ∈ order, kind.rank < listed.rank) (kinds : List Kind) :
    Stats.bump kind (tallyAlong order kinds) = (kind, 1) :: tallyAlong order kinds := by
  cases counted : tallyAlong order kinds with
  | nil => rfl
  | cons entry later =>
      have member : entry ∈ tallyAlong order kinds := by simp [counted]
      obtain ⟨listed, kept, rfl⟩ := List.mem_map.1 member
      have lower := below listed (List.mem_filter.1 kept).1
      have different : kind ≠ listed := by
        rintro rfl
        omega
      simp [Stats.bump, different, lower]

/-- Counting one more kind raises its entry, or makes one for it at its place in the order. -/
theorem bump_tallyAlong {order : List Kind}
    (sorted : order.Pairwise fun first second => first.rank < second.rank) {kind : Kind}
    (listed : kind ∈ order) (kinds : List Kind) :
    Stats.bump kind (tallyAlong order kinds) = tallyAlong order (kinds ++ [kind]) := by
  induction order with
  | nil => simp at listed
  | cons first later ih =>
      obtain ⟨below, sorted⟩ := List.pairwise_cons.1 sorted
      rw [tallyAlong_cons, tallyAlong_cons]
      by_cases same : kind = first
      · subst same
        have unlisted : kind ∉ later := fun member => Nat.lt_irrefl _ (below kind member)
        rw [tallyAlong_concat_of_not_mem unlisted]
        by_cases occurs : kind ∈ kinds
        · simp [occurs, Stats.bump]
        · simp [occurs, bump_tallyAlong_of_lt below, List.count_eq_zero.2 occurs]
      · have member : kind ∈ later := (List.mem_cons.1 listed).resolve_left same
        have above := below kind member
        rw [← ih sorted member]
        by_cases occurs : first ∈ kinds
        · have unraised : ¬ kind.rank < first.rank := by omega
          simp [occurs, Stats.bump, same, unraised, List.count_append]
        · simp [occurs, Ne.symm same]

theorem bump_tally (kind : Kind) (kinds : List Kind) :
    Stats.bump kind (tally kinds) = tally (kinds ++ [kind]) :=
  bump_tallyAlong pairwise_rank_all (mem_all kind) kinds

theorem lookup_tallyAlong (order kinds : List Kind) (kind : Kind) :
    (tallyAlong order kinds).lookup kind =
      if kind ∈ order ∧ kind ∈ kinds then some (kinds.count kind) else none := by
  induction order with
  | nil => rfl
  | cons first later ih =>
      rw [tallyAlong_cons]
      by_cases same : kind = first
      · subst same
        by_cases occurs : kind ∈ kinds <;> simp [occurs, ih]
      · have unequal : (kind == first) = false := by simpa using same
        by_cases occurs : first ∈ kinds <;> simp [occurs, List.lookup_cons, unequal, same, ih]

theorem lookup_tally (kinds : List Kind) (kind : Kind) :
    ((tally kinds).lookup kind).getD 0 = kinds.count kind := by
  by_cases occurs : kind ∈ kinds
  · simp [tally, lookup_tallyAlong, occurs, mem_all]
  · simp [tally, lookup_tallyAlong, occurs, List.count_eq_zero.2 occurs]

end Kind

namespace Token

/-- The kinds of some tokens, those for the end apart. -/
def countedKinds (tokens : List Token) : List Kind :=
  (tokens.filter (!·.isEndOfInput)).map Token.kind

theorem count_countedKinds (tokens : List Token) {kind : Kind} (visible : kind ≠ .endOfInput) :
    (countedKinds tokens).count kind = tokens.countP (·.kind = kind) := by
  rw [countedKinds, List.count, List.countP_map, List.countP_filter]
  apply List.countP_congr
  intro token _
  simp only [Function.comp_apply, Bool.and_eq_true, beq_iff_eq, Bool.not_eq_true', isEndOfInput,
    decide_eq_true_eq, beq_eq_false_iff_ne]
  constructor
  · exact And.left
  · rintro rfl
    exact ⟨rfl, visible⟩

theorem count_endOfInput_countedKinds (tokens : List Token) :
    (countedKinds tokens).count .endOfInput = 0 := by
  simp [List.count_eq_zero, countedKinds, isEndOfInput]

end Token

namespace Stats

open Kind Token

theorem collect_concat (tokens : List Token) (token : Token) (lines : Nat) :
    collect (tokens ++ [token]) lines = (collect tokens lines).addToken token := by
  simp [collect]

/-- What has been collected is the number of tokens and the tally of their kinds. -/
theorem collect_eq (tokens : List Token) (lines : Nat) :
    collect tokens lines =
      ⟨(countedKinds tokens).length, lines, tally (countedKinds tokens)⟩ := by
  -- from the back, since a token is added to what was collected of those before it
  induction tokens using List.reverseRecOn with
  | nil => rfl
  | append_singleton tokens token ih =>
      rw [collect_concat, ih, addToken]
      cases ended : token.isEndOfInput with
      | true => simp [countedKinds, ended]
      | false =>
          have kinds : countedKinds (tokens ++ [token]) = countedKinds tokens ++ [token.kind] := by
            simp [countedKinds, ended]
          simp [kinds, bump_tally]

theorem count_collect (tokens : List Token) (lines : Nat) (kind : Kind) :
    (collect tokens lines).count kind = (countedKinds tokens).count kind := by
  rw [collect_eq, count, lookup_tally]

theorem sum_bump (kind : Kind) (counts : List (Kind × Nat)) :
    ((bump kind counts).map Prod.snd).sum = (counts.map Prod.snd).sum + 1 := by
  induction counts with
  | nil => rfl
  | cons entry later ih =>
      unfold bump
      split
      · simp only [List.map_cons, List.sum_cons]
        omega
      · split
        · simp only [List.map_cons, List.sum_cons]
          omega
        · simp only [List.map_cons, List.sum_cons, ih]
          omega

/-- Every token counted is counted under one kind. -/
theorem sum_counts_collect (tokens : List Token) (lines : Nat) :
    ((collect tokens lines).counts.map Prod.snd).sum = (collect tokens lines).total := by
  induction tokens using List.reverseRecOn with
  | nil => rfl
  | append_singleton tokens token ih =>
      rw [collect_concat, addToken]
      split
      · exact ih
      · rw [sum_bump, ih]

end Stats
end LexScan
