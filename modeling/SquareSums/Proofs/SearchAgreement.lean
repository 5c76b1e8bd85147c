import SquareSums.Findings
import SquareSums.Proofs.ProgressionOrder
import SquareSums.Proofs.SieveTerms

/-! Each search tests one list of candidates and keeps those that pass, so it finds a sublist of its
candidates. Both lists of candidates ascend in the order of discovery. From the second term on it
makes no difference which of them was tested: a difference that passes leads to a later value. -/

namespace SquareSums

/-- The terms of a progression with at least two of them, in exact numbers. -/
def IsBisquareProgression (bound length first difference : Nat) : Prop :=
  0 < difference ∧ ∀ index < max length 2, IsBisquare bound (first + index * difference)

/-- The first two terms are there at any length; only the others depend on it. -/
theorem isBisquareProgression_iff {bound length first difference : Nat} :
    IsBisquareProgression bound length first difference ↔
      0 < difference ∧ IsBisquare bound first ∧ IsBisquare bound (first + difference) ∧
        ∀ index < length, IsBisquare bound (first + index * difference) := by
  constructor
  · rintro ⟨positive, terms⟩
    have zeroth := terms 0 (by omega)
    have second := terms 1 (by omega)
    rw [Nat.zero_mul, Nat.add_zero] at zeroth
    rw [Nat.one_mul] at second
    exact ⟨positive, zeroth, second, fun index inside => terms index (by omega)⟩
  · rintro ⟨positive, zeroth, second, terms⟩
    refine ⟨positive, fun index inside => ?_⟩
    by_cases tested : index < length
    · exact terms index tested
    · have early : index = 0 ∨ index = 1 := by omega
      rcases early with rfl | rfl
      · rwa [Nat.zero_mul, Nat.add_zero]
      · rwa [Nat.one_mul]

theorem IsBisquareProgression.le {bound length first difference : Nat}
    (progression : IsBisquareProgression bound length first difference) :
    first + difference ≤ 2 * (bound * bound) := by
  obtain ⟨_, _, second, _⟩ := isBisquareProgression_iff.mp progression
  exact second.le

namespace Tally

variable (sieve : Sieve) (length : UInt64)

theorem testAll_append (tally : Tally) (earlier later : List Progression) :
    tally.testAll sieve length (earlier ++ later) =
      (tally.testAll sieve length earlier).testAll sieve length later :=
  List.foldl_append

theorem found_testAll (tally : Tally) (candidates : List Progression) :
    (tally.testAll sieve length candidates).found.toList =
      tally.found.toList ++ candidates.filter (sieve.hasProgression length) := by
  induction candidates generalizing tally with
  | nil => exact (List.append_nil _).symm
  | cons candidate candidates ih =>
    have step : (tally.test sieve length candidate).found.toList =
        tally.found.toList ++ [candidate].filter (sieve.hasProgression length) := by
      obtain ⟨found, tested⟩ := tally
      by_cases passes : sieve.hasProgression length candidate = true
      · simp [test, passes]
      · simp [test, passes]
    rw [testAll, List.foldl_cons, ← testAll, ih, step, List.append_assoc, ← List.filter_append]
    rfl

theorem foldl_testAll {α : Type} (batch : α → List Progression) (items : List α) (tally : Tally) :
    items.foldl (fun (tally : Tally) item => tally.testAll sieve length (batch item)) tally =
      tally.testAll sieve length (items.flatMap batch) := by
  induction items generalizing tally with
  | nil => rfl
  | cons item items ih => rw [List.foldl_cons, ih, List.flatMap_cons, testAll_append]

end Tally

namespace Sieve

/-- The candidates of the pair search, in the order of testing. -/
def pairings : List UInt64 → List Progression
  | [] => []
  | first :: laters => laters.map (Progression.between first) ++ pairings laters

theorem testPairs_eq_testAll (sieve : Sieve) (length : UInt64) (values : List UInt64) (tally : Tally) :
    sieve.testPairs length values tally = tally.testAll sieve length (pairings values) := by
  induction values generalizing tally with
  | nil => rfl
  | cons first laters ih => rw [testPairs, pairings, Tally.testAll_append, ih]

theorem found_findPairs (sieve : Sieve) (length : UInt64) :
    (sieve.findPairs length).value.found = (pairings sieve.values).filter (sieve.hasProgression length) := by
  change (sieve.testPairs length sieve.values ⟨#[], 0⟩).found.toList = _
  rw [testPairs_eq_testAll, Tally.found_testAll]
  rfl

theorem found_findExhaustively (sieve : Sieve) (length : UInt64) :
    (sieve.findExhaustively length).found =
      (sieve.values.flatMap sieve.reaches).filter (sieve.hasProgression length) := by
  simp only [findExhaustively, Tally.findings, Tally.foldl_testAll, Tally.found_testAll]
  rfl

theorem toNat_difference_between {first later : UInt64} (less : first < later) :
    (Progression.between first later).difference.toNat = later.toNat - first.toNat :=
  UInt64.toNat_sub_of_le later first (UInt64.le_of_lt less)

theorem mem_pairings {values : List UInt64} (ascending : values.Pairwise (· < ·)) {progression : Progression} :
    progression ∈ pairings values ↔
      progression.first ∈ values ∧ ∃ later ∈ values, progression.first < later ∧
        progression.difference = later - progression.first := by
  induction values with
  | nil => simp [pairings]
  | cons head laters ih =>
    obtain ⟨least, rest⟩ := List.pairwise_cons.mp ascending
    rw [pairings, List.mem_append, ih rest, List.mem_map]
    constructor
    · rintro (⟨later, member, rfl⟩ | ⟨first, later, member, less, difference⟩)
      · exact ⟨List.mem_cons_self, later, List.mem_cons_of_mem _ member, least later member, rfl⟩
      · exact ⟨List.mem_cons_of_mem _ first, later, List.mem_cons_of_mem _ member, less, difference⟩
    · rintro ⟨first, later, member, less, difference⟩
      have behind : later ∈ laters := by
        rcases List.mem_cons.mp member with rfl | behind
        · rcases List.mem_cons.mp first with same | inside
          · exact absurd (same ▸ less) (UInt64.lt_irrefl _)
          · exact absurd (least _ inside) (UInt64.lt_asymm less)
        · exact behind
      rcases List.mem_cons.mp first with same | inside
      · exact .inl ⟨later, behind, by rw [Progression.between, ← same, ← difference]⟩
      · exact .inr ⟨inside, later, behind, less, difference⟩

theorem pairings_ascending {values : List UInt64} (ascending : values.Pairwise (· < ·)) :
    (pairings values).Pairwise Progression.FoundBefore := by
  induction values with
  | nil => exact List.Pairwise.nil
  | cons head laters ih =>
    obtain ⟨least, rest⟩ := List.pairwise_cons.mp ascending
    refine List.pairwise_append.mpr ⟨List.pairwise_map.mpr (rest.imp_of_mem ?_), ih rest, ?_⟩
    · intro nearer farther near far less
      refine .inr ⟨rfl, ?_⟩
      have below := least nearer near
      rw [UInt64.lt_iff_toNat_lt, toNat_difference_between below, toNat_difference_between (least farther far)]
      rw [UInt64.lt_iff_toNat_lt] at below less
      omega
    · intro earlier first later second
      obtain ⟨_, _, rfl⟩ := List.mem_map.mp first
      exact .inl (least _ ((mem_pairings rest).mp second).1)

namespace Faithful

variable {sieve : Sieve} (faithful : sieve.Faithful)
include faithful

theorem mem_reaches {first : UInt64} {progression : Progression} :
    progression ∈ sieve.reaches first ↔
      progression.first = first ∧ 1 ≤ progression.difference.toNat ∧
        progression.difference.toNat ≤ 2 * (sieve.bound.toNat * sieve.bound.toNat) - first.toNat := by
  have sized := faithful.size_eq
  have small := faithful.size_lt_word
  simp only [reaches, List.mem_map, List.mem_range'_1]
  constructor
  · rintro ⟨difference, within, rfl⟩
    rw [UInt64.toNat_ofNat_of_lt' (by omega)]
    exact ⟨rfl, by omega, by omega⟩
  · rintro ⟨rfl, positive, within⟩
    exact ⟨progression.difference.toNat, by omega, by rw [UInt64.ofNat_toNat]⟩

theorem reaches_ascending (first : UInt64) : (sieve.reaches first).Pairwise Progression.FoundBefore := by
  have small := faithful.size_lt_word
  refine List.pairwise_map.mpr ((List.pairwise_lt_range' 1 (by omega)).imp_of_mem ?_)
  intro nearer farther near far less
  rw [List.mem_range'_1] at near far
  refine .inr ⟨rfl, ?_⟩
  rw [UInt64.lt_iff_toNat_lt, UInt64.toNat_ofNat_of_lt' (by omega), UInt64.toNat_ofNat_of_lt' (by omega)]
  exact less

theorem findPairs_ascending (length : UInt64) :
    (sieve.findPairs length).value.found.Pairwise Progression.FoundBefore := by
  rw [found_findPairs]
  exact (pairings_ascending faithful.values_ascending).filter _

theorem findExhaustively_ascending (length : UInt64) :
    (sieve.findExhaustively length).found.Pairwise Progression.FoundBefore := by
  rw [found_findExhaustively]
  refine List.Pairwise.filter _ (List.pairwise_flatMap.mpr ⟨fun first _ => faithful.reaches_ascending first, ?_⟩)
  refine faithful.values_ascending.imp ?_
  intro earlier later less one first other second
  refine .inl ?_
  rw [(faithful.mem_reaches.mp first).1, (faithful.mem_reaches.mp second).1]
  exact less

theorem leads_iff {progression : Progression} :
    (∃ later ∈ sieve.values, progression.first < later ∧ progression.difference = later - progression.first) ↔
      0 < progression.difference.toNat ∧
        IsBisquare sieve.bound.toNat (progression.first.toNat + progression.difference.toNat) := by
  constructor
  · rintro ⟨later, member, less, difference⟩
    have distance : progression.difference.toNat = later.toNat - progression.first.toNat := by
      rw [difference]
      exact toNat_difference_between less
    rw [UInt64.lt_iff_toNat_lt] at less
    refine ⟨by omega, ?_⟩
    rw [distance, Nat.add_sub_cancel' (Nat.le_of_lt less)]
    exact faithful.mem_values.mp member
  · rintro ⟨positive, second⟩
    have bounded := faithful.lt_word_of_isBisquare second
    have sum : (progression.first + progression.difference).toNat =
        progression.first.toNat + progression.difference.toNat := by
      rw [UInt64.toNat_add]
      exact Nat.mod_eq_of_lt bounded
    refine ⟨progression.first + progression.difference, faithful.mem_values.mpr (sum ▸ second), ?_, ?_⟩
    · rw [UInt64.lt_iff_toNat_lt, sum]
      omega
    · rw [UInt64.add_comm, UInt64.add_sub_cancel]

theorem mem_findPairs {length : UInt64} {progression : Progression} :
    progression ∈ (sieve.findPairs length).value.found ↔
      IsBisquareProgression sieve.bound.toNat length.toNat progression.first.toNat
        progression.difference.toNat := by
  rw [found_findPairs, List.mem_filter, mem_pairings faithful.values_ascending, faithful.leads_iff,
    faithful.mem_values, faithful.hasProgression_iff, isBisquareProgression_iff, and_assoc, and_assoc, and_left_comm]

theorem mem_findExhaustively {length : UInt64} {progression : Progression} :
    progression ∈ (sieve.findExhaustively length).found ↔
      (IsBisquare sieve.bound.toNat progression.first.toNat ∧ 1 ≤ progression.difference.toNat ∧
        progression.difference.toNat ≤
          2 * (sieve.bound.toNat * sieve.bound.toNat) - progression.first.toNat) ∧
      ∀ index < length.toNat,
        IsBisquare sieve.bound.toNat (progression.first.toNat + index * progression.difference.toNat) := by
  rw [found_findExhaustively, List.mem_filter, faithful.hasProgression_iff, List.mem_flatMap]
  simp only [faithful.mem_values, faithful.mem_reaches]
  refine and_congr_left fun _ => ?_
  constructor
  · rintro ⟨first, bisquare, rfl, within⟩
    exact ⟨bisquare, within⟩
  · rintro ⟨bisquare, within⟩
    exact ⟨progression.first, bisquare, rfl, within⟩

theorem findPairs_subset (length : UInt64) :
    (sieve.findPairs length).value.found ⊆ (sieve.findExhaustively length).found := by
  intro progression member
  have proposed := faithful.mem_findPairs.mp member
  have bounded := proposed.le
  obtain ⟨positive, first, _, terms⟩ := isBisquareProgression_iff.mp proposed
  exact faithful.mem_findExhaustively.mpr ⟨⟨first, positive, by omega⟩, terms⟩

theorem findExhaustively_subset {length : UInt64} (several : 2 ≤ length.toNat) :
    (sieve.findExhaustively length).found ⊆ (sieve.findPairs length).value.found := by
  intro progression member
  obtain ⟨⟨_, positive, _⟩, terms⟩ := faithful.mem_findExhaustively.mp member
  exact faithful.mem_findPairs.mpr ⟨positive, fun index inside => terms index (by omega)⟩

end Faithful
end Sieve

open Sieve

/-- From length two on, both searches find the same progressions in the same order. Below, the pairs
find part of what the exhaustive search finds, which is then every difference within the table. -/
theorem findPairs_agrees_findExhaustively {bound : UInt64} {memory : Nat} {sieve : Sieve}
    (built : (build bound memory).value = .ok sieve) (length : UInt64) :
    (2 ≤ length →
      (sieve.findPairs length).value.found = (sieve.findExhaustively length).found ∧
      (sieve.findPairs length).value.bisquareCount = (sieve.findExhaustively length).bisquareCount) ∧
    (length ≤ 1 →
      (sieve.findPairs length).value.found.Sublist (sieve.findExhaustively length).found ∧
      (sieve.findExhaustively length).found.Pairwise Progression.FoundBefore ∧
      Progression.AreAll (sieve.findExhaustively length).found fun first difference =>
        IsBisquare bound.toNat first ∧ 1 ≤ difference ∧
          difference ≤ 2 * (bound.toNat * bound.toNat) - first) := by
  obtain ⟨rfl, faithful⟩ := faithful_of_build built
  have pairs := faithful.findPairs_ascending length
  have all := faithful.findExhaustively_ascending length
  have subset := faithful.findPairs_subset length
  constructor
  · intro several
    have superset := faithful.findExhaustively_subset (UInt64.le_iff_toNat_le.mp several)
    exact ⟨List.Subset.antisymm_of_pairwise pairs all subset superset, rfl⟩
  · intro short
    refine ⟨Progression.sublist_of_subset pairs all subset, all, Progression.areAll_of_mem_iff ?_ ?_⟩
    · intro progression
      rw [faithful.mem_findExhaustively, and_iff_left_of_imp]
      intro within index inside
      have single : length.toNat ≤ 1 := UInt64.le_iff_toNat_le.mp short
      have zero : index = 0 := by omega
      simpa [zero] using within.1
    · intro first difference within
      have := within.1.le
      have := faithful.extent_lt_word
      omega

theorem findPairs_agrees_findExhaustively_of_seven :
    ∃ sieve, (build 7).value = .ok sieve ∧
      (2 : UInt64) ≤ 5 ∧ (sieve.findPairs 5).value.found = (sieve.findExhaustively 5).found ∧
      (1 : UInt64) ≤ 1 ∧ (sieve.findPairs 1).value.found.Sublist (sieve.findExhaustively 1).found := by
  have built : (build 7).value = .ok ⟨7, mark 7 99⟩ := rfl
  exact ⟨_, built, by decide, ((findPairs_agrees_findExhaustively built 5).1 (by decide)).1, by decide,
    ((findPairs_agrees_findExhaustively built 1).2 (by decide)).1⟩

end SquareSums
