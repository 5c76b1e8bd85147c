import Mathlib.Algebra.BigOperators.Group.Finset.Basic
import Mathlib.Data.Finset.Sym
import SquareSums.Proofs.SieveAnswers
import SquareSums.Proofs.SolutionListing

/-! What the two searches find and count, before anything is sorted. Candidates ascend by first term and then by
difference, and passing over some of them keeps that order, so nothing is found twice and a report only rearranges
what was found. The counts depend on the table alone: each pair of values is tested once, or each difference that
stays within the table. -/

namespace SquareSums

/-- Findings as a search leaves them. Any report on them lists just them, whatever its table and its length. -/
structure Findings.AsDiscovered (findings : Findings) : Prop where
  ascending : findings.found.Pairwise Progression.FoundBefore
  distinct : findings.found.Nodup
  rearranged : ∀ (sieve : Sieve) (length : UInt64),
    (Report.collect sieve length findings).value.progressions.Perm findings.found
  length_eq : ∀ (sieve : Sieve) (length : UInt64),
    (Report.collect sieve length findings).value.progressions.length = findings.found.length

/-- The found list and the reported one ascend in different orders, so neither repeats what it lists, and lists without
repetition that have the same members differ only in their order. -/
theorem Findings.asDiscovered_of_ascending {findings : Findings}
    (ascending : findings.found.Pairwise Progression.FoundBefore) : findings.AsDiscovered := by
  have rearranged (sieve : Sieve) (length : UInt64) :
      (Report.collect sieve length findings).value.progressions.Perm findings.found := by
    apply (List.perm_ext_iff_of_nodup Report.progressions_collect_ascending.nodup ascending.nodup).mpr
    intro progression
    exact Report.mem_progressions_collect
  exact ⟨ascending, ascending.nodup, rearranged, fun sieve length => (rearranged sieve length).length_eq⟩

/-- The sums of the squares of any two roots up to the bound, each number once. -/
def bisquares (bound : Nat) : Finset Nat :=
  (Finset.range (bound + 1) ×ˢ Finset.range (bound + 1)).image fun roots => roots.1 * roots.1 + roots.2 * roots.2

theorem mem_bisquares {bound number : Nat} : number ∈ bisquares bound ↔ IsBisquare bound number := by
  simp only [bisquares, Finset.mem_image, Finset.mem_product, Finset.mem_range, Nat.lt_succ_iff, Prod.exists]
  constructor
  · intro ⟨lesser, greater, ⟨first, second⟩, sum⟩
    exact ⟨lesser, greater, first, second, sum.symm⟩
  · intro ⟨lesser, greater, first, second, sum⟩
    exact ⟨lesser, greater, ⟨first, second⟩, sum.symm⟩

/-- There are no more sums than unordered pairs of roots. -/
theorem card_bisquares_le (bound : Nat) : (bisquares bound).card ≤ (bound + 1) * (bound + 2) / 2 := by
  let sum : Sym2 Nat → Nat := Sym2.lift ⟨fun lesser greater => lesser * lesser + greater * greater,
    fun lesser greater => Nat.add_comm _ _⟩
  have covered : bisquares bound ⊆ (Finset.range (bound + 1)).sym2.image sum := by
    intro number member
    obtain ⟨lesser, greater, first, second, rfl⟩ := mem_bisquares.mp member
    apply Finset.mem_image.mpr
    refine ⟨s(lesser, greater), Finset.mk_mem_sym2_iff.mpr ⟨?_, ?_⟩, rfl⟩
    · exact Finset.mem_range.mpr (Nat.lt_succ_of_le first)
    · exact Finset.mem_range.mpr (Nat.lt_succ_of_le second)
  calc (bisquares bound).card
      ≤ ((Finset.range (bound + 1)).sym2.image sum).card := Finset.card_le_card covered
    _ ≤ (Finset.range (bound + 1)).sym2.card := Finset.card_image_le
    _ = (bound + 1) * (bound + 2) / 2 := by
      rw [Finset.card_sym2, Finset.card_range, Nat.choose_two_right, Nat.mul_comm, Nat.add_sub_cancel]

theorem card_bisquares_choose_two_lt {bound : Nat} (small : bound ≤ 65535) :
    (bisquares bound).card.choose 2 < 0x8000000000000000 := by
  have product : (bound + 1) * (bound + 2) ≤ 65536 * 65537 := Nat.mul_le_mul (by omega) (by omega)
  have few : (bisquares bound).card ≤ 2147516416 :=
    (card_bisquares_le bound).trans (Nat.div_le_div_right product)
  calc (bisquares bound).card.choose 2
      ≤ Nat.choose 2147516416 2 := Nat.choose_le_choose 2 few
    _ = 2147516416 * 2147516415 / 2 := Nat.choose_two_right _
    _ < 0x8000000000000000 := by decide

theorem Tally.tested_testAll (sieve : Sieve) (length : UInt64) (tally : Tally) (candidates : List Progression) :
    (tally.testAll sieve length candidates).tested = tally.tested + candidates.length := by
  induction candidates generalizing tally with
  | nil => rfl
  | cons candidate candidates ih =>
    have step : (tally.test sieve length candidate).tested = tally.tested + 1 := by
      obtain ⟨found, tested⟩ := tally
      rw [test]
      split <;> rfl
    rw [testAll, List.foldl_cons, ← testAll, ih, step, List.length_cons]
    omega

/-- A tally whose counter is a word. -/
structure WordTally where
  found : Array Progression
  tested : UInt64

namespace WordTally

def ofTally? (tally : Tally) : Option WordTally :=
  (Word.ofNat? tally.tested).map fun tested => ⟨tally.found, tested⟩

section

variable (sieve : Sieve) (length : UInt64)

def test? (tally : WordTally) (candidate : Progression) : Option WordTally := do
  let tested ← Word.add? tally.tested 1
  pure ⟨if sieve.hasProgression length candidate then tally.found.push candidate else tally.found, tested⟩

def testPairs? : List UInt64 → WordTally → Option WordTally
  | [], tally => some tally
  | first :: laters, tally => do
    testPairs? laters (← (laters.map (Progression.between first)).foldlM (test? sieve length) tally)

theorem bind_test? (tally : Tally) (candidate : Progression) :
    ((ofTally? tally).bind fun counted => test? sieve length counted candidate) =
      ofTally? (tally.test sieve length candidate) := by
  obtain ⟨found, tested⟩ := tally
  have raised : (Word.ofNat? tested).bind (Word.add? · 1) = Word.ofNat? (tested + 1) := Word.bind_ofNat?_add tested 1
  have result : ofTally? (Tally.test sieve length ⟨found, tested⟩ candidate) =
      (Word.ofNat? (tested + 1)).map fun counter =>
        ⟨if sieve.hasProgression length candidate then found.push candidate else found, counter⟩ := by
    rw [Tally.test]
    split <;> rfl
  rw [result, ← raised, ofTally?]
  cases Word.ofNat? tested with
  | none => rfl
  | some counter => cases added : Word.add? counter 1 <;> simp [test?, added]

/-- Once a counter does not fit, it never fits again. -/
theorem bind_foldlM_test? (tally : Tally) (candidates : List Progression) :
    ((ofTally? tally).bind fun counted => candidates.foldlM (test? sieve length) counted) =
      ofTally? (tally.testAll sieve length candidates) := by
  induction candidates generalizing tally with
  | nil => exact Option.bind_fun_some _
  | cons candidate candidates ih =>
    rw [Tally.testAll, List.foldl_cons, ← Tally.testAll, ← ih, ← bind_test?, Option.bind_assoc]
    rfl

theorem bind_testPairs? (values : List UInt64) (tally : Tally) :
    (ofTally? tally).bind (testPairs? sieve length values) = ofTally? (sieve.testPairs length values tally) := by
  induction values generalizing tally with
  | nil => exact Option.bind_fun_some _
  | cons first laters ih =>
    rw [Sieve.testPairs, ← ih, ← bind_foldlM_test?, Option.bind_assoc]
    rfl

/-- A counter whose last value fits is never refused, and the search finds the same. -/
theorem exists_testPairs?_eq (fits : (sieve.findPairs length).value.pairsTested < UInt64.size) :
    ∃ tally, testPairs? sieve length sieve.values ⟨#[], 0⟩ = some tally ∧
      tally.found.toList = (sieve.findPairs length).value.found ∧
      tally.tested.toNat = (sieve.findPairs length).value.pairsTested := by
  obtain ⟨counter, exact⟩ := Word.exists_toNat_eq fits
  have held : ofTally? (sieve.testPairs length sieve.values ⟨#[], 0⟩) = some ⟨_, counter⟩ :=
    congrArg (Option.map _) (Word.ofNat?_eq_some_iff.mpr exact)
  exact ⟨_, (bind_testPairs? sieve length sieve.values ⟨#[], 0⟩).trans held, rfl, exact⟩

end

end WordTally

namespace Sieve

theorem length_pairings (values : List UInt64) : (pairings values).length = values.length.choose 2 := by
  induction values with
  | nil => rfl
  | cons first laters ih =>
    rw [pairings, List.length_append, List.length_map, ih, List.length_cons, Nat.choose_succ_succ, Nat.choose_one_right]

section Counts

variable (sieve : Sieve) (length : UInt64)

theorem pairsTested_findPairs :
    (sieve.findPairs length).value.pairsTested = sieve.values.length.choose 2 := by
  change (sieve.testPairs length sieve.values ⟨#[], 0⟩).tested = _
  rw [testPairs_eq_testAll, Tally.tested_testAll, length_pairings, Nat.zero_add]

theorem pairsTested_findExhaustively :
    (sieve.findExhaustively length).pairsTested = (sieve.values.flatMap sieve.reaches).length := by
  simp only [findExhaustively, Tally.findings, Tally.foldl_testAll, Tally.tested_testAll, Nat.zero_add]

theorem length_found_le :
    (sieve.findPairs length).value.found.length ≤ (sieve.findPairs length).value.pairsTested ∧
      (sieve.findExhaustively length).found.length ≤ (sieve.findExhaustively length).pairsTested := by
  rw [found_findPairs, pairsTested_findPairs, ← length_pairings, found_findExhaustively, pairsTested_findExhaustively]
  exact ⟨List.length_filter_le _ _, List.length_filter_le _ _⟩

end Counts

namespace Faithful

variable {sieve : Sieve} (faithful : sieve.Faithful)
include faithful

theorem nodup_values : (sieve.values.map UInt64.toNat).Nodup :=
  faithful.values_ascending.nodup.map fun _ _ => UInt64.toNat_inj.mp

theorem toFinset_values : (sieve.values.map UInt64.toNat).toFinset = bisquares sieve.bound.toNat := by
  ext number
  rw [List.mem_toFinset, List.mem_map, mem_bisquares]
  constructor
  · intro ⟨word, member, exact⟩
    rw [← exact]
    exact faithful.mem_values.mp member
  · intro bisquare
    obtain ⟨word, rfl⟩ := Word.exists_toNat_eq (faithful.lt_word_of_isBisquare bisquare)
    exact ⟨word, faithful.mem_values.mpr bisquare, rfl⟩

theorem length_values : sieve.values.length = (bisquares sieve.bound.toNat).card := by
  rw [← faithful.toFinset_values, List.toFinset_card_of_nodup faithful.nodup_values, List.length_map]

theorem length_flatMap_reaches : (sieve.values.flatMap sieve.reaches).length =
    ∑ number ∈ bisquares sieve.bound.toNat, (2 * (sieve.bound.toNat * sieve.bound.toNat) - number) := by
  have reach (first : UInt64) : (sieve.reaches first).length = sieve.size - 1 - first.toNat := by
    rw [reaches, List.length_map, List.length_range']
  rw [← faithful.toFinset_values, List.sum_toFinset _ faithful.nodup_values, List.map_map, List.length_flatMap]
  simp only [reach, faithful.size_eq]
  rfl

theorem found_findPairs_of_le_two {length : UInt64} (short : length ≤ 2) :
    (sieve.findPairs length).value.found = pairings sieve.values := by
  have few : length.toNat ≤ 2 := UInt64.le_iff_toNat_le.mp short
  rw [found_findPairs, List.filter_eq_self]
  intro progression member
  rw [mem_pairings faithful.values_ascending, faithful.leads_iff, faithful.mem_values] at member
  obtain ⟨first, positive, second⟩ := member
  obtain ⟨_, terms⟩ := (isBisquareProgression_iff_of_le few).mpr ⟨positive, first, second⟩
  rw [faithful.hasProgression_iff]
  exact fun index inside => terms index (Nat.lt_of_lt_of_le inside (Nat.le_max_left _ _))

end Faithful

/-- Both searches come upon the progressions by first term and then by difference, so none comes twice and
nothing of what they found is dropped or added by sorting it. -/
theorem discovery_order {bound : UInt64} {memory : Nat} {sieve : Sieve}
    (built : (build bound memory).value = .ok sieve) (length : UInt64) :
    (sieve.findPairs length).value.AsDiscovered ∧ (sieve.findExhaustively length).AsDiscovered := by
  obtain ⟨_, faithful⟩ := faithful_of_build built
  exact ⟨Findings.asDiscovered_of_ascending (faithful.findPairs_ascending length),
    Findings.asDiscovered_of_ascending (faithful.findExhaustively_ascending length)⟩

/-- At length zero everything that is tested is found; the canonical order is another one than that of discovery. -/
theorem discovery_order_of_one : ∃ sieve, (build 1).value = .ok sieve ∧
    (sieve.findPairs 0).value.found = [⟨1, 0⟩, ⟨2, 0⟩, ⟨1, 1⟩] ∧
    (sieve.findExhaustively 0).found = [⟨1, 0⟩, ⟨2, 0⟩, ⟨1, 1⟩] ∧
    (sieve.findPairs 0).value.found.Nodup ∧ (sieve.findExhaustively 0).found.Nodup ∧
    (Report.collect sieve 0 (sieve.findPairs 0).value).value.progressions = [⟨1, 0⟩, ⟨1, 1⟩, ⟨2, 0⟩] ∧
    (Report.collect sieve 0 (sieve.findPairs 0).value).value.progressions.Perm (sieve.findPairs 0).value.found := by
  have built : (build 1).value = .ok ⟨1, mark 1 3⟩ := rfl
  obtain ⟨pairs, all⟩ := discovery_order built 0
  exact ⟨_, built, by decide, by decide, pairs.distinct, all.distinct, by decide, pairs.rearranged _ 0⟩

/-- Both searches count the bisquares of the bound. The pair search tests each two of them once, the exhaustive one
all differences up to the end of the table. Up to the bound 65535 a word is more than enough for a counter. -/
theorem counts_are_exact {bound : UInt64} {memory : Nat} {sieve : Sieve}
    (built : (build bound memory).value = .ok sieve) (length : UInt64) :
    let count := (bisquares bound.toNat).card
    let pairs := (sieve.findPairs length).value
    let all := sieve.findExhaustively length
    (pairs.bisquareCount = count ∧ all.bisquareCount = count ∧ sieve.count = count) ∧
    pairs.pairsTested = count * (count - 1) / 2 ∧
    all.pairsTested = ∑ number ∈ bisquares bound.toNat, (2 * (bound.toNat * bound.toNat) - number) ∧
    pairs.found.length ≤ pairs.pairsTested ∧ all.found.length ≤ all.pairsTested ∧
    (length ≤ 2 → pairs.found.length = count * (count - 1) / 2) ∧
    count ≤ (bound.toNat + 1) * (bound.toNat + 2) / 2 ∧
    (bound ≤ 65535 → pairs.pairsTested < 0x8000000000000000 ∧
      ∃ tally, WordTally.testPairs? sieve length sieve.values ⟨#[], 0⟩ = some tally ∧
        tally.found.toList = pairs.found ∧ tally.tested.toNat = pairs.pairsTested) := by
  obtain ⟨rfl, faithful⟩ := faithful_of_build built
  intro count pairs all
  have counted : sieve.values.length = count := faithful.length_values
  have tested : pairs.pairsTested = count.choose 2 := (sieve.pairsTested_findPairs length).trans (by rw [counted])
  obtain ⟨pairsFound, allFound⟩ := sieve.length_found_le length
  have limited : count ≤ (sieve.bound.toNat + 1) * (sieve.bound.toNat + 2) / 2 := card_bisquares_le _
  rw [← Nat.choose_two_right]
  refine ⟨⟨counted, counted, sieve.count_eq_length_values.trans counted⟩, tested, ?_, pairsFound, allFound, ?_, limited, ?_⟩
  · exact (sieve.pairsTested_findExhaustively length).trans faithful.length_flatMap_reaches
  · intro short
    rw [← counted, ← length_pairings]
    exact congrArg List.length (faithful.found_findPairs_of_le_two short)
  · intro small
    have fits : pairs.pairsTested < 0x8000000000000000 :=
      tested ▸ card_bisquares_choose_two_lt (UInt64.le_iff_toNat_le.mp small)
    exact ⟨fits, WordTally.exists_testPairs?_eq sieve length (Nat.lt_trans fits (by decide))⟩

/-- The values of the table for two are 0, 1, 2, 4, 5 and 8. -/
theorem counts_are_exact_of_two : ∃ sieve tally, (build 2).value = .ok sieve ∧ sieve.count = 6 ∧
    (1 : UInt64) ≤ 2 ∧ (sieve.findPairs 1).value.pairsTested = 15 ∧ (sieve.findPairs 1).value.found.length = 15 ∧
    (sieve.findExhaustively 1).pairsTested = 28 ∧ (2 : UInt64) ≤ 65535 ∧
    WordTally.testPairs? sieve 1 sieve.values ⟨#[], 0⟩ = some tally ∧ tally.tested = 15 := by
  have built : (build 2).value = .ok ⟨2, mark 2 9⟩ := rfl
  have six : (bisquares (2 : UInt64).toNat).card = 6 := by decide
  have sum : ∑ number ∈ bisquares 2, (2 * (2 * 2) - number) = 28 := by decide
  obtain ⟨⟨_, _, counted⟩, tested, all, _, _, found, _, fits⟩ := counts_are_exact built 1
  obtain ⟨_, tally, held, _, exact⟩ := fits (by decide)
  rw [six] at tested found
  exact ⟨_, tally, built, counted.trans six, by decide, tested, found (by decide), all.trans sum, by decide, held,
    UInt64.toNat_inj.mp (exact.trans tested)⟩

end Sieve
end SquareSums
