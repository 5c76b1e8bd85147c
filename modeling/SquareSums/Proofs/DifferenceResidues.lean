import SquareSums.Proofs.SolutionListing

/-! Which differences a long progression can have. A sum of two squares leaves only some of the residues modulo
eight and modulo nine; a progression whose difference is no multiple of four, or none of three, comes upon another
residue within its first few terms. So a search may pass over those differences, for every bound. -/

namespace SquareSums

def squareSumResidues (modulus : Nat) : List Nat :=
  (List.range modulus).flatMap fun lesser =>
    (List.range modulus).map fun greater => (lesser * lesser + greater * greater) % modulus

theorem IsBisquare.mod_mem {bound number modulus : Nat} (bisquare : IsBisquare bound number) (positive : 0 < modulus) :
    number % modulus ∈ squareSumResidues modulus := by
  obtain ⟨lesser, greater, _, _, rfl⟩ := bisquare
  apply List.mem_flatMap.mpr
  refine ⟨lesser % modulus, List.mem_range.mpr (Nat.mod_lt _ positive), List.mem_map.mpr ?_⟩
  refine ⟨greater % modulus, List.mem_range.mpr (Nat.mod_lt _ positive), ?_⟩
  simp only [Nat.add_mod, Nat.mul_mod, Nat.mod_mod]

/-- Among the residues only a multiple of the divisor leads from term to term without coming upon another one. -/
def Forces (modulus terms divisor : Nat) : Prop :=
  ∀ first < modulus, ∀ difference < modulus,
    (∀ index < terms, (first + index * difference) % modulus ∈ squareSumResidues modulus) → divisor ∣ difference

instance (modulus terms divisor : Nat) : Decidable (Forces modulus terms divisor) :=
  inferInstanceAs (Decidable (∀ first < modulus, ∀ difference < modulus,
    (∀ index < terms, (first + index * difference) % modulus ∈ squareSumResidues modulus) → divisor ∣ difference))

/-- With an odd difference one of four terms leaves three modulo four, and with twice an odd one too if the terms are
odd. If they are even, two of them leave two modulo four and differ by four modulo eight, so one leaves six. -/
theorem forces_four : Forces 8 4 4 := by decide +kernel

/-- If the difference is no multiple of three, then two terms three places apart are. As sums of squares both are
multiples of nine, but three times the difference is not. -/
theorem forces_three : Forces 9 6 3 := by decide +kernel

namespace IsBisquareProgression

variable {bound length first difference : Nat}

theorem dvd_difference {modulus terms divisor : Nat} (forced : Forces modulus terms divisor) (positive : 0 < modulus)
    (divides : divisor ∣ modulus) (long : terms ≤ length)
    (progression : IsBisquareProgression bound length first difference) : divisor ∣ difference := by
  have residue : divisor ∣ difference % modulus := by
    apply forced (first % modulus) (Nat.mod_lt _ positive) (difference % modulus) (Nat.mod_lt _ positive)
    intro index inside
    have term := (progression.2 index (by omega)).mod_mem positive
    simp only [Nat.add_mod, Nat.mul_mod, Nat.mod_mod] at term ⊢
    exact term
  exact (Nat.dvd_mod_iff divides).mp residue

theorem four_dvd_difference (long : 4 ≤ length) (progression : IsBisquareProgression bound length first difference) :
    4 ∣ difference := progression.dvd_difference forces_four (by decide) (by decide) long

theorem twelve_dvd_difference (long : 6 ≤ length) (progression : IsBisquareProgression bound length first difference) :
    12 ∣ difference := by
  have four := progression.four_dvd_difference (by omega)
  have three : 3 ∣ difference := progression.dvd_difference forces_three (by decide) (by decide) long
  omega

end IsBisquareProgression

def Progression.multiples (step : Nat) (candidates : List Progression) : List Progression :=
  candidates.filter fun candidate => step ∣ candidate.difference.toNat

namespace Sieve

section

variable (sieve : Sieve) (length : UInt64) (step : Nat)

def testPairsBy : List UInt64 → Tally → Tally
  | [], tally => tally
  | first :: laters, tally =>
    testPairsBy laters
      (tally.testAll sieve length (Progression.multiples step (laters.map (Progression.between first))))

/-- The pair search that passes over each difference that is no multiple of the step. -/
def findPairsBy : Findings :=
  let values := sieve.values
  let tally := sieve.testPairsBy length step values ⟨#[], 0⟩
  tally.findings values.length

def findExhaustivelyBy : Findings :=
  let values := sieve.values
  let tally := values.foldl
    (fun (tally : Tally) first => tally.testAll sieve length (Progression.multiples step (sieve.reaches first))) ⟨#[], 0⟩
  tally.findings values.length

theorem testPairsBy_eq_testAll (values : List UInt64) (tally : Tally) :
    sieve.testPairsBy length step values tally =
      tally.testAll sieve length (Progression.multiples step (pairings values)) := by
  induction values generalizing tally with
  | nil => rfl
  | cons first laters ih =>
    rw [testPairsBy, ih, ← Tally.testAll_append, pairings]
    exact congrArg _ (List.filter_append _ _).symm

theorem found_findPairsBy : (sieve.findPairsBy length step).found =
    Progression.multiples step (sieve.findPairs length).value.found := by
  simp only [findPairsBy, Tally.findings, testPairsBy_eq_testAll, Tally.found_testAll, found_findPairs,
    Progression.multiples]
  exact List.filter_comm _ _ _

theorem found_findExhaustivelyBy : (sieve.findExhaustivelyBy length step).found =
    Progression.multiples step (sieve.findExhaustively length).found := by
  simp only [findExhaustivelyBy, Tally.findings, Tally.foldl_testAll, Tally.found_testAll, found_findExhaustively,
    Progression.multiples, ← List.filter_flatMap]
  exact List.filter_comm _ _ _

end

/-- The differences of all that is found and listed are multiples of the step, and a search that tries no other
differences finds and lists the same. -/
structure NeedsOnly (sieve : Sieve) (length : UInt64) (report : Report) (step : Nat) : Prop where
  found : ∀ progression ∈ (sieve.findPairs length).value.found, step ∣ progression.difference.toNat
  listed : ∀ progression ∈ report.progressions, step ∣ progression.difference.toNat
  pairs : (sieve.findPairsBy length step).found = (sieve.findPairs length).value.found
  exhaustive : (sieve.findExhaustivelyBy length step).found = (sieve.findExhaustively length).found
  collected : (Report.collect sieve length (sieve.findPairsBy length step)).value.progressions = report.progressions

theorem Faithful.needsOnly {sieve : Sieve} (faithful : sieve.Faithful) {length : UInt64} {step : Nat}
    (several : 2 ≤ length.toNat)
    (divides : ∀ {first difference : Nat},
      IsBisquareProgression sieve.bound.toNat length.toNat first difference → step ∣ difference) :
    sieve.NeedsOnly length (Report.collect sieve length (sieve.findPairs length).value).value step := by
  have found : ∀ progression ∈ (sieve.findPairs length).value.found, step ∣ progression.difference.toNat :=
    fun progression member => divides (faithful.mem_findPairs.mp member)
  have pairs : (sieve.findPairsBy length step).found = (sieve.findPairs length).value.found := by
    rw [found_findPairsBy, Progression.multiples, List.filter_eq_self]
    simpa using found
  have exhaustive : (sieve.findExhaustivelyBy length step).found = (sieve.findExhaustively length).found := by
    rw [found_findExhaustivelyBy, Progression.multiples, List.filter_eq_self]
    intro progression member
    simpa using found progression (faithful.findExhaustively_subset several member)
  refine ⟨found, ?_, pairs, exhaustive, ?_⟩
  · intro progression member
    exact found progression (Report.mem_progressions_collect.mp member)
  · rw [Report.progressions_collect, pairs]
    rfl

end Sieve

namespace Query

/-- From four terms on every difference is a multiple of four, and from six terms on one of twelve. -/
theorem solve_differences_dvd {bound : UInt64} {memory : Nat} {sieve : Sieve}
    (built : (Sieve.build bound memory).value = .ok sieve) (length : UInt64) :
    ∃ report, (solve ⟨length, bound⟩ memory).value = .ok report ∧
      (4 ≤ length → sieve.NeedsOnly length report 4) ∧ (6 ≤ length → sieve.NeedsOnly length report 12) := by
  obtain ⟨rfl, faithful⟩ := Sieve.faithful_of_build built
  refine ⟨(Report.collect sieve length (sieve.findPairs length).value).value, ?_, ?_, ?_⟩
  · rw [value_solve, built]
    rfl
  · intro long
    have four : 4 ≤ length.toNat := UInt64.le_iff_toNat_le.mp long
    exact faithful.needsOnly (by omega) fun progression => progression.four_dvd_difference four
  · intro long
    have six : 6 ≤ length.toNat := UInt64.le_iff_toNat_le.mp long
    exact faithful.needsOnly (by omega) fun progression => progression.twelve_dvd_difference six

/-- The six terms 1, 13, 25, 37, 49 and 61 are listed. -/
theorem solve_differences_dvd_of_six_seven :
    ∃ sieve report, (Sieve.build 7).value = .ok sieve ∧ (solve ⟨6, 7⟩).value = .ok report ∧
      (4 : UInt64) ≤ 6 ∧ sieve.NeedsOnly 6 report 4 ∧ (6 : UInt64) ≤ 6 ∧ sieve.NeedsOnly 6 report 12 ∧
      ⟨12, 1⟩ ∈ report.progressions ∧ (sieve.findPairsBy 6 12).found = (sieve.findPairs 6).value.found := by
  have built : (Sieve.build 7).value = .ok ⟨7, Sieve.mark 7 99⟩ := rfl
  obtain ⟨report, solved, four, twelve⟩ := solve_differences_dvd built 6
  obtain ⟨_, same, listing⟩ := solve_eq_ok built 6
  cases same.symm.trans solved
  have marked : ∀ index < 6, (Sieve.mark 7 99).getD (1 + index * 12) false = true := by decide +kernel
  have listed : ⟨12, 1⟩ ∈ report.progressions := (listing.complete.mem_iff _).mpr
    ⟨by decide, fun index inside => ((Sieve.marked_mark 7 99 _).mp (marked index inside)).2⟩
  exact ⟨_, report, built, solved, by decide, four (by decide), by decide, twelve (by decide), listed,
    (twelve (by decide)).pairs⟩

end Query
end SquareSums
