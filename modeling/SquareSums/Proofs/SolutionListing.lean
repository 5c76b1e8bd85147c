import SquareSums.Proofs.ReportCollection
import SquareSums.Proofs.SearchAgreement
import SquareSums.Solution

/-! A request whose table can be built is answered, and the answer lists the progressions of its
length and bound: all of them, once each, in order. A length below two asks for no less than two
terms, since only pairs of values are ever proposed. -/

namespace SquareSums

/-- The list of all progressions of a length and a bound, in the order of answers. -/
structure IsListing (bound length : Nat) (progressions : List Progression) : Prop where
  ordered : progressions.Pairwise Progression.Precedes
  complete : Progression.AreAll progressions (IsBisquareProgression bound length)

theorem IsListing.unique {bound length : Nat} {one other : List Progression}
    (first : IsListing bound length one) (second : IsListing bound length other) : one = other :=
  first.complete.eq first.ordered second.ordered second.complete

theorem IsListing.of_max_eq {bound length other : Nat} {progressions : List Progression}
    (listing : IsListing bound length progressions) (same : max length 2 = max other 2) :
    IsListing bound other progressions := by
  refine ⟨listing.ordered, fun first difference => (listing.complete first difference).trans ?_⟩
  rw [IsBisquareProgression, IsBisquareProgression, same]

theorem isBisquareProgression_iff_of_le {bound length first difference : Nat} (short : length ≤ 2) :
    IsBisquareProgression bound length first difference ↔
      0 < difference ∧ IsBisquare bound first ∧ IsBisquare bound (first + difference) := by
  have untested : IsBisquareProgression bound length first difference ↔
      IsBisquareProgression bound 0 first difference := by
    rw [IsBisquareProgression, IsBisquareProgression, Nat.max_eq_right short, Nat.max_eq_right (Nat.zero_le 2)]
  rw [untested, isBisquareProgression_iff]
  simp

theorem Sieve.Faithful.isListing_collect {sieve : Sieve} (faithful : sieve.Faithful) (length : UInt64) :
    IsListing sieve.bound.toNat length.toNat
      (Report.collect sieve length (sieve.findPairs length).value).value.progressions := by
  refine ⟨Report.progressions_collect_ascending, Progression.areAll_of_mem_iff ?_ ?_⟩
  · intro progression
    rw [Report.mem_progressions_collect, faithful.mem_findPairs]
  · intro first difference wanted
    have := wanted.le
    have := faithful.extent_lt_word
    omega

namespace Query

theorem value_solve (query : Query) (memory : Nat) :
    (query.solve memory).value =
      (Sieve.build query.bound memory).value.map fun sieve =>
        (Report.collect sieve query.length (sieve.findPairs query.length).value).value := by
  simp only [solve, search, Logged.value_bind]
  cases (Sieve.build query.bound memory).value with
  | error fault => rfl
  | ok sieve => rfl

theorem solve_eq_ok {bound : UInt64} {memory : Nat} {sieve : Sieve}
    (built : (Sieve.build bound memory).value = .ok sieve) (length : UInt64) :
    ∃ report, (solve ⟨length, bound⟩ memory).value = .ok report ∧
      IsListing bound.toNat length.toNat report.progressions := by
  obtain ⟨rfl, faithful⟩ := Sieve.faithful_of_build built
  refine ⟨_, ?_, faithful.isListing_collect length⟩
  rw [value_solve, built]
  rfl

/-- Nothing is missed and nothing else is listed; and for the lengths up to two the list is that of
all ascending pairs of bisquares. -/
theorem solve_lists_progressions {bound : UInt64} {memory : Nat} {sieve : Sieve}
    (built : (Sieve.build bound memory).value = .ok sieve) (length : UInt64) :
    ∃ report, (solve ⟨length, bound⟩ memory).value = .ok report ∧
      report.progressions.Pairwise Progression.Precedes ∧ report.progressions.Nodup ∧
      Progression.AreAll report.progressions (IsBisquareProgression bound.toNat length.toNat) ∧
      (length ≤ 2 →
        Progression.AreAll report.progressions (fun first difference =>
          0 < difference ∧ IsBisquare bound.toNat first ∧ IsBisquare bound.toNat (first + difference)) ∧
        ∀ other ≤ 2, ∃ same, (solve ⟨other, bound⟩ memory).value = .ok same ∧
          same.progressions = report.progressions) := by
  obtain ⟨report, solved, listing⟩ := solve_eq_ok built length
  refine ⟨report, solved, listing.ordered, listing.ordered.nodup, listing.complete, fun short => ⟨?_, ?_⟩⟩
  · intro first difference
    rw [listing.complete, isBisquareProgression_iff_of_le (UInt64.le_iff_toNat_le.mp short)]
  · intro other alsoShort
    obtain ⟨same, alsoSolved, others⟩ := solve_eq_ok built other
    have few : length.toNat ≤ 2 := UInt64.le_iff_toNat_le.mp short
    have alsoFew : other.toNat ≤ 2 := UInt64.le_iff_toNat_le.mp alsoShort
    exact ⟨same, alsoSolved, others.unique (listing.of_max_eq (by omega))⟩

theorem solve_lists_progressions_of_one_seven :
    ∃ sieve report same, (Sieve.build 7).value = .ok sieve ∧ (solve ⟨1, 7⟩).value = .ok report ∧
      Progression.AreAll report.progressions (IsBisquareProgression 7 1) ∧
      (1 : UInt64) ≤ 2 ∧ (0 : UInt64) ≤ 2 ∧ (solve ⟨0, 7⟩).value = .ok same ∧
      same.progressions = report.progressions := by
  have built : (Sieve.build 7).value = .ok ⟨7, Sieve.mark 7 99⟩ := rfl
  obtain ⟨report, solved, _, _, all, short⟩ := solve_lists_progressions built 1
  obtain ⟨same, alsoSolved, equal⟩ := (short (by decide)).2 0 (by decide)
  exact ⟨_, report, same, built, solved, all, by decide, by decide, alsoSolved, equal⟩

end Query
end SquareSums
