import SquareSums.Proofs.SieveMarks

/-! What a faithful table answers. Its values ascend and are the bisquares of the bound; a term is
examined as an exact number, so one that outgrows a word is no bisquare and the scan ends there. -/

namespace SquareSums.Sieve

/-- The scan stops at the first term that is not marked, or at the end. -/
theorem gapFrom_spec (sieve : Sieve) (progression : Progression) (remaining start : Nat) :
    let stop := sieve.gapFrom progression remaining start
    start ≤ stop ∧ stop ≤ start + remaining ∧
      (∀ index, start ≤ index → index < stop → (progression.term? index).any sieve.contains = true) ∧
      (stop < start + remaining → ¬ (progression.term? stop).any sieve.contains = true) := by
  induction remaining generalizing start with
  | zero =>
    refine ⟨Nat.le_refl _, Nat.le_refl _, ?_, fun short => absurd short (Nat.lt_irrefl _)⟩
    intro index after before
    exact absurd before (Nat.not_lt.mpr after)
  | succ remaining ih =>
    rw [gapFrom]
    split
    next marked =>
      obtain ⟨after, before, passed, failed⟩ := ih (start + 1)
      refine ⟨by omega, by omega, ?_, fun short => failed (by omega)⟩
      intro index first last
      rcases Nat.eq_or_lt_of_le first with rfl | later
      · exact marked
      · exact passed index later last
    next unmarked =>
      refine ⟨Nat.le_refl _, by omega, ?_, fun _ => unmarked⟩
      intro index after before
      exact absurd before (Nat.not_lt.mpr after)

theorem hasProgression_iff_terms (sieve : Sieve) (length : UInt64) (progression : Progression) :
    sieve.hasProgression length progression = true ↔
      ∀ index < length.toNat, (progression.term? index).any sieve.contains = true := by
  obtain ⟨_, bounded, passed, failed⟩ := sieve.gapFrom_spec progression length.toNat 0
  rw [hasProgression, gap, beq_iff_eq]
  constructor
  · intro complete index inside
    exact passed index (Nat.zero_le _) (Nat.lt_of_lt_of_eq inside complete.symm)
  · intro terms
    by_contra incomplete
    have short : sieve.gapFrom progression length.toNat 0 < length.toNat := by omega
    exact failed (by omega) (terms _ short)

namespace Faithful

variable {sieve : Sieve} (faithful : sieve.Faithful)
include faithful

theorem contains_iff (word : UInt64) : sieve.contains word = true ↔ IsBisquare sieve.bound.toNat word.toNat :=
  faithful.holds_iff word.toNat

theorem size_lt_word : sieve.size < UInt64.size := Nat.lt_trans faithful.size_lt (by decide)

theorem extent_lt_word : 2 * (sieve.bound.toNat * sieve.bound.toNat) < UInt64.size := by
  have := faithful.size_eq
  have := faithful.size_lt_word
  omega

theorem lt_word_of_isBisquare {number : Nat} (bisquare : IsBisquare sieve.bound.toNat number) :
    number < UInt64.size :=
  Nat.lt_of_le_of_lt bisquare.le faithful.extent_lt_word

theorem mem_values {word : UInt64} : word ∈ sieve.values ↔ IsBisquare sieve.bound.toNat word.toNat := by
  simp only [values, List.mem_map, List.mem_filter, List.mem_range]
  constructor
  · rintro ⟨number, ⟨inside, held⟩, rfl⟩
    rw [UInt64.toNat_ofNat_of_lt' (Nat.lt_trans inside faithful.size_lt_word)]
    exact (faithful.holds_iff number).mp held
  · intro bisquare
    have inside : word.toNat < sieve.size := by
      rw [faithful.size_eq]
      exact Nat.lt_succ_of_le bisquare.le
    exact ⟨word.toNat, ⟨inside, (faithful.holds_iff _).mpr bisquare⟩, UInt64.ofNat_toNat⟩

theorem values_ascending : sieve.values.Pairwise (· < ·) := by
  refine List.pairwise_map.mpr (List.Pairwise.imp_of_mem ?_ (List.pairwise_lt_range.filter sieve.holds))
  intro earlier later first second less
  have small {number : Nat} (member : number ∈ (List.range sieve.size).filter sieve.holds) :
      number < UInt64.size :=
    Nat.lt_trans (List.mem_range.mp (List.mem_filter.mp member).1) faithful.size_lt_word
  rw [UInt64.lt_iff_toNat_lt, UInt64.toNat_ofNat_of_lt' (small first), UInt64.toNat_ofNat_of_lt' (small second)]
  exact less

/-- A term is marked exactly when it is a bisquare as an unbounded number. -/
theorem marked_term_iff (progression : Progression) (index : Nat) :
    (progression.term? index).any sieve.contains = true ↔
      IsBisquare sieve.bound.toNat (progression.first.toNat + index * progression.difference.toNat) := by
  rw [Progression.term?]
  cases term : Word.ofNat? (progression.first.toNat + index * progression.difference.toNat) with
  | none =>
    have outgrown := Word.ofNat?_eq_none_iff.mp term
    refine ⟨fun marked => absurd marked (by simp), fun bisquare => ?_⟩
    exact absurd (faithful.lt_word_of_isBisquare bisquare) (Nat.not_lt.mpr outgrown)
  | some word =>
    rw [← Word.ofNat?_eq_some_iff.mp term, Option.any_some]
    exact faithful.contains_iff word

theorem hasProgression_iff (length : UInt64) (progression : Progression) :
    sieve.hasProgression length progression = true ↔
      ∀ index < length.toNat,
        IsBisquare sieve.bound.toNat (progression.first.toNat + index * progression.difference.toNat) := by
  simp only [hasProgression_iff_terms, faithful.marked_term_iff]

end Faithful
end SquareSums.Sieve
