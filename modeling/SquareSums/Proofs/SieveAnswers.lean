import SquareSums.Proofs.SieveTerms
import SquareSums.Proofs.WordArithmetic

/-! What can be asked of a table that was built, answered in exact numbers: which numbers it holds, which
values it lists and how many, and whether all terms of a progression are among them. Words are used
throughout, but nothing wraps: a term is refused if it does not fit. -/

namespace SquareSums

/-- A term computed in words, the offset first. -/
def Progression.termInWords? (progression : Progression) (index : UInt64) : Option UInt64 :=
  Word.mulAdd? index progression.difference progression.first

theorem Progression.termInWords?_eq_some_iff {progression : Progression} {index word : UInt64} :
    progression.termInWords? index = some word ↔
      word.toNat = progression.first.toNat + index.toNat * progression.difference.toNat := by
  rw [termInWords?, Word.mulAdd?_eq_some_iff, Nat.add_comm]

theorem Progression.termInWords?_eq_term? (progression : Progression) (index : UInt64) :
    progression.termInWords? index = progression.term? index.toNat := by
  refine Option.ext fun word => ?_
  rw [termInWords?_eq_some_iff, term?, Word.ofNat?_eq_some_iff]

namespace Sieve

theorem toList_marks (sieve : Sieve) : sieve.marks.toList = (List.range sieve.size).map sieve.holds := by
  refine List.ext_getElem (by simp [size]) fun index inside _ => ?_
  rw [Array.length_toList] at inside
  simp [holds, inside]

theorem count_eq_length_values (sieve : Sieve) : sieve.count = sieve.values.length := by
  rw [count, ← Array.count_toList, toList_marks, values, List.length_map, List.count, List.countP_map,
    List.countP_eq_length_filter]
  congr 2
  funext number
  simp

theorem gap_le_of_unmarked {sieve : Sieve} {length : UInt64} {progression : Progression} {index : Nat}
    (unmarked : ¬ (progression.term? index).any sieve.contains = true) : sieve.gap length progression ≤ index := by
  obtain ⟨_, _, passed, _⟩ := sieve.gapFrom_spec progression length.toNat 0
  by_contra later
  exact unmarked (passed index (Nat.zero_le _) (Nat.lt_of_not_le later))

theorem hasProgression_iff_terms_in_words (sieve : Sieve) (length : UInt64) (progression : Progression) :
    sieve.hasProgression length progression = true ↔
      ∀ index < length, (progression.termInWords? index).any sieve.contains = true := by
  rw [hasProgression_iff_terms]
  constructor
  · intro terms index inside
    rw [Progression.termInWords?_eq_term?]
    exact terms index.toNat (UInt64.lt_iff_toNat_lt.mp inside)
  · intro terms index inside
    obtain ⟨word, rfl⟩ := Word.exists_toNat_eq (Nat.lt_trans inside length.toNat_lt_size)
    rw [← Progression.termInWords?_eq_term?]
    exact terms word (UInt64.lt_iff_toNat_lt.mpr inside)

namespace Faithful

variable {sieve : Sieve} (faithful : sieve.Faithful)
include faithful

theorem head?_values : sieve.values.head? = some 0 := by
  have member : 0 ∈ sieve.values := by
    apply faithful.mem_values.mpr
    exact ⟨0, 0, Nat.zero_le _, Nat.zero_le _, rfl⟩
  have least := (faithful.values_ascending.imp UInt64.le_of_lt).rel_head member
  rw [List.head?_eq_some_head (List.ne_nil_of_mem member), UInt64.le_antisymm least UInt64.zero_le]

theorem getLast?_values :
    sieve.values.getLast?.map UInt64.toNat = some (2 * (sieve.bound.toNat * sieve.bound.toNat)) := by
  obtain ⟨largest, exact⟩ := Word.exists_toNat_eq faithful.extent_lt_word
  have member : largest ∈ sieve.values := by
    apply faithful.mem_values.mpr
    exact ⟨sieve.bound.toNat, sieve.bound.toNat, Nat.le_refl _, Nat.le_refl _, by rw [exact, Nat.two_mul]⟩
  have nonempty := List.ne_nil_of_mem member
  have reached := (faithful.values_ascending.imp UInt64.le_of_lt).rel_getLast member
  have bounded := (faithful.mem_values.mp (List.getLast_mem nonempty)).le
  rw [UInt64.le_iff_toNat_le, exact] at reached
  rw [List.getLast?_eq_some_getLast nonempty, Option.map_some, Nat.le_antisymm bounded reached]

/-- A term that does not fit a word, or that lies past the table, is never taken for another one. -/
theorem unmarked_of_outside {progression : Progression} {index : UInt64}
    (outside : ∀ word, progression.termInWords? index = some word → sieve.size ≤ word.toNat) :
    ¬ (progression.term? index.toNat).any sieve.contains = true := by
  rw [← Progression.termInWords?_eq_term?, Option.any_eq_true]
  rintro ⟨word, term, held⟩
  have inside := ((faithful.contains_iff word).mp held).le
  have beyond := outside word term
  rw [faithful.size_eq] at beyond
  omega

end Faithful

/-- A table that is built has one mark for each number up to its last bisquare, and it answers for every
word whether that is a bisquare of its bound, also for words past its end. -/
theorem build_marks_bisquares {bound : UInt64} {memory : Nat} {sieve : Sieve}
    (built : (build bound memory).value = .ok sieve) :
    sieve.size = 2 * (bound.toNat * bound.toNat) + 1 ∧
    (∀ word, sieve.contains word = true ↔ IsBisquare bound.toNat word.toNat) ∧
    sieve.values.Pairwise (· < ·) ∧
    (∀ word, word ∈ sieve.values ↔ sieve.contains word = true) ∧
    sieve.values.head? = some 0 ∧
    sieve.values.getLast?.map UInt64.toNat = some (2 * (bound.toNat * bound.toNat)) ∧
    sieve.count = sieve.values.length := by
  obtain ⟨rfl, faithful⟩ := faithful_of_build built
  refine ⟨faithful.size_eq, faithful.contains_iff, faithful.values_ascending, ?_, faithful.head?_values,
    faithful.getLast?_values, sieve.count_eq_length_values⟩
  intro word
  rw [faithful.mem_values, faithful.contains_iff]

/-- Sixteen lies inside the table for three, but only the root four has its square. -/
theorem build_marks_bisquares_of_three :
    ∃ sieve, (build 3).value = .ok sieve ∧ sieve.size = 19 ∧ sieve.contains 18 = true ∧
      sieve.contains 16 = false ∧ sieve.contains 0xFFFFFFFFFFFFFFFF = false ∧
      sieve.values.getLast?.map UInt64.toNat = some 18 ∧ sieve.count = sieve.values.length := by
  have built : (build 3).value = .ok ⟨3, mark 3 19⟩ := rfl
  obtain ⟨sized, _, _, _, _, last, counted⟩ := build_marks_bisquares built
  exact ⟨_, built, sized, by decide, by decide, by decide, last, counted⟩

/-- A progression passes exactly if all its terms are bisquares as unbounded numbers. Its terms may be
computed in words, which loses nothing, and the scan ends at the first that leaves the words or the table. -/
theorem hasProgression_never_wraps {bound : UInt64} {memory : Nat} {sieve : Sieve}
    (built : (build bound memory).value = .ok sieve) (length : UInt64) (progression : Progression) :
    (sieve.hasProgression length progression = true ↔
      ∀ index < length.toNat,
        IsBisquare bound.toNat (progression.first.toNat + index * progression.difference.toNat)) ∧
    (sieve.hasProgression length progression = true ↔
      ∀ index < length, (progression.termInWords? index).any sieve.contains = true) ∧
    (∀ index word, progression.termInWords? index = some word ↔
      word.toNat = progression.first.toNat + index.toNat * progression.difference.toNat) ∧
    (∀ index < length, (∀ word, progression.termInWords? index = some word → sieve.size ≤ word.toNat) →
      sieve.gap length progression ≤ index.toNat ∧ sieve.hasProgression length progression = false) ∧
    sieve.hasProgression 0 progression = true := by
  obtain ⟨rfl, faithful⟩ := faithful_of_build built
  refine ⟨faithful.hasProgression_iff length progression, sieve.hasProgression_iff_terms_in_words length progression,
    fun index word => Progression.termInWords?_eq_some_iff, ?_, rfl⟩
  intro index inside outside
  have unmarked := faithful.unmarked_of_outside outside
  refine ⟨gap_le_of_unmarked unmarked, ?_⟩
  apply Bool.eq_false_iff.mpr
  intro passes
  exact unmarked ((sieve.hasProgression_iff_terms length progression).mp passes _ (UInt64.lt_iff_toNat_lt.mp inside))

/-- Wrapped around, the second term of this progression would be 1, which is a bisquare like the first. -/
theorem hasProgression_never_wraps_of_wrapping :
    ∃ sieve, (build 4).value = .ok sieve ∧ sieve.hasProgression 3 ⟨4, 1⟩ = true ∧
      (1 : UInt64) < 2 ∧ (2 + 1 * 0xFFFFFFFFFFFFFFFF : UInt64) = 1 ∧
      Progression.termInWords? ⟨0xFFFFFFFFFFFFFFFF, 2⟩ 1 = none ∧
      sieve.hasProgression 2 ⟨0xFFFFFFFFFFFFFFFF, 2⟩ = false := by
  have built : (build 4).value = .ok ⟨4, mark 4 33⟩ := rfl
  have marked : ∀ index < 3, (mark 4 33).getD (1 + index * 4) false = true := by decide
  have outgrown : Progression.termInWords? ⟨0xFFFFFFFFFFFFFFFF, 2⟩ 1 = none := by decide
  obtain ⟨_, _, _, outside, _⟩ := hasProgression_never_wraps built 2 ⟨0xFFFFFFFFFFFFFFFF, 2⟩
  refine ⟨_, built, ?_, by decide, by decide, outgrown, (outside 1 (by decide) ?_).2⟩
  · apply (hasProgression_never_wraps built 3 ⟨4, 1⟩).1.mpr
    intro index inside
    exact ((marked_mark 4 33 _).mp (marked index inside)).2
  · intro word computed
    cases outgrown.symm.trans computed

end Sieve
end SquareSums
