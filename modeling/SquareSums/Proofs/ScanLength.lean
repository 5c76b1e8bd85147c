import SquareSums.Proofs.ListingLines
import SquareSums.Proofs.SieveAnswers

/-! How far a scan goes, and how far a progression reaches. Terms ascend by the difference, so once the difference has been
added as often as it fits into the last number of the table, the next term lies past the end. A length beyond that
is never examined, and no progression has it. -/

namespace SquareSums

namespace Sieve

/-- The scan together with the indices whose terms it examines, in the order of examination. -/
def scanFrom (sieve : Sieve) (progression : Progression) : (remaining start : Nat) → Nat × List Nat
  | 0, start => (start, [])
  | remaining + 1, start =>
    if (progression.term? start).any sieve.contains then
      let (stop, examined) := scanFrom sieve progression remaining (start + 1)
      (stop, start :: examined)
    else (start, [start])

def scan (sieve : Sieve) (length : UInt64) (progression : Progression) : Nat × List Nat :=
  sieve.scanFrom progression length.toNat 0

theorem fst_scanFrom (sieve : Sieve) (progression : Progression) (remaining start : Nat) :
    (sieve.scanFrom progression remaining start).1 = sieve.gapFrom progression remaining start := by
  induction remaining generalizing start with
  | zero => rfl
  | succ remaining ih =>
    rw [scanFrom, gapFrom]
    split
    · exact ih (start + 1)
    · rfl

theorem snd_scanFrom (sieve : Sieve) (progression : Progression) (remaining start : Nat) :
    (sieve.scanFrom progression remaining start).2 =
      List.range' start (min (sieve.gapFrom progression remaining start + 1) (start + remaining) - start) := by
  induction remaining generalizing start with
  | zero => simp [scanFrom]
  | succ remaining ih =>
    rw [scanFrom, gapFrom]
    split
    next marked =>
      have later := (sieve.gapFrom_spec progression remaining (start + 1)).1
      have count : min (sieve.gapFrom progression remaining (start + 1) + 1) (start + (remaining + 1)) - start =
          min (sieve.gapFrom progression remaining (start + 1) + 1) (start + 1 + remaining) - (start + 1) + 1 := by
        omega
      rw [count, List.range'_succ, ← ih]
    next unmarked =>
      have count : min (start + 1) (start + (remaining + 1)) - start = 1 := by omega
      rw [count]
      rfl

theorem scan_eq (sieve : Sieve) (length : UInt64) (progression : Progression) :
    sieve.scan length progression =
      (sieve.gap length progression, List.range (min (sieve.gap length progression + 1) length.toNat)) := by
  refine Prod.ext (sieve.fst_scanFrom progression length.toNat 0) ?_
  rw [scan, snd_scanFrom, Nat.zero_add, Nat.sub_zero, ← List.range_eq_range', gap]

/-- A scan that goes no further than a limit: by then it has met a term that is not marked, or come to the end. -/
structure EndsBy (sieve : Sieve) (length : UInt64) (progression : Progression) (limit : Nat) : Prop where
  examined : sieve.scan length progression =
    (sieve.gap length progression, List.range (min (sieve.gap length progression + 1) length.toNat))
  passed : ∀ index < sieve.gap length progression, (progression.term? index).any sieve.contains = true
  stops : (sieve.gap length progression < length.toNat ∧ sieve.gap length progression ≤ limit ∧
      ¬ (progression.term? (sieve.gap length progression)).any sieve.contains = true) ∨
    sieve.gap length progression = length.toNat ∧ length.toNat ≤ limit
  few : (sieve.scan length progression).2.length ≤ limit + 1
  fails : limit < length.toNat → sieve.hasProgression length progression = false

theorem endsBy_of_unmarked {sieve : Sieve} {length : UInt64} {progression : Progression} {limit : Nat}
    (unmarked : ¬ (progression.term? limit).any sieve.contains = true) : sieve.EndsBy length progression limit := by
  have stopped : sieve.gap length progression ≤ limit := gap_le_of_unmarked unmarked
  obtain ⟨_, within, passed, failed⟩ := sieve.gapFrom_spec progression length.toNat 0
  rw [← gap] at within passed failed
  refine ⟨sieve.scan_eq length progression, fun index before => passed index (Nat.zero_le _) before, ?_, ?_, ?_⟩
  · by_cases short : sieve.gap length progression < length.toNat
    · exact .inl ⟨short, stopped, failed (by omega)⟩
    · exact .inr ⟨by omega, by omega⟩
  · rw [scan_eq, List.length_range]
    omega
  · intro long
    apply Bool.eq_false_iff.mpr
    intro passes
    exact unmarked ((sieve.hasProgression_iff_terms length progression).mp passes limit long)

/-- The term behind the last one that could fit is past the end of the table, also where it outgrows a word. -/
theorem Faithful.endsBy {sieve : Sieve} (faithful : sieve.Faithful) (length : UInt64) {progression : Progression}
    (positive : 1 ≤ progression.difference) :
    sieve.EndsBy length progression
      (2 * (sieve.bound.toNat * sieve.bound.toNat) / progression.difference.toNat + 1) := by
  apply endsBy_of_unmarked
  rw [faithful.marked_term_iff]
  intro bisquare
  have past := Nat.lt_mul_div_succ (2 * (sieve.bound.toNat * sieve.bound.toNat)) (UInt64.le_iff_toNat_le.mp positive)
  rw [Nat.mul_comm progression.difference.toNat] at past
  exact Nat.lt_irrefl _ (Nat.lt_of_lt_of_le past (Nat.le_of_add_left_le bisquare.le))

end Sieve

theorem IsBisquareProgression.last_le {bound length first difference : Nat} (several : 2 ≤ length)
    (progression : IsBisquareProgression bound length first difference) :
    first + (length - 1) * difference ≤ 2 * (bound * bound) :=
  (progression.2 (length - 1) (by omega)).le

theorem IsListing.eq_nil {bound length : Nat} {progressions : List Progression}
    (listing : IsListing bound length progressions) (long : 2 * (bound * bound) + 1 < length) : progressions = [] := by
  apply List.eq_nil_iff_forall_not_mem.mpr
  intro progression member
  have terms := (listing.complete.mem_iff progression).mp member
  have last := terms.last_le (by omega)
  have steps : length - 1 ≤ (length - 1) * progression.difference.toNat := Nat.le_mul_of_pos_right _ terms.1
  omega

namespace Query

/-- However many terms are asked for, a scan ends by the index at which they are past the table. A length that
no progression can have is answered with an empty listing, and what is listed ends within the table. -/
theorem solve_long_lengths {bound : UInt64} {memory : Nat} {sieve : Sieve}
    (built : (Sieve.build bound memory).value = .ok sieve) (length : UInt64) :
    (∀ progression : Progression, 1 ≤ progression.difference →
      sieve.EndsBy length progression (2 * (bound.toNat * bound.toNat) / progression.difference.toNat + 1)) ∧
    ∃ report, (solve ⟨length, bound⟩ memory).value = .ok report ∧
      (2 * (bound.toNat * bound.toNat) + 1 < length.toNat →
        report.progressions = [] ∧ report.answer = .nothing ∧ report.text = "NONE\n") ∧
      (2 ≤ length → ∀ progression,
        progression ∈ (sieve.findPairs length).value.found ∨ progression ∈ report.progressions →
          progression.first.toNat + (length.toNat - 1) * progression.difference.toNat ≤
            2 * (bound.toNat * bound.toNat)) := by
  obtain ⟨report, solved, listing⟩ := solve_eq_ok built length
  obtain ⟨rfl, faithful⟩ := Sieve.faithful_of_build built
  refine ⟨fun progression positive => faithful.endsBy length positive, report, solved, ?_, ?_⟩
  · intro long
    have nothing := listing.eq_nil long
    exact ⟨nothing, Report.answer_eq_nothing_iff.mpr nothing, Report.text_eq_none_iff.mpr nothing⟩
  · intro several progression emitted
    have terms : IsBisquareProgression sieve.bound.toNat length.toNat progression.first.toNat
        progression.difference.toNat :=
      emitted.elim faithful.mem_findPairs.mp (listing.complete.mem_iff progression).mp
    exact terms.last_le (UInt64.le_iff_toNat_le.mp several)

/-- The table for two ends at 8. The fourth term from 0 by fours is 12, and the second term from 2 by the largest
difference outgrows a word; three terms by fours just fit. -/
theorem solve_long_lengths_of_largest :
    ∃ sieve report, (Sieve.build 2).value = .ok sieve ∧
      (1 : UInt64) ≤ 4 ∧ sieve.EndsBy 0xFFFFFFFFFFFFFFFF ⟨4, 0⟩ 3 ∧
      (1 : UInt64) ≤ 0xFFFFFFFFFFFFFFFF ∧ sieve.EndsBy 0xFFFFFFFFFFFFFFFF ⟨0xFFFFFFFFFFFFFFFF, 2⟩ 1 ∧
      (solve ⟨0xFFFFFFFFFFFFFFFF, 2⟩).value = .ok report ∧ 2 * (2 * 2) + 1 < (0xFFFFFFFFFFFFFFFF : UInt64).toNat ∧
      report.progressions = [] ∧ report.text = "NONE\n" ∧
      (2 : UInt64) ≤ 3 ∧ ⟨4, 0⟩ ∈ (sieve.findPairs 3).value.found ∧ 0 + (3 - 1) * 4 ≤ 2 * (2 * 2) := by
  have built : (Sieve.build 2).value = .ok ⟨2, Sieve.mark 2 9⟩ := rfl
  have found : ⟨4, 0⟩ ∈ (Sieve.findPairs ⟨2, Sieve.mark 2 9⟩ 3).value.found := by decide +kernel
  obtain ⟨ends, report, solved, nothing, _⟩ := solve_long_lengths built 0xFFFFFFFFFFFFFFFF
  obtain ⟨none, _, text⟩ := nothing (by decide)
  obtain ⟨_, _, _, _, within⟩ := solve_long_lengths built 3
  exact ⟨_, report, built, by decide, ends ⟨4, 0⟩ (by decide), by decide, ends ⟨0xFFFFFFFFFFFFFFFF, 2⟩ (by decide), solved,
    by decide, none, text, by decide, found, within (by decide) ⟨4, 0⟩ (.inl found)⟩

end Query
end SquareSums
