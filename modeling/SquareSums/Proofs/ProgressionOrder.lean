import Mathlib.Data.List.Sort
import SquareSums.Progression
import SquareSums.Proofs.WordArithmetic

/-! Progressions are answered by difference before first term, but a search comes upon them by first
term before difference. Both orders are strict, so a list that ascends in one of them is determined
by the pairs of numbers it lists. -/

namespace SquareSums.Progression

/-- The major key decides; the minor key decides between equals. -/
def Ascends (major minor : Progression → UInt64) (left right : Progression) : Prop :=
  major left < major right ∨ major left = major right ∧ minor left < minor right

/-- The order of answers. -/
abbrev Precedes : Progression → Progression → Prop := Ascends difference first

/-- The order of discovery. -/
abbrev FoundBefore : Progression → Progression → Prop := Ascends first difference

/-- The pairs of first term and difference in a list, taken as exact numbers, are all those wanted. -/
def AreAll (progressions : List Progression) (wanted : (first difference : Nat) → Prop) : Prop :=
  ∀ first difference : Nat,
    (∃ progression ∈ progressions, progression.first.toNat = first ∧ progression.difference.toNat = difference) ↔
      wanted first difference

variable {major minor : Progression → UInt64}

theorem Ascends.asymm {left right : Progression} (ascends : Ascends major minor left right) :
    ¬ Ascends major minor right left := by
  simp only [Ascends, UInt64.lt_iff_toNat_lt, ← UInt64.toNat_inj] at ascends ⊢
  omega

instance : Std.Irrefl (Ascends major minor) where
  irrefl _ ascends := ascends.asymm ascends

instance : Std.Antisymm (Ascends major minor) where
  antisymm _ _ ascends descends := absurd descends ascends.asymm

theorem compare_eq_lt_iff {left right : Progression} : compare left right = .lt ↔ Precedes left right := by
  rw [compare_eq_then, Ordering.then_eq_lt, Std.compare_eq_lt, Std.compare_eq_lt, Std.compare_eq_iff_eq]
  rfl

theorem sublist_of_subset {smaller larger : List Progression}
    (first : smaller.Pairwise (Ascends major minor)) (second : larger.Pairwise (Ascends major minor))
    (subset : smaller ⊆ larger) : smaller.Sublist larger :=
  List.sublist_of_subperm_of_pairwise (List.subperm_of_subset first.nodup subset) first second

theorem ext_toNat {left right : Progression} (first : left.first.toNat = right.first.toNat)
    (difference : left.difference.toNat = right.difference.toNat) : left = right := by
  cases left
  cases right
  exact congrArg₂ Progression.mk (UInt64.toNat_inj.mp difference) (UInt64.toNat_inj.mp first)

theorem AreAll.mem_iff {progressions : List Progression} {wanted : Nat → Nat → Prop}
    (all : AreAll progressions wanted) (progression : Progression) :
    progression ∈ progressions ↔ wanted progression.first.toNat progression.difference.toNat := by
  rw [← all]
  constructor
  · intro member
    exact ⟨progression, member, rfl, rfl⟩
  · rintro ⟨other, member, first, difference⟩
    exact ext_toNat first difference ▸ member

theorem areAll_of_mem_iff {progressions : List Progression} {wanted : Nat → Nat → Prop}
    (members : ∀ progression : Progression,
      progression ∈ progressions ↔ wanted progression.first.toNat progression.difference.toNat)
    (small : ∀ first difference, wanted first difference → first < UInt64.size ∧ difference < UInt64.size) :
    AreAll progressions wanted := by
  intro first difference
  constructor
  · rintro ⟨progression, member, rfl, rfl⟩
    exact (members progression).mp member
  · intro holds
    obtain ⟨firstSmall, differenceSmall⟩ := small first difference holds
    obtain ⟨firstWord, rfl⟩ := Word.exists_toNat_eq firstSmall
    obtain ⟨differenceWord, rfl⟩ := Word.exists_toNat_eq differenceSmall
    exact ⟨⟨differenceWord, firstWord⟩, (members _).mpr holds, rfl, rfl⟩

theorem AreAll.eq {one other : List Progression} {wanted : Nat → Nat → Prop}
    (first : one.Pairwise (Ascends major minor)) (second : other.Pairwise (Ascends major minor))
    (all : AreAll one wanted) (same : AreAll other wanted) : one = other :=
  first.eq_of_mem_iff second fun progression => (all.mem_iff progression).trans (same.mem_iff progression).symm

end SquareSums.Progression
