import Mathlib.Data.List.Basic
import SquareSums.Word

/-! Sums, products and differences of words that are refused if they do not fit. A step that is not refused is
exact, and a step of a sum or a product makes nothing smaller, so several of them agree with the same steps on
numbers. -/

namespace SquareSums.Word

def add? (left right : UInt64) : Option UInt64 := ofNat? (left.toNat + right.toNat)

def mul? (left right : UInt64) : Option UInt64 := ofNat? (left.toNat * right.toNat)

theorem exists_toNat_eq {number : Nat} (fits : number < UInt64.size) : ∃ word : UInt64, word.toNat = number :=
  ⟨UInt64.ofNat number, UInt64.toNat_ofNat_of_lt' fits⟩

/-- A sum made in two steps is refused exactly if it is refused as a whole. -/
theorem bind_ofNat?_add (number more : Nat) :
    ((ofNat? number).bind fun word => ofNat? (word.toNat + more)) = ofNat? (number + more) := by
  cases first : ofNat? number with
  | none =>
    have outgrown := ofNat?_eq_none_iff.mp first
    exact (ofNat?_eq_none_iff.mpr (Nat.le_add_right_of_le outgrown)).symm
  | some word => rw [Option.bind_some, ofNat?_eq_some_iff.mp first]

def mulAdd? (left right more : UInt64) : Option UInt64 := do add? (← mul? left right) more

/-- The product alone is refused only if the sum would be refused too. -/
theorem mulAdd?_eq_some_iff {left right more word : UInt64} :
    mulAdd? left right more = some word ↔ word.toNat = left.toNat * right.toNat + more.toNat := by
  constructor
  · intro computed
    obtain ⟨product, multiplied, added⟩ := Option.bind_eq_some_iff.mp computed
    rw [ofNat?_eq_some_iff.mp added, ofNat?_eq_some_iff.mp multiplied]
  · intro exact
    have fits := word.toNat_lt_size
    obtain ⟨product, same⟩ := exists_toNat_eq (show left.toNat * right.toNat < UInt64.size by omega)
    have multiplied : mul? left right = some product := ofNat?_eq_some_iff.mpr same
    have added : add? product more = some word := ofNat?_eq_some_iff.mpr (by rw [exact, same])
    rw [mulAdd?, multiplied]
    exact added

def sub? (left right : UInt64) : Option UInt64 := if right ≤ left then some (left - right) else none

theorem sub?_eq_some_iff {left right word : UInt64} :
    sub? left right = some word ↔ left.toNat = right.toNat + word.toNat := by
  rw [sub?, Option.ite_none_right_eq_some, Option.some_inj, UInt64.le_iff_toNat_le, ← UInt64.toNat_inj]
  constructor
  · rintro ⟨within, same⟩
    rw [UInt64.toNat_sub_of_le _ _ (UInt64.le_iff_toNat_le.mpr within)] at same
    omega
  · intro exact
    have within : right.toNat ≤ left.toNat := by omega
    rw [UInt64.toNat_sub_of_le _ _ (UInt64.le_iff_toNat_le.mpr within)]
    omega

def upTo (first last : UInt64) : List UInt64 :=
  (List.range' first.toNat (last.toNat + 1 - first.toNat)).map UInt64.ofNat

theorem map_toNat_upTo (first last : UInt64) :
    (upTo first last).map UInt64.toNat = List.range' first.toNat (last.toNat + 1 - first.toNat) := by
  have exact : ∀ number ∈ List.range' first.toNat (last.toNat + 1 - first.toNat),
      (UInt64.ofNat number).toNat = number := by
    intro number member
    have small := last.toNat_lt_size
    rw [List.mem_range'_1] at member
    exact UInt64.toNat_ofNat_of_lt' (by omega)
  rw [upTo, List.map_map]
  exact (List.map_congr_left exact).trans (List.map_id _)

theorem mem_upTo {first last word : UInt64} : word ∈ upTo first last ↔ first ≤ word ∧ word ≤ last := by
  have injective : Function.Injective UInt64.toNat := fun _ _ => UInt64.toNat_inj.mp
  rw [← List.mem_map_of_injective injective, map_toNat_upTo, List.mem_range'_1, UInt64.le_iff_toNat_le,
    UInt64.le_iff_toNat_le]
  omega

end SquareSums.Word
