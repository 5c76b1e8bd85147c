import SquareSums.Text.Decimal
import Std.Data.TreeSet

/-! Arithmetic progressions of 64-bit words. The canonical order compares differences before first
terms. A term past the largest word does not exist. -/

namespace SquareSums

structure Progression where
  difference : UInt64
  first : UInt64
deriving DecidableEq, Repr, Inhabited

namespace Progression

def between (first later : UInt64) : Progression := ⟨later - first, first⟩

def term? (progression : Progression) (index : Nat) : Option UInt64 :=
  Word.ofNat? (progression.first.toNat + index * progression.difference.toNat)

/-- The first term, then the difference. -/
def text (progression : Progression) : String :=
  Decimal.write progression.first ++ " " ++ Decimal.write progression.difference

instance : Ord Progression where
  compare := compareLex (compareOn Progression.difference) (compareOn Progression.first)

instance : LT Progression := ltOfOrd

instance : LE Progression := leOfOrd

theorem compare_eq_then (left right : Progression) :
    compare left right = (compare left.difference right.difference).then (compare left.first right.first) := rfl

instance : Std.TransOrd Progression :=
  inferInstanceAs (Std.TransCmp (compareLex (compareOn Progression.difference) (compareOn Progression.first)))

instance : Std.LawfulEqOrd Progression where
  compare_self := Std.ReflOrd.compare_self
  eq_of_compare := by
    intro left right equal
    rw [compare_eq_then, Ordering.then_eq_eq, Std.compare_eq_iff_eq, Std.compare_eq_iff_eq] at equal
    cases left
    cases right
    simp_all

instance : Min Progression := minOfLe

instance : Max Progression := maxOfLe

def sort (progressions : List Progression) : List Progression :=
  progressions.mergeSort fun left right => (compare left right).isLE

end Progression
end SquareSums
