/-! Exact numbers that fit a 64-bit word. Sums and products are taken in `Nat` and brought back
through `ofNat?`, so a result that does not fit is refused and never wraps. -/

namespace SquareSums.Word

def ofNat? (number : Nat) : Option UInt64 :=
  if fits : number < UInt64.size then some (UInt64.ofNatLT number fits) else none

theorem ofNat?_toNat (word : UInt64) : ofNat? word.toNat = some word := by
  simp [ofNat?, word.toNat_lt_size]

theorem ofNat?_eq_some_iff {number : Nat} {word : UInt64} : ofNat? number = some word ↔ word.toNat = number := by
  constructor
  · intro found
    unfold ofNat? at found
    split at found
    · cases found; simp
    · cases found
  · rintro rfl
    exact ofNat?_toNat word

theorem ofNat?_eq_none_iff {number : Nat} : ofNat? number = none ↔ UInt64.size ≤ number := by
  simp [ofNat?]

end SquareSums.Word
