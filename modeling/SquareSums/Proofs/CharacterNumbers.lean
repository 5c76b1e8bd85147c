/-! Characters by their numbers. -/

namespace SquareSums

theorem toNat_ofNat_of_isValidChar {point : Nat} (valid : point.isValidChar) : (Char.ofNat point).toNat = point := by
  rw [Char.ofNat, dif_pos valid]
  rfl

theorem isUpper_iff {character : Char} :
    character.isUpper = true ↔ 65 ≤ character.toNat ∧ character.toNat ≤ 90 := decide_eq_true_iff

theorem isLower_iff {character : Char} :
    character.isLower = true ↔ 97 ≤ character.toNat ∧ character.toNat ≤ 122 :=
  Bool.and_eq_true_iff.trans (and_congr decide_eq_true_iff decide_eq_true_iff)

theorem toNat_toLower (character : Char) :
    character.toLower.toNat =
      if 65 ≤ character.toNat ∧ character.toNat ≤ 90 then character.toNat + 32 else character.toNat := by
  by_cases upper : 65 ≤ character.toNat ∧ character.toNat ≤ 90
  · have lowered : character.toLower.toNat = (character.val + 32).toNat :=
      congrArg Char.toNat (dif_pos (show character.val ≥ 'A'.val ∧ character.val ≤ 'Z'.val from upper))
    have same : character.val.toNat = character.toNat := rfl
    rw [if_pos upper, lowered, UInt32.toNat_add, same]
    exact Nat.mod_eq_of_lt (by have : (32 : UInt32).toNat = 32 := rfl; omega)
  · have kept : character.toLower = character :=
      dif_neg (show ¬ (character.val ≥ 'A'.val ∧ character.val ≤ 'Z'.val) from upper)
    rw [if_neg upper, kept]

end SquareSums
