import SquareSums.Word

/-! Decimal numbers in text. A number is written with the fewest digits; what is read is one or
more ASCII digits, however many, whose value fits a 64-bit word. -/

namespace SquareSums.Decimal

def digits (number : Nat) : List Char := Nat.toDigits 10 number

theorem isDigit_of_mem_digits {number : Nat} {digit : Char} (member : digit ∈ digits number) :
    digit.isDigit = true := Nat.isDigit_of_mem_toDigits (by decide) (by decide) member

theorem not_mem_digits {mark : Char} (noDigit : mark.isDigit = false) (number : Nat) : mark ∉ digits number := by
  intro member
  rw [isDigit_of_mem_digits member] at noDigit
  cases noDigit

def write (word : UInt64) : String := String.ofList (digits word.toNat)

def value? (characters : List Char) : Option UInt64 :=
  if characters.isEmpty || !characters.all Char.isDigit then none
  else Word.ofNat? (Nat.ofDigitChars 10 characters 0)

theorem value?_digits (word : UInt64) : value? (digits word.toNat) = some word := by
  have allDigits : (digits word.toNat).all Char.isDigit = true :=
    List.all_eq_true.mpr fun _ member => isDigit_of_mem_digits member
  have nonempty : (digits word.toNat).isEmpty = false := by
    simp [digits, Nat.toDigits_ne_nil]
  simp only [value?, nonempty, allDigits, Bool.not_true, Bool.or_self, Bool.false_eq_true, if_false]
  rw [digits, Nat.ofDigitChars_ten_toDigits, Word.ofNat?_toNat]

theorem value?_eq_some_iff {digits : List Char} {word : UInt64} :
    value? digits = some word ↔
      digits ≠ [] ∧ (∀ digit ∈ digits, digit.isDigit = true) ∧ Nat.ofDigitChars 10 digits 0 = word.toNat := by
  rw [value?]
  split
  next refused =>
    simp only [reduceCtorEq, false_iff, not_and]
    intro nonempty allDigits
    simp [nonempty, List.all_eq_true.mpr allDigits] at refused
  next accepted =>
    simp only [Bool.or_eq_true, List.isEmpty_iff, Bool.not_eq_true', not_or, Bool.not_eq_false,
      List.all_eq_true] at accepted
    rw [Word.ofNat?_eq_some_iff, eq_comm]
    exact ⟨fun exact => ⟨accepted.1, accepted.2, exact⟩, fun holds => holds.2.2⟩

end SquareSums.Decimal
