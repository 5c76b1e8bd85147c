import SquareSums.Proofs.SolutionListing
import SquareSums.Proofs.WordArithmetic

/-! Two gates stand before a table: a request is checked, and the table is refused where it has no size or
no room. Both draw the line at the same bound, which is the one that exact numbers draw, although the
size is computed in words; so only memory can refuse what the check has let through. -/

namespace SquareSums

namespace Sieve

/-- The size of a table, computed in words. Each step is refused by itself if its result does not fit. -/
def sizeInWords? (bound : UInt64) : Option UInt64 := do
  let square ← Word.mul? bound bound
  let twice ← Word.mul? square 2
  let size ← Word.add? twice 1
  if size.toNat < sizeLimit then some size else none

/-- No step wraps around to a size that would be accepted, and none refuses a size that fits. -/
theorem sizeInWords?_eq_some_iff {bound size : UInt64} :
    sizeInWords? bound = some size ↔ size? bound = some size.toNat := by
  have steps : sizeInWords? bound = (Word.mul? bound bound).bind fun square =>
      (Word.mulAdd? square 2 1).bind fun size => if size.toNat < sizeLimit then some size else none := by
    simp only [sizeInWords?, Word.mulAdd?, Option.bind_eq_bind, Option.bind_assoc]
  rw [steps, size?_eq_some_iff]
  constructor
  · intro computed
    obtain ⟨square, squared, computed⟩ := Option.bind_eq_some_iff.mp computed
    obtain ⟨last, increased, computed⟩ := Option.bind_eq_some_iff.mp computed
    obtain ⟨small, same⟩ := Option.ite_none_right_eq_some.mp computed
    cases same
    have squared : square.toNat = bound.toNat * bound.toNat := Word.ofNat?_eq_some_iff.mp squared
    have increased : size.toNat = square.toNat * 2 + 1 := Word.mulAdd?_eq_some_iff.mp increased
    exact ⟨by omega, small⟩
  · rintro ⟨whole, small⟩
    have fits := size.toNat_lt_size
    obtain ⟨square, exact⟩ := Word.exists_toNat_eq (show bound.toNat * bound.toNat < UInt64.size by omega)
    have squared : Word.mul? bound bound = some square := Word.ofNat?_eq_some_iff.mpr exact
    have increased : Word.mulAdd? square 2 1 = some size :=
      Word.mulAdd?_eq_some_iff.mpr (show size.toNat = square.toNat * 2 + 1 by omega)
    simp only [squared, increased, Option.bind_some, if_pos small]

theorem size?_eq_map_sizeInWords? (bound : UInt64) : size? bound = (sizeInWords? bound).map UInt64.toNat := by
  cases computed : sizeInWords? bound with
  | some size => exact sizeInWords?_eq_some_iff.mp computed
  | none =>
    cases sized : size? bound with
    | none => rfl
    | some number =>
      have small := (size?_eq_some_iff.mp sized).2
      obtain ⟨size, rfl⟩ := Word.exists_toNat_eq (small.trans (by decide))
      cases computed.symm.trans (sizeInWords?_eq_some_iff.mpr sized)
example : sizeInWords? 0x100000000 = none := by decide

theorem size?_eq_ite (bound : UInt64) :
    size? bound = if bound.toNat ≤ largestBound then some (2 * (bound.toNat * bound.toNat) + 1) else none := by
  split
  next within =>
    obtain ⟨size, sized⟩ := Option.isSome_iff_exists.mp (size?_isSome_iff.mpr within)
    rw [sized, (size?_eq_some_iff.mp sized).1]
  next beyond => simpa using mt size?_isSome_iff.mp beyond

/-- The table has no size, or more cells than memory grants. -/
def Unbuildable (bound : UInt64) (memory : Nat) : Prop :=
  size? bound = none ∨ ∃ size, size? bound = some size ∧ memory < size

theorem build_of_unbuildable {bound : UInt64} {memory : Nat} (unbuildable : Unbuildable bound memory) :
    build bound memory = ⟨.error (.boundTooLarge bound), []⟩ := by
  unfold build
  rcases unbuildable with unsized | ⟨size, sized, full⟩
  · rw [unsized]
    rfl
  · rw [sized]
    exact if_pos full

theorem exists_build_of_not_unbuildable {bound : UInt64} {memory : Nat} (buildable : ¬ Unbuildable bound memory) :
    ∃ sieve, (build bound memory).value = .ok sieve := by
  cases sized : size? bound with
  | none => exact absurd (.inl sized) buildable
  | some size =>
    have room : size ≤ memory := Nat.le_of_not_lt fun full => buildable (.inr ⟨size, sized, full⟩)
    exact ⟨_, build_eq_ok_iff.mpr ⟨size, sized, room, rfl⟩⟩

end Sieve

namespace Query

theorem solve_of_unbuildable {bound : UInt64} {memory : Nat} (unbuildable : Sieve.Unbuildable bound memory)
    (length : UInt64) : solve ⟨length, bound⟩ memory = ⟨.error (.boundTooLarge bound), []⟩ := by
  rw [solve, search, Sieve.build_of_unbuildable unbuildable]
  rfl

theorem solve_eq_error_iff {length bound : UInt64} {memory : Nat} {fault : Fault} {events : List Event} :
    solve ⟨length, bound⟩ memory = ⟨.error fault, events⟩ ↔
      fault = .boundTooLarge bound ∧ events = [] ∧ Sieve.Unbuildable bound memory := by
  constructor
  · intro failed
    by_cases unbuildable : Sieve.Unbuildable bound memory
    · cases failed.symm.trans (solve_of_unbuildable unbuildable length)
      exact ⟨rfl, rfl, unbuildable⟩
    · obtain ⟨sieve, built⟩ := Sieve.exists_build_of_not_unbuildable unbuildable
      obtain ⟨report, solved, _⟩ := solve_eq_ok built length
      rw [failed] at solved
      cases solved
  · rintro ⟨rfl, rfl, unbuildable⟩
    exact solve_of_unbuildable unbuildable length

theorem refused_of_solve {query : Query} {memory : Nat} {fault : Fault}
    (failed : (query.solve memory).value = .error fault) :
    fault = .boundTooLarge query.bound ∧ Sieve.Unbuildable query.bound memory := by
  have whole : query.solve memory = ⟨.error fault, (query.solve memory).events⟩ := by
    rw [← failed]
  obtain ⟨same, _, unbuildable⟩ := solve_eq_error_iff.mp whole
  exact ⟨same, unbuildable⟩

theorem check_eq_ok_iff {length bound : UInt64} {query : Query} :
    check length bound = .ok query ↔ query = ⟨length, bound⟩ ∧ length ≠ 0 ∧ (Sieve.size? bound).isSome = true := by
  rw [check]
  by_cases zero : length = 0
  · simp [zero]
  · cases Sieve.size? bound <;> simp [zero, eq_comm]

theorem check_eq_error_iff {length bound : UInt64} {fault : Fault} :
    check length bound = .error fault ↔
      length = 0 ∧ fault = .zeroLength ∨
        length ≠ 0 ∧ Sieve.size? bound = none ∧ fault = .boundTooLarge bound := by
  rw [check]
  by_cases zero : length = 0
  · simp [zero, eq_comm]
  · cases Sieve.size? bound <;> simp [zero, eq_comm]

/-- The check and the solver draw the line at the same bound, and tell it in the same way. -/
theorem check_agrees_solve (length bound : UInt64) (memory : Nat) :
    (Sieve.size? bound = (Sieve.sizeInWords? bound).map UInt64.toNat ∧
      Sieve.size? bound =
        if bound.toNat ≤ 0x7FFFFFFF then some (2 * (bound.toNat * bound.toNat) + 1) else none) ∧
    ((check length bound = .ok ⟨length, bound⟩ ↔ 1 ≤ length.toNat ∧ (Sieve.size? bound).isSome = true) ∧
      (check length bound = .error .zeroLength ↔ length = 0) ∧
      (check length bound = .error (.boundTooLarge bound) ↔ length ≠ 0 ∧ Sieve.size? bound = none)) ∧
    (∀ fault events, solve ⟨length, bound⟩ memory = ⟨.error fault, events⟩ ↔
      fault = .boundTooLarge bound ∧ events = [] ∧
        (Sieve.size? bound = none ∨ ∃ size, Sieve.size? bound = some size ∧ memory < size)) ∧
    (∀ query fault, check length bound = .ok query → (query.solve memory).value = .error fault →
      ∃ size, Sieve.size? bound = some size ∧ memory < size) := by
  have positive : length ≠ 0 ↔ 1 ≤ length.toNat := by
    rw [Ne, ← UInt64.toNat_inj]
    exact Nat.one_le_iff_ne_zero.symm
  refine ⟨⟨Sieve.size?_eq_map_sizeInWords? bound, Sieve.size?_eq_ite bound⟩, ⟨?_, ?_, ?_⟩, ?_, ?_⟩
  · rw [check_eq_ok_iff, positive]
    exact ⟨And.right, fun both => ⟨rfl, both⟩⟩
  · rw [check_eq_error_iff]
    simp
  · rw [check_eq_error_iff]
    simp
  · exact fun fault events => solve_eq_error_iff
  · intro query fault accepted failed
    obtain ⟨rfl, _, sized⟩ := check_eq_ok_iff.mp accepted
    rcases (refused_of_solve failed).2 with unsized | full
    · rw [unsized] at sized
      cases sized
    · exact full

/-- The largest bound that has a size is accepted, and refused for want of memory. -/
theorem check_agrees_solve_of_largest_bound :
    check 5 0x7FFFFFFF = .ok ⟨5, 0x7FFFFFFF⟩ ∧
      solve ⟨5, 0x7FFFFFFF⟩ = ⟨.error (.boundTooLarge 0x7FFFFFFF), []⟩ ∧
      ∃ size, Sieve.size? 0x7FFFFFFF = some size ∧ Sieve.addressable < size := by
  obtain ⟨_, ⟨accepts, _⟩, refuses, onlyMemory⟩ := check_agrees_solve 5 0x7FFFFFFF Sieve.addressable
  have accepted := accepts.mpr ⟨by decide, by decide⟩
  have refused := (refuses _ _).mpr ⟨rfl, rfl, .inr ⟨9223372028264841219, by decide, by decide⟩⟩
  exact ⟨accepted, refused, onlyMemory _ _ accepted (congrArg Logged.value refused)⟩

end Query
end SquareSums
