import Mathlib.Data.List.Range
import SquareSums.Sieve

/-! A table that is built marks exactly the bisquares of its bound. Marking is followed through two
nested loops: each keeps the size of the table and adds the sums of its own items, nothing else. -/

namespace SquareSums

theorem IsBisquare.le {bound number : Nat} (bisquare : IsBisquare bound number) :
    number ≤ 2 * (bound * bound) := by
  obtain ⟨lesser, greater, first, second, rfl⟩ := bisquare
  have := Nat.mul_le_mul first first
  have := Nat.mul_le_mul second second
  omega

theorem isBisquare_iff_ascending {bound number : Nat} :
    IsBisquare bound number ↔
      ∃ lesser ≤ bound, ∃ greater, lesser ≤ greater ∧ greater ≤ bound ∧
        lesser * lesser + greater * greater = number := by
  constructor
  · rintro ⟨one, other, oneBound, otherBound, rfl⟩
    rcases Nat.le_total one other with ascending | descending
    · exact ⟨one, oneBound, other, ascending, otherBound, rfl⟩
    · exact ⟨other, otherBound, one, descending, oneBound, Nat.add_comm _ _⟩
  · rintro ⟨lesser, inside, greater, _, bounded, rfl⟩
    exact ⟨lesser, greater, inside, bounded, rfl⟩

namespace Sieve

/-- A step of marking keeps the size of the table and adds what belongs to its item. -/
structure Marks {α : Type} (step : Array Bool → α → Array Bool) (adds : α → Nat → Prop) : Prop where
  size : ∀ marks item, (step marks item).size = marks.size
  marked : ∀ marks item number, (step marks item).getD number false = true ↔
    marks.getD number false = true ∨ number < marks.size ∧ adds item number

theorem marks_set {α : Type} (sum : α → Nat) :
    Marks (fun marks item => marks.setIfInBounds (sum item) true) (fun item number => sum item = number) := by
  refine ⟨fun marks item => Array.size_setIfInBounds, ?_⟩
  intro marks item number
  simp only [Array.getD_eq_getD_getElem?, Array.getElem?_setIfInBounds]
  by_cases same : sum item = number
  · subst same
    by_cases inside : sum item < marks.size
    · simp [inside]
    · simp [inside]
  · simp [same]

/-- A loop of such steps adds what belongs to any of its items. -/
theorem Marks.foldl {α : Type} {step : Array Bool → α → Array Bool} {adds : α → Nat → Prop}
    (marks : Marks step adds) :
    Marks (List.foldl step) (fun items number => ∃ item ∈ items, adds item number) := by
  constructor
  · intro table items
    induction items generalizing table with
    | nil => rfl
    | cons item items ih => rw [List.foldl_cons, ih, marks.size]
  · intro table items number
    induction items generalizing table with
    | nil => simp
    | cons item items ih =>
      rw [List.foldl_cons, ih, marks.size, marks.marked, or_assoc, ← and_or_left]
      simp only [List.mem_cons, exists_eq_or_imp]

theorem marks_markRow (bound : Nat) :
    Marks (markRow bound) (fun lesser number =>
      ∃ greater, lesser ≤ greater ∧ greater ≤ bound ∧ lesser * lesser + greater * greater = number) := by
  refine ⟨fun marks lesser => (marks_set _).foldl.size marks _, ?_⟩
  intro marks lesser number
  refine ((marks_set _).foldl.marked marks _ number).trans ?_
  have row (greater : Nat) :
      greater ∈ List.range' lesser (bound + 1 - lesser) ↔ lesser ≤ greater ∧ greater ≤ bound := by
    rw [List.mem_range'_1]
    omega
  simp only [row, and_assoc]

theorem size_mark (bound size : Nat) : (mark bound size).size = size := by
  rw [mark, (marks_markRow bound).foldl.size, Array.size_replicate]

theorem marked_mark (bound size number : Nat) :
    (mark bound size).getD number false = true ↔ number < size ∧ IsBisquare bound number := by
  rw [mark, (marks_markRow bound).foldl.marked, Array.size_replicate, isBisquare_iff_ascending]
  have blank : (Array.replicate size false).getD number false = false := by
    simp only [Array.getD_eq_getD_getElem?, Array.getElem?_replicate]
    split <;> rfl
  simp only [blank, Bool.false_eq_true, false_or, List.mem_range, Nat.lt_succ_iff]

theorem size?_eq_some_iff {bound : UInt64} {size : Nat} :
    size? bound = some size ↔ size = 2 * (bound.toNat * bound.toNat) + 1 ∧ size < sizeLimit := by
  simp only [size?, Option.ite_none_right_eq_some, Option.some.injEq]
  constructor
  · rintro ⟨small, rfl⟩
    exact ⟨rfl, small⟩
  · rintro ⟨rfl, small⟩
    exact ⟨small, rfl⟩

def largestBound : Nat := 0x7FFFFFFF

theorem size_lt_sizeLimit_iff {bound : Nat} : 2 * (bound * bound) + 1 < sizeLimit ↔ bound ≤ largestBound := by
  rw [sizeLimit, largestBound]
  constructor
  · intro small
    by_contra large
    have := Nat.mul_le_mul (Nat.not_le.mp large) (Nat.not_le.mp large)
    omega
  · intro small
    have := Nat.mul_le_mul small small
    omega

theorem size?_isSome_iff {bound : UInt64} : (size? bound).isSome = true ↔ bound.toNat ≤ largestBound := by
  rw [← size_lt_sizeLimit_iff]
  simp [size?]

/-- What every table has that was built: its size fits a signed word, and it holds the bisquares of
its bound and no other number, however large. -/
structure Faithful (sieve : Sieve) : Prop where
  size_eq : sieve.size = 2 * (sieve.bound.toNat * sieve.bound.toNat) + 1
  size_lt : sieve.size < sizeLimit
  holds_iff : ∀ number, sieve.holds number = true ↔ IsBisquare sieve.bound.toNat number

theorem faithful_mark {bound : UInt64} {size : Nat} (sized : size? bound = some size) :
    Faithful ⟨bound, mark bound.toNat size⟩ := by
  obtain ⟨exact, small⟩ := size?_eq_some_iff.mp sized
  refine ⟨(size_mark _ _).trans exact, by simpa only [Sieve.size, size_mark] using small, ?_⟩
  intro number
  rw [holds, marked_mark, and_iff_right_iff_imp]
  intro bisquare
  have := bisquare.le
  omega

theorem build_eq_ok_iff {bound : UInt64} {memory : Nat} {sieve : Sieve} :
    (build bound memory).value = .ok sieve ↔
      ∃ size, size? bound = some size ∧ size ≤ memory ∧ sieve = ⟨bound, mark bound.toNat size⟩ := by
  unfold build
  cases sized : size? bound with
  | none => simp
  | some size =>
    by_cases large : memory < size
    · simp [large]
    · simp [large, Nat.le_of_not_lt large, eq_comm]

theorem faithful_of_build {bound : UInt64} {memory : Nat} {sieve : Sieve}
    (built : (build bound memory).value = .ok sieve) : sieve.bound = bound ∧ sieve.Faithful := by
  obtain ⟨size, sized, _, rfl⟩ := build_eq_ok_iff.mp built
  exact ⟨rfl, faithful_mark sized⟩

theorem exists_build {bound : UInt64} {memory : Nat} (sized : bound.toNat ≤ largestBound)
    (room : 2 * (bound.toNat * bound.toNat) + 1 ≤ memory) : ∃ sieve, (build bound memory).value = .ok sieve := by
  obtain ⟨size, exact⟩ := Option.isSome_iff_exists.mp (size?_isSome_iff.mpr sized)
  exact ⟨_, build_eq_ok_iff.mpr ⟨size, exact, (size?_eq_some_iff.mp exact).1 ▸ room, rfl⟩⟩

theorem build_without_room {bound : UInt64} {memory : Nat}
    (full : memory < 2 * (bound.toNat * bound.toNat) + 1) :
    (build bound memory).value = .error (.boundTooLarge bound) := by
  unfold build
  cases sized : size? bound with
  | none => rfl
  | some size =>
    rw [← (size?_eq_some_iff.mp sized).1] at full
    simp [full]

end Sieve
end SquareSums
