import SquareSums.Proofs.SearchAgreement
import SquareSums.Proofs.WordArithmetic

/-! The table and the two searches again, in words, with every step that could fail refused where it would:
a sum or a product that does not fit, a difference below zero, a place outside of a table or of a list.
No step is refused, so these computations are the ones in exact numbers. Only the counts, which
decide nothing, stay exact numbers. -/

namespace SquareSums

theorem foldlM_eq_some_foldl {σ α : Type} (Keeps : σ → Prop) {step? : σ → α → Option σ} {step : σ → α → σ}
    {items : List α}
    (kept : ∀ item ∈ items, ∀ state, Keeps state → step? state item = some (step state item) ∧ Keeps (step state item))
    {start : σ} (begins : Keeps start) : items.foldlM step? start = some (items.foldl step start) := by
  induction items generalizing start with
  | nil => rfl
  | cons item items ih =>
    obtain ⟨first, later⟩ := List.forall_mem_cons.mp kept
    obtain ⟨taken, keeps⟩ := first start begins
    rw [List.foldlM_cons, taken, List.foldl_cons]
    exact ih later keeps

namespace Sieve

def set? (marks : Array Bool) (sum : UInt64) : Option (Array Bool) :=
  if sum.toNat < marks.size then some (marks.setIfInBounds sum.toNat true) else none

def markRowInWords? (bound : UInt64) (marks : Array Bool) (lesser : UInt64) : Option (Array Bool) := do
  let square ← Word.mul? lesser lesser
  (Word.upTo lesser bound).foldlM (fun marks greater => do set? marks (← Word.mulAdd? greater greater square)) marks

def markInWords? (bound : UInt64) (size : Nat) : Option (Array Bool) :=
  (Word.upTo 0 bound).foldlM (markRowInWords? bound) (Array.replicate size false)

def behind? (values : List UInt64) (place : Nat) : Option (List UInt64) := do
  let next ← Word.ofNat? (place + 1)
  if next.toNat ≤ values.length then some (values.drop next.toNat) else none

section Searches

variable (sieve : Sieve) (length : UInt64)

def testPair? (first : UInt64) (tally : Tally) (later : UInt64) : Option Tally := do
  let difference ← Word.sub? later first
  pure (tally.test sieve length ⟨difference, first⟩)

def testBehind? (values : List UInt64) (tally : Tally) (placed : UInt64 × Nat) : Option Tally := do
  (← behind? values placed.2).foldlM (testPair? sieve length placed.1) tally

def findPairsInWords? : Option Findings := do
  let tally ← sieve.values.zipIdx.foldlM (testBehind? sieve length sieve.values) ⟨#[], 0⟩
  pure (tally.findings sieve.values.length)

def testReach? (last : UInt64) (tally : Tally) (first : UInt64) : Option Tally := do
  let most ← Word.sub? last first
  pure (tally.testAll sieve length ((Word.upTo 1 most).map fun difference => ⟨difference, first⟩))

def last? : Option UInt64 := do Word.sub? (← Word.ofNat? sieve.size) 1

def findExhaustivelyInWords? : Option Findings := do
  let last ← sieve.last?
  let tally ← sieve.values.foldlM (testReach? sieve length last) ⟨#[], 0⟩
  pure (tally.findings sieve.values.length)

end Searches

theorem squares_lt_size {bound : UInt64} {size lesser greater : Nat} (sized : size? bound = some size)
    (first : lesser ≤ bound.toNat) (second : greater ≤ bound.toNat) :
    lesser * lesser + greater * greater < size ∧ size < UInt64.size := by
  obtain ⟨rfl, small⟩ := size?_eq_some_iff.mp sized
  have bisquare : IsBisquare bound.toNat (lesser * lesser + greater * greater) := ⟨lesser, greater, first, second, rfl⟩
  exact ⟨Nat.lt_succ_of_le bisquare.le, Nat.lt_trans small (by decide)⟩

theorem markRowInWords?_eq {bound lesser : UInt64} {size : Nat} (sized : size? bound = some size)
    (within : lesser ≤ bound) {marks : Array Bool} (whole : marks.size = size) :
    markRowInWords? bound marks lesser = some (markRow bound.toNat marks lesser.toNat) := by
  rw [UInt64.le_iff_toNat_le] at within
  have fits := squares_lt_size sized within within
  obtain ⟨square, squared⟩ := Word.exists_toNat_eq (show lesser.toNat * lesser.toNat < UInt64.size by omega)
  have multiplied : Word.mul? lesser lesser = some square := Word.ofNat?_eq_some_iff.mpr squared
  rw [markRowInWords?, multiplied, markRow, ← Word.map_toNat_upTo, List.foldl_map]
  refine foldlM_eq_some_foldl (fun marks => marks.size = size) ?_ whole
  intro greater member marks whole
  have bounded := UInt64.le_iff_toNat_le.mp (Word.mem_upTo.mp member).2
  have inside := squares_lt_size sized within bounded
  obtain ⟨sum, exact⟩ := Word.exists_toNat_eq (Nat.lt_trans inside.1 inside.2)
  have added : Word.mulAdd? greater greater square = some sum := by
    rw [Word.mulAdd?_eq_some_iff, exact, squared, Nat.add_comm]
  refine ⟨?_, Array.size_setIfInBounds.trans whole⟩
  rw [added, ← exact]
  exact if_pos (by rw [exact, whole]; exact inside.1)

theorem markInWords?_eq {bound : UInt64} {size : Nat} (sized : size? bound = some size) :
    markInWords? bound size = some (mark bound.toNat size) := by
  have roots : List.range (bound.toNat + 1) = (Word.upTo 0 bound).map UInt64.toNat := by
    rw [Word.map_toNat_upTo, List.range_eq_range']
    rfl
  rw [markInWords?, mark, roots, List.foldl_map]
  refine foldlM_eq_some_foldl (fun marks => marks.size = size) ?_ Array.size_replicate
  intro lesser member marks whole
  have within := (Word.mem_upTo.mp member).2
  exact ⟨markRowInWords?_eq sized within whole, ((marks_markRow bound.toNat).size marks _).trans whole⟩

theorem behind?_eq {values : List UInt64} (few : values.length < UInt64.size) {place : Nat}
    (inside : place < values.length) : behind? values place = some (values.drop (place + 1)) := by
  obtain ⟨next, exact⟩ := Word.exists_toNat_eq (show place + 1 < UInt64.size by omega)
  have found : Word.ofNat? (place + 1) = some next := Word.ofNat?_eq_some_iff.mpr exact
  rw [behind?, found, ← exact]
  exact if_pos (exact ▸ inside)

theorem lt_of_mem_drop {values : List UInt64} (ascending : values.Pairwise (· < ·)) {place : Nat} {first later : UInt64}
    (placed : values[place]? = some first) (behind : later ∈ values.drop (place + 1)) : first < later := by
  obtain ⟨inside, rfl⟩ := List.getElem?_eq_some_iff.mp placed
  have parted := ascending.drop (i := place)
  rw [List.drop_eq_getElem_cons inside, List.pairwise_cons] at parted
  exact parted.1 later behind

theorem testPairs_eq_foldl (sieve : Sieve) (length : UInt64) {values rest : List UInt64} {place : Nat}
    (parted : values.drop place = rest) (tally : Tally) :
    sieve.testPairs length rest tally = (rest.zipIdx place).foldl
      (fun tally placed =>
        tally.testAll sieve length ((values.drop (placed.2 + 1)).map (Progression.between placed.1))) tally := by
  induction rest generalizing place tally with
  | nil => rfl
  | cons first laters ih =>
    have later : values.drop (place + 1) = laters := by
      rw [List.drop_add_one_eq_tail_drop, parted, List.tail_cons]
    rw [List.zipIdx_cons, List.foldl_cons, testPairs, ih later, later]

theorem length_values_le (sieve : Sieve) : sieve.values.length ≤ sieve.size := by
  rw [values, List.length_map]
  exact (List.length_filter_le _ _).trans_eq List.length_range

namespace Faithful

variable {sieve : Sieve} (faithful : sieve.Faithful)
include faithful

theorem testBehind?_eq (length : UInt64) {placed : UInt64 × Nat} (member : placed ∈ sieve.values.zipIdx)
    (tally : Tally) : testBehind? sieve length sieve.values tally placed = some
      (tally.testAll sieve length ((sieve.values.drop (placed.2 + 1)).map (Progression.between placed.1))) := by
  have found := List.mem_zipIdx_iff_getElem?.mp member
  have few := Nat.lt_of_le_of_lt sieve.length_values_le faithful.size_lt_word
  rw [testBehind?, behind?_eq few (List.getElem?_eq_some_iff.mp found).1, Tally.testAll, List.foldl_map]
  refine foldlM_eq_some_foldl (fun _ => True) ?_ trivial
  intro later behind tally _
  have less := lt_of_mem_drop faithful.values_ascending found behind
  rw [testPair?, Word.sub?, if_pos (UInt64.le_of_lt less)]
  exact ⟨rfl, trivial⟩

theorem findPairsInWords?_eq (length : UInt64) :
    sieve.findPairsInWords? length = some (sieve.findPairs length).value := by
  have searched : sieve.values.zipIdx.foldlM (testBehind? sieve length sieve.values) ⟨#[], 0⟩ =
      some (sieve.testPairs length sieve.values ⟨#[], 0⟩) := by
    rw [testPairs_eq_foldl sieve length (List.drop_zero (l := sieve.values))]
    refine foldlM_eq_some_foldl (fun _ => True) ?_ trivial
    exact fun placed member tally _ => ⟨faithful.testBehind?_eq length member tally, trivial⟩
  rw [findPairsInWords?, searched]
  rfl

theorem size_pos : 1 ≤ sieve.size := by
  rw [faithful.size_eq]
  exact Nat.le_add_left _ _

theorem le_last {first : UInt64} (member : first ∈ sieve.values) : first.toNat ≤ sieve.size - 1 := by
  rw [faithful.size_eq]
  exact (faithful.mem_values.mp member).le

theorem exists_last?_eq : ∃ last, sieve.last? = some last ∧ last.toNat = sieve.size - 1 := by
  have positive := faithful.size_pos
  have fits := faithful.size_lt_word
  obtain ⟨size, exact⟩ := Word.exists_toNat_eq fits
  obtain ⟨last, before⟩ := Word.exists_toNat_eq (Nat.lt_of_le_of_lt (Nat.sub_le sieve.size 1) fits)
  have found : Word.ofNat? sieve.size = some size := Word.ofNat?_eq_some_iff.mpr exact
  have taken : Word.sub? size 1 = some last := by
    rw [Word.sub?_eq_some_iff, exact, before, UInt64.toNat_one]
    omega
  refine ⟨last, ?_, before⟩
  rw [last?, found]
  exact taken

theorem testReach?_eq (length : UInt64) {last first : UInt64} (exact : last.toNat = sieve.size - 1)
    (member : first ∈ sieve.values) (tally : Tally) :
    testReach? sieve length last tally first = some (tally.testAll sieve length (sieve.reaches first)) := by
  have within : first ≤ last := by
    rw [UInt64.le_iff_toNat_le, exact]
    exact faithful.le_last member
  have distance : (last - first).toNat = sieve.size - 1 - first.toNat := by
    rw [UInt64.toNat_sub_of_le _ _ within, exact]
  have candidates : (Word.upTo 1 (last - first)).map (fun difference => ⟨difference, first⟩) = sieve.reaches first := by
    rw [Word.upTo, distance, List.map_map]
    rfl
  rw [testReach?, Word.sub?, if_pos within, ← candidates]
  rfl

theorem findExhaustivelyInWords?_eq (length : UInt64) :
    sieve.findExhaustivelyInWords? length = some (sieve.findExhaustively length) := by
  obtain ⟨last, found, exact⟩ := faithful.exists_last?_eq
  have searched : sieve.values.foldlM (testReach? sieve length last) ⟨#[], 0⟩ = some (sieve.values.foldl
      (fun (tally : Tally) first => tally.testAll sieve length (sieve.reaches first)) ⟨#[], 0⟩) := by
    refine foldlM_eq_some_foldl (fun _ => True) ?_ trivial
    exact fun first member tally _ => ⟨faithful.testReach?_eq length exact member tally, trivial⟩
  rw [findExhaustivelyInWords?, found, Option.bind_eq_bind, Option.bind_some, searched]
  rfl

end Faithful

/-- No step that the table or a search takes can fail. The sums of the squares that are marked are words and
places of the table; a search asks only for places and differences that are there. So with every such
step refused where it would fail, the table and the findings are the same. -/
theorem steps_never_fail (bound : UInt64) :
    (∀ size, size? bound = some size →
      (∀ lesser greater, lesser ≤ greater → greater ≤ bound.toNat →
        ∀ number ∈ [lesser * lesser, greater * greater, lesser * lesser + greater * greater],
          number < UInt64.size ∧ number < (mark bound.toNat size).size) ∧
      markInWords? bound size = some (mark bound.toNat size)) ∧
    ∀ memory sieve, (build bound memory).value = .ok sieve → ∀ length,
      ((∀ place first, sieve.values[place]? = some first →
          place + 1 ≤ sieve.values.length ∧
          ∀ later ∈ sieve.values.drop (place + 1),
            first ≤ later ∧ 1 ≤ (Progression.between first later).difference) ∧
        sieve.findPairsInWords? length = some (sieve.findPairs length).value) ∧
      (1 ≤ sieve.size ∧ (∀ first ∈ sieve.values, first.toNat ≤ sieve.size - 1) ∧
        sieve.findExhaustivelyInWords? length = some (sieve.findExhaustively length)) := by
  constructor
  · intro size sized
    refine ⟨?_, markInWords?_eq sized⟩
    intro lesser greater ascending within number member
    have inside := squares_lt_size sized (ascending.trans within) within
    rw [size_mark]
    simp only [List.mem_cons, List.not_mem_nil, or_false] at member
    rcases member with rfl | rfl | rfl <;> omega
  · intro memory sieve built length
    obtain ⟨_, faithful⟩ := faithful_of_build built
    refine ⟨⟨?_, faithful.findPairsInWords?_eq length⟩, faithful.size_pos, fun first => faithful.le_last,
      faithful.findExhaustivelyInWords?_eq length⟩
    intro place first placed
    refine ⟨(List.getElem?_eq_some_iff.mp placed).1, fun later behind => ?_⟩
    have less := lt_of_mem_drop faithful.values_ascending placed behind
    have distance := toNat_difference_between less
    refine ⟨UInt64.le_of_lt less, ?_⟩
    rw [UInt64.lt_iff_toNat_lt] at less
    rw [UInt64.le_iff_toNat_le, distance, UInt64.toNat_one]
    omega

/-- At the largest bound that has a size, twice the square of the bound is still a place of the table; and both searches
through a small table. -/
theorem steps_never_fail_of_largest_bound :
    size? 0x7FFFFFFF = some 9223372028264841219 ∧
      0x7FFFFFFF * 0x7FFFFFFF + 0x7FFFFFFF * 0x7FFFFFFF < (mark (0x7FFFFFFF : UInt64).toNat 9223372028264841219).size ∧
      ∃ sieve, (build 3).value = .ok sieve ∧ sieve.findPairsInWords? 4 = some (sieve.findPairs 4).value ∧
        sieve.findExhaustivelyInWords? 4 = some (sieve.findExhaustively 4) := by
  have sized : size? 0x7FFFFFFF = some 9223372028264841219 := by decide
  have largest := ((steps_never_fail 0x7FFFFFFF).1 _ sized).1 0x7FFFFFFF 0x7FFFFFFF (Nat.le_refl _) (Nat.le_refl _)
  have built : (build 3).value = .ok ⟨3, mark 3 19⟩ := rfl
  obtain ⟨⟨_, pairs⟩, _, _, all⟩ := (steps_never_fail 3).2 _ _ built 4
  refine ⟨sized, (largest _ ?_).2, _, built, pairs, all⟩
  exact List.mem_cons_of_mem _ (List.mem_cons_of_mem _ (List.mem_singleton_self _))

end Sieve
end SquareSums
