import Mathlib.Data.List.Basic
import SquareSums.Pattern.CharSet
import SquareSums.Proofs.CharacterNumbers

/-! Sets of characters, told by the points that their ranges cover. Bringing ranges into the usual form covers
no more and no fewer, and a set without cases has every character one of whose cases is in it. -/

namespace SquareSums

namespace CharSet

/-- Whether a point is in one of the ranges. -/
def Covers (ranges : List (Nat × Nat)) (point : Nat) : Prop := ∃ range ∈ ranges, range.1 ≤ point ∧ point ≤ range.2

theorem contains_iff {members : CharSet} {character : Char} :
    members.contains character = true ↔ Covers members.ranges character.toNat := by
  simp [contains, Covers, List.any_eq_true]

theorem contains_ofChar {one other : Char} : (ofChar one).contains other = true ↔ other = one := by
  rw [contains_iff, ← Char.toNat_inj]
  simp only [ofChar, Covers, List.mem_singleton, exists_eq_left]
  omega

theorem ranges_of_single? {members : CharSet} {character : Char} (single : members.single? = some character) :
    members.ranges = [(character.toNat, character.toNat)] := by
  rw [single?] at single
  split at single
  next point stop same =>
    split at single
    next alone =>
      obtain ⟨alone, valid⟩ := Bool.and_eq_true_iff.mp alone
      cases of_decide_eq_true alone
      cases single
      rw [same, toNat_ofNat_of_isValidChar (of_decide_eq_true valid)]
    next => cases single
  next => cases single

theorem not_covers_nil {point : Nat} : ¬ Covers [] point := by
  intro covered
  obtain ⟨_, member, _⟩ := covered
  cases member

theorem covers_cons {range : Nat × Nat} {ranges : List (Nat × Nat)} {point : Nat} :
    Covers (range :: ranges) point ↔ (range.1 ≤ point ∧ point ≤ range.2) ∨ Covers ranges point := by
  simp [Covers]

theorem covers_append {earlier later : List (Nat × Nat)} {point : Nat} :
    Covers (earlier ++ later) point ↔ Covers earlier point ∨ Covers later point := by
  simp only [Covers, List.mem_append, or_and_right, exists_or]

theorem covers_join {point : Nat} (ranges joined : List (Nat × Nat))
    (ascending : ranges.Pairwise fun left right => left.1 ≤ right.1)
    (behind : ∀ last, joined.head? = some last → ∀ range ∈ ranges, last.1 ≤ range.1) :
    Covers (join joined ranges) point ↔ Covers joined point ∨ Covers ranges point := by
  induction ranges generalizing joined with
  | nil => simp [join, Covers]
  | cons range later ih =>
    obtain ⟨least, rest⟩ := List.pairwise_cons.mp ascending
    obtain ⟨first, last⟩ := range
    cases joined with
    | nil =>
      rw [join]
      rw [ih [(first, last)] rest]
      · simp [Covers]
      · rintro _ ⟨⟩
        exact least
    | cons reached earlier =>
      obtain ⟨start, stop⟩ := reached
      have order : start ≤ first := behind (start, stop) rfl (first, last) List.mem_cons_self
      rw [join]
      by_cases touching : first ≤ stop + 1
      · rw [if_pos touching, ih ((start, max stop last) :: earlier) rest]
        · have merged : (start ≤ point ∧ point ≤ max stop last) ↔
              (start ≤ point ∧ point ≤ stop) ∨ (first ≤ point ∧ point ≤ last) := by omega
          simp only [covers_cons, merged, or_assoc, or_left_comm]
        · rintro _ ⟨⟩ range member
          exact Nat.le_trans order (least range member)
      · rw [if_neg touching, ih ((first, last) :: (start, stop) :: earlier) rest]
        · simp only [covers_cons, or_assoc, or_left_comm]
        · rintro _ ⟨⟩
          exact least

theorem covers_ofRanges {ranges : List (Nat × Nat)} {point : Nat} :
    Covers (ofRanges ranges).ranges point ↔ Covers ranges point := by
  have ascending : (ranges.mergeSort fun left right => decide (left.1 ≤ right.1)).Pairwise
      fun left right => left.1 ≤ right.1 := by
    refine (List.pairwise_mergeSort ?_ ?_ ranges).imp of_decide_eq_true
    · intro near middle far
      simpa using Nat.le_trans
    · intro left right
      simpa using Nat.le_total left.1 right.1
  rw [ofRanges, covers_join _ [] ascending nofun]
  simp [Covers]

theorem covers_filterMap_caseRange? {low high : Char} {other point : Nat} {ranges : List (Nat × Nat)} :
    Covers (ranges.filterMap (caseRange? low high other)) point ↔
      ∃ first, Covers ranges first ∧ low.toNat ≤ first ∧ first ≤ high.toNat ∧ point = first - low.toNat + other := by
  simp only [Covers, List.mem_filterMap, caseRange?]
  constructor
  · rintro ⟨_, ⟨range, member, moved⟩, below, above⟩
    split at moved
    next proper =>
      cases moved
      dsimp only at below above proper
      exact ⟨point - other + low.toNat, ⟨range, member, by omega, by omega⟩, by omega, by omega, by omega⟩
    next => cases moved
  · rintro ⟨first, ⟨range, member, below, above⟩, least, most, rfl⟩
    refine ⟨_, ⟨range, member, if_pos ?_⟩, ?_, ?_⟩
    · omega
    · dsimp only
      omega
    · dsimp only
      omega

theorem contains_caseless {members : CharSet} {character : Char} :
    members.caseless.contains character = true ↔
      ∃ other : Char, members.contains other = true ∧ other.toLower = character.toLower := by
  have lowerA : 'a'.toNat = 97 := rfl
  have lowerZ : 'z'.toNat = 122 := rfl
  have upperA : 'A'.toNat = 65 := rfl
  have upperZ : 'Z'.toNat = 90 := rfl
  simp only [contains_iff, caseless, covers_ofRanges, covers_append, covers_filterMap_caseRange?, ← Char.toNat_inj,
    toNat_toLower, lowerA, lowerZ, upperA, upperZ]
  have letter {point : Nat} (small : point ≤ 122) : (Char.ofNat point).toNat = point :=
    toNat_ofNat_of_isValidChar (.inl (by omega))
  constructor
  · rintro ((covered | ⟨first, covered, least, most, moved⟩) | ⟨first, covered, least, most, moved⟩)
    · exact ⟨character, covered, rfl⟩
    · refine ⟨Char.ofNat first, ?_, ?_⟩
      · rwa [letter most]
      · rw [letter most, if_neg (by omega), if_pos (by omega)]
        omega
    · refine ⟨Char.ofNat first, ?_, ?_⟩
      · rwa [letter (by omega)]
      · rw [letter (by omega), if_pos (by omega), if_neg (by omega)]
        omega
  · rintro ⟨other, covered, same⟩
    by_cases alike : other.toNat = character.toNat
    · exact .inl (.inl (alike ▸ covered))
    · by_cases upper : 65 ≤ other.toNat ∧ other.toNat ≤ 90
      · refine .inr ⟨other.toNat, covered, upper.1, upper.2, ?_⟩
        rw [if_pos upper] at same
        split at same
        all_goals omega
      · refine .inl (.inr ⟨other.toNat, covered, ?_⟩)
        rw [if_neg upper] at same
        split at same
        all_goals omega

end CharSet

end SquareSums
