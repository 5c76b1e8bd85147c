import SquareSums.Proofs.OutputForms
import SquareSums.Proofs.SolutionListing

/-! How the listings of two requests compare. A larger bound adds no bisquare below the next square, and
a longer progression is two shorter ones that overlap. A listing whose progressions another one wants
as well is a sublist of it, since both are in the same order. -/

namespace SquareSums

theorem IsBisquare.mono {lower upper number : Nat} (raised : lower ≤ upper) (bisquare : IsBisquare lower number) :
    IsBisquare upper number := by
  obtain ⟨lesser, greater, first, second, sum⟩ := bisquare
  exact ⟨lesser, greater, Nat.le_trans first raised, Nat.le_trans second raised, sum⟩

theorem IsBisquare.of_lt_next_square {lower upper number : Nat} (bisquare : IsBisquare upper number)
    (small : number < (lower + 1) * (lower + 1)) : IsBisquare lower number := by
  obtain ⟨lesser, greater, _, _, rfl⟩ := bisquare
  have root_le {root : Nat} (square : root * root < (lower + 1) * (lower + 1)) : root ≤ lower :=
    Nat.lt_succ_iff.mp (Nat.mul_self_lt_mul_self_iff.mp square)
  exact ⟨lesser, greater, root_le (by omega), root_le (by omega), rfl⟩

namespace IsBisquareProgression

variable {lower upper bound length shorter longer first difference : Nat}

theorem of_raised (progression : IsBisquareProgression lower length first difference) (raised : lower ≤ upper) :
    IsBisquareProgression upper length first difference :=
  ⟨progression.1, fun index inside => (progression.2 index inside).mono raised⟩

theorem of_last_lt (progression : IsBisquareProgression upper length first difference)
    (near : first + (max length 2 - 1) * difference < (lower + 1) * (lower + 1)) :
    IsBisquareProgression lower length first difference := by
  refine ⟨progression.1, fun index inside => (progression.2 index inside).of_lt_next_square ?_⟩
  have offset : index * difference ≤ (max length 2 - 1) * difference := Nat.mul_le_mul_right _ (by omega)
  omega

theorem of_shortened (progression : IsBisquareProgression bound longer first difference)
    (shortened : shorter ≤ longer) : IsBisquareProgression bound shorter first difference :=
  ⟨progression.1, fun index inside => progression.2 index (by omega)⟩

theorem succ_iff (two : 2 ≤ length) :
    IsBisquareProgression bound (length + 1) first difference ↔
      IsBisquareProgression bound length first difference ∧
        IsBisquareProgression bound length (first + difference) difference := by
  have shift (index : Nat) : first + difference + index * difference = first + (index + 1) * difference := by
    rw [Nat.succ_mul]
    omega
  constructor
  · intro progression
    refine ⟨progression.of_shortened (Nat.le_succ length), progression.1, fun index inside => ?_⟩
    rw [shift]
    exact progression.2 (index + 1) (by omega)
  · rintro ⟨front, back⟩
    refine ⟨front.1, fun index inside => ?_⟩
    cases index with
    | zero => exact front.2 0 (by omega)
    | succ index =>
      rw [← shift]
      exact back.2 index (by omega)

end IsBisquareProgression

theorem IsListing.sublist {bound length other otherLength : Nat} {smaller larger : List Progression}
    (first : IsListing bound length smaller) (second : IsListing other otherLength larger)
    (wanted : ∀ {first difference}, IsBisquareProgression bound length first difference →
      IsBisquareProgression other otherLength first difference) : smaller.Sublist larger :=
  Progression.sublist_of_subset first.ordered second.ordered fun progression member =>
    (second.complete.mem_iff progression).mpr (wanted ((first.complete.mem_iff progression).mp member))

def Report.Lists (report : Report) (first difference : Nat) : Prop :=
  ∃ progression ∈ report.progressions, progression.first.toNat = first ∧ progression.difference.toNat = difference

theorem IsListing.lists_iff {bound length : Nat} {report : Report}
    (listing : IsListing bound length report.progressions) {first difference : Nat} :
    report.Lists first difference ↔ IsBisquareProgression bound length first difference :=
  listing.complete first difference

theorem Report.text_eq_none_iff {report : Report} : report.text = "NONE\n" ↔ report.progressions = [] := by
  rw [text_eq_listingText, listingText_eq_none_iff]

namespace Query

/-- A larger bound loses no progression, and what it adds ends at the next square or beyond. -/
theorem solve_raised_bound {lower upper : UInt64} {memory otherMemory : Nat} {smaller larger : Sieve}
    (raised : lower ≤ upper) (built : (Sieve.build lower memory).value = .ok smaller)
    (alsoBuilt : (Sieve.build upper otherMemory).value = .ok larger) (length : UInt64) :
    ∃ report wider, (solve ⟨length, lower⟩ memory).value = .ok report ∧
      (solve ⟨length, upper⟩ otherMemory).value = .ok wider ∧
      (∀ first difference, report.Lists first difference → wider.Lists first difference) ∧
      (∀ first difference, wider.Lists first difference →
        first + (max length.toNat 2 - 1) * difference < (lower.toNat + 1) * (lower.toNat + 1) →
        report.Lists first difference) ∧
      report.progressions.Sublist wider.progressions := by
  obtain ⟨report, solved, listing⟩ := solve_eq_ok built length
  obtain ⟨wider, alsoSolved, others⟩ := solve_eq_ok alsoBuilt length
  have exact : lower.toNat ≤ upper.toNat := UInt64.le_iff_toNat_le.mp raised
  refine ⟨report, wider, solved, alsoSolved, ?_, ?_, listing.sublist others fun wanted => wanted.of_raised exact⟩
  · intro first difference listed
    exact others.lists_iff.mpr ((listing.lists_iff.mp listed).of_raised exact)
  · intro first difference listed near
    exact listing.lists_iff.mpr ((others.lists_iff.mp listed).of_last_lt near)

/-- The terms 1, 5 and 9 stay below the next square, which is sixteen. -/
theorem solve_raised_bound_of_three_four :
    ∃ report wider, (3 : UInt64) ≤ 4 ∧ (solve ⟨3, 3⟩).value = .ok report ∧ (solve ⟨3, 4⟩).value = .ok wider ∧
      report.progressions.Sublist wider.progressions ∧ wider.Lists 1 4 ∧
      1 + (max 3 2 - 1) * 4 < (3 + 1) * (3 + 1) ∧ report.Lists 1 4 := by
  have built : (Sieve.build 3).value = .ok ⟨3, Sieve.mark 3 19⟩ := rfl
  have alsoBuilt : (Sieve.build 4).value = .ok ⟨4, Sieve.mark 4 33⟩ := rfl
  obtain ⟨report, wider, solved, alsoSolved, _, near, sublist⟩ := solve_raised_bound (by decide) built alsoBuilt 3
  obtain ⟨_, same, listing⟩ := solve_eq_ok alsoBuilt 3
  cases same.symm.trans alsoSolved
  have marked : ∀ index < 3, (Sieve.mark 4 33).getD (1 + index * 4) false = true := by decide
  have listed : wider.Lists 1 4 :=
    listing.lists_iff.mpr ⟨by decide, fun index inside => ((Sieve.marked_mark 4 33 _).mp (marked index inside)).2⟩
  exact ⟨report, wider, by decide, solved, alsoSolved, sublist, listed, by decide, near 1 4 listed (by decide)⟩

/-- Two overlapping progressions of one length are one of the next length, from length two on. So a
greater length lists no more, and nothing once a smaller one lists nothing. -/
theorem solve_next_length {bound : UInt64} {memory : Nat} {sieve : Sieve}
    (built : (Sieve.build bound memory).value = .ok sieve) :
    (∀ length : UInt64, 2 ≤ length → length.toNat + 1 < UInt64.size →
      ∃ report longer, (solve ⟨length, bound⟩ memory).value = .ok report ∧
        (solve ⟨length + 1, bound⟩ memory).value = .ok longer ∧
        (∀ first difference, longer.Lists first difference ↔
          report.Lists first difference ∧ report.Lists (first + difference) difference) ∧
        longer.progressions.Sublist report.progressions) ∧
    ∀ shorter greater : UInt64, shorter ≤ greater →
      ∃ report longer, (solve ⟨shorter, bound⟩ memory).value = .ok report ∧
        (solve ⟨greater, bound⟩ memory).value = .ok longer ∧
        (report.text = "NONE\n" → longer.text = "NONE\n") := by
  constructor
  · intro length two small
    have next : (length + 1).toNat = length.toNat + 1 := by
      rw [UInt64.toNat_add, UInt64.toNat_one]
      exact Nat.mod_eq_of_lt small
    obtain ⟨report, solved, listing⟩ := solve_eq_ok built length
    obtain ⟨longer, alsoSolved, others⟩ := solve_eq_ok built (length + 1)
    rw [next] at others
    refine ⟨report, longer, solved, alsoSolved, ?_, others.sublist listing fun wanted =>
      wanted.of_shortened (Nat.le_succ _)⟩
    intro first difference
    rw [others.lists_iff, listing.lists_iff, listing.lists_iff]
    exact IsBisquareProgression.succ_iff (UInt64.le_iff_toNat_le.mp two)
  · intro shorter greater shortened
    obtain ⟨report, solved, listing⟩ := solve_eq_ok built shorter
    obtain ⟨longer, alsoSolved, others⟩ := solve_eq_ok built greater
    refine ⟨report, longer, solved, alsoSolved, fun nothing => ?_⟩
    rw [Report.text_eq_none_iff] at nothing ⊢
    have sublist := others.sublist listing fun wanted =>
      wanted.of_shortened (UInt64.le_iff_toNat_le.mp shortened)
    rw [nothing] at sublist
    exact List.sublist_nil.mp sublist

theorem solve_next_length_of_five_seven :
    (∃ report longer, (2 : UInt64) ≤ 5 ∧ (5 : UInt64).toNat + 1 < UInt64.size ∧
      (solve ⟨5, 7⟩).value = .ok report ∧ (solve ⟨5 + 1, 7⟩).value = .ok longer ∧
      (longer.Lists 37 4 ↔ report.Lists 37 4 ∧ report.Lists (37 + 4) 4)) ∧
    ∃ report longer, (2 : UInt64) ≤ 5 ∧ (solve ⟨2, 0⟩).value = .ok report ∧ (solve ⟨5, 0⟩).value = .ok longer ∧
      report.text = "NONE\n" ∧ longer.text = "NONE\n" := by
  have built : (Sieve.build 7).value = .ok ⟨7, Sieve.mark 7 99⟩ := rfl
  have least : (Sieve.build 0).value = .ok ⟨0, Sieve.mark 0 1⟩ := rfl
  obtain ⟨report, longer, solved, alsoSolved, overlap, _⟩ := (solve_next_length built).1 5 (by decide) (by decide)
  obtain ⟨none, alsoNone, answered, alsoAnswered, stays⟩ := (solve_next_length least).2 2 5 (by decide)
  have nothing : none.text = "NONE\n" := by
    cases answered
    rfl
  exact ⟨⟨report, longer, by decide, by decide, solved, alsoSolved, overlap 37 4⟩,
    none, alsoNone, by decide, answered, alsoAnswered, nothing, stays nothing⟩

end Query
end SquareSums
