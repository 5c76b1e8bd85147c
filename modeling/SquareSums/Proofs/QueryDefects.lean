import SquareSums.Proofs.QueryReading

/-! What a refused text is told. Its first two words may have several defects together; each fault stands for one
of them, and is told exactly if the words have that defect and none of those that are looked for before it. -/

namespace SquareSums

namespace Blank

/-- The word stands in the text as a run of characters that are not blank, as long as it can be on both sides. -/
structure IsRun (text word before after : List Char) : Prop where
  parted : text = before ++ (word ++ after)
  nonempty : word ≠ []
  solid : ∀ character ∈ word, holds character = false
  begun : ∀ character ∈ before.getLast?, holds character = true
  ended : ∀ character ∈ after.head?, holds character = true

theorem IsRun.append {text word before after lead : List Char} (run : IsRun text word before after)
    (apart : ∀ character ∈ text.head?, holds character = true) : IsRun (lead ++ text) word (lead ++ before) after := by
  have inside : before ≠ [] := by
    rintro rfl
    obtain ⟨first, rest, same⟩ := List.exists_cons_of_ne_nil run.nonempty
    have blank := apart first (by rw [run.parted, same]; rfl)
    rw [run.solid first (same ▸ List.mem_cons_self)] at blank
    cases blank
  refine ⟨?_, run.nonempty, run.solid, ?_, run.ended⟩
  · rw [List.append_assoc, ← run.parted]
  · rw [List.getLast?_append_of_ne_nil _ inside]
    exact run.begun

theorem Cut.exists_isRun {text : List Char} {words : List (List Char)} (cut : Cut text words) :
    ∀ word ∈ words, ∃ before after, IsRun text word before after := by
  induction cut with
  | blanks _ => exact List.forall_mem_nil _
  | @word lead word rest later blank nonempty solid ended _ ih =>
    refine List.forall_mem_cons.mpr ⟨⟨lead, rest, rfl, nonempty, solid, ?_, ended⟩, fun other member => ?_⟩
    · exact fun character last => blank character (List.mem_of_getLast? last)
    · obtain ⟨before, after, run⟩ := ih other member
      have longer : IsRun ((lead ++ word) ++ rest) other ((lead ++ word) ++ before) after := run.append ended
      rw [List.append_assoc] at longer
      exact ⟨_, _, longer⟩

end Blank

def WritesWord (token : List Char) : Prop := ∃ number < UInt64.size, Numeral token number

theorem not_writesWord_iff {token : List Char} :
    ¬ WritesWord token ↔ ∀ number < UInt64.size, ¬ Numeral token number := by
  simp [WritesWord]

namespace Query

variable {words : List (List Char)} {token : String}

theorem rejection_missing_length_iff : Rejection words (.missing .length) ↔ words = [] := by
  constructor
  · rintro ⟨⟩
    rfl
  · rintro rfl
    exact .noLength

theorem rejection_malformed_length_iff :
    Rejection words (.malformed .length token) ↔
      ∃ first later, words = first :: later ∧ ¬ WritesWord first ∧ token = String.ofList first := by
  constructor
  · intro rejection
    cases rejection with
    | badLength unread => exact ⟨_, _, rfl, not_writesWord_iff.mpr unread, rfl⟩
  · rintro ⟨first, later, rfl, unread, rfl⟩
    exact .badLength (not_writesWord_iff.mp unread)

theorem rejection_missing_bound_iff :
    Rejection words (.missing .bound) ↔ ∃ first, words = [first] ∧ WritesWord first := by
  constructor
  · intro rejection
    cases rejection with
    | noBound isLength small => exact ⟨_, rfl, _, small, isLength⟩
  · rintro ⟨first, rfl, length, small, isLength⟩
    exact .noBound isLength small

theorem rejection_malformed_bound_iff :
    Rejection words (.malformed .bound token) ↔
      ∃ first second later, words = first :: second :: later ∧ WritesWord first ∧ ¬ WritesWord second ∧
        token = String.ofList second := by
  constructor
  · intro rejection
    cases rejection with
    | badBound isLength small unread =>
      exact ⟨_, _, _, rfl, ⟨_, small, isLength⟩, not_writesWord_iff.mpr unread, rfl⟩
  · rintro ⟨first, second, later, rfl, ⟨length, small, isLength⟩, unread, rfl⟩
    exact .badBound isLength small (not_writesWord_iff.mp unread)

theorem rejection_zeroLength_iff :
    Rejection words .zeroLength ↔
      ∃ first second later, words = first :: second :: later ∧ Numeral first 0 ∧ WritesWord second := by
  constructor
  · intro rejection
    cases rejection with
    | zeroLength isLength isBound small => exact ⟨_, _, _, rfl, isLength, _, small, isBound⟩
  · rintro ⟨first, second, later, rfl, isLength, bound, small, isBound⟩
    exact .zeroLength isLength isBound small

theorem rejection_boundTooLarge_iff {bound : UInt64} :
    Rejection words (.boundTooLarge bound) ↔
      ∃ first second later, words = first :: second :: later ∧
        (∃ length, Numeral first length ∧ 1 ≤ length ∧ length < UInt64.size) ∧
        Numeral second bound.toNat ∧ 0x7FFFFFFFFFFFFFFF < 2 * (bound.toNat * bound.toNat) + 1 := by
  have limit : Sieve.largestBound < bound.toNat ↔ 0x7FFFFFFFFFFFFFFF < 2 * (bound.toNat * bound.toNat) + 1 := by
    rw [← Nat.not_le, ← Sieve.size_lt_sizeLimit_iff, Sieve.sizeLimit]
    omega
  constructor
  · intro rejection
    cases rejection with
    | boundTooLarge isLength positive small isBound large =>
      exact ⟨_, _, _, rfl, ⟨_, isLength, positive, small⟩, isBound, limit.mp large⟩
  · rintro ⟨first, second, later, rfl, ⟨length, isLength, positive, small⟩, isBound, large⟩
    exact .boundTooLarge isLength positive small isBound (limit.mpr large)

/-- Each fault is told exactly for its own defect: a missing number only where the words end, a malformed number before
one that is missing after it, a length of zero only when both numbers are read, and a bound that is too large
last of all. A fault shows the token as it stands in the text. -/
theorem ofText_tells_first_defect {text : String} {words : List (List Char)} (cut : Blank.Cut text.toList words) :
    (ofText text = .error (.missing .length) ↔ words = []) ∧
    (∀ token, ofText text = .error (.malformed .length token) ↔
      ∃ first later, words = first :: later ∧ ¬ WritesWord first ∧ token = String.ofList first) ∧
    (ofText text = .error (.missing .bound) ↔ ∃ first, words = [first] ∧ WritesWord first) ∧
    (∀ token, ofText text = .error (.malformed .bound token) ↔
      ∃ first second later, words = first :: second :: later ∧ WritesWord first ∧ ¬ WritesWord second ∧
        token = String.ofList second) ∧
    (ofText text = .error .zeroLength ↔
      ∃ first second later, words = first :: second :: later ∧ Numeral first 0 ∧ WritesWord second) ∧
    (∀ bound, ofText text = .error (.boundTooLarge bound) ↔
      ∃ first second later, words = first :: second :: later ∧
        (∃ length, Numeral first length ∧ 1 ≤ length ∧ length < UInt64.size) ∧
        Numeral second bound.toNat ∧ 0x7FFFFFFFFFFFFFFF < 2 * (bound.toNat * bound.toNat) + 1) ∧
    (∀ reason, ofText text ≠ .error (.unreadable reason)) ∧
    ∀ quantity token, ofText text = .error (.malformed quantity token) →
      ∃ before after, Blank.IsRun text.toList token.toList before after := by
  simp only [ne_eq, ofText_eq_error_iff, cut.words_eq]
  refine ⟨rejection_missing_length_iff, fun token => rejection_malformed_length_iff, rejection_missing_bound_iff,
    fun token => rejection_malformed_bound_iff, rejection_zeroLength_iff, fun bound => rejection_boundTooLarge_iff,
    ?_, ?_⟩
  · rintro reason ⟨⟩
  · intro quantity token rejection
    cases rejection with
    | badLength _ =>
      rw [String.toList_ofList]
      exact cut.exists_isRun _ List.mem_cons_self
    | badBound _ _ _ =>
      rw [String.toList_ofList]
      exact cut.exists_isRun _ (List.mem_cons_of_mem _ List.mem_cons_self)

/-- A length of zero beside a bound that is too large, one that stands alone, and two malformed numbers. -/
theorem ofText_tells_first_defect_of_several :
    Blank.Cut "+0\u00a02147483648".toList ["+0".toList, "2147483648".toList] ∧
      ofText "+0\u00a02147483648" = .error .zeroLength ∧
      Blank.Cut "00 ".toList ["00".toList] ∧ ofText "00 " = .error (.missing .bound) ∧
      Blank.Cut "\u3000\uff15 -7".toList ["\uff15".toList, "-7".toList] ∧
      ofText "\u3000\uff15 -7" = .error (.malformed .length "\uff15") := by
  have both : Blank.Cut "+0\u00a02147483648".toList ["+0".toList, "2147483648".toList] := Blank.cut_iff.mpr rfl
  have alone : Blank.Cut "00 ".toList ["00".toList] := Blank.cut_iff.mpr rfl
  have neither : Blank.Cut "\u3000\uff15 -7".toList ["\uff15".toList, "-7".toList] := Blank.cut_iff.mpr rfl
  have zero : Numeral "+0".toList 0 := ⟨['0'], .inr rfl, by decide, List.all_eq_true.mp rfl, rfl⟩
  have zeros : Numeral "00".toList 0 := ⟨['0', '0'], .inl rfl, by decide, List.all_eq_true.mp rfl, rfl⟩
  have large : Numeral "2147483648".toList 2147483648 := ⟨_, .inl rfl, by decide, List.all_eq_true.mp rfl, rfl⟩
  obtain ⟨_, _, _, _, zeroLength, _⟩ := ofText_tells_first_defect both
  obtain ⟨_, _, missing, _⟩ := ofText_tells_first_defect alone
  obtain ⟨_, malformed, _⟩ := ofText_tells_first_defect neither
  exact ⟨both, zeroLength.mpr ⟨_, _, _, rfl, zero, _, by decide, large⟩, alone,
    missing.mpr ⟨_, rfl, _, by decide, zeros⟩, neither,
    (malformed _).mpr ⟨_, _, rfl, not_writesWord_iff.mpr (number?_eq_none_iff.mp rfl), rfl⟩⟩

end Query
end SquareSums
