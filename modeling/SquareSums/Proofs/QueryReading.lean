import SquareSums.Proofs.QueryGrammar
import SquareSums.Proofs.WordArithmetic

/-! A text is a request exactly if its first two words are numbers of a length and a bound. How a text
is cut is told by a relation on texts and words alone, and the value of a number by its digits; that
value may also be gathered in words, digit by digit, and is then refused as soon as it does not fit. -/

namespace SquareSums

namespace Blank

/-- The words of a text are its maximal runs of characters that are not blank: each has blanks or an end
of the text on both sides. -/
inductive Cut : List Char → List (List Char) → Prop where
  | blanks {text : List Char} (blank : ∀ character ∈ text, holds character = true) : Cut text []
  | word {lead word rest : List Char} {later : List (List Char)}
      (blank : ∀ character ∈ lead, holds character = true) (nonempty : word ≠ [])
      (solid : ∀ character ∈ word, holds character = false)
      (ended : ∀ character ∈ rest.head?, holds character = true) (cut : Cut rest later) :
      Cut (lead ++ (word ++ rest)) (word :: later)

theorem Cut.words_eq {text : List Char} {found : List (List Char)} (cut : Cut text found) : words text = found := by
  induction cut with
  | @blanks text blank =>
    have same := words_append_blanks blank []
    rwa [List.append_nil] at same
  | word blank nonempty solid ended cut ih =>
    rw [words_append_blanks blank, words_append nonempty solid ended, ih]

theorem cut_words (text : List Char) : Cut text (words text) := by
  rw [words_eq]
  cases found : word? text with
  | none => exact .blanks (blank_of_word?_eq_none found)
  | some cut =>
    obtain ⟨word, rest⟩ := cut
    obtain ⟨lead, split, blank, nonempty, solid, ended⟩ := exists_lead_of_word?_eq_some found
    have shorter : rest.length < text.length := by
      have := List.length_pos_of_ne_nil nonempty
      rw [split, List.length_append, List.length_append]
      omega
    have later := cut_words rest
    rw [split]
    exact .word blank nonempty solid ended later
termination_by text.length

/-- Every text is cut in exactly one way. -/
theorem cut_iff {text : List Char} {found : List (List Char)} : Cut text found ↔ words text = found :=
  ⟨Cut.words_eq, fun same => same ▸ cut_words text⟩

end Blank

namespace Decimal

def append? (number : UInt64) (digit : Char) : Option UInt64 :=
  if digit.isDigit then Word.mulAdd? number 10 (UInt64.ofNat (digit.toNat - '0'.toNat)) else none

def gather? (digits : List Char) : Option UInt64 :=
  if digits.isEmpty then none else digits.foldlM append? 0

theorem append?_eq_some_iff {number next : UInt64} {digit : Char} :
    append? number digit = some next ↔
      digit.isDigit = true ∧ next.toNat = 10 * number.toNat + (digit.toNat - '0'.toNat) := by
  rw [append?]
  split
  next isDigit =>
    have small : digit.toNat - '0'.toNat < UInt64.size :=
      Nat.lt_of_le_of_lt (Nat.sub_le _ _) (Nat.lt_trans (UInt32.toNat_lt digit.val) (by decide))
    rw [Word.mulAdd?_eq_some_iff, UInt64.toNat_ofNat_of_lt' small, Nat.mul_comm]
    exact (and_iff_right isDigit).symm
  next noDigit => simp [noDigit]

theorem le_ofDigitChars (digits : List Char) (start : Nat) : start ≤ Nat.ofDigitChars 10 digits start := by
  induction digits generalizing start with
  | nil => exact Nat.le_refl start
  | cons digit later ih =>
    rw [Nat.ofDigitChars_cons]
    exact Nat.le_trans (by omega) (ih _)

/-- No step is refused before the whole number is too large, since a number only grows. -/
theorem foldlM_append?_eq_some_iff {digits : List Char} {start word : UInt64} :
    digits.foldlM append? start = some word ↔
      (∀ digit ∈ digits, digit.isDigit = true) ∧ word.toNat = Nat.ofDigitChars 10 digits start.toNat := by
  induction digits generalizing start with
  | nil =>
    rw [List.foldlM_nil, Nat.ofDigitChars_nil, UInt64.toNat_inj, eq_comm (a := word)]
    simp
  | cons digit later ih =>
    rw [List.foldlM_cons, Option.bind_eq_bind, Option.bind_eq_some_iff, List.forall_mem_cons, Nat.ofDigitChars_cons]
    constructor
    · rintro ⟨next, appended, gathered⟩
      obtain ⟨isDigit, exact⟩ := append?_eq_some_iff.mp appended
      obtain ⟨areDigits, whole⟩ := ih.mp gathered
      exact ⟨⟨isDigit, areDigits⟩, by rw [whole, exact]⟩
    · rintro ⟨⟨isDigit, areDigits⟩, whole⟩
      have grown := le_ofDigitChars later (10 * start.toNat + (digit.toNat - '0'.toNat))
      obtain ⟨next, exact⟩ := Word.exists_toNat_eq (Nat.lt_of_le_of_lt grown (whole ▸ word.toNat_lt_size))
      exact ⟨next, append?_eq_some_iff.mpr ⟨isDigit, exact⟩, ih.mpr ⟨areDigits, by rw [whole, exact]⟩⟩

theorem value?_eq_gather? (digits : List Char) : value? digits = gather? digits := by
  refine Option.ext fun word => ?_
  rw [value?_eq_some_iff, gather?]
  cases digits with
  | nil => simp
  | cons digit later =>
    rw [if_neg (by simp), foldlM_append?_eq_some_iff, eq_comm (a := word.toNat)]
    exact and_iff_right (List.cons_ne_nil _ _)

end Decimal

namespace Query

/-- A request told by the cut of its text; its bound is limited through the size of its table. -/
theorem asks_words_iff {text : List Char} {length bound : Nat} :
    Asks length bound (Blank.words text) ↔
      ∃ first second later, Blank.Cut text (first :: second :: later) ∧
        Numeral first length ∧ 1 ≤ length ∧ length < UInt64.size ∧
        Numeral second bound ∧ 2 * (bound * bound) + 1 ≤ 0x7FFFFFFFFFFFFFFF := by
  have limit : bound ≤ Sieve.largestBound ↔ 2 * (bound * bound) + 1 ≤ 0x7FFFFFFFFFFFFFFF := by
    rw [← Sieve.size_lt_sizeLimit_iff, Sieve.sizeLimit]
    omega
  rw [← limit]
  constructor
  · intro asks
    generalize cut : Blank.words text = words at asks
    cases asks with
    | intro isLength isBound positive small sized =>
      exact ⟨_, _, _, Blank.cut_iff.mpr cut, isLength, positive, small, isBound, sized⟩
  · rintro ⟨first, second, later, cut, isLength, positive, small, isBound, sized⟩
    rw [cut.words_eq]
    exact .intro isLength isBound positive small sized

theorem exists_ofText_eq_ok_iff {text : String} {length bound : Nat} :
    (∃ query, ofText text = .ok query ∧ query.length.toNat = length ∧ query.bound.toNat = bound) ↔
      Asks length bound (Blank.words text.toList) := by
  constructor
  · rintro ⟨query, read, rfl, rfl⟩
    exact ofText_eq_ok_iff.mp read
  · intro asks
    obtain ⟨query, rfl, rfl⟩ := asks.exists_query
    exact ⟨query, ofText_eq_ok_iff.mpr asks, rfl, rfl⟩

theorem ofWords_cons_cons (first second : List Char) (later others : List (List Char)) :
    ofWords (first :: second :: later) = ofWords (first :: second :: others) := by
  simp only [ofWords]
  cases number? first with
  | none => rfl
  | some length => rfl

theorem ofText_eq_of_cut {text other : String} {first second : List Char} {later others : List (List Char)}
    (cut : Blank.Cut text.toList (first :: second :: later))
    (alsoCut : Blank.Cut other.toList (first :: second :: others)) : ofText other = ofText text := by
  rw [ofText_eq_ofWords, ofText_eq_ofWords, cut.words_eq, alsoCut.words_eq]
  exact ofWords_cons_cons first second others later

/-- A text is read as a length and a bound exactly if its first two words write them and they are within
their limits. What stands behind the second word is not looked at, and digits gathered in words are read alike. -/
theorem ofText_accepts_requests (text : String) :
    (∀ length bound : Nat,
      (∃ query, ofText text = .ok query ∧ query.length.toNat = length ∧ query.bound.toNat = bound) ↔
        ∃ first second later, Blank.Cut text.toList (first :: second :: later) ∧
          Numeral first length ∧ 1 ≤ length ∧ length < UInt64.size ∧
          Numeral second bound ∧ 2 * (bound * bound) + 1 ≤ 0x7FFFFFFFFFFFFFFF) ∧
    (∀ first second later, Blank.Cut text.toList (first :: second :: later) →
      (∀ blank tail, Blank.holds blank = true → ofText (text ++ String.ofList (blank :: tail)) = ofText text) ∧
      ∀ other others, Blank.Cut other.toList (first :: second :: others) → ofText other = ofText text) ∧
    ∀ digits, Decimal.value? digits = Decimal.gather? digits := by
  refine ⟨fun length bound => exists_ofText_eq_ok_iff.trans asks_words_iff, ?_, Decimal.value?_eq_gather?⟩
  intro first second later cut
  refine ⟨?_, fun other others alsoCut => ofText_eq_of_cut cut alsoCut⟩
  intro blank tail isBlank
  have longer : Blank.Cut (text ++ String.ofList (blank :: tail)).toList
      (first :: second :: (later ++ Blank.words tail)) := by
    apply Blank.cut_iff.mpr
    rw [String.toList_append, String.toList_ofList, Blank.words_append_blank isBlank, cut.words_eq]
    rfl
  exact ofText_eq_of_cut cut longer

/-- The length has a sign and leading zeros, the blanks are not of ASCII, and what follows is no number. -/
theorem ofText_accepts_requests_of_signed :
    Blank.Cut "\u2003+005\u00a07".toList ["+005".toList, "7".toList] ∧ Blank.holds '\u3000' = true ∧
      (∃ query, ofText "\u2003+005\u00a07" = .ok query ∧ query.length.toNat = 5 ∧ query.bound.toNat = 7) ∧
      ofText ("\u2003+005\u00a07" ++ String.ofList ['\u3000', '-', 'x']) = ofText "\u2003+005\u00a07" ∧
      Blank.Cut "+005 7 0".toList ["+005".toList, "7".toList, "0".toList] ∧
      ofText "+005 7 0" = ofText "\u2003+005\u00a07" := by
  have cut : Blank.Cut "\u2003+005\u00a07".toList ["+005".toList, "7".toList] := Blank.cut_iff.mpr rfl
  have other : Blank.Cut "+005 7 0".toList ["+005".toList, "7".toList, "0".toList] := Blank.cut_iff.mpr rfl
  have isLength : Numeral "+005".toList 5 := ⟨"005".toList, .inr rfl, by decide, List.all_eq_true.mp rfl, rfl⟩
  have isBound : Numeral "7".toList 7 := ⟨"7".toList, .inl rfl, by decide, List.all_eq_true.mp rfl, rfl⟩
  obtain ⟨accepts, ignores, _⟩ := ofText_accepts_requests "\u2003+005\u00a07"
  obtain ⟨tail, others⟩ := ignores _ _ _ cut
  exact ⟨cut, rfl, (accepts 5 7).mpr ⟨_, _, _, cut, isLength, by decide, by decide, isBound, by decide⟩,
    tail '\u3000' ['-', 'x'] rfl, other, others _ _ other⟩

end Query
end SquareSums
