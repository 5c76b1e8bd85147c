import Mathlib.Data.List.TakeWhile
import SquareSums.Proofs.SieveMarks
import SquareSums.Proofs.WordArithmetic
import SquareSums.Query

/-! The grammar of requests, told through the words of a text and the numbers they write. A text is
either a request or has one first defect, and reading it answers just that. -/

namespace SquareSums

namespace Blank

/-- The text cut at every blank character, without the empty pieces. -/
def words (text : List Char) : List (List Char) := (text.splitOnP holds).filter (!·.isEmpty)

theorem words_append_blank {blank : Char} (isBlank : holds blank = true) (before after : List Char) :
    words (before ++ blank :: after) = words before ++ words after := by
  rw [words, List.splitOnP_append_cons before after isBlank, List.filter_append]
  rfl

theorem words_cons_blank {blank : Char} (isBlank : holds blank = true) (text : List Char) :
    words (blank :: text) = words text := words_append_blank isBlank [] text

theorem words_append_blanks {lead : List Char} (blank : ∀ character ∈ lead, holds character = true)
    (text : List Char) : words (lead ++ text) = words text := by
  induction lead with
  | nil => rfl
  | cons character lead ih =>
    obtain ⟨first, rest⟩ := List.forall_mem_cons.mp blank
    rw [List.cons_append, words_cons_blank first, ih rest]

theorem words_append {word rest : List Char} (nonempty : word ≠ [])
    (solid : ∀ character ∈ word, holds character = false)
    (ended : ∀ character ∈ rest.head?, holds character = true) : words (word ++ rest) = word :: words rest := by
  have single : words word = [word] := by
    rw [words, List.splitOnP_eq_singleton solid]
    simp [nonempty]
  cases rest with
  | nil => rw [List.append_nil, single]; rfl
  | cons blank after =>
    have isBlank := ended blank rfl
    rw [words_append_blank isBlank, words_cons_blank isBlank, single, List.singleton_append]

private theorem not_of_head?_dropWhile {text : List Char} {passes : Char → Bool} {head : Char}
    (first : (text.dropWhile passes).head? = some head) : passes head = false := by
  have stopped := List.head?_dropWhile_not passes text
  rw [first] at stopped
  exact stopped

theorem blank_of_word?_eq_none {text : List Char} (unfound : word? text = none) :
    ∀ character ∈ text, holds character = true := by
  rw [word?] at unfound
  split at unfound
  next nothing => exact List.dropWhile_eq_nil_iff.mp nothing
  next => cases unfound

theorem exists_lead_of_word?_eq_some {text word rest : List Char} (found : word? text = some (word, rest)) :
    ∃ lead, text = lead ++ (word ++ rest) ∧ (∀ character ∈ lead, holds character = true) ∧ word ≠ [] ∧
      (∀ character ∈ word, holds character = false) ∧ ∀ character ∈ rest.head?, holds character = true := by
  rw [word?] at found
  split at found
  next => cases found
  next something =>
    cases found
    obtain ⟨first, later, start⟩ := List.exists_cons_of_ne_nil something
    have solid : holds first = false := not_of_head?_dropWhile (by rw [start]; rfl)
    refine ⟨text.takeWhile holds, ?_, ?_, ?_, ?_, ?_⟩
    · rw [List.takeWhile_append_dropWhile, List.takeWhile_append_dropWhile]
    · intro character member
      exact List.all_eq_true.mp List.all_takeWhile character member
    · rw [start, List.takeWhile_cons_of_pos (by rw [solid]; rfl)]
      exact List.cons_ne_nil _ _
    · intro character member
      simpa using List.all_eq_true.mp List.all_takeWhile character member
    · intro character after
      simpa using not_of_head?_dropWhile after

theorem words_eq (text : List Char) :
    words text = match word? text with
      | none => []
      | some (word, rest) => word :: words rest := by
  cases found : word? text with
  | none =>
    have blanks := words_append_blanks (blank_of_word?_eq_none found) []
    rwa [List.append_nil] at blanks
  | some cut =>
    obtain ⟨word, rest⟩ := cut
    obtain ⟨lead, split, blank, nonempty, solid, ended⟩ := exists_lead_of_word?_eq_some found
    rw [split, words_append_blanks blank, words_append nonempty solid ended]

end Blank

/-- Decimal digits after at most one plus sign, and the number that they write. -/
def Numeral (token : List Char) (number : Nat) : Prop :=
  ∃ digits, (token = digits ∨ token = '+' :: digits) ∧ digits ≠ [] ∧
    (∀ digit ∈ digits, digit.isDigit = true) ∧ Nat.ofDigitChars 10 digits 0 = number

namespace Query

theorem number?_eq_some_iff {token : List Char} {word : UInt64} :
    number? token = some word ↔ Numeral token word.toNat := by
  rw [Numeral]
  cases token with
  | nil => simp [number?, Decimal.value?]
  | cons sign later =>
    by_cases plus : sign = '+'
    · subst plus
      rw [number?, Decimal.value?_eq_some_iff]
      constructor
      · exact fun value => ⟨later, .inr rfl, value⟩
      · rintro ⟨digits, same | same, value⟩
        · subst same
          exact absurd (value.2.1 '+' List.mem_cons_self) (by decide)
        · cases same
          exact value
    · rw [number?, Decimal.value?_eq_some_iff]
      · constructor
        · exact fun value => ⟨sign :: later, .inl rfl, value⟩
        · rintro ⟨digits, same | same, value⟩
          · exact same ▸ value
          · cases same
            exact absurd rfl plus
      · rintro digits same
        cases same
        exact plus rfl

theorem exists_number?_eq_some {token : List Char} {number : Nat} (numeral : Numeral token number)
    (small : number < UInt64.size) : ∃ word : UInt64, number? token = some word ∧ word.toNat = number := by
  obtain ⟨word, rfl⟩ := Word.exists_toNat_eq small
  exact ⟨word, number?_eq_some_iff.mpr numeral, rfl⟩

theorem number?_eq_none_iff {token : List Char} :
    number? token = none ↔ ∀ number < UInt64.size, ¬ Numeral token number := by
  constructor
  · intro unread number small numeral
    obtain ⟨word, read, _⟩ := exists_number?_eq_some numeral small
    cases unread.symm.trans read
  · intro nothing
    cases read : number? token with
    | none => rfl
    | some word => exact absurd (number?_eq_some_iff.mp read) (nothing _ word.toNat_lt_size)

/-- The words of a text ask for progressions of a length and a bound. What follows the second word
has no influence. -/
inductive Asks (length bound : Nat) : List (List Char) → Prop where
  | intro {first second : List Char} {later : List (List Char)}
      (isLength : Numeral first length) (isBound : Numeral second bound)
      (positive : 1 ≤ length) (small : length < UInt64.size) (sized : bound ≤ Sieve.largestBound) :
      Asks length bound (first :: second :: later)

theorem Asks.bound_le {length bound : Nat} {words : List (List Char)} (asks : Asks length bound words) :
    bound ≤ Sieve.largestBound := by
  cases asks with
  | intro _ _ _ _ sized => exact sized

theorem Asks.exists_query {length bound : Nat} {words : List (List Char)} (asks : Asks length bound words) :
    ∃ query : Query, query.length.toNat = length ∧ query.bound.toNat = bound := by
  have boundSmall : bound < UInt64.size := Nat.lt_of_le_of_lt asks.bound_le (by decide)
  obtain ⟨boundWord, rfl⟩ := Word.exists_toNat_eq boundSmall
  cases asks with
  | intro _ _ _ small _ =>
    obtain ⟨lengthWord, rfl⟩ := Word.exists_toNat_eq small
    exact ⟨⟨lengthWord, boundWord⟩, rfl, rfl⟩

/-- The first defect of the words of a text. A length of zero is noticed only when both numbers are
read, and before a bound that is too large. -/
inductive Rejection : List (List Char) → Fault → Prop where
  | noLength : Rejection [] (.missing .length)
  | badLength {first : List Char} {later : List (List Char)}
      (unread : ∀ number < UInt64.size, ¬ Numeral first number) :
      Rejection (first :: later) (.malformed .length (String.ofList first))
  | noBound {first : List Char} {length : Nat} (isLength : Numeral first length) (small : length < UInt64.size) :
      Rejection [first] (.missing .bound)
  | badBound {first second : List Char} {later : List (List Char)} {length : Nat}
      (isLength : Numeral first length) (small : length < UInt64.size)
      (unread : ∀ number < UInt64.size, ¬ Numeral second number) :
      Rejection (first :: second :: later) (.malformed .bound (String.ofList second))
  | zeroLength {first second : List Char} {later : List (List Char)} {bound : Nat}
      (isLength : Numeral first 0) (isBound : Numeral second bound) (small : bound < UInt64.size) :
      Rejection (first :: second :: later) .zeroLength
  | boundTooLarge {first second : List Char} {later : List (List Char)} {length : Nat} {bound : UInt64}
      (isLength : Numeral first length) (positive : 1 ≤ length) (small : length < UInt64.size)
      (isBound : Numeral second bound.toNat) (large : Sieve.largestBound < bound.toNat) :
      Rejection (first :: second :: later) (.boundTooLarge bound)

def ofWords : List (List Char) → Except Fault Query
  | [] => .error (.missing .length)
  | first :: later =>
    match number? first, later with
    | none, _ => .error (.malformed .length (String.ofList first))
    | some _, [] => .error (.missing .bound)
    | some length, second :: _ =>
      match number? second with
      | none => .error (.malformed .bound (String.ofList second))
      | some bound => check length bound

theorem ofText_eq_ofWords (text : String) : ofText text = ofWords (Blank.words text.toList) := by
  rw [Blank.words_eq]
  simp only [ofText, next, bind, Except.bind]
  cases Blank.word? text.toList with
  | none => rfl
  | some cut =>
    obtain ⟨first, rest⟩ := cut
    simp only [ofWords, Blank.words_eq rest]
    cases number? first with
    | none => rfl
    | some length =>
      cases following : Blank.word? rest with
      | none => simp only [following]
      | some cut =>
        obtain ⟨second, later⟩ := cut
        cases read : number? second with
        | none => simp only [following, read]
        | some bound => simp only [following, read]

private theorem ne_zero_of_positive {word : UInt64} (positive : 1 ≤ word.toNat) : word ≠ 0 := by
  rintro rfl
  exact absurd positive (by decide)

theorem check_eq_ok {length bound : UInt64} (positive : 1 ≤ length.toNat) (sized : bound.toNat ≤ Sieve.largestBound) :
    check length bound = .ok ⟨length, bound⟩ := by
  have hasSize := Sieve.size?_isSome_iff.mpr sized
  rw [check, if_neg (ne_zero_of_positive positive), if_neg (by simpa [Option.isSome_iff_ne_none] using hasSize)]

theorem check_eq_boundTooLarge {length bound : UInt64} (positive : 1 ≤ length.toNat)
    (large : Sieve.largestBound < bound.toNat) : check length bound = .error (.boundTooLarge bound) := by
  have noSize := mt Sieve.size?_isSome_iff.mp (Nat.not_le.mpr large)
  rw [check, if_neg (ne_zero_of_positive positive), if_pos (by simpa using noSize)]

theorem Asks.ofWords_eq {words : List (List Char)} {query : Query}
    (asks : Asks query.length.toNat query.bound.toNat words) : ofWords words = .ok query := by
  cases asks with
  | intro isLength isBound positive _ sized =>
    simp only [ofWords, number?_eq_some_iff.mpr isLength, number?_eq_some_iff.mpr isBound]
    exact check_eq_ok positive sized

theorem Rejection.ofWords_eq {words : List (List Char)} {fault : Fault} (rejection : Rejection words fault) :
    ofWords words = .error fault := by
  cases rejection with
  | noLength => rfl
  | badLength unread => simp only [ofWords, number?_eq_none_iff.mpr unread]
  | noBound isLength small =>
    obtain ⟨length, read, _⟩ := exists_number?_eq_some isLength small
    simp only [ofWords, read]
  | badBound isLength small unread =>
    obtain ⟨length, read, _⟩ := exists_number?_eq_some isLength small
    simp only [ofWords, read, number?_eq_none_iff.mpr unread]
  | zeroLength isLength isBound small =>
    have read := number?_eq_some_iff.mpr (show Numeral _ (0 : UInt64).toNat from isLength)
    obtain ⟨bound, alsoRead, _⟩ := exists_number?_eq_some isBound small
    simp only [ofWords, read, alsoRead]
    rfl
  | boundTooLarge isLength positive small isBound large =>
    obtain ⟨length, read, rfl⟩ := exists_number?_eq_some isLength small
    simp only [ofWords, read, number?_eq_some_iff.mpr isBound]
    exact check_eq_boundTooLarge positive large

theorem asks_or_rejection (words : List (List Char)) :
    (∃ query : Query, Asks query.length.toNat query.bound.toNat words) ∨ ∃ fault, Rejection words fault := by
  cases words with
  | nil => exact .inr ⟨_, .noLength⟩
  | cons first later =>
    cases firstRead : number? first with
    | none => exact .inr ⟨_, .badLength (number?_eq_none_iff.mp firstRead)⟩
    | some length =>
      have isLength := number?_eq_some_iff.mp firstRead
      cases later with
      | nil => exact .inr ⟨_, .noBound isLength length.toNat_lt_size⟩
      | cons second later =>
        cases secondRead : number? second with
        | none => exact .inr ⟨_, .badBound isLength length.toNat_lt_size (number?_eq_none_iff.mp secondRead)⟩
        | some bound =>
          have isBound := number?_eq_some_iff.mp secondRead
          rcases Nat.eq_zero_or_pos length.toNat with zero | positive
          · exact .inr ⟨_, .zeroLength (zero ▸ isLength) isBound bound.toNat_lt_size⟩
          · rcases Nat.lt_or_ge Sieve.largestBound bound.toNat with large | sized
            · exact .inr ⟨_, .boundTooLarge isLength positive length.toNat_lt_size isBound large⟩
            · exact .inl ⟨⟨length, bound⟩, .intro isLength isBound positive length.toNat_lt_size sized⟩

theorem ofText_eq_ok_iff {text : String} {query : Query} :
    ofText text = .ok query ↔ Asks query.length.toNat query.bound.toNat (Blank.words text.toList) := by
  rw [ofText_eq_ofWords]
  refine ⟨fun read => ?_, fun asks => asks.ofWords_eq⟩
  rcases asks_or_rejection (Blank.words text.toList) with ⟨other, asks⟩ | ⟨fault, rejection⟩
  · cases asks.ofWords_eq.symm.trans read
    exact asks
  · cases rejection.ofWords_eq.symm.trans read

theorem ofText_eq_error_iff {text : String} {fault : Fault} :
    ofText text = .error fault ↔ Rejection (Blank.words text.toList) fault := by
  rw [ofText_eq_ofWords]
  refine ⟨fun read => ?_, fun rejection => rejection.ofWords_eq⟩
  rcases asks_or_rejection (Blank.words text.toList) with ⟨query, asks⟩ | ⟨other, rejection⟩
  · cases asks.ofWords_eq.symm.trans read
  · cases rejection.ofWords_eq.symm.trans read
    exact rejection

end Query
end SquareSums
