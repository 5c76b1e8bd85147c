import SquareSums.Proofs.JsonEnds
import SquareSums.Proofs.JsonRecords

/-! The one spelling of a number that may stand in a field: its digits, with no zero in front. A text in which
numbers are spelled otherwise, by whatever characters numbers have, is read as no other value than it shows. -/

namespace SquareSums

namespace Decimal

theorem digitChar_of_isDigit {digit : Char} (isDigit : digit.isDigit = true) :
    digit.toNat - '0'.toNat < 10 ∧ Nat.digitChar (digit.toNat - '0'.toNat) = digit := by
  simp only [Char.isDigit, Bool.and_eq_true, decide_eq_true_eq, ge_iff_le] at isDigit
  obtain ⟨low, high⟩ := isDigit
  have small : digit.toNat - '0'.toNat < 10 := by
    have : digit.toNat ≤ 57 := high
    simp only [Char.reduceToNat]
    omega
  refine ⟨small, ?_⟩
  rw [← Char.toNat_inj, Nat.toNat_digitChar_of_lt_ten small]
  exact Nat.add_sub_cancel' low

theorem digits_ofDigitChars {rest : List Char} (areDigits : ∀ digit ∈ rest, digit.isDigit = true) {start : Nat}
    (positive : 0 < start) : digits (Nat.ofDigitChars 10 rest start) = digits start ++ rest := by
  induction rest generalizing start with
  | nil => exact (List.append_nil _).symm
  | cons digit rest ih =>
    rw [List.forall_mem_cons] at areDigits
    obtain ⟨small, same⟩ := digitChar_of_isDigit areDigits.1
    have longer : digits (10 * start + (digit.toNat - '0'.toNat)) = digits start ++ [digit] := by
      rw [digits, digits, ← Nat.toDigits_append_toDigits (by decide) positive small, Nat.toDigits_of_lt_base small, same]
    rw [Nat.ofDigitChars_cons, ih areDigits.2 (by omega), longer]
    exact (List.append_cons _ _ _).symm

end Decimal

namespace Json

theorem IsWhole.digits_ofDigitChars {lexeme : List Char} (isWhole : IsWhole lexeme) :
    Decimal.digits (Nat.ofDigitChars 10 lexeme 0) = lexeme := by
  rcases isWhole with rfl | ⟨⟨nonempty, areDigits⟩, noZero⟩
  · rfl
  · cases lexeme with
    | nil => exact absurd rfl nonempty
    | cons first rest =>
      rw [areDigits_cons] at areDigits
      obtain ⟨small, same⟩ := Decimal.digitChar_of_isDigit areDigits.1
      have positive : 0 < first.toNat - '0'.toNat := by
        refine Nat.pos_of_ne_zero fun zero => noZero ?_
        rw [zero] at same
        exact congrArg some same.symm
      rw [Nat.ofDigitChars_cons, Nat.mul_zero, Nat.zero_add, Decimal.digits_ofDigitChars areDigits.2 positive,
        Decimal.digits, Nat.toDigits_of_lt_base small, same]
      rfl

theorem Value.isWord_iff {value : Value} {word : UInt64} : value.IsWord word ↔ value = ofWord word := by
  constructor
  · rintro ⟨lexeme, rfl, isWhole, written⟩
    rw [ofWord, ← written, isWhole.digits_ofDigitChars]
  · rintro rfl
    exact (word?_eq_some_iff (isSound_ofWord word)).mp (word?_ofWord word)

/-- Spellings of numbers that no word has. -/
inductive IsStray : List Char → Prop where
  | signed {lexeme : List Char} (sign : '+' ∈ lexeme ∨ '-' ∈ lexeme) : IsStray lexeme
  | padded {rest : List Char} (more : rest ≠ []) : IsStray ('0' :: rest)
  | fraction {lexeme : List Char} (point : '.' ∈ lexeme) : IsStray lexeme
  | exponent {lexeme : List Char} (mark : 'e' ∈ lexeme ∨ 'E' ∈ lexeme) : IsStray lexeme
  | large {lexeme : List Char} (areDigits : AreDigits lexeme)
      (beyond : UInt64.size ≤ Nat.ofDigitChars 10 lexeme 0) : IsStray lexeme

theorem not_isStray_digits (word : UInt64) : ¬ IsStray (Decimal.digits word.toNat) := by
  intro stray
  generalize written : Decimal.digits word.toNat = lexeme at stray
  cases stray with
  | signed sign =>
    subst written
    rcases sign with plus | minus
    · exact Decimal.not_mem_digits rfl _ plus
    · exact Decimal.not_mem_digits rfl _ minus
  | padded more =>
    rcases Nat.eq_zero_or_pos word.toNat with zero | positive
    · rw [zero] at written
      exact more (List.cons.inj written).2.symm
    · exact Decimal.first_digit_ne_zero positive (congrArg List.head? written)
  | fraction point =>
    subst written
    exact Decimal.not_mem_digits rfl _ point
  | exponent mark =>
    subst written
    rcases mark with small | capital
    · exact Decimal.not_mem_digits rfl _ small
    · exact Decimal.not_mem_digits rfl _ capital
  | large _ beyond =>
    rw [← written, Decimal.digits, Nat.ofDigitChars_ten_toDigits] at beyond
    exact absurd word.toNat_lt (Nat.not_lt.mpr beyond)

def IsNumeric (character : Char) : Prop := character.isDigit = true ∨ character ∈ ['+', '-', '.', 'e', 'E']

theorem not_endsNumber_of_isNumeric {character : Char} (numeric : IsNumeric character) : ¬ EndsNumber character := by
  intro ends
  rcases numeric with digit | mark
  · have absent := ends .whole
    rw [NumberState.next?, if_pos digit] at absent
    cases absent
  · simp only [List.mem_cons, List.not_mem_nil, or_false] at mark
    rcases mark with rfl | rfl | rfl | rfl | rfl
    · cases ends .exponentMark
    · cases ends .exponentMark
    · cases ends .zero
    · cases ends .zero
    · cases ends .zero

theorem NumberState.not_endsNumber_of_isLexeme {front back : List Char} {character : Char} (begun : front ≠ [])
    (isLexeme : isLexeme (front ++ character :: back) = true) : ¬ EndsNumber character := by
  intro ends
  cases front with
  | nil => exact begun rfl
  | cons first front =>
    rw [List.cons_append, NumberState.isLexeme, Option.any_eq_true] at isLexeme
    obtain ⟨_, read, _⟩ := isLexeme
    obtain ⟨start, _, read⟩ := Option.bind_eq_some_iff.mp read
    rw [List.foldlM_append] at read
    obtain ⟨state, _, read⟩ := Option.bind_eq_some_iff.mp read
    rw [List.foldlM_cons, ends state] at read
    cases read

theorem Spelled.endsNumber {tokens : List Token} {text : List Char} (spelled : Spelled tokens text)
    (other : ∀ next ∈ tokens.head?, next.isNumber = false) : ∀ first ∈ text.head?, EndsNumber first := by
  intro first begins
  cases spelled with
  | nil blank => exact endsNumber_of_isBlank (List.all_eq_true.mp blank first (List.mem_of_head? begins))
  | @cons space rest token later blank =>
    cases space with
    | cons character space =>
      cases begins
      exact endsNumber_of_isBlank (List.all_eq_true.mp blank first List.mem_cons_self)
    | nil =>
      obtain ⟨head, tail, spelling, ends⟩ := Token.spelling_of_not_number (other token rfl)
      rw [spelling] at begins
      cases begins
      exact ends

theorem Spelled.exists_number {tokens : List Token} {text : List Char} (spelled : Spelled tokens text) {first : Char}
    (begins : first ∈ text.head?) (numeric : IsNumeric first) :
    ∃ lexeme later rest, tokens = .number lexeme :: later ∧ text = lexeme ++ rest ∧ Spelled later rest := by
  have goesOn := not_endsNumber_of_isNumeric numeric
  have isNumber : ∃ token ∈ tokens.head?, token.isNumber = true := by
    by_contra none
    refine goesOn (spelled.endsNumber (fun token head => ?_) first begins)
    exact Bool.eq_false_iff.mpr fun isNumber => none ⟨token, head, isNumber⟩
  obtain ⟨token, head, isNumber⟩ := isNumber
  cases spelled with
  | nil _ => cases head
  | @cons space rest _ later blank spelledLater =>
    cases head
    cases space with
    | cons character space =>
      cases begins
      exact absurd (endsNumber_of_isBlank (List.all_eq_true.mp blank first List.mem_cons_self)) goesOn
    | nil =>
      cases token with
      | number lexeme => exact ⟨lexeme, later, rest, rfl, rfl, spelledLater⟩
      | _ => cases isNumber

/-- Numeric characters that are scanned at all are one number, unless two numbers come out side by side. -/
theorem isLexeme_of_tokens? {lexeme tail : List Char} (nonempty : lexeme ≠ [])
    (numeric : ∀ character ∈ lexeme, IsNumeric character) (ends : ∀ first ∈ tail.head?, EndsNumber first)
    {tokens : List Token} (scanned : tokens? (lexeme ++ tail) = some tokens) (apart : tokens.IsChain Token.Apart) :
    NumberState.isLexeme lexeme = true := by
  obtain ⟨spelled, sound⟩ := spelled_of_tokens? scanned
  obtain ⟨first, more, rfl⟩ := List.exists_cons_of_ne_nil nonempty
  obtain ⟨found, later, rest, rfl, parted, spelledLater⟩ := spelled.exists_number rfl (numeric first List.mem_cons_self)
  have isLexeme : NumberState.isLexeme found = true := sound _ List.mem_cons_self
  rcases List.append_eq_append_iff.mp parted with ⟨beyond, same, follows⟩ | ⟨left, same, follows⟩
  · cases beyond with
    | nil => rwa [same, List.append_nil] at isLexeme
    | cons character beyond =>
      rw [same] at isLexeme
      rw [follows] at ends
      exact absurd (ends character rfl) (NumberState.not_endsNumber_of_isLexeme nonempty isLexeme)
  · cases left with
    | nil => rwa [same, List.append_nil]
    | cons character left =>
      have member : character ∈ first :: more := same ▸ List.mem_append_right _ List.mem_cons_self
      rw [follows] at spelledLater
      obtain ⟨next, _, _, rfl, _⟩ := spelledLater.exists_number rfl (numeric character member)
      cases apart with
      | cons_cons different => cases different rfl

theorem isSound_of_tokens? {shown : List Token} {text : List Char} (spelled : Spelled shown text)
    (shownApart : shown.IsChain Token.Apart)
    (numbers : ∀ lexeme, .number lexeme ∈ shown → lexeme ≠ [] ∧ ∀ character ∈ lexeme, IsNumeric character)
    (strings : ∀ body, .string body ∈ shown → StringState.isBody body = true) {tokens : List Token}
    (scanned : tokens? text = some tokens) (apart : tokens.IsChain Token.Apart) :
    ∀ token ∈ shown, token.isSound = true := by
  induction spelled generalizing tokens with
  | nil => exact List.forall_mem_nil _
  | @cons space text token later blank spelledLater ih =>
    rw [tokens?_blank_append blank] at scanned
    obtain ⟨next, laterApart⟩ := List.isChain_cons.mp shownApart
    have ends (isNumber : token.isNumber = true) : ∀ first ∈ text.head?, EndsNumber first :=
      spelledLater.endsNumber fun other head => next other head isNumber
    have sound : token.isSound = true := by
      cases token with
      | number lexeme =>
        obtain ⟨nonempty, numeric⟩ := numbers lexeme List.mem_cons_self
        exact isLexeme_of_tokens? nonempty numeric (ends rfl) scanned apart
      | string body => exact strings body List.mem_cons_self
      | _ => rfl
    have ending : (∀ last ∈ [token].getLast?, last.isNumber = false) ∨ ∀ first ∈ text.head?, EndsNumber first := by
      rcases Bool.eq_false_or_eq_true token.isNumber with isNumber | other
      · exact .inr (ends isNumber)
      · refine .inl ?_
        rintro _ ⟨⟩
        exact other
    rw [tokens?_append (tokens?_spelling sound) ending] at scanned
    obtain ⟨rest, scannedLater, rfl⟩ := Option.map_eq_some_iff.mp scanned
    refine List.forall_mem_cons.mpr ⟨sound, ih laterApart ?_ ?_ scannedLater (List.isChain_cons.mp apart).2⟩
    · exact fun lexeme member => numbers lexeme (List.mem_cons_of_mem _ member)
    · exact fun body member => strings body (List.mem_cons_of_mem _ member)

namespace Value

/-- The text shows the value as JSON does, but its numbers may be any numeric characters, such as `+1` or `007`. -/
structure IsLooseText (value : Value) (text : String) : Prop where
  spelled : Spelled value.tokens text.toList
  numbers : ∀ lexeme, .number lexeme ∈ value.tokens → lexeme ≠ [] ∧ ∀ character ∈ lexeme, IsNumeric character
  strings : ∀ body, .string body ∈ value.tokens → IsBody body

theorem IsLooseText.eq {value other : Value} {text : String} (loose : value.IsLooseText text)
    (read : ofText? text = some other) : other = value := by
  obtain ⟨tokens, scanned, parsed⟩ := Option.bind_eq_some_iff.mp read
  rw [ofTokens?_eq_some_iff] at parsed
  subst parsed
  have strings (body : List Char) (member : .string body ∈ value.tokens) : StringState.isBody body = true :=
    (StringState.isBody_iff body).mpr (loose.strings body member)
  have sound := isSound_of_tokens? loose.spelled value.apart_tokens loose.numbers strings scanned other.apart_tokens
  exact Option.some.inj (read.symm.trans (ofText?_of_spelled sound loose.spelled))

end Value
end Json
end SquareSums
