import SquareSums.Proofs.JsonScanning

/-! The grammar of numbers and of what stands between quotes. The automata that read them accept just that:
from each of their states they accept what the grammar lets follow. -/

namespace SquareSums.Json

/-- A text of the first kind, and behind it one of the next. -/
def Followed (first next : List Char → Prop) (text : List Char) : Prop :=
  ∃ front back, text = front ++ back ∧ first front ∧ next back

theorem followed_nil {first next : List Char → Prop} : Followed first next [] ↔ first [] ∧ next [] := by
  constructor
  · rintro ⟨front, back, parted, isFirst, isNext⟩
    obtain ⟨rfl, rfl⟩ := List.append_eq_nil_iff.mp parted.symm
    exact ⟨isFirst, isNext⟩
  · rintro ⟨isFirst, isNext⟩
    exact ⟨[], [], rfl, isFirst, isNext⟩

theorem followed_cons {first next : List Char → Prop} {character : Char} {text : List Char} :
    Followed first next (character :: text) ↔
      first [] ∧ next (character :: text) ∨ Followed (fun front => first (character :: front)) next text := by
  constructor
  · rintro ⟨front, back, parted, isFirst, isNext⟩
    cases front with
    | nil => exact .inl ⟨isFirst, parted ▸ isNext⟩
    | cons head front =>
      injection parted with same parted
      exact .inr ⟨front, back, parted, same ▸ isFirst, isNext⟩
  · rintro (⟨isFirst, isNext⟩ | ⟨front, back, parted, isFirst, isNext⟩)
    · exact ⟨[], _, rfl, isFirst, isNext⟩
    · exact ⟨character :: front, back, congrArg _ parted, isFirst, isNext⟩

theorem followed_and {condition : Prop} {first next : List Char → Prop} {text : List Char} :
    Followed (fun front => condition ∧ first front) next text ↔ condition ∧ Followed first next text := by
  constructor
  · rintro ⟨front, back, parted, ⟨holds, isFirst⟩, isNext⟩
    exact ⟨holds, front, back, parted, isFirst, isNext⟩
  · rintro ⟨holds, front, back, parted, isFirst, isNext⟩
    exact ⟨front, back, parted, ⟨holds, isFirst⟩, isNext⟩

theorem followed_or {first other next : List Char → Prop} {text : List Char} :
    Followed (fun front => first front ∨ other front) next text ↔
      Followed first next text ∨ Followed other next text := by
  constructor
  · rintro ⟨front, back, parted, isFirst | isOther, isNext⟩
    · exact .inl ⟨front, back, parted, isFirst, isNext⟩
    · exact .inr ⟨front, back, parted, isOther, isNext⟩
  · rintro (⟨front, back, parted, isFirst, isNext⟩ | ⟨front, back, parted, isOther, isNext⟩)
    · exact ⟨front, back, parted, .inl isFirst, isNext⟩
    · exact ⟨front, back, parted, .inr isOther, isNext⟩

theorem followed_empty {next : List Char → Prop} {text : List Char} : Followed (· = []) next text ↔ next text := by
  constructor
  · rintro ⟨_, back, rfl, rfl, isNext⟩
    exact isNext
  · intro isNext
    exact ⟨[], text, rfl, rfl, isNext⟩

def AreDigits (text : List Char) : Prop := ∀ character ∈ text, character.isDigit = true

def AreSomeDigits (text : List Char) : Prop := text ≠ [] ∧ AreDigits text

def IsWhole (text : List Char) : Prop := text = ['0'] ∨ AreSomeDigits text ∧ text.head? ≠ some '0'

def IsFraction (text : List Char) : Prop := text = [] ∨ ∃ digits, text = '.' :: digits ∧ AreSomeDigits digits

def IsSign (text : List Char) : Prop := text = [] ∨ text = ['+'] ∨ text = ['-']

def IsExponent (text : List Char) : Prop :=
  text = [] ∨ ∃ mark rest, text = mark :: rest ∧ (mark = 'e' ∨ mark = 'E') ∧ Followed IsSign AreSomeDigits rest

/-- A number: maybe a hyphen, a whole number, maybe a fraction and maybe an exponent. -/
def IsNumber : List Char → Prop :=
  Followed (fun sign => sign = [] ∨ sign = ['-']) (Followed IsWhole (Followed IsFraction IsExponent))

theorem areDigits_cons {character : Char} {text : List Char} :
    AreDigits (character :: text) ↔ character.isDigit = true ∧ AreDigits text := List.forall_mem_cons

theorem areSomeDigits_cons {character : Char} {text : List Char} :
    AreSomeDigits (character :: text) ↔ character.isDigit = true ∧ AreDigits text := by
  rw [AreSomeDigits, areDigits_cons]
  simp

theorem isWhole_cons {character : Char} {text : List Char} :
    IsWhole (character :: text) ↔
      character = '0' ∧ text = [] ∨ (character.isDigit = true ∧ character ≠ '0') ∧ AreDigits text := by
  rw [IsWhole, areSomeDigits_cons]
  simp [and_right_comm]

theorem isFraction_cons {character : Char} {text : List Char} :
    IsFraction (character :: text) ↔ character = '.' ∧ AreSomeDigits text := by
  simp [IsFraction]

theorem isSign_cons {character : Char} {text : List Char} :
    IsSign (character :: text) ↔ (character = '+' ∨ character = '-') ∧ text = [] := by
  simp [IsSign, or_and_right]

theorem isExponent_cons {character : Char} {text : List Char} :
    IsExponent (character :: text) ↔
      (character = 'e' ∨ character = 'E') ∧ Followed IsSign AreSomeDigits text := by
  simp [IsExponent]

namespace NumberState

/-- What may follow where a number has been read up to the state. -/
def Continues : NumberState → List Char → Prop
  | sign => Followed IsWhole (Followed IsFraction IsExponent)
  | zero => Followed IsFraction IsExponent
  | whole => Followed AreDigits (Followed IsFraction IsExponent)
  | point => Followed AreSomeDigits IsExponent
  | fraction => Followed AreDigits IsExponent
  | exponentMark => Followed IsSign AreSomeDigits
  | exponentSign => AreSomeDigits
  | exponent => AreDigits

theorem continues_nil (state : NumberState) : state.Continues [] ↔ state.isComplete = true := by
  cases state <;>
    simp [Continues, followed_nil, isComplete, IsWhole, IsFraction, IsExponent, IsSign, AreDigits, AreSomeDigits]

section Cons

variable {character : Char} {text : List Char}

theorem continues_sign_cons :
    sign.Continues (character :: text) ↔ character = '0' ∧ zero.Continues text ∨
      (character.isDigit = true ∧ character ≠ '0') ∧ whole.Continues text := by
  have nonempty : ¬ IsWhole [] := by simp [IsWhole, AreSomeDigits]
  simp only [Continues, followed_cons, nonempty, isWhole_cons, followed_or, followed_and, followed_empty, false_and,
    false_or]

theorem continues_zero_cons :
    zero.Continues (character :: text) ↔ character = '.' ∧ point.Continues text ∨
      (character = 'e' ∨ character = 'E') ∧ exponentMark.Continues text := by
  have maybe : IsFraction [] := .inl rfl
  simp only [Continues, followed_cons, maybe, isFraction_cons, isExponent_cons, followed_and, true_and, or_comm]

theorem continues_whole_cons :
    whole.Continues (character :: text) ↔
      character.isDigit = true ∧ whole.Continues text ∨ zero.Continues (character :: text) := by
  have maybe : AreDigits [] := List.forall_mem_nil _
  change Followed AreDigits zero.Continues (character :: text) ↔ _
  rw [followed_cons, or_comm]
  simp only [maybe, true_and, areDigits_cons, followed_and]
  rfl

theorem continues_point_cons :
    point.Continues (character :: text) ↔ character.isDigit = true ∧ fraction.Continues text := by
  have nonempty : ¬ AreSomeDigits [] := fun digits => digits.1 rfl
  simp only [Continues, followed_cons, nonempty, areSomeDigits_cons, followed_and, false_and, false_or]

theorem continues_fraction_cons :
    fraction.Continues (character :: text) ↔ character.isDigit = true ∧ fraction.Continues text ∨
      (character = 'e' ∨ character = 'E') ∧ exponentMark.Continues text := by
  have maybe : AreDigits [] := List.forall_mem_nil _
  simp only [Continues, followed_cons, maybe, areDigits_cons, isExponent_cons, followed_and, true_and, or_comm]

theorem continues_exponentMark_cons :
    exponentMark.Continues (character :: text) ↔ character.isDigit = true ∧ exponent.Continues text ∨
      (character = '+' ∨ character = '-') ∧ exponentSign.Continues text := by
  have maybe : IsSign [] := .inl rfl
  simp only [Continues, followed_cons, maybe, areSomeDigits_cons, isSign_cons, followed_and, followed_empty, true_and]

theorem ne_mark_of_isDigit (digit : character.isDigit = true) :
    character ≠ '.' ∧ ¬ (character = 'e' ∨ character = 'E') ∧ ¬ (character = '+' ∨ character = '-') := by
  refine ⟨?_, ?_, ?_⟩
  · rintro rfl
    cases digit
  · rintro (rfl | rfl) <;> cases digit
  · rintro (rfl | rfl) <;> cases digit

theorem isExponentMark_iff : isExponentMark character = true ↔ character = 'e' ∨ character = 'E' := by
  rw [isExponentMark, Bool.or_eq_true, beq_iff_eq, beq_iff_eq]

end Cons

theorem continues_cons (state : NumberState) (character : Char) (text : List Char) :
    state.Continues (character :: text) ↔ ∃ later, state.next? character = some later ∧ later.Continues text := by
  cases state with
  | sign =>
    rw [continues_sign_cons, next?]
    by_cases zero : character = '0'
    · simp [zero]
    · by_cases digit : character.isDigit = true <;> simp [zero, digit]
  | zero =>
    rw [continues_zero_cons, next?]
    by_cases point : character = '.'
    · simp [point]
    · by_cases mark : isExponentMark character = true <;> simp [point, mark, ← isExponentMark_iff]
  | whole =>
    rw [continues_whole_cons, continues_zero_cons, next?]
    by_cases digit : character.isDigit = true
    · obtain ⟨noPoint, noMark, _⟩ := ne_mark_of_isDigit digit
      simp [digit, noPoint, noMark]
    · by_cases point : character = '.'
      · simp [point]
      · by_cases mark : isExponentMark character = true <;> simp [digit, point, mark, ← isExponentMark_iff]
  | point =>
    rw [continues_point_cons, next?]
    by_cases digit : character.isDigit = true <;> simp [digit]
  | fraction =>
    rw [continues_fraction_cons, next?]
    by_cases digit : character.isDigit = true
    · obtain ⟨_, noMark, _⟩ := ne_mark_of_isDigit digit
      simp [digit, noMark]
    · by_cases mark : isExponentMark character = true <;> simp [digit, mark, ← isExponentMark_iff]
  | exponentMark =>
    rw [continues_exponentMark_cons, next?]
    by_cases digit : character.isDigit = true
    · obtain ⟨_, _, noSign⟩ := ne_mark_of_isDigit digit
      simp [digit, noSign]
    · by_cases signed : character = '+' ∨ character = '-' <;> simp [digit, signed]
  | exponentSign =>
    rw [Continues, areSomeDigits_cons, next?]
    by_cases digit : character.isDigit = true <;> simp [digit, Continues]
  | exponent =>
    rw [Continues, areDigits_cons, next?]
    by_cases digit : character.isDigit = true <;> simp [digit, Continues]

theorem continues_iff (state : NumberState) (text : List Char) :
    state.Continues text ↔ (text.foldlM next? state).any isComplete = true := by
  induction text generalizing state with
  | nil => exact continues_nil state
  | cons character text ih =>
    rw [continues_cons, List.foldlM_cons]
    cases state.next? character with
    | none => simp
    | some later => simp [ih]

theorem isNumber_cons {character : Char} {text : List Char} :
    IsNumber (character :: text) ↔
      if character = '-' then sign.Continues text else sign.Continues (character :: text) := by
  have begun : IsNumber (character :: text) ↔
      sign.Continues (character :: text) ∨ character = '-' ∧ sign.Continues text := by
    rw [IsNumber, followed_cons]
    simp [followed_and, followed_empty, Continues]
  rw [begun]
  by_cases minus : character = '-'
  · simp [minus, continues_sign_cons]
  · simp [minus]

theorem isLexeme_iff (lexeme : List Char) : isLexeme lexeme = true ↔ IsNumber lexeme := by
  cases lexeme with
  | nil => simp [isLexeme, IsNumber, followed_nil, IsWhole, AreSomeDigits]
  | cons first rest =>
    rw [isNumber_cons, isLexeme, start?]
    by_cases minus : first = '-'
    · simp [minus, continues_iff]
    · simp [minus, continues_iff]

end NumberState

def AreHexadecimal (count : Nat) (digits : List Char) : Prop :=
  digits.length = count ∧ ∀ digit ∈ digits, Hexadecimal.isDigit digit = true

theorem areHexadecimal_cons {count : Nat} {character : Char} {text : List Char} :
    AreHexadecimal (count + 1) (character :: text) ↔
      Hexadecimal.isDigit character = true ∧ AreHexadecimal count text := by
  rw [AreHexadecimal, AreHexadecimal, List.length_cons, Nat.succ_inj, List.forall_mem_cons, and_left_comm]

theorem not_areHexadecimal_nil {count : Nat} : ¬ AreHexadecimal (count + 1) [] := by
  rintro ⟨⟨⟩, _⟩

theorem areHexadecimal_zero {digits : List Char} : AreHexadecimal 0 digits ↔ digits = [] := by
  simp only [AreHexadecimal, List.length_eq_zero_iff, and_iff_left_iff_imp]
  rintro rfl
  exact List.forall_mem_nil _

/-- What may stand between two quotes: an escape is complete, and no quote and no control character is bare. -/
inductive IsBody : List Char → Prop where
  | nil : IsBody []
  | plain {character : Char} {rest : List Char} (noQuote : character ≠ '"') (noEscape : character ≠ '\\')
      (noControl : ¬ character < ' ') (isBody : IsBody rest) : IsBody (character :: rest)
  | escape {escaped : Char} {rest : List Char} (simple : StringState.isSimpleEscape escaped = true)
      (isBody : IsBody rest) : IsBody ('\\' :: escaped :: rest)
  | unicode {digits rest : List Char} (hexadecimal : AreHexadecimal 4 digits) (isBody : IsBody rest) :
      IsBody ('\\' :: 'u' :: (digits ++ rest))

namespace StringState

/-- The rest of a body that has been read up to the state. -/
def Completes (state : StringState) (text : List Char) : Prop := text.foldlM inside? state = some plain

theorem completes_cons {state : StringState} {character : Char} {text : List Char} :
    state.Completes (character :: text) ↔ ∃ later, state.inside? character = some later ∧ later.Completes text := by
  rw [Completes, List.foldlM_cons]
  exact Option.bind_eq_some_iff

theorem completes_plain_cons {character : Char} {text : List Char} :
    plain.Completes (character :: text) ↔ character = '\\' ∧ escape.Completes text ∨
      (character ≠ '"' ∧ character ≠ '\\' ∧ ¬ character < ' ') ∧ plain.Completes text := by
  rw [completes_cons]
  by_cases quote : character = '"'
  · simp [quote, inside?]
  · by_cases backslash : character = '\\'
    · simp [backslash, inside?, next?]
    · by_cases control : character < ' ' <;> simp [quote, backslash, control, inside?, next?]

theorem completes_escape_cons {escaped : Char} {text : List Char} :
    escape.Completes (escaped :: text) ↔ escaped = 'u' ∧ (hexadecimal 3).Completes text ∨
      isSimpleEscape escaped = true ∧ plain.Completes text := by
  rw [completes_cons]
  by_cases isUnicode : escaped = 'u'
  · have noSimple : isSimpleEscape 'u' = false := rfl
    simp [isUnicode, noSimple, inside?, next?]
  · by_cases simple : isSimpleEscape escaped = true <;> simp [isUnicode, simple, inside?, next?]

theorem completes_hexadecimal_iff (left : Nat) (text : List Char) :
    (hexadecimal left).Completes text ↔ Followed (AreHexadecimal (left + 1)) plain.Completes text := by
  induction left generalizing text with
  | zero =>
    cases text with
    | nil => simp [Completes, followed_nil, not_areHexadecimal_nil]
    | cons character text =>
      simp only [completes_cons, followed_cons, not_areHexadecimal_nil, false_and, false_or, areHexadecimal_cons,
        followed_and, areHexadecimal_zero, followed_empty]
      by_cases digit : Hexadecimal.isDigit character = true <;> simp [inside?, next?, digit]
  | succ left ih =>
    cases text with
    | nil => simp [Completes, followed_nil, not_areHexadecimal_nil]
    | cons character text =>
      simp only [completes_cons, followed_cons, not_areHexadecimal_nil, false_and, false_or, areHexadecimal_cons,
        followed_and, ← ih]
      by_cases digit : Hexadecimal.isDigit character = true <;> simp [inside?, next?, digit]

theorem isBody_of_completes {body : List Char} (completes : plain.Completes body) : IsBody body := by
  induction length : body.length using Nat.strongRecOn generalizing body with
  | ind length ih =>
    subst length
    cases body with
    | nil => exact .nil
    | cons first text =>
      rcases completes_plain_cons.mp completes with ⟨rfl, escaped⟩ | ⟨⟨noQuote, noEscape, noControl⟩, later⟩
      · cases text with
        | nil => cases escaped
        | cons next text =>
          rcases completes_escape_cons.mp escaped with ⟨rfl, unicode⟩ | ⟨simple, later⟩
          · obtain ⟨digits, rest, rfl, hexadecimal, later⟩ := (completes_hexadecimal_iff 3 text).mp unicode
            exact .unicode hexadecimal (ih _ (by simp only [List.length_cons, List.length_append]; omega) later rfl)
          · exact .escape simple (ih _ (by simp only [List.length_cons]; omega) later rfl)
      · exact .plain noQuote noEscape noControl (ih _ (Nat.lt_succ_self _) later rfl)

theorem completes_of_isBody {body : List Char} (isBody : IsBody body) : plain.Completes body := by
  induction isBody with
  | nil => rfl
  | plain noQuote noEscape noControl _ ih =>
    exact completes_plain_cons.mpr (.inr ⟨⟨noQuote, noEscape, noControl⟩, ih⟩)
  | escape simple _ ih =>
    exact completes_plain_cons.mpr (.inl ⟨rfl, completes_escape_cons.mpr (.inr ⟨simple, ih⟩)⟩)
  | unicode hexadecimal _ ih =>
    have digits := (completes_hexadecimal_iff 3 _).mpr ⟨_, _, rfl, hexadecimal, ih⟩
    exact completes_plain_cons.mpr (.inl ⟨rfl, completes_escape_cons.mpr (.inl ⟨rfl, digits⟩)⟩)

theorem isBody_iff (body : List Char) : isBody body = true ↔ IsBody body := by
  rw [isBody, beq_iff_eq]
  exact ⟨isBody_of_completes, completes_of_isBody⟩

end StringState
end SquareSums.Json
