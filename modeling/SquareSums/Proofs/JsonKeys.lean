import Mathlib.Data.List.Basic
import SquareSums.Json.Text
import SquareSums.Proofs.CharacterNumbers

/-! How keys are spelled. A character may stand for itself or be escaped in several ways, beyond the first
plane by two escapes; a body is decoded exactly if it spells characters so, and as those characters. -/

namespace SquareSums.Json.Text

structure IsUnit (digits : List Char) (unit : Nat) : Prop where
  four : digits.length = 4
  written : (digits.mapM Hexadecimal.digit?).map Hexadecimal.value = some unit

/-- One code point, surrogates among them, and the characters that spell it. -/
inductive SpellsPoint : Nat → List Char → Prop where
  | plain {character : Char} (noEscape : character ≠ '\\') : SpellsPoint character.toNat [character]
  | escape {escaped character : Char} (simple : simpleEscape? escaped = some character) :
      SpellsPoint character.toNat ['\\', escaped]
  | unicode {digits : List Char} {unit : Nat} (isUnit : IsUnit digits unit) : SpellsPoint unit ('\\' :: 'u' :: digits)

inductive SpellsPoints : List Nat → List Char → Prop where
  | nil : SpellsPoints [] []
  | cons {point : Nat} {points : List Nat} {front rest : List Char} (first : SpellsPoint point front)
      (later : SpellsPoints points rest) : SpellsPoints (point :: points) (front ++ rest)

/-- The characters that a body spells; one that a word of sixteen bits cannot hold may take two escapes. -/
inductive Spells : List Char → List Char → Prop where
  | nil : Spells [] []
  | single {character : Char} {characters front rest : List Char} (first : SpellsPoint character.toNat front)
      (later : Spells characters rest) : Spells (character :: characters) (front ++ rest)
  | pair {leading trailing : Nat} {character : Char} {characters front middle rest : List Char}
      (first : SpellsPoint leading front) (second : SpellsPoint trailing middle)
      (isLeading : isLeading leading = true) (isTrailing : isTrailing trailing = true)
      (joined : character.toNat = 0x10000 + (leading - 0xD800) * 0x400 + (trailing - 0xDC00))
      (later : Spells characters rest) : Spells (character :: characters) (front ++ (middle ++ rest))

theorem codePoints?_append {point : Nat} {front : List Char} (spells : SpellsPoint point front) (rest : List Char) :
    codePoints? (front ++ rest) = (codePoints? rest).map (point :: ·) := by
  cases spells with
  | @plain character noEscape =>
    rw [List.singleton_append, codePoints?]
    · cases codePoints? rest <;> rfl
    all_goals grind
  | @escape escaped character simple =>
    rw [List.cons_append, List.singleton_append, codePoints?, simple]
    · cases codePoints? rest <;> rfl
    · rintro first second third fourth later rfl
      cases simple
  | @unicode digits unit isUnit =>
    obtain ⟨first, second, third, fourth, rfl⟩ := List.length_eq_four.mp isUnit.four
    obtain ⟨numbers, read, rfl⟩ := Option.map_eq_some_iff.mp isUnit.written
    simp only [List.cons_append, List.nil_append]
    rw [codePoints?, read]
    cases codePoints? rest <;> rfl

theorem spellsPoints_of_codePoints? {body : List Char} {points : List Nat}
    (decoded : codePoints? body = some points) : SpellsPoints points body := by
  fun_induction codePoints? body generalizing points with
  | case1 =>
    cases decoded
    exact .nil
  | case2 => cases decoded
  | case3 first second third fourth rest ih =>
    obtain ⟨numbers, read, decoded⟩ := Option.bind_eq_some_iff.mp decoded
    obtain ⟨later, readLater, decoded⟩ := Option.bind_eq_some_iff.mp decoded
    cases decoded
    have isUnit : IsUnit [first, second, third, fourth] (Hexadecimal.value numbers) := ⟨rfl, by rw [read]; rfl⟩
    exact .cons (.unicode isUnit) (ih readLater)
  | case4 escaped rest _ ih =>
    obtain ⟨character, simple, decoded⟩ := Option.bind_eq_some_iff.mp decoded
    obtain ⟨later, readLater, decoded⟩ := Option.bind_eq_some_iff.mp decoded
    cases decoded
    exact .cons (.escape simple) (ih readLater)
  | case5 character rest last _ escape ih =>
    obtain ⟨later, read, decoded⟩ := Option.bind_eq_some_iff.mp decoded
    cases decoded
    refine .cons (.plain ?_) (ih read)
    rintro rfl
    cases rest with
    | nil => exact last rfl rfl
    | cons escaped rest => exact escape escaped rest rfl rfl

theorem not_surrogate (character : Char) :
    isLeading character.toNat = false ∧ isTrailing character.toNat = false := by
  have valid : character.toNat.isValidChar := character.valid
  simp only [isLeading, isTrailing]
  grind

theorem characters?_cons (character : Char) (points : List Nat) :
    characters? (character.toNat :: points) = (characters? points).map (character :: ·) := by
  obtain ⟨noLeading, noTrailing⟩ := not_surrogate character
  cases points <;> simp [characters?, noLeading, noTrailing, Char.ofNat_toNat]

theorem digit_lt {character : Char} {number : Nat} (read : Hexadecimal.digit? character = some number) :
    number < 16 := by
  unfold Hexadecimal.digit? at read
  split at read
  next digit =>
    cases read
    have high : character.toNat ≤ 57 := of_decide_eq_true (Bool.and_eq_true_iff.mp digit).2
    simp only [Char.reduceToNat]
    omega
  next =>
    split at read
    next small =>
      cases read
      have high : character.toNat ≤ 102 := of_decide_eq_true (Bool.and_eq_true_iff.mp small).2
      simp only [Char.reduceToNat]
      omega
    next =>
      obtain ⟨large, read⟩ := Option.ite_none_right_eq_some.mp read
      cases read
      have high : character.toNat ≤ 70 := of_decide_eq_true (Bool.and_eq_true_iff.mp large).2
      simp only [Char.reduceToNat]
      omega

theorem IsUnit.lt {digits : List Char} {unit : Nat} (isUnit : IsUnit digits unit) : unit < 0x10000 := by
  obtain ⟨first, second, third, fourth, rfl⟩ := List.length_eq_four.mp isUnit.four
  obtain ⟨numbers, read, rfl⟩ := Option.map_eq_some_iff.mp isUnit.written
  simp only [List.mapM_cons, List.mapM_nil, Option.bind_eq_bind, Option.bind_eq_some_iff, Option.pure_def] at read
  obtain ⟨one, readFirst, _, ⟨two, readSecond, _, ⟨three, readThird, _, ⟨four, readFourth, _,
    ⟨⟩, ⟨⟩⟩, ⟨⟩⟩, ⟨⟩⟩, ⟨⟩⟩ := read
  have := digit_lt readFirst
  have := digit_lt readSecond
  have := digit_lt readThird
  have := digit_lt readFourth
  simp only [Hexadecimal.value, List.foldl]
  omega

/-- Only two escapes spell what is beyond the reach of one. -/
theorem SpellsPoint.isValidChar {point : Nat} {front : List Char} (spells : SpellsPoint point front)
    (noLeading : isLeading point = false) (noTrailing : isTrailing point = false) : point.isValidChar := by
  cases spells with
  | plain _ => exact Char.valid _
  | escape _ => exact Char.valid _
  | unicode isUnit =>
    have small := isUnit.lt
    simp only [isLeading, isTrailing] at noLeading noTrailing
    grind

theorem isValidChar_joined {leading trailing : Nat} (isLeading : isLeading leading = true)
    (isTrailing : isTrailing trailing = true) :
    (0x10000 + (leading - 0xD800) * 0x400 + (trailing - 0xDC00)).isValidChar := by
  simp only [Text.isLeading, Text.isTrailing, Bool.and_eq_true, decide_eq_true_eq] at isLeading isTrailing
  right
  omega

theorem spells_of_characters? {points : List Nat} {body characters : List Char} (spelled : SpellsPoints points body)
    (paired : characters? points = some characters) : Spells characters body := by
  fun_induction characters? points generalizing body characters with
  | case1 =>
    cases paired
    cases spelled
    exact .nil
  | case2 => cases paired
  | case3 point alone =>
    cases paired
    obtain ⟨noLeading, noTrailing⟩ := Bool.or_eq_false_iff.mp (Bool.eq_false_iff.mpr alone)
    cases spelled with
    | cons first later =>
      cases later
      rw [← toNat_ofNat_of_isValidChar (first.isValidChar noLeading noTrailing)] at first
      exact .single first .nil
  | case4 leading trailing rest isLeading isTrailing ih =>
    obtain ⟨others, pairedLater, rfl⟩ := Option.map_eq_some_iff.mp paired
    cases spelled with
    | cons first later =>
      cases later with
      | cons second later =>
        have joined := toNat_ofNat_of_isValidChar (isValidChar_joined isLeading isTrailing)
        exact .pair first second isLeading isTrailing joined (ih later pairedLater)
  | case5 => cases paired
  | case6 => cases paired
  | case7 point next rest noLeading noTrailing ih =>
    obtain ⟨others, pairedLater, rfl⟩ := Option.map_eq_some_iff.mp paired
    cases spelled with
    | cons first later =>
      have valid := first.isValidChar (Bool.eq_false_iff.mpr noLeading) (Bool.eq_false_iff.mpr noTrailing)
      rw [← toNat_ofNat_of_isValidChar valid] at first
      exact .single first (ih later pairedLater)

theorem decode?_of_spells {characters body : List Char} (spells : Spells characters body) :
    decode? body = some characters := by
  induction spells with
  | nil => rfl
  | @single character characters front rest first _ ih =>
    obtain ⟨points, read, paired⟩ := Option.bind_eq_some_iff.mp ih
    rw [decode?, codePoints?_append first, read, Option.map_some, Option.bind_some, characters?_cons, paired]
    rfl
  | @pair leading trailing character _ _ _ _ first second isLeading isTrailing joined _ ih =>
    obtain ⟨points, read, paired⟩ := Option.bind_eq_some_iff.mp ih
    rw [decode?, codePoints?_append first, codePoints?_append second, read]
    simp only [Option.map_some, Option.bind_some, characters?, isLeading, isTrailing, if_true, paired]
    rw [← joined, Char.ofNat_toNat]

/-- A body is decoded as characters exactly if it spells them. -/
theorem decode?_eq_some_iff {body characters : List Char} :
    decode? body = some characters ↔ Spells characters body := by
  constructor
  · intro decoded
    obtain ⟨points, read, paired⟩ := Option.bind_eq_some_iff.mp decoded
    exact spells_of_characters? (spellsPoints_of_codePoints? read) paired
  · exact decode?_of_spells

end SquareSums.Json.Text
