import SquareSums.Proofs.MessageText
import SquareSums.Text.Hexadecimal

/-! Quoted text, read back. An escape is told apart from the text that it stands for by its first character alone, and a
code point is ended by its brace, so the closing quote is found whatever follows it and each text has a quotation
of its own. -/

namespace SquareSums

theorem Hexadecimal.digit?_digitChar : ∀ value < 16, digit? value.digitChar = some value := by decide

namespace Quoted

/-- How far an escape has been read: none is open, its backslash, the letter of a code point, or digits of one. -/
inductive Stage where
  | plain
  | escape
  | letter
  | digits (value : Nat)

def escaped? : Char → Option Char
  | '0' => some '\x00'
  | 't' => some '\t'
  | 'r' => some '\r'
  | 'n' => some '\n'
  | '"' => some '"'
  | '\\' => some '\\'
  | _ => none

def before (character : Char) (read : Option (List Char × List Char)) : Option (List Char × List Char) :=
  read.map fun (text, rest) => (character :: text, rest)

def readFrom : Stage → List Char → Option (List Char × List Char)
  | _, [] => none
  | .plain, character :: rest =>
    if character = '"' then some ([], rest)
    else if character = '\\' then readFrom .escape rest
    else before character (readFrom .plain rest)
  | .escape, mark :: rest =>
    if mark = 'u' then readFrom .letter rest
    else (escaped? mark).bind fun character => before character (readFrom .plain rest)
  | .letter, mark :: rest => if mark = '\x7b' then readFrom (.digits 0) rest else none
  | .digits value, mark :: rest =>
    if mark = '\x7d' then if value.isValidChar then before (Char.ofNat value) (readFrom .plain rest) else none
    else (Hexadecimal.digit? mark).bind fun digit => readFrom (.digits (16 * value + digit)) rest

def read? : List Char → Option (String × List Char)
  | '"' :: rest => (readFrom .plain rest).map fun (text, rest) => (String.ofList text, rest)
  | _ => none

/-- A character is escaped by one mark, written as a code point, or stands for itself; then it is neither of the two
characters that have a meaning here. -/
theorem encodeChar_cases (character : Char) :
    (∃ mark, mark ≠ 'u' ∧ escaped? mark = some character ∧ encodeChar character = ['\\', mark]) ∨
    encodeChar character = codePoint character ∨
    character ≠ '"' ∧ character ≠ '\\' ∧ encodeChar character = [character] := by
  unfold encodeChar
  split
  next same => exact .inl ⟨'0', by decide, by rw [same]; rfl, rfl⟩
  split
  next same => exact .inl ⟨'t', by decide, by rw [same]; rfl, rfl⟩
  split
  next same => exact .inl ⟨'r', by decide, by rw [same]; rfl, rfl⟩
  split
  next same => exact .inl ⟨'n', by decide, by rw [same]; rfl, rfl⟩
  split
  next same => exact .inl ⟨'"', by decide, by rw [same]; rfl, rfl⟩
  split
  next same => exact .inl ⟨'\\', by decide, by rw [same]; rfl, rfl⟩
  split
  · exact .inr (.inl rfl)
  · exact .inr (.inr ⟨‹_›, ‹_›, rfl⟩)

theorem readFrom_toDigits (number : Nat) (rest : List Char) :
    readFrom (.digits 0) (Nat.toDigits 16 number ++ rest) = readFrom (.digits number) rest := by
  have step (value digit : Nat) (small : digit < 16) (rest : List Char) :
      readFrom (.digits value) (digit.digitChar :: rest) = readFrom (.digits (16 * value + digit)) rest := by
    have noBrace : digit.digitChar ≠ '\x7d' := by
      intro same
      have read := Hexadecimal.digit?_digitChar digit small
      rw [same] at read
      cases read
    rw [readFrom, if_neg noBrace, Hexadecimal.digit?_digitChar digit small, Option.bind_some]
  induction number using Nat.strongRecOn generalizing rest with
  | ind number ih =>
    rw [Nat.toDigits_eq_if (by decide)]
    split
    next single => rw [List.singleton_append, step 0 number single, Nat.mul_zero, Nat.zero_add]
    next more =>
      have smaller : number / 16 < number := Nat.div_lt_self (by omega) (by decide)
      rw [List.append_assoc, ih _ smaller, List.singleton_append, step _ _ (Nat.mod_lt _ (by decide)), Nat.div_add_mod]

theorem readFrom_encodeChar (character : Char) (rest : List Char) :
    readFrom .plain (encodeChar character ++ rest) = before character (readFrom .plain rest) := by
  rcases encodeChar_cases character with ⟨mark, noLetter, escaped, written⟩ | written | ⟨noQuote, noEscape, written⟩
  · rw [written]
    change readFrom .escape (mark :: rest) = _
    rw [readFrom, if_neg noLetter, escaped, Option.bind_some]
  · rw [written, codePoint, List.append_assoc, List.append_assoc]
    change readFrom (.digits 0) (Nat.toDigits 16 character.toNat ++ _) = _
    have valid : character.toNat.isValidChar := character.valid
    rw [readFrom_toDigits, List.singleton_append, readFrom, if_pos rfl, if_pos valid, Char.ofNat_toNat]
  · rw [written, List.singleton_append, readFrom, if_neg noQuote, if_neg noEscape]

theorem readFrom_flatMap_encodeChar (text rest : List Char) :
    readFrom .plain (text.flatMap encodeChar ++ '"' :: rest) = some (text, rest) := by
  induction text with
  | nil => rfl
  | cons character text ih => rw [List.flatMap_cons, List.append_assoc, readFrom_encodeChar, ih]; rfl

theorem toList_encode (token : String) : (encode token).toList = '"' :: token.toList.flatMap encodeChar ++ ['"'] := by
  rw [encode, String.toList_ofList]

theorem read?_encode (token : String) (rest : List Char) :
    read? ((encode token).toList ++ rest) = some (token, rest) := by
  rw [toList_encode, List.append_assoc, List.cons_append, List.singleton_append, read?, readFrom_flatMap_encodeChar]
  exact congrArg (fun text => some (text, rest)) String.ofList_toList

theorem encode_inj {token other : String} : encode token = encode other ↔ token = other := by
  constructor
  · intro same
    have read := read?_encode token []
    rw [same, read?_encode] at read
    exact (congrArg Prod.fst (Option.some.inj read)).symm
  · exact congrArg encode

def bareFrom : Bool → List Char → List Char
  | _, [] => []
  | true, _ :: rest => bareFrom false rest
  | false, character :: rest =>
    if character = '\\' then bareFrom true rest else character :: bareFrom false rest

/-- The characters of a text that no backslash escapes. -/
def bare (text : List Char) : List Char := bareFrom false text

theorem bare_append {front : List Char} (noEscape : '\\' ∉ front) (rest : List Char) :
    bare (front ++ rest) = front ++ bare rest := by
  induction front with
  | nil => rfl
  | cons character front ih =>
    rw [List.mem_cons, not_or, eq_comm] at noEscape
    rw [List.cons_append, bare, bareFrom, if_neg noEscape.1]
    exact congrArg (character :: ·) (ih noEscape.2)

/-- What an encoded character leaves bare holds no quote, and it takes nothing of what follows along. -/
theorem bare_encodeChar (character : Char) :
    ∃ left, '"' ∉ left ∧ ∀ rest, bare (encodeChar character ++ rest) = left ++ bare rest := by
  rcases encodeChar_cases character with ⟨mark, _, _, written⟩ | written | ⟨noQuote, noEscape, written⟩
  · -- The mark may be a quote or a backslash, but it stands behind a backslash.
    refine ⟨[], List.not_mem_nil, fun rest => ?_⟩
    rw [written]
    rfl
  · have digits : ∀ digit ∈ Nat.toDigits 16 character.toNat, digit ≠ '"' ∧ digit ≠ '\\' :=
      forall_mem_toDigits (by decide) _ (by decide) character.toNat
    have braced : ∀ sign ∈ '\x7b' :: (Nat.toDigits 16 character.toNat ++ ['\x7d']), sign ≠ '"' ∧ sign ≠ '\\' := by
      simpa [or_imp, forall_and] using digits
    refine ⟨_, fun quote => (braced _ quote).1 rfl, fun rest => ?_⟩
    rw [← bare_append fun escape => (braced _ escape).2 rfl, written, codePoint]
    simp only [List.append_assoc, List.cons_append, List.nil_append]
    rfl
  · refine ⟨[character], by simpa using noQuote.symm, fun rest => ?_⟩
    rw [written, bare_append (by simpa using noEscape.symm)]

theorem bare_flatMap_encodeChar (text : List Char) :
    ∃ left, '"' ∉ left ∧ ∀ rest, bare (text.flatMap encodeChar ++ rest) = left ++ bare rest := by
  induction text with
  | nil => exact ⟨[], List.not_mem_nil, fun _ => rfl⟩
  | cons character text ih =>
    obtain ⟨front, noQuote, first⟩ := bare_encodeChar character
    obtain ⟨left, noneLater, later⟩ := ih
    refine ⟨front ++ left, by simp [noQuote, noneLater], fun rest => ?_⟩
    rw [List.flatMap_cons, List.append_assoc, first, later, List.append_assoc]

/-- Between its quotes a quotation has no bare quote, and the quote behind is not escaped either. -/
theorem exists_body (token : String) :
    ∃ body, (encode token).toList = '"' :: body ++ ['"'] ∧ '"' ∉ bare body ∧ bare (body ++ ['"']) = bare body ++ ['"'] := by
  obtain ⟨left, noQuote, bares⟩ := bare_flatMap_encodeChar token.toList
  have inner : bare (token.toList.flatMap encodeChar) = left := by
    simpa [bare, bareFrom] using bares []
  refine ⟨_, toList_encode token, by rwa [inner], ?_⟩
  rw [bares, inner]
  rfl

end Quoted
end SquareSums
