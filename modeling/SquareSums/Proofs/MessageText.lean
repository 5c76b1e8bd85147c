import SquareSums.Fault

/-! Messages have a picture. A token is quoted before it becomes part of a message, so whatever it holds
the message stays on one line; only a reason from outside the program could break it. -/

namespace SquareSums

/-- Every character has a picture of its own; a line feed, for one, has none. -/
def Printable (text : List Char) : Prop := ∀ character ∈ text, Unprintable.holds character = false

theorem Printable.append {before after : List Char} (first : Printable before) (second : Printable after) :
    Printable (before ++ after) := by
  intro character member
  rcases List.mem_append.mp member with inside | inside
  · exact first character inside
  · exact second character inside

theorem Printable.newline_not_mem {text : List Char} (printable : Printable text) : '\n' ∉ text :=
  fun member => absurd (printable '\n' member) (by decide)

def isControl (character : Char) : Bool :=
  character.toNat < 0x20 || 0x7F ≤ character.toNat && character.toNat ≤ 0x9F

/-- Line feed, vertical tab, form feed, carriage return, next line, and the separators of lines and of paragraphs. -/
def isLineBreak (character : Char) : Bool :=
  [0xA, 0xB, 0xC, 0xD, 0x85, 0x2028, 0x2029].contains character.toNat

theorem unprintable_of_range {first last : Nat} (listed : (first, last) ∈ Unprintable.ranges) {character : Char}
    (after : first ≤ character.toNat) (within : character.toNat ≤ last) : Unprintable.holds character = true :=
  List.any_eq_true.mpr ⟨(first, last), listed, by simp [after, within]⟩

theorem unprintable_of_isControl {character : Char} (control : isControl character = true) :
    Unprintable.holds character = true := by
  simp only [isControl, Bool.or_eq_true, Bool.and_eq_true, decide_eq_true_eq] at control
  rcases control with low | ⟨after, within⟩
  · exact unprintable_of_range (by decide +kernel : (0x0, 0x1F) ∈ Unprintable.ranges) (Nat.zero_le _) (by omega)
  · exact unprintable_of_range (by decide +kernel : (0x7F, 0xA0) ∈ Unprintable.ranges) after (by omega)

/-- The two separators are the only line breaks that are no control characters. -/
theorem unprintable_of_isLineBreak {character : Char} (lineBreak : isLineBreak character = true) :
    Unprintable.holds character = true := by
  have place : isControl character = true ∨ 0x2028 ≤ character.toNat ∧ character.toNat ≤ 0x202F := by
    simp only [isLineBreak, isControl, List.contains_eq_mem, List.mem_cons, List.not_mem_nil, or_false, Bool.or_eq_true,
      Bool.and_eq_true, decide_eq_true_eq] at lineBreak ⊢
    omega
  rcases place with control | ⟨after, within⟩
  · exact unprintable_of_isControl control
  · exact unprintable_of_range (by decide +kernel : (0x2028, 0x202F) ∈ Unprintable.ranges) after within

theorem Printable.on_one_line {text : List Char} (printable : Printable text) :
    ∀ character ∈ text, isControl character = false ∧ isLineBreak character = false := by
  intro character member
  have picture := Bool.eq_false_iff.mp (printable character member)
  exact ⟨Bool.eq_false_iff.mpr (mt unprintable_of_isControl picture),
    Bool.eq_false_iff.mpr (mt unprintable_of_isLineBreak picture)⟩

def isAscii (character : Char) : Bool := 0x20 ≤ character.toNat && character.toNat ≤ 0x7E

theorem printable_of_ascii {text : List Char} (ascii : text.all isAscii = true) : Printable text := by
  have outside : Unprintable.ranges.all (fun range => decide (range.2 < 0x20) || decide (0x7E < range.1)) = true := by
    decide +kernel
  intro character member
  have inside := List.all_eq_true.mp ascii character member
  refine List.any_eq_false.mpr fun range listed => ?_
  have apart := List.all_eq_true.mp outside range listed
  simp only [isAscii, Bool.or_eq_true, Bool.and_eq_true, decide_eq_true_eq] at inside apart ⊢
  omega

theorem forall_mem_toDigits {base : Nat} (several : 1 < base) (Holds : Char → Prop)
    (digit : ∀ value < base, Holds value.digitChar) (number : Nat) :
    ∀ character ∈ Nat.toDigits base number, Holds character := by
  induction number using Nat.strongRecOn with
  | ind number ih =>
    rw [Nat.toDigits_eq_if several]
    split
    next single =>
      intro character member
      rw [List.mem_singleton.mp member]
      exact digit number single
    next more =>
      have smaller : number / base < number := Nat.div_lt_self (by omega) several
      intro character member
      rcases List.mem_append.mp member with front | last
      · exact ih _ smaller character front
      · rw [List.mem_singleton.mp last]
        exact digit _ (Nat.mod_lt _ (by omega))

theorem printable_toDigits {base : Nat} (several : 1 < base) (few : base ≤ 16) (number : Nat) :
    Printable (Nat.toDigits base number) := by
  have table : (List.range 16).all (fun value => isAscii (Nat.digitChar value)) = true := by decide
  apply printable_of_ascii
  apply List.all_eq_true.mpr
  apply forall_mem_toDigits several (isAscii · = true)
  intro value small
  exact List.all_eq_true.mp table value (List.mem_range.mpr (Nat.lt_of_lt_of_le small few))

theorem printable_write (word : UInt64) : Printable (Decimal.write word).toList := by
  rw [Decimal.write, String.toList_ofList]
  exact printable_toDigits (by decide) (by decide) _

namespace Quoted

theorem printable_encodeChar (character : Char) : Printable (encodeChar character) := by
  unfold encodeChar
  iterate 6
    split
    · exact printable_of_ascii (by decide)
  split
  next =>
    have digits : Printable (Nat.toDigits 16 character.toNat) := printable_toDigits (by decide) (by decide) _
    exact (Printable.append (printable_of_ascii (by decide)) digits).append (printable_of_ascii (by decide))
  next picture =>
    intro other member
    rw [List.mem_singleton.mp member]
    simpa using picture

theorem printable_encode (text : String) : Printable (encode text).toList := by
  have quote : Printable ['"'] := printable_of_ascii (by decide)
  rw [encode, String.toList_ofList]
  refine (quote.append ?_).append quote
  intro character member
  obtain ⟨source, _, inside⟩ := List.mem_flatMap.mp member
  exact printable_encodeChar source character inside

end Quoted

namespace Fault

theorem printable_symbol (quantity : Quantity) : Printable quantity.symbol.toList := by
  cases quantity
  · exact printable_of_ascii (by decide)
  · exact printable_of_ascii (by decide)

theorem printable_message (fault : Fault)
    (known : ∀ reason, fault = .unreadable reason → Printable reason.toList) : Printable fault.message.toList := by
  cases fault with
  | unreadable reason =>
    change Printable ("i/o error: " ++ reason).toList
    rw [String.toList_append]
    exact Printable.append (printable_of_ascii (by decide)) (known reason rfl)
  | missing quantity =>
    change Printable ("missing value for " ++ quantity.symbol).toList
    rw [String.toList_append]
    exact Printable.append (printable_of_ascii (by decide)) (printable_symbol quantity)
  | malformed quantity token =>
    change Printable ("invalid value for " ++ quantity.symbol ++ ": " ++ Quoted.encode token).toList
    simp only [String.toList_append]
    refine Printable.append (.append (.append (printable_of_ascii (by decide)) ?_) (printable_of_ascii (by decide))) ?_
    · exact printable_symbol quantity
    · exact Quoted.printable_encode token
  | zeroLength => exact printable_of_ascii (by decide)
  | boundTooLarge bound =>
    change Printable ("bound " ++ Decimal.write bound ++ " is too large: table size overflows").toList
    simp only [String.toList_append]
    refine Printable.append (.append (printable_of_ascii (by decide)) ?_) (printable_of_ascii (by decide))
    exact printable_write bound

end Fault
end SquareSums
