import Mathlib.Data.List.Basic
import SquareSums.Proofs.QuotedText

/-! Messages, read back. The opening words of a message decide the kind of its fault, and what stands behind them is spelled in
one way only, so a message tells its fault with all that the fault carries. -/

namespace SquareSums

def Quantity.ofSymbol? : List Char → Option Quantity
  | ['N'] => some .length
  | ['M'] => some .bound
  | _ => none

theorem Quantity.ofSymbol?_symbol (quantity : Quantity) : ofSymbol? quantity.symbol.toList = some quantity := by
  cases quantity <;> rfl

namespace Fault

def malformedOf? : List Char → Option Fault
  | symbol :: ':' :: ' ' :: quoted => do
    let quantity ← Quantity.ofSymbol? [symbol]
    match ← Quoted.read? quoted with
    | (token, []) => some (.malformed quantity token)
    | _ => none
  | _ => none

def boundTooLargeOf? (text : List Char) : Option Fault :=
  if text.dropWhile Char.isDigit = " is too large: table size overflows".toList then
    (Decimal.value? (text.takeWhile Char.isDigit)).map .boundTooLarge
  else none

/-- The fault that a message tells. -/
def ofMessage? (message : String) : Option Fault :=
  let behind? (opening : String) := message.toList.dropPrefix? opening.toList
  ((behind? "i/o error: ").map fun reason => .unreadable (String.ofList reason)) <|>
  ((behind? "missing value for ").bind fun symbol => (Quantity.ofSymbol? symbol).map .missing) <|>
  ((behind? "invalid value for ").bind malformedOf?) <|>
  ((behind? "progression length must be positive").bind fun rest => if rest.isEmpty then some .zeroLength else none) <|>
  ((behind? "bound ").bind boundTooLargeOf?)

theorem malformedOf?_quoted (quantity : Quantity) (token : String) :
    malformedOf? (quantity.symbol.toList ++ (": ".toList ++ (Quoted.encode token).toList)) =
      some (.malformed quantity token) := by
  have read := Quoted.read?_encode token []
  rw [List.append_nil] at read
  cases quantity
  all_goals
    change malformedOf? (_ :: ':' :: ' ' :: (Quoted.encode token).toList) = _
    rw [malformedOf?, read]
    rfl

theorem boundTooLargeOf?_write (bound : UInt64) :
    boundTooLargeOf? ((Decimal.write bound).toList ++ " is too large: table size overflows".toList) =
      some (.boundTooLarge bound) := by
  have digits : ∀ digit ∈ Decimal.digits bound.toNat, digit.isDigit = true :=
    fun _ member => Decimal.isDigit_of_mem_digits member
  have closing : " is too large: table size overflows".toList.takeWhile Char.isDigit = [] := rfl
  rw [Decimal.write, String.toList_ofList, boundTooLargeOf?, List.dropWhile_append_of_pos digits,
    List.takeWhile_append_of_pos digits, closing, List.append_nil, Decimal.value?_digits]
  rfl

/-- A message is read back as its own fault. The openings differ in their first two characters, so only one of them fits. -/
theorem ofMessage?_message (fault : Fault) : ofMessage? fault.message = some fault := by
  have behind (opening : String) (rest : List Char) :
      (opening.toList ++ rest).dropPrefix? opening.toList = some rest := List.dropPrefix?_append_of_beq rest BEq.rfl
  cases fault with
  | unreadable reason =>
    change ofMessage? ("i/o error: " ++ reason) = _
    simp only [ofMessage?, String.toList_append, behind, Option.map_some, String.ofList_toList]
    rfl
  | missing quantity =>
    change ofMessage? ("missing value for " ++ quantity.symbol) = _
    simp only [ofMessage?, String.toList_append, behind, Option.bind_some, Quantity.ofSymbol?_symbol]
    rfl
  | malformed quantity token =>
    change ofMessage? ("invalid value for " ++ quantity.symbol ++ ": " ++ Quoted.encode token) = _
    simp only [ofMessage?, String.toList_append, List.append_assoc, behind, Option.bind_some, malformedOf?_quoted]
    rfl
  | zeroLength => rfl
  | boundTooLarge bound =>
    change ofMessage? ("bound " ++ Decimal.write bound ++ " is too large: table size overflows") = _
    simp only [ofMessage?, String.toList_append, List.append_assoc, behind, Option.bind_some, boundTooLargeOf?_write]
    rfl

theorem message_inj {fault other : Fault} : fault.message = other.message ↔ fault = other := by
  constructor
  · intro same
    have read := ofMessage?_message fault
    rw [same, ofMessage?_message] at read
    exact (Option.some.inj read).symm
  · exact congrArg message

/-- A message tells its fault, and no two faults have the same message. A token stands in it between quotes: read up to the
closing quote it is the token again, whatever follows, and the quotation stays on one line. -/
theorem messages_are_unambiguous :
    (∀ fault : Fault, ofMessage? fault.message = some fault) ∧
    (∀ fault other : Fault, fault.message = other.message ↔ fault = other) ∧
    ∀ token : String,
      (∀ quantity, (malformed quantity token).message =
        "invalid value for " ++ quantity.symbol ++ ": " ++ Quoted.encode token) ∧
      (∀ rest, Quoted.read? ((Quoted.encode token).toList ++ rest) = some (token, rest)) ∧
      (∀ other, Quoted.encode token = Quoted.encode other ↔ token = other) ∧
      (∃ body, (Quoted.encode token).toList = '"' :: body ++ ['"'] ∧
        '"' ∉ Quoted.bare body ∧ Quoted.bare (body ++ ['"']) = Quoted.bare body ++ ['"']) ∧
      ∀ character ∈ (Quoted.encode token).toList, isControl character = false ∧ isLineBreak character = false :=
  ⟨ofMessage?_message, fun _ _ => message_inj, fun token => ⟨fun _ => rfl, Quoted.read?_encode token,
    fun _ => Quoted.encode_inj, Quoted.exists_body token, (Quoted.printable_encode token).on_one_line⟩⟩

/-- A token that looks like the escape of a combining accent, and the accent itself, which is escaped so. -/
theorem messages_are_unambiguous_of_lookalike :
    let token := "\"\\u\x7b301\x7d\n"
    let accent := "\u0301"
    (Quoted.encode token).toList = "\"\\\"\\\\u\x7b301\x7d\\n\"".toList ∧
      (Quoted.encode accent).toList = "\"\\u\x7b301\x7d\"".toList ∧
      Quoted.read? ((Quoted.encode token).toList ++ ['"']) = some (token, ['"']) ∧
      Quoted.read? ((Quoted.encode accent).toList ++ ['"']) = some (accent, ['"']) ∧
      (malformed .bound token).message ≠ (malformed .bound accent).message ∧
      '\\' ∈ (Quoted.encode token).toList ∧ isControl '\\' = false ∧ isLineBreak '\\' = false := by
  intro token accent
  obtain ⟨_, same, quotes⟩ := messages_are_unambiguous
  obtain ⟨_, read, _, _, plain⟩ := quotes token
  obtain ⟨_, readAccent, _⟩ := quotes accent
  have escaped : '\\' ∈ (Quoted.encode token).toList := by decide +kernel
  have different : malformed .bound token ≠ malformed .bound accent := by decide +kernel
  exact ⟨by decide +kernel, by decide +kernel, read ['"'], readAccent ['"'], mt (same _ _).mp different, escaped,
    plain _ escaped⟩

end Fault
end SquareSums
