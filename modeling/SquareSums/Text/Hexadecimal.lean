/-! Hexadecimal numbers in text; digits above nine may be letters of either case. -/

namespace SquareSums.Hexadecimal

def digit? (character : Char) : Option Nat :=
  if character.isDigit then some (character.toNat - '0'.toNat)
  else if 'a' ≤ character && character ≤ 'f' then some (character.toNat - 'a'.toNat + 10)
  else if 'A' ≤ character && character ≤ 'F' then some (character.toNat - 'A'.toNat + 10)
  else none

def isDigit (character : Char) : Bool := (digit? character).isSome

def value (digits : List Nat) : Nat := digits.foldl (fun number digit => 16 * number + digit) 0

end SquareSums.Hexadecimal
