/-! White space and the words it separates. The blank characters are the twenty-five of Unicode's
property White_Space; a word is a maximal run of characters that are not blank. -/

namespace SquareSums.Blank

def ranges : List (Nat × Nat) :=
  [(0x9, 0xD), (0x20, 0x20), (0x85, 0x85), (0xA0, 0xA0), (0x1680, 0x1680), (0x2000, 0x200A), (0x2028, 0x2029),
   (0x202F, 0x202F), (0x205F, 0x205F), (0x3000, 0x3000)]

def holds (character : Char) : Bool :=
  ranges.any fun range => range.1 ≤ character.toNat && character.toNat ≤ range.2

/-- The first word, if there is one, and what follows it. -/
def word? (text : List Char) : Option (List Char × List Char) :=
  match text.dropWhile holds with
  | [] => none
  | rest => some (rest.takeWhile (!holds ·), rest.dropWhile (!holds ·))

/-- The text without the white space at its ends. -/
def trim (text : List Char) : List Char := ((text.dropWhile holds).reverse.dropWhile holds).reverse

end SquareSums.Blank
