import SquareSums.Pattern.CharSet

/-! Sets of characters as sequences of bytes. A range of code points is cut until each piece is one
range of bytes after another, so that every choice of one byte from each range makes a member. -/

namespace SquareSums.Utf8

/-- A byte's first and last value, for every byte of a character. -/
abbrev ByteRanges := List (Nat × Nat)

def encode (point : Nat) : List Nat :=
  if point < 0x80 then [point]
  else if point < 0x800 then [0xC0 + point / 0x40, 0x80 + point % 0x40]
  else if point < 0x10000 then [0xE0 + point / 0x1000, 0x80 + point / 0x40 % 0x40, 0x80 + point % 0x40]
  else
    [0xF0 + point / 0x40000, 0x80 + point / 0x1000 % 0x40, 0x80 + point / 0x40 % 0x40, 0x80 + point % 0x40]

/-- Where a range must be cut because code points that share all but their last bits end inside it. -/
def unevenCut? (first last size : Nat) : Option Nat :=
  if first / size = last / size then none
  else if first % size ≠ 0 then some ((first / size + 1) * size)
  else if last % size ≠ size - 1 then some (last / size * size)
  else none

/-- The first code point of the second piece, if a range needs to be cut: where the number of bytes
changes, and where the bytes that follow the first are not free. -/
def cut? (first last : Nat) : Option Nat :=
  ([0x80, 0x800, 0x10000].find? fun cut => first < cut && cut ≤ last).or <|
    if last < 0x80 then none
    else [0x40, 0x1000, 0x40000].findSome? (unevenCut? first last)

def pieces (first last : Nat) : List (Nat × Nat) :=
  match cut? first last with
  | some cut => if first < cut ∧ cut ≤ last then pieces first (cut - 1) ++ pieces cut last else [(first, last)]
  | none => [(first, last)]
termination_by last - first
decreasing_by all_goals omega

/-- Surrogates are code points without a character. -/
def withoutSurrogates (range : Nat × Nat) : List (Nat × Nat) :=
  [(range.1, min range.2 0xD7FF), (max range.1 0xE000, range.2)].filter fun piece => piece.1 ≤ piece.2

def sequences (members : CharSet) : List ByteRanges :=
  ((members.ranges.flatMap withoutSurrogates).flatMap fun range => pieces range.1 range.2).map
    fun range => (encode range.1).zip (encode range.2)

end SquareSums.Utf8
