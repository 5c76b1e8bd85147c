/-! Places in the text of a regular expression, and the runs of characters between two of them. -/

namespace SquareSums.Pattern

/-- Lines and columns count from one. -/
structure Place where
  line : Nat
  column : Nat
deriving DecidableEq, Repr

namespace Place

def start : Place := ⟨1, 1⟩

/-- Behind a character that stands at the place. -/
def after (place : Place) (character : Char) : Place :=
  if character == '\n' then ⟨place.line + 1, 1⟩ else ⟨place.line, place.column + 1⟩

end Place

/-- From the first character to before the last place. -/
structure Span where
  first : Place
  last : Place
deriving DecidableEq, Repr

namespace Span

/-- A run of no characters. -/
def empty (place : Place) : Span := ⟨place, place⟩

def cover (first last : Span) : Span := ⟨first.first, last.last⟩

def isWithinLine (span : Span) : Bool := span.first.line == span.last.line

/-- An empty run still has the width of one character. -/
def width (span : Span) : Nat := max 1 (span.last.column - span.first.column)

end Span
end SquareSums.Pattern
