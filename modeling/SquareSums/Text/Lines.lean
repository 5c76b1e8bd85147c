/-! Text as lines. A line ends with a line feed or with the text; a carriage return just before the line
feed belongs to the ending, so it is no part of the line. -/

namespace SquareSums.Lines

/-- What a finished line holds, from its characters in reverse. -/
def finished : List Char → List Char
  | '\r' :: backwards => backwards.reverse
  | backwards => backwards.reverse

/-- The lines that remain, given those before them and the characters of the present one, each backwards. -/
def gather (earlier : List (List Char)) (backwards : List Char) : List Char → List (List Char)
  | [] => (if backwards.isEmpty then earlier else backwards.reverse :: earlier).reverse
  | '\n' :: text => gather (finished backwards :: earlier) [] text
  | character :: text => gather earlier (character :: backwards) text

def ofText (text : List Char) : List (List Char) := gather [] [] text

end SquareSums.Lines
