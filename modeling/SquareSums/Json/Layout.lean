import SquareSums.Json.Value

/-! The text of a value: its tokens in order, either with nothing between them or laid out over
lines, two spaces for each level and one after a colon. An empty array or object stays closed. -/

namespace SquareSums.Json.Layout

def text (token : Token) : String := String.ofList token.spelling

def compact (value : Value) : String := String.join (value.tokens.map text)

def newLine (depth : Nat) : String := String.ofList ('\n' :: List.replicate (2 * depth) ' ')

/-- The white space between two neighbours, at the depth that the first one leaves. -/
def gap (depth : Nat) : (previous next : Token) → String
  | .openBrace, .closeBrace => ""
  | .openBracket, .closeBracket => ""
  | .openBrace, _ => newLine depth
  | .openBracket, _ => newLine depth
  | .comma, _ => newLine depth
  | .colon, _ => " "
  | _, .closeBrace => newLine (depth - 1)
  | _, .closeBracket => newLine (depth - 1)
  | _, _ => ""

def depthAfter (depth : Nat) : Token → Nat
  | .openBrace | .openBracket => depth + 1
  | .closeBrace | .closeBracket => depth - 1
  | _ => depth

structure Page where
  written : String
  depth : Nat
  last : Option Token

def Page.write : Page → Token → Page
  | ⟨written, depth, last⟩, token =>
    let space := last.elim "" (gap depth · token)
    ⟨written ++ space ++ text token, depthAfter depth token, some token⟩

def indented (value : Value) : String := (value.tokens.foldl Page.write ⟨"", 0, none⟩).written

end SquareSums.Json.Layout
