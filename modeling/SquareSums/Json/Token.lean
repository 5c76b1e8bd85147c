import SquareSums.Text.Hexadecimal

/-! The tokens of JSON, each kept as it was written: a number holds its lexeme, a string what stands
between its quotes, escapes included. Reading is an automaton over the characters, so white space
between tokens is the only thing that a text loses when it becomes its tokens. -/

namespace SquareSums.Json

inductive Token where
  | openBrace
  | closeBrace
  | openBracket
  | closeBracket
  | comma
  | colon
  | null
  | boolean (value : Bool)
  | number (lexeme : List Char)
  | string (body : List Char)
deriving DecidableEq, Repr

def Token.spelling : Token → List Char
  | openBrace => ['\x7b']
  | closeBrace => ['\x7d']
  | openBracket => ['[']
  | closeBracket => [']']
  | comma => [',']
  | colon => [':']
  | null => ['n', 'u', 'l', 'l']
  | boolean true => ['t', 'r', 'u', 'e']
  | boolean false => ['f', 'a', 'l', 's', 'e']
  | number lexeme => lexeme
  | string body => '"' :: body ++ ['"']

def isBlank (character : Char) : Bool :=
  character == ' ' || character == '\t' || character == '\n' || character == '\r'

/-- How far a number has been read: what stands before the next character. -/
inductive NumberState where
  | sign
  | zero
  | whole
  | point
  | fraction
  | exponentMark
  | exponentSign
  | exponent
deriving DecidableEq, Repr

namespace NumberState

def isExponentMark (character : Char) : Bool := character == 'e' || character == 'E'

def next? : NumberState → Char → Option NumberState
  | sign, character =>
    if character == '0' then some zero else if character.isDigit then some whole else none
  | zero, character =>
    if character == '.' then some point else if isExponentMark character then some exponentMark else none
  | whole, character =>
    if character.isDigit then some whole
    else if character == '.' then some point
    else if isExponentMark character then some exponentMark
    else none
  | point, character => if character.isDigit then some fraction else none
  | fraction, character =>
    if character.isDigit then some fraction
    else if isExponentMark character then some exponentMark
    else none
  | exponentMark, character =>
    if character.isDigit then some exponent
    else if character == '+' || character == '-' then some exponentSign
    else none
  | exponentSign, character => if character.isDigit then some exponent else none
  | exponent, character => if character.isDigit then some exponent else none

def start? (character : Char) : Option NumberState :=
  if character == '-' then some sign else sign.next? character

/-- Whether a number may end here. -/
def isComplete : NumberState → Bool
  | zero | whole | fraction | exponent => true
  | sign | point | exponentMark | exponentSign => false

end NumberState

/-- How far an escape in a string has been read. -/
inductive StringState where
  | plain
  | escape
  | hexadecimal (digitsAfterNext : Nat)
deriving DecidableEq, Repr

namespace StringState

def isSimpleEscape (character : Char) : Bool :=
  ['"', '\\', '/', 'b', 'f', 'n', 'r', 't'].contains character

/-- The closing quote is not the concern of this automaton. Control characters must be escaped. -/
def next? : StringState → Char → Option StringState
  | plain, character =>
    if character == '\\' then some escape else if character < ' ' then none else some plain
  | escape, character =>
    if character == 'u' then some (hexadecimal 3) else if isSimpleEscape character then some plain else none
  | hexadecimal 0, character => if Hexadecimal.isDigit character then some plain else none
  | hexadecimal (left + 1), character => if Hexadecimal.isDigit character then some (hexadecimal left) else none

end StringState

/-- The token that is being read; lexemes and bodies are held backwards. -/
inductive Pending where
  | nothing
  | word (token : Token) (left : List Char)
  | number (reversed : List Char) (state : NumberState)
  | string (reversed : List Char) (state : StringState)
deriving DecidableEq, Repr

/-- The finished tokens, the last one first, and the one that is being read. -/
structure Scan where
  finished : List Token
  pending : Pending
deriving DecidableEq, Repr

namespace Scan

def wordOf? (character : Char) : Option Token :=
  if character == 'n' then some .null
  else if character == 't' then some (.boolean true)
  else if character == 'f' then some (.boolean false)
  else none

def markOf? (character : Char) : Option Token :=
  if character == '\x7b' then some .openBrace
  else if character == '\x7d' then some .closeBrace
  else if character == '[' then some .openBracket
  else if character == ']' then some .closeBracket
  else if character == ',' then some .comma
  else if character == ':' then some .colon
  else none

def start? (finished : List Token) (character : Char) : Option Scan :=
  if isBlank character then some ⟨finished, .nothing⟩
  else if character == '"' then some ⟨finished, .string [] .plain⟩
  else match markOf? character with
    | some token => some ⟨token :: finished, .nothing⟩
    | none =>
      match wordOf? character with
      | some token => some ⟨finished, .word token token.spelling.tail⟩
      | none => (NumberState.start? character).map fun state => ⟨finished, .number [character] state⟩

/-- A number ends where the next character cannot belong to it. -/
def next? (scan : Scan) (character : Char) : Option Scan :=
  match scan.pending with
  | .nothing => start? scan.finished character
  | .word token left =>
    match left with
    | [] => none
    | expected :: later =>
      if character ≠ expected then none
      else if later.isEmpty then some ⟨token :: scan.finished, .nothing⟩
      else some ⟨scan.finished, .word token later⟩
  | .number reversed state =>
    match state.next? character with
    | some later => some ⟨scan.finished, .number (character :: reversed) later⟩
    | none => if state.isComplete then start? (.number reversed.reverse :: scan.finished) character else none
  | .string reversed state =>
    if state = .plain ∧ character = '"' then some ⟨.string reversed.reverse :: scan.finished, .nothing⟩
    else (state.next? character).map fun later => ⟨scan.finished, .string (character :: reversed) later⟩

def tokens? (scan : Scan) : Option (List Token) :=
  match scan.pending with
  | .nothing => some scan.finished.reverse
  | .number reversed state =>
    if state.isComplete then some (Token.number reversed.reverse :: scan.finished).reverse else none
  | .word .. | .string .. => none

end Scan

def tokens? (text : List Char) : Option (List Token) :=
  (text.foldlM Scan.next? ⟨[], .nothing⟩).bind Scan.tokens?

end SquareSums.Json
