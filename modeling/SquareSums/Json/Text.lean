import SquareSums.Text.Hexadecimal

/-! The characters that the body of a JSON string spells. Escapes may name surrogates; a pair of them is
one character, and a body with one that stands alone spells no text. -/

namespace SquareSums.Json.Text

def simpleEscape? (character : Char) : Option Char :=
  [('"', '"'), ('\\', '\\'), ('/', '/'), ('b', '\x08'), ('f', '\x0c'), ('n', '\n'), ('r', '\r'), ('t', '\t')].lookup
    character

/-- The code points that a string's body spells, surrogates among them. -/
def codePoints? : List Char → Option (List Nat)
  | [] => some []
  | ['\\'] => none
  | '\\' :: 'u' :: first :: second :: third :: fourth :: rest => do
    let digits ← [first, second, third, fourth].mapM Hexadecimal.digit?
    let later ← codePoints? rest
    pure (Hexadecimal.value digits :: later)
  | '\\' :: escaped :: rest => do
    let character ← simpleEscape? escaped
    let later ← codePoints? rest
    pure (character.toNat :: later)
  | character :: rest => do
    let later ← codePoints? rest
    pure (character.toNat :: later)

def isLeading (point : Nat) : Bool := 0xD800 ≤ point && point < 0xDC00

def isTrailing (point : Nat) : Bool := 0xDC00 ≤ point && point < 0xE000

/-- A leading and a trailing surrogate make one character; neither may stand alone. -/
def characters? : List Nat → Option (List Char)
  | [] => some []
  | [point] => if isLeading point || isTrailing point then none else some [Char.ofNat point]
  | point :: next :: rest =>
    if isLeading point then
      if isTrailing next then
        (characters? rest).map (Char.ofNat (0x10000 + (point - 0xD800) * 0x400 + (next - 0xDC00)) :: ·)
      else none
    else if isTrailing point then none
    else (characters? (next :: rest)).map (Char.ofNat point :: ·)

def decode? (body : List Char) : Option (List Char) := (codePoints? body).bind characters?

end SquareSums.Json.Text
