import SquareSums.Pattern.Cursor
import SquareSums.Pattern.Tree
import SquareSums.Text.Hexadecimal

/-! Reading what a backslash begins: literal characters and bytes, anchors, and classes that a letter or
a property names. -/

namespace SquareSums.Pattern

def isMeta (character : Char) : Bool := "\\.+*?()|[]\x7b\x7d^$#&-~".toList.contains character

/-- Letters and digits have meanings of their own, or are kept for later ones. -/
def isEscapable (character : Char) : Bool :=
  isMeta character ||
    (character.toNat < 128 && !character.isAlphanum && character != '<' && character != '>')

def shortClass? : Char → Option (ShortClass × Bool)
  | 'd' => some (.digit, false)
  | 'D' => some (.digit, true)
  | 's' => some (.space, false)
  | 'S' => some (.space, true)
  | 'w' => some (.word, false)
  | 'W' => some (.word, true)
  | _ => none

def escapedCharacter? (letter : Char) : Option Char :=
  if isEscapable letter then some letter
  else
    match letter with
    | 'a' => some '\x07'
    | 'f' => some '\x0c'
    | 't' => some '\t'
    | 'n' => some '\n'
    | 'r' => some '\r'
    | 'v' => some '\x0b'
    | _ => none

def escapedAnchor? : Char → Option Anchor
  | 'A' => some .textStart
  | 'z' => some .textEnd
  | 'B' => some (.word .noBoundary)
  | '<' => some (.word .start)
  | '>' => some (.word .stop)
  | _ => none

/-- How many hexadecimal digits follow the letter if no braces do. -/
def digitCount? : Char → Option Nat
  | 'x' => some 2
  | 'u' => some 4
  | 'U' => some 8
  | _ => none

def edge? (name : List Char) : Option WordEdge :=
  [("start", WordEdge.start), ("end", .stop), ("start-half", .startHalf), ("end-half", .stopHalf)].lookup
    (String.ofList name)

def readDigits (verbose : Bool) : (count : Nat) → (digits : List Nat) → Cursor → Except Flaw (List Nat × Cursor)
  | 0, digits, cursor => .ok (digits.reverse, cursor)
  | count + 1, digits, cursor =>
    match cursor.rest with
    | [] => fail .escapeUnfinished (Span.empty cursor.place)
    | character :: _ =>
      match Hexadecimal.digit? character with
      | none => fail .hexadecimalDigit cursor.here
      | some digit => readDigits verbose count (digit :: digits) (cursor.step verbose)

/-- The character of a code point that digits at the given span tell. -/
def codePoint (digits : List Nat) (span : Span) : Except Flaw Char :=
  let point := Hexadecimal.value digits
  if point.isValidChar then .ok (Char.ofNat point) else fail .hexadecimalNoCharacter span

/-- The cursor stands on the opening brace. -/
def readBraces (start : Place) (verbose : Bool) (brace : Cursor) : Except Flaw (Tree × Cursor) := do
  let (digits, stop) := (brace.step verbose).takeWhile verbose Hexadecimal.isDigit
  if stop.atEnd then fail .escapeUnfinished (stop.since brace.place)
  else if !stop.sees '\x7d' then fail .hexadecimalDigit stop.here
  else
    let after := stop.step verbose
    if digits.isEmpty then fail .hexadecimalEmpty (after.since brace.place)
    else
      let character ← codePoint (digits.filterMap Hexadecimal.digit?) (stop.since brace.advance.place)
      pure (.literal (after.since start) ⟨character, false⟩, after)

/-- A code point of fixed length; two digits may stand for a byte. -/
def readCodePoint (start : Place) (verbose : Bool) (count : Nat) (cursor : Cursor) : Except Flaw (Tree × Cursor) := do
  if cursor.atEnd then fail .escapeUnfinished (Span.empty cursor.place)
  else if cursor.sees '\x7b' then readBraces start verbose cursor
  else
    let (digits, after) ← readDigits verbose count [] cursor
    let character ← codePoint digits (after.since cursor.place)
    pure (.literal (after.since start) ⟨character, count == 2⟩, after)

/-- The name of a property, in braces unless it is a single letter. -/
def readProperty (start : Place) (verbose : Bool) (cursor : Cursor) : Except Flaw (Tree × Cursor) :=
  match cursor.rest with
  | [] => fail .escapeUnfinished (Span.empty cursor.place)
  | '\\' :: _ => fail .propertyInvalid cursor.here
  | '\x7b' :: _ =>
    let (name, stop) := (cursor.step verbose).takeWhile verbose (· != '\x7d')
    if stop.atEnd then fail .escapeUnfinished (Span.empty stop.place)
    else
      let after := stop.advance
      .ok (.property (after.since start) name, after)
  | letter :: _ =>
    let after := cursor.step verbose
    .ok (.property (after.since start) [letter], after)

/-- After a word boundary, braces may name one of its kinds; braces that hold no name are a repetition. -/
def readWordBoundary (start : Place) (verbose : Bool) (cursor : Cursor) : Except Flaw (Tree × Cursor) :=
  let isNameCharacter (character : Char) : Bool := character.isAlpha || character == '-'
  let boundary := Tree.anchor (cursor.since start) (.word .boundary)
  if !cursor.sees '\x7b' then .ok (boundary, cursor)
  else
    let inside := cursor.step verbose
    if inside.atEnd then fail .wordBoundaryUnfinished (inside.since start)
    else if !inside.rest.head?.any isNameCharacter then .ok (boundary, cursor)
    else
      let (name, stop) := inside.takeWhile verbose isNameCharacter
      if !stop.sees '\x7d' then fail .wordBoundaryUnclosed (stop.since cursor.place)
      else
        match edge? name with
        | some edge => .ok (.anchor (stop.advance.since start) (.word edge), stop.advance)
        | none => fail .wordBoundaryUnknown (stop.since inside.place)

/-- The cursor stands on the backslash. -/
def readEscape (verbose : Bool) (cursor : Cursor) : Except Flaw (Tree × Cursor) :=
  let start := cursor.place
  let letter := cursor.advance
  let after := letter.advance
  let span := after.since start
  match letter.rest with
  | [] => fail .escapeUnfinished span
  | character :: _ =>
    if character.isDigit then fail .backreference span
    else if character == 'p' || character == 'P' then readProperty start verbose (letter.step verbose)
    else if character == 'b' then readWordBoundary start verbose after
    else if let some count := digitCount? character then readCodePoint start verbose count (letter.step verbose)
    else if let some (kind, negated) := shortClass? character then .ok (.short span kind negated, after)
    else if let some escaped := escapedCharacter? character then .ok (.literal span ⟨escaped, false⟩, after)
    else if let some anchor := escapedAnchor? character then .ok (.anchor span anchor, after)
    else fail .escapeUnknown span

end SquareSums.Pattern
