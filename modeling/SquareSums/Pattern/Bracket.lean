import SquareSums.Pattern.Escape

/-! Reading a class in square brackets. Classes may be nested, and joined by intersection (`&&`),
difference (`--`) and symmetric difference (`~~`), all of equal rank and taken from the left. -/

namespace SquareSums.Pattern

/-- The classes that have a name between colons. -/
def namedSet? (name : List Char) : Option CharSet :=
  ([("alnum", [('0', '9'), ('A', 'Z'), ('a', 'z')]), ("alpha", [('A', 'Z'), ('a', 'z')]),
    ("ascii", [('\x00', '\x7f')]), ("blank", [('\t', '\t'), (' ', ' ')]),
    ("cntrl", [('\x00', '\x1f'), ('\x7f', '\x7f')]), ("digit", [('0', '9')]), ("graph", [('!', '~')]),
    ("lower", [('a', 'z')]), ("print", [(' ', '~')]),
    ("punct", [('!', '/'), (':', '@'), ('[', '\x60'), ('\x7b', '~')]), ("space", [('\t', '\r'), (' ', ' ')]),
    ("upper", [('A', 'Z')]), ("word", [('0', '9'), ('A', 'Z'), ('_', '_'), ('a', 'z')]),
    ("xdigit", [('0', '9'), ('A', 'F'), ('a', 'f')])].lookup (String.ofList name)).map
    fun ranges => ⟨ranges.map fun range => (range.1.toNat, range.2.toNat)⟩

/-- A bracket that is open: the parts before it, what is known of it, and its operand so far. -/
structure OpenBracket where
  outer : List Members
  span : Span
  negated : Bool
  pending : Option (SetOperation × Members)

/-- The parts since the last operation, backwards, from the place where they begin. -/
structure BracketReading where
  parts : List Members
  start : Place
  opened : List OpenBracket

namespace BracketReading

def push (reading : BracketReading) (part : Members) : BracketReading := { reading with parts := part :: reading.parts }

/-- The parts since the last operation, joined with what stood before it. -/
def operand (reading : BracketReading) (bracket : OpenBracket) : Members :=
  let right := Members.ofParts reading.start reading.parts
  match bracket.pending with
  | none => right
  | some (operation, left) => .operation (Span.cover left.span right.span) operation left right

def unclosed {α : Type} (reading : BracketReading) : Except Flaw α :=
  match reading.opened with
  | bracket :: _ => fail .classUnclosed bracket.span
  | [] => fail .classUnclosed (Span.empty reading.start)

/-- The hyphens at the front, backwards, and what follows them. -/
def leadingHyphens (verbose : Bool) (found : List Members) : (rounds : Nat) → Cursor → List Members × Cursor
  | 0, cursor => (found, cursor)
  | rounds + 1, cursor =>
    if cursor.sees '-' then
      leadingHyphens verbose (.literal cursor.here ⟨'-', false⟩ :: found) rounds (cursor.step verbose)
    else (found, cursor)

/-- Hyphens at the front are members; so is a closing bracket, if nothing is before it. -/
def openBracket (reading : BracketReading) (verbose : Bool) (rounds : Nat) (cursor : Cursor) :
    Except Flaw (BracketReading × Cursor) :=
  let start := cursor.place
  let inside := cursor.step verbose
  let negated := inside.sees '^'
  let inside := if negated then inside.step verbose else inside
  if inside.atEnd then fail .classUnclosed (inside.since start)
  else
    let (hyphens, stop) := leadingHyphens verbose [] rounds inside
    if stop.atEnd then fail .classUnclosed (Span.empty start)
    else
      let closing := hyphens.isEmpty && stop.sees ']'
      let parts := if closing then [.literal stop.here ⟨']', false⟩] else hyphens
      let stop := if closing then stop.step verbose else stop
      if stop.atEnd then fail .classUnclosed (stop.since start)
      else .ok (⟨parts, inside.place, ⟨reading.parts, stop.since start, negated, none⟩ :: reading.opened⟩, stop)

def operate (reading : BracketReading) (operation : SetOperation) (after : Cursor) : BracketReading :=
  match reading.opened with
  | bracket :: outer =>
    ⟨[], after.place, { bracket with pending := some (operation, reading.operand bracket) } :: outer⟩
  | [] => reading

/-- A bracketed name such as `[:alpha:]` or `[:^alpha:]` inside a class. -/
def named? (cursor : Cursor) : Option (Members × Cursor) := do
  let inside ← cursor.drop? ['[', ':']
  let negated := inside.sees '^'
  let inside := if negated then inside.advance else inside
  let (name, stop) := inside.takeWhile false (· != ':')
  let after ← stop.drop? [':', ']']
  let set ← namedSet? name
  pure (.named (after.since cursor.place) set negated, after)

def readMember (verbose : Bool) (cursor : Cursor) : Except Flaw (Tree × Cursor) :=
  match cursor.rest with
  | '\\' :: _ => readEscape verbose cursor
  | character :: _ => .ok (.literal cursor.here ⟨character, false⟩, cursor.advance)
  | [] => fail .classUnclosed (Span.empty cursor.place)

def single : Tree → Except Flaw Members
  | .literal span written => .ok (.literal span written)
  | .property span name => .ok (.property span name)
  | .short span kind negated => .ok (.short span kind negated)
  | other => fail .classEscape other.span

def boundary : Tree → Except Flaw Literal
  | .literal _ written => .ok written
  | other => fail .classRangeBoundary other.span

/-- One member, or a range of them. A hyphen before a bracket or another hyphen begins no range. -/
def readRange (reading : BracketReading) (verbose : Bool) (cursor : Cursor) : Except Flaw (Members × Cursor) := do
  let (first, after) ← readMember verbose cursor
  let stop := after.skip verbose
  if stop.atEnd then reading.unclosed
  else
    let following := stop.next? verbose
    if !stop.sees '-' || following == some ']' || following == some '-' then pure (← single first, stop)
    else
      let second := stop.step verbose
      if second.atEnd then reading.unclosed
      else
        let (last, after) ← readMember verbose second
        let span := Span.cover first.span last.span
        let low ← boundary first
        let high ← boundary last
        if high.character < low.character then fail .classRange span
        else pure (.range span first.span low last.span high, after)

def operation? : List Char → Option SetOperation
  | '&' :: '&' :: _ => some .intersection
  | '-' :: '-' :: _ => some .difference
  | '~' :: '~' :: _ => some .symmetricDifference
  | _ => none

/-- The rest of an outermost bracket. Every round consumes a character, so as many rounds as there are
characters suffice. -/
def read (verbose : Bool) : (rounds : Nat) → BracketReading → Cursor → Except Flaw (Tree × Cursor)
  | 0, reading, _ => reading.unclosed
  | rounds + 1, reading, cursor =>
    let cursor := cursor.skip verbose
    match cursor.rest with
    | [] => reading.unclosed
    | '[' :: _ =>
      match named? cursor with
      | some (part, after) => read verbose rounds (reading.push part) after
      | none =>
        match reading.openBracket verbose rounds cursor with
        | .error flaw => .error flaw
        | .ok (inner, after) => read verbose rounds inner after
    | ']' :: _ =>
      match reading.opened with
      | [] => reading.unclosed
      | bracket :: outer =>
        let after := cursor.advance
        let span := after.since bracket.span.first
        let content := reading.operand bracket
        if outer.isEmpty then .ok (.bracket span bracket.negated content, after)
        else read verbose rounds ⟨.bracket span bracket.negated content :: bracket.outer, after.place, outer⟩ after
    | text =>
      match operation? text with
      | some operation =>
        let after := cursor.advance.advance
        read verbose rounds (reading.operate operation after) after
      | none =>
        match reading.readRange verbose cursor with
        | .error flaw => .error flaw
        | .ok (part, after) => read verbose rounds (reading.push part) after

end BracketReading

/-- The cursor stands on the opening bracket, with no more than the given number of characters to come. -/
def readBracket (verbose : Bool) (rounds : Nat) (cursor : Cursor) : Except Flaw (Tree × Cursor) :=
  match (BracketReading.mk [] cursor.place []).openBracket verbose rounds cursor with
  | .error flaw => .error flaw
  | .ok (reading, after) => reading.read verbose rounds after

end SquareSums.Pattern
