import SquareSums.Pattern.Cursor
import SquareSums.Pattern.Tree
import SquareSums.Text.Letter

/-! Reading what an opening parenthesis begins: a group, which may have a number, a name or flags of its
own, or flags for the rest of the group around it. -/

namespace SquareSums.Pattern

def flag? : Char → Option Flag
  | 'i' => some .caseless
  | 'm' => some .multiLine
  | 's' => some .dotAll
  | 'U' => some .lazyFirst
  | 'u' => some .unicode
  | 'R' => some .carriageReturns
  | 'x' => some .verbose
  | _ => none

/-- The flags before the place, and the characters that set them with the hyphen that clears the others. -/
structure FlagReading where
  changes : FlagChanges
  seen : List (Char × Span)

namespace FlagReading

def clears (reading : FlagReading) : Bool := (reading.seen.lookup '-').isSome

def add (reading : FlagReading) (letter : Char) (span : Span) : Except Flaw FlagReading :=
  if letter == '-' then
    match reading.seen.lookup letter with
    | some earlier => .error ⟨.flagRepeatedNegation, span, some earlier⟩
    | none => .ok { reading with seen := (letter, span) :: reading.seen }
  else
    match flag? letter, reading.seen.lookup letter with
    | none, _ => fail .flagUnknown span
    | some _, some earlier => .error ⟨.flagDuplicate, span, some earlier⟩
    | some flag, none =>
      .ok ⟨reading.changes ++ [(flag, !reading.clears)], (letter, span) :: reading.seen⟩

/-- The letters up to the colon or parenthesis that ends them. -/
def read (reading : FlagReading) (place : Place) : List Char → Except Flaw (FlagReading × Cursor)
  | [] => fail .flagMissing (Span.empty place)
  | letter :: rest =>
    if letter == ':' || letter == ')' then
      match reading.seen with
      | ('-', span) :: _ => fail .flagDanglingNegation span
      | _ => .ok (reading, ⟨place, letter :: rest⟩)
    else
      match reading.add letter ⟨place, place.after letter⟩ with
      | .error flaw => .error flaw
      | .ok reading => read reading (place.after letter) rest

end FlagReading

/-- The groups that have been opened so far: how many have a number, and which have names. -/
structure Roster where
  captures : Nat
  names : List (List Char × Span)

def isNameCharacter (isFirst : Bool) (character : Char) : Bool :=
  if isFirst then character == '_' || Letter.holds character
  else
    character == '_' || character == '.' || character == '[' || character == ']' ||
      Letter.isLetterOrNumeral character

/-- What a parenthesis opens. -/
inductive Opening where
  | group (kind : GroupKind) (roster : Roster)
  | flags (changes : FlagChanges)

namespace Roster

def capture (roster : Roster) : Roster := { roster with captures := roster.captures + 1 }

/-- A name and the sign behind it. -/
def readName (roster : Roster) (cursor : Cursor) : Except Flaw (Roster × Cursor) :=
  let (lead, afterLead) := if cursor.rest.head?.any (isNameCharacter true) then
    (cursor.rest.take 1, cursor.advance) else ([], cursor)
  let (more, stop) := if lead.isEmpty then ([], afterLead) else afterLead.takeWhile false (isNameCharacter false)
  let name := lead ++ more
  if stop.atEnd then fail .groupNameUnclosed (Span.empty stop.place)
  else if !stop.sees '>' then fail .groupNameInvalid stop.here
  else if name.isEmpty then fail .groupNameEmpty (Span.empty cursor.place)
  else
    let span := stop.since cursor.place
    match roster.names.lookup name with
    | some earlier => .error ⟨.groupNameDuplicate, span, some earlier⟩
    | none => .ok ({ roster with names := (name, span) :: roster.names }, stop.advance)

def lookAround? (inside : Cursor) : Option Cursor :=
  [['?', '='], ['?', '!'], ['?', '<', '='], ['?', '<', '!']].findSome? inside.drop?

def namedGroup? (inside : Cursor) : Option Cursor := (inside.drop? ['?', 'P', '<']).or (inside.drop? ['?', '<'])

/-- Flags are for a group if a colon follows them. -/
def readFlags (roster : Roster) (opening inside letters : Cursor) : Except Flaw (Opening × Cursor) := do
  if letters.atEnd then fail .groupUnclosed opening.here
  else
    let (read, stop) ← (FlagReading.mk [] []).read letters.place letters.rest
    if stop.sees ':' then pure (.group (.plain read.changes) roster, stop.advance)
    else if read.seen.isEmpty then fail .repetitionMissing (Span.empty inside.place)
    else pure (.flags read.changes, stop.advance)

/-- The cursor stands on the opening parenthesis. -/
def readOpening (roster : Roster) (verbose : Bool) (opening : Cursor) : Except Flaw (Opening × Cursor) :=
  let inside := opening.step verbose
  let captured := roster.capture
  match lookAround? inside with
  | some after => fail .lookAround (after.since opening.place)
  | none =>
    match namedGroup? inside with
    | some name =>
      match captured.readName name with
      | .error flaw => .error flaw
      | .ok (named, after) => .ok (.group (.capture captured.captures) named, after)
    | none =>
      match inside.drop? ['?'] with
      | some letters => roster.readFlags opening inside letters
      | none => .ok (.group (.capture captured.captures) captured, inside)

end Roster
end SquareSums.Pattern
