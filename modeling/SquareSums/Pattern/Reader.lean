import SquareSums.Pattern.Bracket
import SquareSums.Pattern.Group
import SquareSums.Pattern.Repetition

/-! Reading a whole regular expression: alternatives, groups and repetitions. Of the flags only the one
for verbose expressions matters to the reader; it holds to the end of the group that sets it. -/

namespace SquareSums.Pattern

/-- The branches of a group that are finished, and the items of the last one, both backwards. -/
structure Branches where
  start : Place
  finished : List Tree
  itemsStart : Place
  items : List Tree

namespace Branches

def initial (place : Place) : Branches := ⟨place, [], place, []⟩

def push (branches : Branches) (item : Tree) : Branches := { branches with items := item :: branches.items }

def last (branches : Branches) (stop : Place) : Tree := Tree.ofItems ⟨branches.itemsStart, stop⟩ branches.items

def alternate (branches : Branches) (stop next : Place) : Branches :=
  { branches with finished := branches.last stop :: branches.finished, itemsStart := next, items := [] }

def toTree (branches : Branches) (stop : Place) : Tree :=
  if branches.finished.isEmpty then branches.last stop
  else .choice ⟨branches.start, stop⟩ (branches.last stop :: branches.finished).reverse

end Branches

/-- An open group: its parenthesis, what stood before it, and whether white space meant something there. -/
structure OpenGroup where
  parenthesis : Span
  kind : GroupKind
  outer : Branches
  verbose : Bool

structure Reading where
  opened : List OpenGroup
  branches : Branches
  verbose : Bool
  roster : Roster

namespace Reading

def initial : Reading := ⟨[], Branches.initial Place.start, false, ⟨0, []⟩⟩

def push (reading : Reading) (item : Tree) : Reading := { reading with branches := reading.branches.push item }

def close (reading : Reading) (cursor : Cursor) : Except Flaw (Reading × Cursor) :=
  match reading.opened with
  | [] => fail .groupUnopened cursor.here
  | group :: outer =>
    let after := cursor.advance
    let tree := Tree.group (after.since group.parenthesis.first) group.kind (reading.branches.toTree cursor.place)
    .ok ({ reading with opened := outer, branches := group.outer.push tree, verbose := group.verbose }, after)

def setsVerbose (changes : FlagChanges) (verbose : Bool) : Bool := (changes.lookup .verbose).getD verbose

def enter (reading : Reading) (kind : GroupKind) (roster : Roster) (cursor after : Cursor) : Reading :=
  let verbose := match kind with
    | .plain changes => setsVerbose changes reading.verbose
    | .capture _ => reading.verbose
  let group : OpenGroup := ⟨cursor.here, kind, reading.branches, reading.verbose⟩
  ⟨group :: reading.opened, Branches.initial after.place, verbose, roster⟩

/-- The cursor stands on the opening parenthesis. -/
def readGroup (reading : Reading) (cursor : Cursor) : Except Flaw (Reading × Cursor) :=
  match reading.roster.readOpening reading.verbose cursor with
  | .error flaw => .error flaw
  | .ok (.group kind roster, after) => .ok (reading.enter kind roster cursor after, after)
  | .ok (.flags changes, after) =>
    .ok ({ reading.push (.flags (after.since cursor.place) changes) with
      verbose := setsVerbose changes reading.verbose }, after)

/-- The last item and what is before it. Flags and nothing at all cannot be repeated. -/
def takeItem (reading : Reading) (cursor : Cursor) : Except Flaw (Tree × List Tree) :=
  match reading.branches.items with
  | [] | .empty _ :: _ | .flags .. :: _ => fail .repetitionMissing (Span.empty cursor.place)
  | item :: earlier => .ok (item, earlier)

/-- The last item, repeated as a reader tells that starts from the cursor. -/
def repeatItem (reading : Reading) (cursor : Cursor) (read : Cursor → Except Flaw (Repetition × Cursor)) :
    Except Flaw (Reading × Cursor) := do
  let (item, earlier) ← reading.takeItem cursor
  let (repetition, after) ← read cursor
  let tree :=
    Tree.repetition (after.since item.span.first) repetition.least repetition.most repetition.isLazy item
  pure ({ reading with branches := { reading.branches with items := tree :: earlier } }, after)

def pushRead (reading : Reading) : Except Flaw (Tree × Cursor) → Except Flaw (Reading × Cursor)
  | .error flaw => .error flaw
  | .ok (item, after) => .ok (reading.push item, after)

/-- One step of reading, with no more than the given number of characters to come. -/
def readItem (reading : Reading) (rounds : Nat) (cursor : Cursor) : Except Flaw (Reading × Cursor) :=
  let after := cursor.advance
  match cursor.rest with
  | [] => .ok (reading, cursor)
  | '(' :: _ => reading.readGroup cursor
  | ')' :: _ => reading.close cursor
  | '|' :: _ => .ok ({ reading with branches := reading.branches.alternate cursor.place after.place }, after)
  | '[' :: _ => reading.pushRead (readBracket reading.verbose rounds cursor)
  | '?' :: _ => reading.repeatItem cursor fun cursor => .ok (Repetition.ofSign 0 (some 1) cursor)
  | '*' :: _ => reading.repeatItem cursor fun cursor => .ok (Repetition.ofSign 0 none cursor)
  | '+' :: _ => reading.repeatItem cursor fun cursor => .ok (Repetition.ofSign 1 none cursor)
  | '\x7b' :: _ => reading.repeatItem cursor (Repetition.ofBraces reading.verbose)
  | '\\' :: _ => reading.pushRead (readEscape reading.verbose cursor)
  | '.' :: _ => .ok (reading.push (.dot cursor.here), after)
  | '^' :: _ => .ok (reading.push (.anchor cursor.here .lineStart), after)
  | '$' :: _ => .ok (reading.push (.anchor cursor.here .lineEnd), after)
  | character :: _ => .ok (reading.push (.literal cursor.here ⟨character, false⟩), after)

/-- Every round consumes a character, so as many rounds as there are characters suffice. -/
def read (rounds : Nat) (reading : Reading) (cursor : Cursor) : Except Flaw Tree :=
  let cursor := cursor.skip reading.verbose
  match rounds, cursor.rest with
  | rounds + 1, _ :: _ =>
    match reading.readItem (rounds + 1) cursor with
    | .error flaw => .error flaw
    | .ok (later, after) => read rounds later after
  | _, _ =>
    match reading.opened with
    | [] => .ok (reading.branches.toTree cursor.place)
    | group :: _ => fail .groupUnclosed group.parenthesis

end Reading

def Tree.ofText (text : List Char) : Except Flaw Tree :=
  Reading.initial.read text.length (Cursor.ofText text)

end SquareSums.Pattern
