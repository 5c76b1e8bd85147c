import SquareSums.Pattern.Basic
import SquareSums.Pattern.Flaw

/-! What a written regular expression means. Only ASCII has classes, cases and words here, and a match
consists of whole characters, so with the flag for Unicode set classes that need its tables are refused,
and with the flag cleared whatever could match a byte that is not a character. -/

namespace SquareSums.Pattern

structure Flags where
  caseless : Bool
  multiLine : Bool
  dotAll : Bool
  lazyFirst : Bool
  unicode : Bool
  carriageReturns : Bool
deriving DecidableEq, Repr

namespace Flags

def initial : Flags := ⟨false, false, false, false, true, false⟩

def set (flags : Flags) (change : Flag × Bool) : Flags :=
  match change.1 with
  | .caseless => { flags with caseless := change.2 }
  | .multiLine => { flags with multiLine := change.2 }
  | .dotAll => { flags with dotAll := change.2 }
  | .lazyFirst => { flags with lazyFirst := change.2 }
  | .unicode => { flags with unicode := change.2 }
  | .carriageReturns => { flags with carriageReturns := change.2 }
  | .verbose => flags

def apply (flags : Flags) (changes : FlagChanges) : Flags := changes.foldl set flags

end Flags

/-- The letters of a property's name that count: case, spaces, hyphens, underscores and a leading "is"
do not. -/
def plainName (name : List Char) : List Char :=
  let body := match name with
    | first :: second :: body => if first.toLower == 'i' && second.toLower == 's' then body else name
    | _ => name
  (body.filter fun character => character.toNat < 128 && !"-_ ".toList.contains character).map Char.toLower

/-- Names of categories that are also short for a property are looked up among the values. -/
def propertyDefect (name : List Char) : Defect :=
  if ["cf", "sc", "lc"].contains (String.ofList (plainName name)) then .propertyValueUnknown else .propertyUnknown

def propertyFlaw {α : Type} (flags : Flags) (span : Span) (name : List Char) : Except Flaw α :=
  fail (if flags.unicode then propertyDefect name else .beyondAscii) span

def ShortClass.members : ShortClass → CharSet
  | digit => ⟨[(0x30, 0x39)]⟩
  | space => ⟨[(0x9, 0xD), (0x20, 0x20)]⟩
  | word => ⟨[(0x30, 0x39), (0x41, 0x5A), (0x5F, 0x5F), (0x61, 0x7A)]⟩

def ShortClass.meaning (kind : ShortClass) (flags : Flags) (span : Span) (negated : Bool) : Except Flaw CharSet :=
  if flags.unicode then fail .shortClassUnknown span
  else if negated then fail .partOfCharacter span
  else .ok kind.members

def Flags.negate (flags : Flags) (span : Span) (negated : Bool) (members : CharSet) : Except Flaw CharSet :=
  if !negated then .ok members
  else if flags.unicode then .ok members.complement
  else fail .partOfCharacter span

/-- The character of a literal, unless it is a byte that no character consists of. -/
def Literal.meaning (literal : Literal) (flags : Flags) (span : Span) : Except Flaw Char :=
  if !flags.unicode && literal.isByte && 127 < literal.character.toNat then fail .partOfCharacter span
  else .ok literal.character

/-- Without Unicode a class holds bytes, which are characters only up to the last of ASCII. -/
def Literal.point (literal : Literal) (flags : Flags) (span : Span) : Except Flaw Nat := do
  let character ← literal.meaning flags span
  if !flags.unicode && 127 < character.toNat then fail .beyondAscii span else pure character.toNat

namespace Members

/-- Whether characters stand in the class itself, not in a bracket or an operand within it. -/
def holdsCharacters : Members → Bool
  | literal .. | range .. | named .. => true
  | union _ parts => parts.any fun part => match part with
    | literal .. | range .. | named .. => true
    | _ => false
  | empty _ | property .. | short .. | bracket .. | operation .. => false

/-- The members with their other cases, where no more than ASCII's are asked for. -/
def fold (content : Members) (flags : Flags) (span : Span) (members : CharSet) : Except Flaw CharSet :=
  if !flags.caseless then .ok members
  else if !flags.unicode then .ok members.caseless
  else if content.holdsCharacters then fail .caseUnknown span
  else .ok members

mutual
def meaning (flags : Flags) : Members → Except Flaw CharSet
  | empty _ => .ok ⟨[]⟩
  | literal span written => do
    let point ← written.point flags span
    pure ⟨[(point, point)]⟩
  | range _ lowSpan low highSpan high => do
    let first ← low.point flags lowSpan
    let last ← high.point flags highSpan
    pure ⟨[(first, last)]⟩
  | named span set negated => do
    let folded ← fold (named span set negated) flags span set
    flags.negate span negated folded
  | property span name => propertyFlaw flags span name
  | short span kind negated => kind.meaning flags span negated
  | bracket span negated content => do
    let members ← meaning flags content
    let folded ← content.fold flags span members
    flags.negate span negated folded
  | union _ parts => do
    let ranges ← rangesOf flags [] parts
    pure (CharSet.ofRanges ranges)
  | operation _ joined left right => do
    let first ← meaning flags left
    let second ← meaning flags right
    let second ← right.fold flags right.span second
    let first ← left.fold flags left.span first
    pure (joined.apply first second)

def rangesOf (flags : Flags) (found : List (Nat × Nat)) : List Members → Except Flaw (List (Nat × Nat))
  | [] => .ok found
  | part :: later =>
    match meaning flags part with
    | .error flaw => .error flaw
    | .ok members => rangesOf flags (members.ranges.reverse ++ found) later
end

end Members

def Anchor.meaning (anchor : Anchor) (flags : Flags) : Look :=
  match anchor with
  | textStart => .textStart
  | textEnd => .textEnd
  | lineStart => if flags.multiLine then .lineStart flags.carriageReturns else .textStart
  | lineEnd => if flags.multiLine then .lineEnd flags.carriageReturns else .textEnd
  | word edge => .word edge flags.unicode

def Flags.dot (flags : Flags) (span : Span) : Except Flaw Pattern :=
  if !flags.unicode then fail .partOfCharacter span
  else if flags.dotAll then .ok (oneOf (CharSet.complement ⟨[]⟩) false)
  else if flags.carriageReturns then .ok (oneOf (CharSet.complement ⟨[(0xA, 0xA), (0xD, 0xD)]⟩) false)
  else .ok (oneOf (CharSet.complement ⟨[(0xA, 0xA)]⟩) false)

def Flags.literal (flags : Flags) (span : Span) (literal : Literal) : Except Flaw Pattern := do
  let character ← literal.meaning flags span
  if !flags.caseless then pure (.literal [character])
  else if flags.unicode then fail .caseUnknown span
  else pure (ofSet (CharSet.ofChar character).caseless true)

mutual
/-- The meaning under the flags that hold at the front, and the flags that hold behind. -/
def Tree.meaning (flags : Flags) : Tree → Except Flaw (Pattern × Flags)
  | .empty _ => .ok (.empty, flags)
  | .flags _ changes => .ok (.empty, flags.apply changes)
  | .literal span written => do
    let pattern ← flags.literal span written
    pure (pattern, flags)
  | .dot span => do
    let pattern ← flags.dot span
    pure (pattern, flags)
  | .anchor _ condition => .ok (.look (condition.meaning flags), flags)
  | .property span name => propertyFlaw flags span name
  | .short span kind negated => do
    let members ← kind.meaning flags span negated
    pure (ofSet members !flags.unicode, flags)
  | .bracket span negated content => do
    let members ← (Members.bracket span negated content).meaning flags
    pure (ofSet members !flags.unicode, flags)
  | .repetition _ least most isLazy body => do
    let (pattern, flags) ← body.meaning flags
    pure (ofRepetition least most (isLazy != flags.lazyFirst) pattern, flags)
  | .group _ kind body =>
    match kind with
    | .capture index => do
      let (pattern, _) ← body.meaning flags
      pure (.capture index pattern, flags)
    | .plain changes => do
      let (pattern, _) ← body.meaning (flags.apply changes)
      pure (pattern, flags)
  | .sequence _ parts => do
    let (patterns, flags) ← Tree.meanings flags [] parts
    pure (ofSequence patterns, flags)
  | .choice _ branches => do
    let (patterns, flags) ← Tree.meanings flags [] branches
    pure (ofChoice patterns, flags)

def Tree.meanings (flags : Flags) (found : List Pattern) : List Tree → Except Flaw (List Pattern × Flags)
  | [] => .ok (found.reverse, flags)
  | tree :: later =>
    match tree.meaning flags with
    | .error flaw => .error flaw
    | .ok (pattern, flags) => Tree.meanings flags (pattern :: found) later
end

end SquareSums.Pattern
