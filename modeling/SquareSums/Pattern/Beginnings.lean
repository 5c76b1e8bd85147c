import SquareSums.Pattern.Basic
import SquareSums.Pattern.Utf8

/-! What the matches of a regular expression begin with, as a list of byte strings in the order in which
matches are preferred. A string is exact if it is a whole match. The list is kept short: long strings are
cut, and where there would be too many of them a match can begin with anything. If in the end every
string is exact, searching for the strings is all that matching needs. -/

namespace SquareSums.Pattern

/-- One of the beginnings. -/
structure Beginning where
  bytes : List Nat
  isExact : Bool
deriving DecidableEq, Repr

namespace Beginning

def whole (bytes : List Nat) : Beginning := ⟨bytes, true⟩

def open? (beginning : Beginning) : Beginning := { beginning with isExact := false }

/-- No more than the given number of bytes. -/
def cut (length : Nat) (beginning : Beginning) : Beginning :=
  if beginning.bytes.length ≤ length then beginning else ⟨beginning.bytes.take length, false⟩

def append (first second : Beginning) : Beginning := ⟨first.bytes ++ second.bytes, second.isExact⟩

end Beginning

/-- Bytes that are found too often to look for a few of them. -/
def isCommon (byte : Nat) : Bool :=
  0xC0 ≤ byte || ("\n\r (),-./0129:_abcdefghilmnoprstuvxy|".toList.any (·.toNat == byte))

/-- Bytes that are found nearly everywhere. -/
def isEverywhere (byte : Nat) : Bool := 0xC0 ≤ byte || (" et".toList.any (·.toNat == byte))

/-- The beginnings; without a list, a match can begin with anything. -/
structure Beginnings where
  list? : Option (List Beginning)
deriving DecidableEq, Repr

namespace Beginnings

def countLimit : Nat := 250
def lengthLimit : Nat := 100
def classLimit : Nat := 10
def repeatLimit : Nat := 10

def anything : Beginnings := ⟨none⟩
def never : Beginnings := ⟨some []⟩
def exactly (bytes : List Nat) : Beginnings := ⟨some [Beginning.whole bytes]⟩

def map (change : Beginning → Beginning) (beginnings : Beginnings) : Beginnings :=
  ⟨beginnings.list?.map (List.map change)⟩

def inexact (beginnings : Beginnings) : Beginnings := beginnings.map Beginning.open?

def cut (length : Nat) (beginnings : Beginnings) : Beginnings := beginnings.map (Beginning.cut length)

/-- Whether nothing can be added to the end of a beginning. -/
def isInexact (beginnings : Beginnings) : Bool := beginnings.list?.all fun list => list.all (!·.isExact)

def isExact (beginnings : Beginnings) : Bool := beginnings.list?.any fun list => list.all (·.isExact)

def holdsEmpty (beginnings : Beginnings) : Bool := beginnings.list?.any fun list => list.any (·.bytes.isEmpty)

def shorterThan (length : Nat) (beginnings : Beginnings) : Bool :=
  beginnings.list?.any fun list => list.any (·.bytes.length < length)

def isLongerThan (count : Nat) (beginnings : Beginnings) : Bool := beginnings.list?.any (count < ·.length)

/-- Of neighbours with the same bytes one stays, and is exact only if both are. -/
def merge (merged : List Beginning) : List Beginning → List Beginning
  | [] => merged.reverse
  | beginning :: later =>
    match merged with
    | [] => merge [beginning] later
    | last :: earlier =>
      if last.bytes = beginning.bytes then
        merge ({ last with isExact := last.isExact && beginning.isExact } :: earlier) later
      else merge (beginning :: merged) later

def merged (beginnings : Beginnings) : Beginnings := ⟨beginnings.list?.map (merge [])⟩

def exceed (limit : Nat) (measure : Nat → Nat → Nat) (first second : Beginnings) : Bool :=
  match first.list?, second.list? with
  | some firsts, some seconds => limit < measure firsts.length seconds.length
  | _, _ => false

def extend (first second : Beginnings) : Beginnings :=
  match first.list?, second.list? with
  | some firsts, some seconds =>
    merged ⟨some (firsts.flatMap fun beginning =>
      if beginning.isExact then seconds.map beginning.append else [beginning])⟩
  | _, some _ => first
  | _, _ => if first.holdsEmpty then anything else first.inexact

/-- The beginnings of one match after another. -/
def followedBy (first second : Beginnings) : Beginnings :=
  (first.extend (if exceed countLimit (· * ·) first second then anything else second)).cut lengthLimit

def join (first second : Beginnings) : Beginnings :=
  match first.list?, second.list? with
  | some firsts, some seconds => merged ⟨some (firsts ++ seconds)⟩
  | _, _ => anything

/-- The beginnings of one match or another, where the first is preferred. Cutting them may make room. -/
def or (first second : Beginnings) : Beginnings :=
  if !exceed countLimit (· + ·) first second then first.join second
  else
    let first := (first.cut 4).merged
    let second := (second.cut 4).merged
    if exceed countLimit (· + ·) first second then anything else first.join second

def power (beginnings : Beginnings) : (count : Nat) → Beginnings → Beginnings
  | 0, reached => reached
  | count + 1, reached =>
    if reached.isInexact then reached else power beginnings count (reached.followedBy beginnings)

def ofRepetition (least : Nat) (most : Option Nat) (isLazy : Bool) (body : Beginnings) : Beginnings :=
  if least = 0 then
    let body := if most = some 1 then body else body.inexact
    if isLazy then (exactly []).or body else body.or (exactly [])
  else
    let reached := power body (min least repeatLimit) (exactly [])
    if most = some least ∧ least ≤ repeatLimit then reached else reached.inexact

def ofClass (members : CharSet) : Beginnings :=
  if classLimit < members.size then anything
  else ⟨some (members.points.map fun point => .whole (Utf8.encode point))⟩

/-- A beginning that another one before it begins is never needed. -/
def minimize (kept : List Beginning) : List Beginning → List Beginning
  | [] => kept.reverse
  | beginning :: later =>
    if kept.any (·.bytes.isPrefixOf beginning.bytes) then minimize kept later else minimize (beginning :: kept) later

def minimized (beginnings : Beginnings) : Beginnings := ⟨beginnings.list?.map (minimize [])⟩

def sharedStart : List Nat → List Nat → List Nat
  | byte :: bytes, other :: others => if byte = other then byte :: sharedStart bytes others else []
  | _, _ => []

/-- What all begin with. -/
def shared (beginnings : Beginnings) : List Nat :=
  match beginnings.list? with
  | some (first :: others) => others.foldl (fun bytes other => sharedStart bytes other.bytes) first.bytes
  | _ => []

/-- Cut in steps, as long as there are more than a step allows. -/
def shorten (beginnings : Beginnings) : List (Nat × Nat) → Beginnings
  | [] => beginnings
  | (length, count) :: steps =>
    if beginnings.isLongerThan count then (beginnings.cut length).minimized.shorten steps else beginnings

def dropUseless (beginnings : Beginnings) : Beginnings :=
  let isUseless (beginning : Beginning) : Bool := match beginning.bytes with
    | [] => true
    | [byte] => isEverywhere byte
    | _ => false
  if beginnings.list?.any (·.any isUseless) then anything else beginnings

/-- Exact beginnings stay as they are unless shorter ones are few and telling. -/
def condense (beginnings : Beginnings) : Beginnings :=
  let short := (beginnings.shorten [(5, 10), (4, 10), (3, 64), (2, 64), (1, 10)]).dropUseless
  if beginnings.isExact &&
      (short.list?.isNone || short.list? == some [] || short.shorterThan 3 || short.isLongerThan 64) then beginnings
  else short

/-- The beginnings worth searching for. What they share may do for all: its first byte if that is rare,
the whole of it if it is long. -/
def optimized (beginnings : Beginnings) : Beginnings :=
  if beginnings.holdsEmpty then anything
  else
    let minimal := beginnings.minimized
    let shared := minimal.shared
    let isFast := minimal.isExact && !minimal.isLongerThan 16
    if beginnings.isLongerThan 1 && shared.length ≤ 3 && shared.head?.any (!isCommon ·) then (minimal.cut 1).merged
    else if 4 < shared.length || (1 < shared.length && !isFast) then (minimal.cut shared.length).merged.condense
    else minimal.condense

/-- Whether searching for the beginnings finds all matches. -/
def suffice (beginnings : Beginnings) : Bool := beginnings.isExact && beginnings.isLongerThan 0

end Beginnings

mutual
def beginnings : Pattern → Beginnings
  | empty | look _ => .exactly []
  | literal text =>
    (Beginnings.exactly (text.flatMap fun character => Utf8.encode character.toNat)).cut Beginnings.lengthLimit
  | oneOf members _ => .ofClass members
  | capture _ body => body.beginnings
  | repeated least most isLazy body => .ofRepetition least most isLazy body.beginnings
  | sequence parts => beginningsThrough (.exactly []) parts
  | choice branches => beginningsAmong .never branches

def beginningsThrough (reached : Beginnings) : List Pattern → Beginnings
  | [] => reached
  | part :: later =>
    if reached.isInexact then reached else beginningsThrough (reached.followedBy part.beginnings) later

def beginningsAmong (found : Beginnings) : List Pattern → Beginnings
  | [] => found
  | branch :: others =>
    if found.list?.isNone then found else beginningsAmong (found.or branch.beginnings) others
end

mutual
/-- Whether a match is no more than its text: no part is captured, and no place has a condition. -/
def isPlain : Pattern → Bool
  | empty | literal _ | oneOf .. => true
  | look _ | capture .. => false
  | repeated _ _ _ body => body.isPlain
  | sequence parts | choice parts => arePlain parts

def arePlain : List Pattern → Bool
  | [] => true
  | part :: later => if part.isPlain then arePlain later else false
end

/-- Whether matching is a search for some strings, for which no automaton is needed. -/
def isSearch (pattern : Pattern) : Bool := pattern.isPlain && pattern.beginnings.optimized.suffice

end SquareSums.Pattern
