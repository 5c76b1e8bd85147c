import SquareSums.Pattern.Basic
import SquareSums.Pattern.Slots
import SquareSums.Pattern.Utf8

/-! How much memory the automaton of a regular expression takes. It is built from states, once for
reading forward and once for reading backward: literals and classes give states for their bytes, and
a repetition with counts is written out. States of a class that do the same are shared as far as the
memory for them goes, which tells states by their numbers, so every copy of a class may differ in size. -/

namespace SquareSums.Pattern

def sizeLimit : Nat := 10485760

def stateSize : Nat := 32
def transitionSize : Nat := 8
def branchSize : Nat := 4

/-- A state that branches to the given number of others. -/
def forkSize (branches : Nat) : Nat := stateSize + branchSize * branches

/-- A state that chooses between ranges of bytes. -/
def switchSize (ranges : Nat) : Nat := stateSize + transitionSize * ranges

mutual
/-- The fewest bytes of a match, unless nothing can match. -/
def shortest? : Pattern → Option Nat
  | empty | look _ => some 0
  | literal text => some (text.foldl (fun size character => size + character.utf8Size) 0)
  | oneOf members _ => members.ranges.head?.map fun range => (Utf8.encode range.1).length
  | capture _ body => body.shortest?
  | repeated least _ _ body => body.shortest?.map (least * ·)
  | sequence parts => shortestSum? 0 parts
  | choice branches =>
    match branches with
    | [] => none
    | branch :: others => branch.shortest?.bind fun size => shortestOf? size others

def shortestSum? (sum : Nat) : List Pattern → Option Nat
  | [] => some sum
  | part :: later =>
    match part.shortest? with
    | some size => shortestSum? (sum + size) later
    | none => none

def shortestOf? (best : Nat) : List Pattern → Option Nat
  | [] => some best
  | branch :: others =>
    match branch.shortest? with
    | some size => shortestOf? (min best size) others
    | none => none
end

def advances (pattern : Pattern) : Bool := pattern.shortest?.any (0 < ·)

/-- The states so far, numbered from zero, and their size. If the last part ends in a fork, what follows is
one more branch of it. -/
structure Draft where
  states : Nat
  size : Nat
  endsInFork : Bool
deriving DecidableEq, Repr

namespace Draft

def initial : Draft := ⟨0, 0, false⟩

def add (draft : Draft) (size : Nat) : Draft := ⟨draft.states + 1, draft.size + size, false⟩

def addAll (draft : Draft) (count size : Nat) : Draft := ⟨draft.states + count, draft.size + count * size, false⟩

/-- One more state, a fork that what follows is a branch of. -/
def fork (draft : Draft) (branches : Nat) : Draft := { draft.add (forkSize branches) with endsInFork := true }

/-- Ready for what follows. -/
def connect (draft : Draft) : Draft :=
  ⟨draft.states, draft.size + (if draft.endsInFork then branchSize else 0), false⟩

def isFull (draft : Draft) : Bool := sizeLimit < draft.size

/-- The same part several times; a draft that is full already only grows, so it is left as it is. -/
def times (part : Draft → Draft) : (count : Nat) → Draft → Draft
  | 0, draft => draft
  | count + 1, draft => if draft.isFull then draft else times part count (part draft)

def inSequence (parts : List (Draft → Draft)) (draft : Draft) : Draft :=
  parts.foldl (fun draft part => part draft.connect) draft

/-- Branches leave a fork and meet in one state; two of them are known before the fork is. -/
def inChoice (branches : List (Draft → Draft)) (draft : Draft) : Draft :=
  let built (draft : Draft) (branch : Draft → Draft) : Draft := (branch draft).connect
  let first := (branches.take 2).foldl built draft
  (branches.drop 2).foldl built ((first.add (forkSize branches.length)).add stateSize)

def exactly (count : Nat) (body : Draft → Draft) (draft : Draft) : Draft :=
  if count = 0 then draft.add stateSize
  else body (times (fun draft => (body draft).connect) (count - 1) draft)

def optional (body : Draft → Draft) (draft : Draft) : Draft :=
  (body (draft.add (forkSize 2))).connect.add stateSize

def unbounded (least : Nat) (bodyAdvances : Bool) (body : Draft → Draft) (draft : Draft) : Draft :=
  if least = 0 then
    if bodyAdvances then
      { (body (draft.add (forkSize 1))).connect with endsInFork := true }
    else (((body draft).connect.add (forkSize 2)).add (forkSize 2)).add stateSize
  else (times (fun draft => (body draft).connect) least draft).fork 1

def bounded (least most : Nat) (body : Draft → Draft) (draft : Draft) : Draft :=
  times (fun draft => (body (draft.add (forkSize 2))).connect) (most - least)
    ((exactly least body draft).connect.add stateSize)

def repeated (least : Nat) (most : Option Nat) (bodyAdvances : Bool) (body : Draft → Draft) : Draft → Draft :=
  match most with
  | none => unbounded least bodyAdvances body
  | some most =>
    if least = 0 ∧ most = 1 then optional body
    else if least = most then exactly least body
    else bounded least most body

end Draft

/-- The ways on from a state: a range of bytes, and the sequences that may follow it. -/
abbrev Ways := List ((Nat × Nat) × List Utf8.ByteRanges)

/-- The ways on, given backwards with the last of them taken apart. -/
def waysFrom (found : Ways) (range : Nat × Nat) (tails : List Utf8.ByteRanges) : List Utf8.ByteRanges → Ways
  | [] => ((range, tails.reverse) :: found).reverse
  | [] :: later => waysFrom found range tails later
  | (other :: tail) :: later =>
    if other == range then waysFrom found range (tail :: tails) later
    else waysFrom ((range, tails.reverse) :: found) other [tail] later

def ways : List Utf8.ByteRanges → Ways
  | (range :: tail) :: later => waysFrom [] range [tail] later
  | _ => []

/-- A draft, and the memory for the states that may be shared. -/
structure Sharing where
  draft : Draft
  slots : Slots

namespace Sharing

/-- The number of a state that is told by a key: one that is remembered, or else a new one. -/
def state (sharing : Sharing) (key : List Nat) (size : Nat) : Nat × Sharing :=
  match sharing.slots.find? key with
  | some number => (number, sharing)
  | none =>
    let number := sharing.draft.states
    (number, ⟨sharing.draft.add size, sharing.slots.insert key number⟩)

/-- Forward, a state is told by its ways on, so it follows the states they lead to. All sequences end in
the given state. -/
def switch (last : Nat) : (levels : Nat) → List Utf8.ByteRanges → Sharing → Nat × Sharing
  | 0, _, sharing => (last, sharing)
  | levels + 1, sequences, sharing =>
    match ways sequences with
    | [] => (last, sharing)
    | ways =>
      let (backwards, sharing) := ways.foldl
        (fun (found : List (List Nat) × Sharing) way =>
          let (next, sharing) := switch last levels way.2 found.2
          ([way.1.1, way.1.2, next] :: found.1, sharing))
        ([], sharing)
      sharing.state backwards.reverse.flatten (switchSize ways.length)

/-- Backward, a state is told by its bytes and the state it leads to. -/
def trace (start : Nat) (sequence : Utf8.ByteRanges) (sharing : Sharing) : Sharing :=
  (sequence.foldl
    (fun (reached : Nat × Sharing) range => reached.2.state [reached.1, range.1, range.2] stateSize)
    (start, sharing)).2

end Sharing

def buildClass (backward : Bool) (members : CharSet) (draft : Draft) : Draft :=
  if members.isAscii then (draft.add stateSize).add (switchSize members.ranges.length)
  else
    let sequences := Utf8.sequences members
    if backward then
      let draft := draft.add (forkSize sequences.length)
      (sequences.foldl (fun sharing sequence => sharing.trace draft.states sequence)
        (Sharing.mk (draft.add stateSize) (Slots.empty 1000))).draft
    else
      (Sharing.switch draft.states 4 sequences ⟨draft.add stateSize, Slots.empty 10000⟩).2.draft

/-- The words that reach one node of a tree of literals, by the byte with which each goes on; the words of
one byte stand backwards. A word that ends at the node parts those before it from those after it. -/
structure Branching where
  finished : List (List (Nat × List (List Nat)))
  endings : Nat
  current : List (Nat × List (List Nat))

namespace Branching

def insert (byte : Nat) (word : List Nat) : List (Nat × List (List Nat)) → List (Nat × List (List Nat))
  | [] => [(byte, [word])]
  | (other, words) :: later =>
    if other == byte then (other, word :: words) :: later else (other, words) :: insert byte word later

def stretches (branching : Branching) : List (List (Nat × List (List Nat))) :=
  if branching.current.isEmpty then branching.finished else branching.current :: branching.finished

/-- Where no word goes on yet, one ending is as good as several. -/
def add (branching : Branching) : List Nat → Branching
  | byte :: word => { branching with current := insert byte word branching.current }
  | [] =>
    if branching.stretches.isEmpty && 0 < branching.endings then branching
    else ⟨branching.stretches, branching.endings + 1, []⟩

def ofWords (words : List (List Nat)) : Branching := words.foldl add ⟨[], 0, []⟩

def next (branching : Branching) : List (List (List Nat)) :=
  branching.stretches.flatMap fun ways => ways.map fun way => way.2.reverse

/-- A switch for each stretch and a fork between them and the endings. A node that no word leaves is the
end that all share. -/
def build (branching : Branching) (draft : Draft) : Draft :=
  let stretches := branching.stretches
  if stretches.isEmpty then draft
  else
    (stretches.foldl (fun draft ways => draft.add (if ways.length = 1 then stateSize else switchSize ways.length))
      draft).add (forkSize (stretches.length + branching.endings))

end Branching

/-- The nodes of a tree of literals, one in each round. -/
def buildLiterals : (rounds : Nat) → List (List (List Nat)) → Draft → Draft
  | rounds + 1, words :: later, draft =>
    let branching := Branching.ofWords words
    buildLiterals rounds (branching.next ++ later) (branching.build draft)
  | _, _, draft => draft

def bytes? (backward : Bool) : Pattern → Option (List Nat)
  | literal text =>
    let bytes := text.flatMap fun character => Utf8.encode character.toNat
    some (if backward then bytes.reverse else bytes)
  | _ => none

/-- The draft with a choice between literals. There are no more nodes than bytes, the root apart. -/
def literalChoice? (backward : Bool) (branches : List Pattern) (draft : Draft) : Option Draft :=
  (branches.mapM (bytes? backward)).map fun words =>
    let rounds := words.foldl (fun rounds word => rounds + word.length) 1
    buildLiterals rounds [words] (draft.add stateSize)

mutual
def build (backward : Bool) : Pattern → Draft → Draft
  | empty, draft | look _, draft => draft.add stateSize
  | literal text, draft =>
    draft.addAll (text.foldl (fun size character => size + character.utf8Size) 0) stateSize
  | oneOf members _, draft => buildClass backward members draft
  | capture _ body, draft =>
    if backward then body.build backward draft
    else (body.build backward (draft.add stateSize)).connect.add stateSize
  | repeated least most _ body, draft =>
    Draft.repeated least most body.advances (body.build backward) draft
  | sequence parts, draft =>
    let backwards := buildersOf backward [] parts
    Draft.inSequence (if backward then backwards else backwards.reverse) draft
  | choice branches, draft =>
    match literalChoice? backward branches draft with
    | some draft => draft
    | none => Draft.inChoice (buildersOf backward [] branches).reverse draft

/-- What builds the parts, the last one first. -/
def buildersOf (backward : Bool) (found : List (Draft → Draft)) : List Pattern → List (Draft → Draft)
  | [] => found
  | part :: later => buildersOf backward (part.build backward :: found) later
end

mutual
/-- Whether every match begins, or ends, at a place that meets the condition. -/
def isBoundTo (condition : Look) (backward : Bool) : Pattern → Bool
  | look other => condition == other
  | capture _ body => body.isBoundTo condition backward
  | repeated least _ _ body => if least = 0 then false else body.isBoundTo condition backward
  | sequence parts =>
    if backward then endsBound condition false parts else startsBound condition parts
  | choice branches => areBoundTo condition backward branches
  | empty | literal _ | oneOf .. => false

/-- Of a sequence, what precedes the first part that can take a character counts, and that part. -/
def startsBound (condition : Look) : List Pattern → Bool
  | [] => false
  | part :: later =>
    if part.isBoundTo condition false then true
    else if part.isOnlyEmpty then startsBound condition later
    else false

/-- The same from the end, given whether the parts before are bound. -/
def endsBound (condition : Look) (bound : Bool) : List Pattern → Bool
  | [] => bound
  | part :: later =>
    endsBound condition (part.isBoundTo condition true || (part.isOnlyEmpty && bound)) later

def areBoundTo (condition : Look) (backward : Bool) : List Pattern → Bool
  | [] => true
  | branch :: others =>
    if branch.isBoundTo condition backward then areBoundTo condition backward others else false
end

/-- The way to any place of the text, the whole expression with its capture, and the end. -/
def footprint (pattern : Pattern) (backward : Bool) : Nat :=
  let bound := pattern.isBoundTo (if backward then .textEnd else .textStart) backward
  let start := if bound then Draft.initial.add stateSize
    else ((Draft.initial.add (forkSize 2)).add stateSize).add (switchSize 1)
  (((Pattern.capture 0 pattern).build backward start).connect.add stateSize).size

mutual
/-- Whether the words of Unicode are asked for. -/
def needsUnicodeWords : Pattern → Bool
  | look (.word _ unicode) => unicode
  | capture _ body | repeated _ _ _ body => body.needsUnicodeWords
  | sequence parts | choice parts => anyNeedsUnicodeWords parts
  | empty | literal _ | oneOf .. | look _ => false

def anyNeedsUnicodeWords : List Pattern → Bool
  | [] => false
  | part :: later => if part.needsUnicodeWords then true else anyNeedsUnicodeWords later
end

end SquareSums.Pattern
