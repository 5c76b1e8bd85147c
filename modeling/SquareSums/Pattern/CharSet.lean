/-! Sets of characters, as ranges of code points. In the usual form the ranges ascend with a gap between
any two of them, so equal sets have equal ranges. -/

namespace SquareSums

structure CharSet where
  ranges : List (Nat × Nat)
deriving DecidableEq, Repr

namespace CharSet

def lastPoint : Nat := 0x10FFFF

def contains (members : CharSet) (character : Char) : Bool :=
  members.ranges.any fun range => range.1 ≤ character.toNat && character.toNat ≤ range.2

def join (joined : List (Nat × Nat)) : List (Nat × Nat) → List (Nat × Nat)
  | [] => joined.reverse
  | (first, last) :: later =>
    match joined with
    | [] => join [(first, last)] later
    | (start, stop) :: earlier =>
      if first ≤ stop + 1 then join ((start, max stop last) :: earlier) later
      else join ((first, last) :: joined) later

/-- Ranges in any order, brought into the usual form. -/
def ofRanges (ranges : List (Nat × Nat)) : CharSet :=
  ⟨join [] (ranges.mergeSort fun left right => left.1 ≤ right.1)⟩

/-- The character behind, which is never a surrogate. -/
def next (point : Nat) : Nat := if point = 0xD7FF then 0xE000 else point + 1

/-- The character before. -/
def previous (point : Nat) : Nat := if point = 0xE000 then 0xD7FF else point - 1

/-- The ranges between those of a set, and what follows the last of them. Two ranges that only the
surrogates part have nothing between them; their facing ends are taken for a range all the same. -/
def gapsAfter (last : Nat) (found : List (Nat × Nat)) : List (Nat × Nat) → List (Nat × Nat)
  | [] => (if last < lastPoint then (next last, lastPoint) :: found else found).reverse
  | (first, stop) :: later =>
    gapsAfter stop ((min (next last) (previous first), max (next last) (previous first)) :: found) later

def complement (members : CharSet) : CharSet :=
  match members.ranges with
  | [] => ⟨[(0, lastPoint)]⟩
  | (first, last) :: later => ⟨gapsAfter last (if 0 < first then [(0, previous first)] else []) later⟩

def union (left right : CharSet) : CharSet := ofRanges (left.ranges ++ right.ranges)

def common (found : List (Nat × Nat)) : List (Nat × Nat) → List (Nat × Nat) → List (Nat × Nat)
  | first :: lefts, second :: rights =>
    let low := max first.1 second.1
    let high := min first.2 second.2
    let found := if low ≤ high then (low, high) :: found else found
    if first.2 < second.2 then common found lefts (second :: rights) else common found (first :: lefts) rights
  | _, _ => found.reverse
termination_by lefts rights => lefts.length + rights.length

def intersection (left right : CharSet) : CharSet := ⟨common [] left.ranges right.ranges⟩

def without (found : List (Nat × Nat)) : List (Nat × Nat) → List (Nat × Nat) → List (Nat × Nat)
  | first :: lefts, second :: rights =>
    if second.2 < first.1 then without found (first :: lefts) rights
    else if first.2 < second.1 then without (first :: found) lefts (second :: rights)
    else
      let found := if first.1 < second.1 then (first.1, previous second.1) :: found else found
      if second.2 < first.2 then without found ((next second.2, first.2) :: lefts) rights
      else without found lefts (second :: rights)
  | lefts, _ => found.reverse ++ lefts
termination_by lefts rights => lefts.length + rights.length

def difference (left right : CharSet) : CharSet := ⟨without [] left.ranges right.ranges⟩

def symmetricDifference (left right : CharSet) : CharSet :=
  (left.union right).difference (left.intersection right)

def isAscii (members : CharSet) : Bool := members.ranges.all (·.2 < 128)

/-- How many code points the ranges hold. -/
def size (members : CharSet) : Nat := members.ranges.foldl (fun size range => size + (range.2 + 1 - range.1)) 0

def points (members : CharSet) : List Nat :=
  members.ranges.flatMap fun range => List.range' range.1 (range.2 + 1 - range.1)

/-- The only member, if there is no other. -/
def single? (members : CharSet) : Option Char :=
  match members.ranges with
  | [(first, last)] => if first = last && first.isValidChar then some (Char.ofNat first) else none
  | _ => none

def ofChar (character : Char) : CharSet := ⟨[(character.toNat, character.toNat)]⟩

/-- A range cut to an interval and moved by the distance between the two cases of a letter. -/
def caseRange? (low high : Char) (other : Nat) (range : Nat × Nat) : Option (Nat × Nat) :=
  let first := max range.1 low.toNat
  let last := min range.2 high.toNat
  if first ≤ last then some (first - low.toNat + other, last - low.toNat + other) else none

/-- With every ASCII letter its other case. -/
def caseless (members : CharSet) : CharSet :=
  ofRanges (members.ranges ++ members.ranges.filterMap (caseRange? 'a' 'z' 'A'.toNat) ++
    members.ranges.filterMap (caseRange? 'A' 'Z' 'a'.toNat))

end CharSet
end SquareSums
