import SquareSums.Fault
import SquareSums.Log

/-! The table of bisquares: for a bound `m` it has one mark for each number up to `2 * m ^ 2`, set
exactly on the sums of two squares of numbers up to `m`. A table that is too large is refused before
anything is marked. -/

namespace SquareSums

/-- A bisquare of a bound is the sum of two squares whose roots do not exceed it. -/
def IsBisquare (bound number : Nat) : Prop :=
  ∃ lesser greater, lesser ≤ bound ∧ greater ≤ bound ∧ number = lesser * lesser + greater * greater

structure Sieve where
  bound : UInt64
  marks : Array Bool
deriving DecidableEq

namespace Sieve

/-- The least number that a signed word cannot hold. -/
def sizeLimit : Nat := 0x8000000000000000

/-- A table has a size only if a signed word can hold it. -/
def size? (bound : UInt64) : Option Nat :=
  let size := 2 * (bound.toNat * bound.toNat) + 1
  if size < sizeLimit then some size else none

/-- The most cells that any memory can address. -/
def addressable : Nat := 0x800000000000

def markRow (bound : Nat) (marks : Array Bool) (lesser : Nat) : Array Bool :=
  (List.range' lesser (bound + 1 - lesser)).foldl
    (fun marks greater => marks.setIfInBounds (lesser * lesser + greater * greater) true) marks

/-- Each sum is marked once, from its lesser root. -/
def mark (bound size : Nat) : Array Bool :=
  (List.range (bound + 1)).foldl (markRow bound) (Array.replicate size false)

/-- A table is refused if it has no size or more cells than the memory at hand. -/
def build (bound : UInt64) (memory : Nat := addressable) : Logged (Except Fault Sieve) :=
  match size? bound with
  | none => pure (.error (.boundTooLarge bound))
  | some size =>
    if memory < size then pure (.error (.boundTooLarge bound))
    else do
      Logged.emit (.sieved bound (UInt64.ofNat size))
      pure (.ok ⟨bound, mark bound.toNat size⟩)

/-- For a caller that cannot go on without a table: the table, or the words to stop with. -/
def demand (bound : UInt64) (memory : Nat := addressable) : Except String Sieve :=
  (build bound memory).value.mapError fun fault => "cannot build bisquare table: " ++ fault.message

def size (sieve : Sieve) : Nat := sieve.marks.size

def holds (sieve : Sieve) (number : Nat) : Bool := sieve.marks.getD number false

def contains (sieve : Sieve) (word : UInt64) : Bool := sieve.holds word.toNat

/-- Every marked number, in ascending order. -/
def values (sieve : Sieve) : List UInt64 :=
  ((List.range sieve.size).filter sieve.holds).map UInt64.ofNat

def count (sieve : Sieve) : Nat := sieve.marks.count true

/-- The first index from `start` on, with `remaining` left to examine, whose term is not marked, or the end. -/
def gapFrom (sieve : Sieve) (progression : Progression) : (remaining start : Nat) → Nat
  | 0, start => start
  | remaining + 1, start =>
    if (progression.term? start).any sieve.contains then gapFrom sieve progression remaining (start + 1)
    else start

/-- The index of the first term that is not marked, or the length when all are. -/
def gap (sieve : Sieve) (length : UInt64) (progression : Progression) : Nat :=
  sieve.gapFrom progression length.toNat 0

def hasProgression (sieve : Sieve) (length : UInt64) (progression : Progression) : Bool :=
  sieve.gap length progression == length.toNat

end Sieve
end SquareSums
