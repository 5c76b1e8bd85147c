import SquareSums.Sieve

/-! Two searches for progressions of marked numbers. The pair search lets each pair of marked numbers
propose a progression; the exhaustive search tries every difference that stays within the table.
Both count what they test and keep what passes in the order of testing. -/

namespace SquareSums

/-- The searches leave the elapsed time at zero; whoever holds a clock may fill it in. -/
structure Findings where
  found : List Progression
  bisquareCount : Nat
  pairsTested : Nat
  elapsedMs : UInt64
deriving DecidableEq, Repr

structure Tally where
  found : Array Progression
  tested : Nat

namespace Tally

def test (sieve : Sieve) (length : UInt64) : Tally → Progression → Tally
  | ⟨found, tested⟩, candidate =>
    if sieve.hasProgression length candidate then ⟨found.push candidate, tested + 1⟩ else ⟨found, tested + 1⟩

def testAll (sieve : Sieve) (length : UInt64) (tally : Tally) (candidates : List Progression) : Tally :=
  candidates.foldl (test sieve length) tally

def findings (tally : Tally) (bisquareCount : Nat) : Findings :=
  ⟨tally.found.toList, bisquareCount, tally.tested, 0⟩

end Tally

namespace Sieve

/-- Each value is paired with every later one. -/
def testPairs (sieve : Sieve) (length : UInt64) : List UInt64 → Tally → Tally
  | [], tally => tally
  | first :: laters, tally =>
    testPairs sieve length laters (tally.testAll sieve length (laters.map (Progression.between first)))

def findPairs (sieve : Sieve) (length : UInt64) : Logged Findings := do
  let values := sieve.values
  let tally := sieve.testPairs length values ⟨#[], 0⟩
  let findings := tally.findings values.length
  Logged.emit (.searched length (UInt64.ofNat findings.bisquareCount) (UInt64.ofNat findings.pairsTested)
    (UInt64.ofNat findings.found.length))
  pure findings

/-- The progressions from a first term whose second term is still within the table. -/
def reaches (sieve : Sieve) (first : UInt64) : List Progression :=
  (List.range' 1 (sieve.size - 1 - first.toNat)).map fun difference => ⟨UInt64.ofNat difference, first⟩

def findExhaustively (sieve : Sieve) (length : UInt64) : Findings :=
  let values := sieve.values
  let tally := values.foldl (fun (tally : Tally) first => tally.testAll sieve length (sieve.reaches first)) ⟨#[], 0⟩
  tally.findings values.length

end Sieve
end SquareSums
