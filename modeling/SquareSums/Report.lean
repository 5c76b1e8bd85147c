import SquareSums.Catalog
import SquareSums.Findings

/-! The account of one search: its request, the statistics, and the progressions in canonical order
without repetition. The plain text has one line for each progression. -/

namespace SquareSums

structure Report where
  length : UInt64
  bound : UInt64
  tableSize : UInt64
  bisquareCount : UInt64
  pairsTested : UInt64
  elapsedMs : UInt64
  progressions : List Progression
deriving DecidableEq, Repr

inductive Answer where
  | nothing
  | found (progressions : List Progression)
deriving DecidableEq, Repr

namespace Report

/-- A progression that comes again is reported each time it does. -/
def repetitions (progressions : List Progression) (fresh : List Bool) : List Event :=
  (progressions.zip fresh).filterMap fun (progression, new) => if new then none else some (.repeated progression)

def collect (sieve : Sieve) (length : UInt64) (findings : Findings) : Logged Report := do
  let (fresh, catalog) := Catalog.insertAll ∅ findings.found
  Logged.emitAll (repetitions findings.found fresh)
  let progressions := catalog.toList
  Logged.emit (.collected (UInt64.ofNat progressions.length) length sieve.bound)
  pure {
    length
    bound := sieve.bound
    tableSize := UInt64.ofNat sieve.size
    bisquareCount := UInt64.ofNat findings.bisquareCount
    pairsTested := UInt64.ofNat findings.pairsTested
    elapsedMs := findings.elapsedMs
    progressions }

def answer (report : Report) : Answer :=
  if report.progressions.isEmpty then .nothing else .found report.progressions

def text (report : Report) : String :=
  if report.progressions.isEmpty then "NONE\n"
  else String.join (report.progressions.map fun progression => progression.text ++ "\n")

end Report
end SquareSums
