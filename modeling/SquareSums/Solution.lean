import SquareSums.Query
import SquareSums.Report

/-! From a request to its report: build the table, search it, collect what was found. A request is
refused only because its table cannot be built, and a refused request reports nothing. -/

namespace SquareSums.Query

def search (query : Query) (memory : Nat := Sieve.addressable) : Logged (Except Fault (Sieve × Findings)) := do
  match ← Sieve.build query.bound memory with
  | .error fault => pure (.error fault)
  | .ok sieve =>
    let findings ← sieve.findPairs query.length
    pure (.ok (sieve, findings))

def solve (query : Query) (memory : Nat := Sieve.addressable) : Logged (Except Fault Report) := do
  match ← query.search memory with
  | .error fault => pure (.error fault)
  | .ok (sieve, findings) =>
    let report ← Report.collect sieve query.length findings
    pure (.ok report)

end SquareSums.Query
