import SquareSums.Report.Rendering

/-! A working session: one table, one search result and one report at a time, each absent until a
step makes it. A step that fails changes nothing; a table that is needed is missed before a search. -/

namespace SquareSums

structure Workbench where
  sieve : Option Sieve
  findings : Option Findings
  report : Option Report

namespace Workbench

instance : EmptyCollection Workbench := ⟨⟨none, none, none⟩⟩

inductive Part where
  | sieve
  | findings
  | report
deriving DecidableEq, Repr

inductive Obstacle where
  | absent (part : Part)
  | fault (fault : Fault)
deriving DecidableEq, Repr

/-- A change to what was found; the counts stay. -/
inductive Edit where
  | reverse
  | double
  | clear
  | push (progression : Progression)
  | truncate (count : Nat)
deriving DecidableEq, Repr

def Edit.apply (found : List Progression) : Edit → List Progression
  | reverse => found.reverse
  | double => found ++ found
  | clear => []
  | push progression => found ++ [progression]
  | truncate count => found.take count

inductive Step where
  | build (bound : UInt64)
  | contains (word : UInt64)
  | check (length : UInt64) (progression : Progression)
  | findPairs (length : UInt64)
  | findExhaustively (length : UInt64)
  | edit (edit : Edit)
  | collect (length : UInt64)
  | render (rendering : Report.Rendering)
deriving Repr

inductive Reply where
  | built (size count : Nat) (sameAsBefore : Bool)
  | verdict (holds : Bool)
  | searched (findings : Findings)
  | edited (found : List Progression)
  | collected (progressions : List Progression) (sameAsBefore : Bool) (events : List Event)
  | rendered (rendered : Report.Rendered)

def require {α : Type} (part : Part) : Option α → Except Obstacle α
  | none => .error (.absent part)
  | some value => .ok value

def step (bench : Workbench) : Step → Except Obstacle (Reply × Workbench)
  | .build bound =>
    match (Sieve.build bound).value with
    | .error fault => .error (.fault fault)
    | .ok sieve =>
      .ok (.built sieve.size sieve.count (bench.sieve == some sieve), { bench with sieve := some sieve })
  | .contains word => do
    let sieve ← require .sieve bench.sieve
    pure (.verdict (sieve.contains word), bench)
  | .check length progression => do
    let sieve ← require .sieve bench.sieve
    pure (.verdict (sieve.hasProgression length progression), bench)
  | .findPairs length => do
    let sieve ← require .sieve bench.sieve
    let findings := (sieve.findPairs length).value
    pure (.searched findings, { bench with findings := some findings })
  | .findExhaustively length => do
    let sieve ← require .sieve bench.sieve
    let findings := sieve.findExhaustively length
    pure (.searched findings, { bench with findings := some findings })
  | .edit edit => do
    let findings ← require .findings bench.findings
    let found := edit.apply findings.found
    pure (.edited found, { bench with findings := some { findings with found } })
  | .collect length => do
    let sieve ← require .sieve bench.sieve
    let findings ← require .findings bench.findings
    let collected := Report.collect sieve length findings
    let report := collected.value
    pure (.collected report.progressions (bench.report == some report) collected.events,
      { bench with report := some report })
  | .render rendering => do
    let report ← require .report bench.report
    pure (.rendered (report.render rendering), bench)

def run (bench : Workbench) : List Step → List (Except Obstacle Reply)
  | [] => []
  | first :: later =>
    match bench.step first with
    | .error obstacle => .error obstacle :: bench.run later
    | .ok (reply, next) => .ok reply :: next.run later

end Workbench
end SquareSums
