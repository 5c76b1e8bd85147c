import SquareSums.Json.Layout
import SquareSums.Json.Record
import SquareSums.Report

/-! Progressions and reports as JSON. What is written has the fields in one fixed order; what is read
may be an object in any order or an array in that order, and the numbers must be plain digits. -/

namespace SquareSums

namespace Progression

def fieldNames : List String := ["difference", "first"]

def toJson (progression : Progression) : Json.Value :=
  .ofFields (fieldNames.zip [.ofWord progression.difference, .ofWord progression.first])

def ofJson? (value : Json.Value) : Option Progression := do
  match ← value.fields? fieldNames with
  | [difference, first] => pure ⟨← difference.word?, ← first.word?⟩
  | _ => none

def compactJson (progression : Progression) : String := Json.Layout.compact progression.toJson

def ofJsonText? (text : String) : Option Progression := (Json.Value.ofText? text).bind ofJson?

end Progression

namespace Report

def fieldNames : List String :=
  ["length", "bound", "tableSize", "bisquareCount", "pairsTested", "timeElapsedMs", "progressions"]

def toJson (report : Report) : Json.Value :=
  .ofFields (fieldNames.zip
    [.ofWord report.length, .ofWord report.bound, .ofWord report.tableSize, .ofWord report.bisquareCount,
      .ofWord report.pairsTested, .ofWord report.elapsedMs, .array (report.progressions.map Progression.toJson)])

def ofJson? (value : Json.Value) : Option Report := do
  match ← value.fields? fieldNames with
  | [length, bound, tableSize, bisquareCount, pairsTested, elapsedMs, progressions] =>
    pure {
      length := ← length.word?
      bound := ← bound.word?
      tableSize := ← tableSize.word?
      bisquareCount := ← bisquareCount.word?
      pairsTested := ← pairsTested.word?
      elapsedMs := ← elapsedMs.word?
      progressions := ← (← progressions.items?).mapM Progression.ofJson? }
  | _ => none

def compactJson (report : Report) : String := Json.Layout.compact report.toJson

def indentedJson (report : Report) : String := Json.Layout.indented report.toJson

def ofJsonText? (text : String) : Option Report := (Json.Value.ofText? text).bind ofJson?

end Report
end SquareSums
