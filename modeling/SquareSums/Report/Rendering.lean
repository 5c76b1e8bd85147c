import SquareSums.Report.Json

/-! The forms in which a report can be shown. -/

namespace SquareSums.Report

inductive Rendering where
  | text
  | indentedJson
  | compactJson
  | answer
  | fields
deriving DecidableEq, Repr

inductive Rendered where
  | text (text : String)
  | answer (answer : Answer)
  | fields (report : Report)
deriving DecidableEq, Repr

def render (report : Report) : Rendering → Rendered
  | .text => .text report.text
  | .indentedJson => .text report.indentedJson
  | .compactJson => .text report.compactJson
  | .answer => .answer report.answer
  | .fields => .fields report

end SquareSums.Report
