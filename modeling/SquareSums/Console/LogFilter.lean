import SquareSums.Console.Threshold
import SquareSums.Pattern.Reach
import SquareSums.Pattern.Refusal
import SquareSums.Text.Blank

/-! Which log records are shown. A setting lists directives, separated by commas, each a threshold for
all targets or for those that begin with a name; the longest such name decides. After a slash comes a
regular expression that the message must match. What cannot be read is left out with a warning. -/

namespace SquareSums.Console

structure LogFilter where
  general : Threshold
  named : List (List Char × Threshold)
  pattern : Option Pattern

namespace LogFilter

/-- Of two directives with one name the later one counts. -/
def threshold (filter : LogFilter) (target : String) : Threshold :=
  let apt := filter.named.filter fun (name, _) => name.isPrefixOf target.toList
  (apt.foldl
    (fun (best : Nat × Threshold) (name, threshold) =>
      if best.1 ≤ name.length then (name.length, threshold) else best)
    (0, filter.general)).2

def shows (filter : LogFilter) (event : Event) : Bool :=
  (filter.threshold event.target).shows event.level && filter.pattern.all (·.occursIn event.message)

def select (filter : LogFilter) (events : List Event) : List Event := events.filter filter.shows

/-- A directive without a name, or with one; a name alone asks for everything. -/
inductive Directive where
  | general (threshold : Threshold)
  | named (name : List Char) (threshold : Threshold)
deriving DecidableEq, Repr

inductive Warning where
  | unreadable (text : List Char)
  | tooManySlashes (text : List Char)
  | badPattern (refusal : Pattern.Refusal) (text : List Char)
deriving DecidableEq, Repr

def Warning.message : Warning → String
  | unreadable text => "warning: invalid logging spec '" ++ String.ofList text ++ "', ignoring it"
  | tooManySlashes text =>
    "warning: invalid logging spec '" ++ String.ofList text ++ "' (too many '/'s), ignoring it"
  | badPattern refusal text => "warning: invalid regex filter - " ++ refusal.message text ++ ", ignoring it"

def Directive.ofText (text : List Char) : Except Warning Directive :=
  match text.splitOn '=' with
  | [name] =>
    match Threshold.named? name with
    | some threshold => .ok (.general threshold)
    | none => .ok (.named name .finest)
  | [name, spaced] =>
    let level := Blank.trim spaced
    if level.isEmpty then .ok (.named name .finest)
    else
      match Threshold.named? level with
      | some threshold => .ok (.named name threshold)
      | none => .error (.unreadable level)
  | _ => .error (.unreadable text)

def apply (filter : LogFilter) : Directive → LogFilter
  | .general threshold => { filter with general := threshold }
  | .named name threshold => { filter with named := filter.named ++ [(name, threshold)] }

/-- The filter with the directives of a list, and the warnings about those that cannot be read. -/
def applyAll (filter : LogFilter) (directives : List Char) : LogFilter × List Warning :=
  (((directives.splitOn ',').map Blank.trim).filter (!·.isEmpty)).foldl
    (fun (filter, warnings) text =>
      match Directive.ofText text with
      | .ok directive => (apply filter directive, warnings)
      | .error warning => (filter, warnings ++ [warning]))
    (filter, [])

/-- The filter for a count of requests for more and the setting of the environment. -/
def choose (verbosity : Nat) (setting : Option String) : LogFilter × List Warning :=
  let initial : LogFilter := ⟨Threshold.ofVerbosity verbosity, [], none⟩
  match setting.map String.toList with
  | none => (initial, [])
  | some text =>
    match text.splitOn '/' with
    | [directives] => applyAll initial directives
    | [directives, expression] =>
      let (filter, warnings) := applyAll initial directives
      match Pattern.ofText expression with
      | .ok pattern => ({ filter with pattern := some pattern }, warnings)
      | .error refusal => (filter, warnings ++ [.badPattern refusal expression])
    | _ => (initial, [.tooManySlashes text])

end LogFilter
end SquareSums.Console
