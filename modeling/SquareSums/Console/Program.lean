import SquareSums.Console.LogFilter
import SquareSums.Console.Settings
import SquareSums.Console.Surroundings
import SquareSums.Report.Json
import SquareSums.Solution
import SquareSums.Text.Lines

/-! The program in whatever surroundings it has: what it asks of them, in which order, and what it makes of
the answers. Nothing is written before the whole output is known, so a run that fails before leaves every
file as it was. -/

namespace SquareSums.Console

def versionText : String := "ariprog 0.1.0\n"

def helpText : String :=
  String.join (List.map (· ++ "\n")
    ["Arithmetic progressions of sums of two squares",
      "",
      "Usage: ariprog [OPTIONS] [FILE]",
      "",
      "Arguments:",
      "  [FILE]  Path to the input file holding `N M` (stdin when omitted)",
      "",
      "Options:",
      "      --stdin          Read input from stdin even if a file is given",
      "  -o, --output <FILE>  Write results to this file instead of stdout",
      "      --json           Emit a JSON report instead of plain lines",
      "  -v, --verbose...     Increase log verbosity (-v info, -vv debug)",
      "  -h, --help           Print help",
      "  -V, --version        Print version"])

/-- The file that holds the input; none means standard input. -/
def Settings.source (settings : Settings) : Option String :=
  if settings.fromStdin then none else settings.file

/-- The request and its table. -/
def prepare (request : Except Fault Query) (memory : Nat) : Logged (Except Fault (Query × Sieve)) :=
  match request with
  | .error fault => pure (.error fault)
  | .ok query => do
    Logged.emit (.solving query.length query.bound)
    match ← Sieve.build query.bound memory with
    | .error fault => pure (.error fault)
    | .ok sieve => pure (.ok (query, sieve))

def search : Except Fault (Query × Sieve) → Logged (Except Fault (Query × Sieve × Findings))
  | .error fault => pure (.error fault)
  | .ok (query, sieve) => do
    let findings ← sieve.findPairs query.length
    pure (.ok (query, sieve, findings))

def Settings.render (settings : Settings) (report : Report) : String :=
  if settings.json then report.indentedJson ++ "\n" else report.text

/-- The output of a search that took the given time. -/
def Settings.conclude (settings : Settings) (elapsedMs : UInt64) :
    Except Fault (Query × Sieve × Findings) → Logged (Except Fault String)
  | .error fault => pure (.error fault)
  | .ok (query, sieve, findings) => do
    let report ← Report.collect sieve query.length { findings with elapsedMs }
    pure (.ok (settings.render report))

def faultLine (fault : Fault) : String := "Error: " ++ fault.message

def warningLines (warning : LogFilter.Warning) : List String :=
  (Lines.ofText warning.message.toList).map String.ofList

section Performance

variable {m : Type → Type} [Monad m] {File : Type}

def Settings.request (settings : Settings) (around : Surroundings m File) : m (Except Fault Query) := do
  match settings.source with
  | none => return Query.ofStream (← around.stdin)
  | some path =>
    match ← around.readFile path with
    | .error fault => return .error (.unreadable fault.reason)
    | .ok bytes => return Query.ofBytes bytes

def Settings.deliver (settings : Settings) (around : Surroundings m File) (text : String) :
    m (Except DiskFault Unit) := do
  match settings.output with
  | none => around.print text
  | some path =>
    match ← around.create path with
    | .error fault => return .error fault
    | .ok file => around.write file text

def Settings.perform (settings : Settings) (around : Surroundings m File) : m UInt8 := do
  let (filter, warnings) := LogFilter.choose settings.verbosity (← around.logSetting)
  (warnings.flatMap warningLines).forM around.complain
  let prepared := prepare (← settings.request around) around.memory
  let (searched, elapsedMs) ← around.timed fun _ => search prepared.value
  let concluded := settings.conclude elapsedMs searched.value
  (filter.select (prepared.events ++ searched.events ++ concluded.events)).forM around.record
  match concluded.value with
  | .error fault =>
    around.complain (faultLine fault)
    return 1
  | .ok text =>
    match ← settings.deliver around text with
    | .error fault =>
      around.complain (faultLine (.unreadable fault.reason))
      return 1
    | .ok () => return 0

def perform (around : Surroundings m File) (arguments : List String) : m UInt8 := do
  match Command.ofArguments arguments with
  | .error _ =>
    (around.usage arguments).forM around.complain
    return 2
  | .ok .version =>
    let _ ← around.print versionText
    return 0
  | .ok .help =>
    let _ ← around.print helpText
    return 0
  | .ok (.run settings) => settings.perform around

end Performance

def Settings.run (settings : Settings) (invocation : Invocation) : Outcome :=
  invocation.outcome (settings.perform invocation.surroundings)

def Invocation.run (invocation : Invocation) : Outcome :=
  invocation.outcome (perform invocation.surroundings invocation.arguments)

end SquareSums.Console
