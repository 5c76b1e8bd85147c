import SquareSums.Console.Disk
import SquareSums.Delivery
import SquareSums.Log

/-! What a program asks of its surroundings, whatever they are, and surroundings that are simulated: a
command line, a standard input, a disk, a clock, and two places that take what is written. -/

namespace SquareSums.Console

/-- The requests of a program. A file is created before it is written, and either may fail. What is said
about a command line that is refused is up to the reader of command lines, and may tell the whole line. -/
structure Surroundings (m : Type → Type) (File : Type) where
  usage : List String → List String
  logSetting : m (Option String)
  memory : Nat
  stdin : m (List Delivery)
  readFile : String → m (Except DiskFault ByteArray)
  timed {α : Type} : (Unit → α) → m (α × UInt64)
  print : String → m (Except DiskFault Unit)
  create : String → m (Except DiskFault File)
  write : File → String → m (Except DiskFault Unit)
  complain : String → m Unit
  record : Event → m Unit

/-- What takes written text: all of it, or so many characters and then no more. -/
inductive Outlet where
  | ample
  | scarce (room : Nat) (fault : DiskFault)

/-- The part of a text that is taken, and whether that is all. Every output is ASCII, so characters are bytes. -/
def Outlet.take : Outlet → String → String × Except DiskFault Unit
  | ample, text => (text, .ok ())
  | scarce room fault, text =>
    if text.length ≤ room then (text, .ok ()) else (String.ofList (text.toList.take room), .error fault)

structure Invocation where
  arguments : List String
  stdin : List Delivery
  disk : Disk
  logSetting : Option String
  memory : Nat := Sieve.addressable
  elapsedMs : UInt64 := 0
  printing : Outlet := .ample
  writing : Outlet := .ample
  usage : List String → List String := fun _ => []

structure Outcome where
  code : UInt8
  stdout : String
  stderr : List String
  events : List Event
  disk : Disk

/-- A file that could be created is there from then on. -/
def Outcome.created (outcome : Outcome) : Except DiskFault (Place × Disk) → Except DiskFault Place × Outcome
  | .error fault => (.error fault, outcome)
  | .ok (place, disk) => (.ok place, { outcome with disk })

/-- Every request is answered from the invocation and leaves its trace in the outcome. -/
def Invocation.surroundings (invocation : Invocation) : Surroundings (StateM Outcome) Place where
  usage := invocation.usage
  logSetting := pure invocation.logSetting
  memory := invocation.memory
  stdin := pure invocation.stdin
  readFile path := return (← get).disk.read path
  timed work := pure (work (), invocation.elapsedMs)
  print text := modifyGet fun outcome =>
    let (taken, result) := invocation.printing.take text
    (result, { outcome with stdout := outcome.stdout ++ taken })
  create path := modifyGet fun outcome => outcome.created (outcome.disk.create path)
  write place text := modifyGet fun outcome =>
    let (taken, result) := invocation.writing.take text
    (result, { outcome with disk := outcome.disk.put place taken.toUTF8 })
  complain line := modify fun outcome => { outcome with stderr := outcome.stderr ++ [line] }
  record event := modify fun outcome => { outcome with events := outcome.events ++ [event] }

/-- What is left when a program has ended with its code. -/
def Invocation.outcome (invocation : Invocation) (program : StateM Outcome UInt8) : Outcome :=
  let (code, outcome) := program.run ⟨0, "", [], [], invocation.disk⟩
  { outcome with code }

end SquareSums.Console
