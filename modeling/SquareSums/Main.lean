import SquareSums.Console.Program

/-! The command: the program in the surroundings of the operating system, which fetch what it asks for, write
what it answers and read the clock. -/

namespace SquareSums.Console

def systemReason (details : String) (code : UInt32) : String := s!"{details} (os error {code})"

def DiskFault.ofSystem (failure : IO.Error) : DiskFault :=
  match failure with
  | .alreadyExists _ code details | .invalidArgument _ code details | .permissionDenied _ code details
  | .resourceExhausted _ code details | .inappropriateType _ code details | .noSuchThing _ code details
  | .interrupted _ code details | .noFileOrDirectory _ code details | .otherError code details
  | .resourceBusy code details | .resourceVanished code details | .unsupportedOperation code details
  | .hardwareFault code details | .unsatisfiedConstraints code details | .illegalOperation code details
  | .protocolError code details | .timeExpired code details => .other (systemReason details code)
  | .unexpectedEof => .other "unexpected end of file"
  | .userError reason => .other reason

/-- Everything that a stream delivers up to its end or its first lasting failure, the last first. -/
partial def deliveries (stream : IO.FS.Stream) (earlier : List Delivery) : IO (List Delivery) := do
  try
    let bytes ← stream.read 65536
    if bytes.isEmpty then return earlier
    deliveries stream (.chunk bytes :: earlier)
  catch failure =>
    match failure with
    | .interrupted .. => deliveries stream (.interrupted :: earlier)
    | _ => return .failure (DiskFault.ofSystem failure).reason :: earlier

def attempt {α : Type} (action : IO α) : IO (Except DiskFault α) := do
  try return .ok (← action)
  catch failure => return .error (.ofSystem failure)

def showEvent (event : Event) : String :=
  "[" ++ event.level.name ++ " " ++ event.target ++ "] " ++ event.message

def UsageFault.message : UsageFault → String
  | unknown argument => "unexpected argument '" ++ argument ++ "'"
  | missingPath => "the output option needs a path"
  | emptyPath => "a path is empty"
  | unwantedValue option => "the option '" ++ option ++ "' takes no value"
  | repeated option => "the option '" ++ option ++ "' is repeated"
  | surplus path => "unexpected second file '" ++ path ++ "'"

/-- The words of this command; whatever they are, the program is the same. -/
def usage (arguments : List String) : List String :=
  match Command.ofArguments arguments with
  | .error fault => ["error: " ++ fault.message, "", "For more information, try '--help'."]
  | .ok _ => []

def system : Surroundings IO IO.FS.Handle where
  usage
  logSetting := IO.getEnv "RUST_LOG"
  memory := Sieve.addressable
  stdin := return (← deliveries (← IO.getStdin) []).reverse
  readFile path := attempt do (← IO.FS.Handle.mk path .read).readBinToEnd
  timed work := do
    let started ← IO.monoMsNow
    let value ← IO.lazyPure work
    return (value, UInt64.ofNat ((← IO.monoMsNow) - started))
  print text := attempt do
    let stdout ← IO.getStdout
    stdout.putStr text
    stdout.flush
  create path := attempt (IO.FS.Handle.mk path .write)
  write file text := attempt do
    file.write text.toUTF8
    file.flush
  complain line := IO.eprintln line
  record event := IO.eprintln (showEvent event)

end SquareSums.Console

open SquareSums.Console in
def main (arguments : List String) : IO UInt32 := do
  return (← perform system arguments).toUInt32
