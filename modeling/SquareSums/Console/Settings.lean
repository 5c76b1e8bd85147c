/-! What a command line asks for. Arguments are first read as items, whatever their spelling; the
items are then taken in order, and the first that settles the matter decides: a malformed or repeated
item is a usage fault, a request for the version or for help ends the reading. -/

namespace SquareSums.Console

structure Settings where
  file : Option String
  fromStdin : Bool
  output : Option String
  json : Bool
  verbosity : Nat
deriving DecidableEq, Repr

def Settings.initial : Settings := ⟨none, false, none, false, 0⟩

inductive UsageFault where
  | unknown (argument : String)
  | missingPath
  | emptyPath
  | unwantedValue (option : String)
  | repeated (option : String)
  | surplus (path : String)
deriving DecidableEq, Repr

inductive Item where
  | file (path : String)
  | output (path : String)
  | fromStdin
  | json
  | verbose
  | version
  | help
  | malformed (fault : UsageFault)
deriving DecidableEq, Repr

namespace Item

def ofFile (path : List Char) : Item :=
  if path.isEmpty then malformed .emptyPath else file (String.ofList path)

def ofOutput (path : List Char) : Item :=
  if path.isEmpty then malformed .emptyPath else output (String.ofList path)

def flag? (name : List Char) : Option Item :=
  [("stdin", fromStdin), ("json", json), ("verbose", verbose), ("version", version), ("help", help)].lookup
    (String.ofList name)

def letter? : Char → Option Item
  | 'v' => some verbose
  | 'V' => some version
  | 'h' => some help
  | _ => none

end Item

/-- One argument on its own: whole items, an output option that waits for its path, or the mark
after which all arguments are files. -/
inductive Reading where
  | items (items : List Item)
  | awaitPath (items : List Item)
  | filesOnly
deriving DecidableEq, Repr

namespace Reading

/-- The name ends at the first equals sign. -/
def ofLong (long : List Char) : Reading :=
  let name := long.takeWhile (· != '=')
  match long.dropWhile (· != '=') with
  | [] =>
    if name = "output".toList then awaitPath []
    else items [(Item.flag? name).getD (.malformed (.unknown (String.ofList ('-' :: '-' :: long))))]
  | _ :: value =>
    if name = "output".toList then items [.ofOutput value]
    else if (Item.flag? name).isSome then
      items [.malformed (.unwantedValue (String.ofList ('-' :: '-' :: name)))]
    else items [.malformed (.unknown (String.ofList ('-' :: '-' :: long)))]

/-- Bundled letters; whatever follows the output letter is its path. -/
def ofLetters (read : List Item) : List Char → Reading
  | [] => items read.reverse
  | ['o'] => awaitPath read.reverse
  | 'o' :: '=' :: path => items (Item.ofOutput path :: read).reverse
  | 'o' :: path => items (Item.ofOutput path :: read).reverse
  | letter :: letters =>
    match Item.letter? letter with
    | some item => ofLetters (item :: read) letters
    | none => items (.malformed (.unknown (String.ofList ['-', letter])) :: read).reverse

def ofArgument (argument : List Char) : Reading :=
  match argument with
  | ['-', '-'] => filesOnly
  | '-' :: '-' :: long => ofLong long
  | '-' :: letter :: letters => ofLetters [] (letter :: letters)
  | path => items [.ofFile path]

end Reading

/-- A lone hyphen is a path. -/
def isOption : List Char → Bool
  | '-' :: _ :: _ => true
  | _ => false

def items : List String → List Item
  | [] => []
  | argument :: later =>
    match Reading.ofArgument argument.toList with
    | .items read => read ++ items later
    | .filesOnly => later.map fun path => .ofFile path.toList
    | .awaitPath read =>
      match later with
      | [] => read ++ [.malformed .missingPath]
      | path :: rest =>
        if isOption path.toList then read ++ [.malformed .missingPath]
        else read ++ .ofOutput path.toList :: items rest

inductive Command where
  | run (settings : Settings)
  | version
  | help
deriving DecidableEq, Repr

def Settings.apply (settings : Settings) : List Item → Except UsageFault Command
  | [] => .ok (.run settings)
  | .malformed fault :: _ => .error fault
  | .version :: _ => .ok .version
  | .help :: _ => .ok .help
  | .verbose :: later => { settings with verbosity := settings.verbosity + 1 }.apply later
  | .json :: later =>
    if settings.json then .error (.repeated "--json") else { settings with json := true }.apply later
  | .fromStdin :: later =>
    if settings.fromStdin then .error (.repeated "--stdin") else { settings with fromStdin := true }.apply later
  | .output path :: later =>
    if settings.output.isSome then .error (.repeated "--output <FILE>")
    else { settings with output := some path }.apply later
  | .file path :: later =>
    if settings.file.isSome then .error (.surplus path) else { settings with file := some path }.apply later

def Command.ofArguments (arguments : List String) : Except UsageFault Command :=
  Settings.initial.apply (items arguments)

end SquareSums.Console
