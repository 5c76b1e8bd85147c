import SquareSums.Console.Settings

/-! How command lines compare. A change to the settings passes an item that neither reads nor makes it:
it may then be made before the item is taken or after. So what stands in front of a command line adds to
what the line asks for and changes nothing else of it. -/

namespace SquareSums.Console

def Command.map (change : Settings → Settings) : Command → Command
  | run settings => run (change settings)
  | version => version
  | help => help

namespace Settings

theorem apply_cons (settings : Settings) (item : Item) (later : List Item) :
    settings.apply (item :: later) =
      match settings.apply [item] with
      | .ok (.run next) => next.apply later
      | settled => settled := by
  cases item with
  | fromStdin | json | output _ | file _ =>
    rw [apply, apply]
    split <;> rfl
  | _ => rfl

/-- The change may be made before the item is taken or after. -/
def Passes (change : Settings → Settings) (item : Item) : Prop :=
  ∀ settings : Settings, (change settings).apply [item] = (settings.apply [item]).map (Command.map change)

theorem apply_change {change : Settings → Settings} {items : List Item} (passes : ∀ item ∈ items, Passes change item)
    (settings : Settings) : (change settings).apply items = (settings.apply items).map (Command.map change) := by
  induction items generalizing settings with
  | nil => rfl
  | cons item items ih =>
    rw [List.forall_mem_cons] at passes
    rw [apply_cons, apply_cons settings, passes.1]
    rcases settings.apply [item] with fault | next | _ | _
    · rfl
    · exact ih passes.2 next
    · rfl
    · rfl

def hasTaken (settings : Settings) : Item → Bool
  | .fromStdin => settings.fromStdin
  | .json => settings.json
  | .output _ => settings.output.isSome
  | .file _ => settings.file.isSome
  | _ => false

def take (settings : Settings) : Item → Settings
  | .fromStdin => { settings with fromStdin := true }
  | .json => { settings with json := true }
  | .output path => { settings with output := some path }
  | .file path => { settings with file := some path }
  | .verbose => { settings with verbosity := settings.verbosity + 1 }
  | _ => settings

theorem passes_of_take {change : Settings → Settings} {item : Item}
    (alike : ∀ settings, (change settings).hasTaken item = settings.hasTaken item)
    (commutes : ∀ settings, (change settings).take item = change (settings.take item)) : Passes change item := by
  have once (settings : Settings) (fault : UsageFault) :
      (if (change settings).hasTaken item then .error fault else .ok (.run ((change settings).take item))) =
        (if settings.hasTaken item then .error fault else Except.ok (Command.run (settings.take item))).map
          (Command.map change) := by
    rw [alike, commutes]
    split <;> rfl
  intro settings
  cases item with
  | fromStdin | json | output _ | file _ => exact once settings _
  | verbose => exact congrArg (fun settings => Except.ok (Command.run settings)) (commutes settings)
  | version | help | malformed _ => rfl

/-- What no item asks for stays as it was. -/
theorem eq_of_passes {change : Settings → Settings} {items : List Item} {start settings : Settings}
    (passes : ∀ item ∈ items, Passes change item) (fixed : change start = start)
    (asked : start.apply items = .ok (.run settings)) : change settings = settings := by
  have again := apply_change passes start
  rw [fixed, asked] at again
  injection again with same
  injection same with same
  exact same.symm

def withOutput (output : Option String) (settings : Settings) : Settings := { settings with output }

def withSource (file : Option String) (fromStdin : Bool) (settings : Settings) : Settings :=
  { settings with file, fromStdin }

def withJson (json : Bool) (settings : Settings) : Settings := { settings with json }

def withVerbosity (verbosity : Nat) (settings : Settings) : Settings := { settings with verbosity }

def withMore (requests : Nat) (settings : Settings) : Settings :=
  { settings with verbosity := settings.verbosity + requests }

section Passes

variable {items : List Item}

theorem passes_withOutput (output : Option String) (unnamed : ∀ path, .output path ∉ items) :
    ∀ item ∈ items, Passes (withOutput output) item := by
  intro item member
  cases item with
  | output path => exact absurd member (unnamed path)
  | _ => exact passes_of_take (fun _ => rfl) (fun _ => rfl)

theorem passes_withSource (file : Option String) (fromStdin : Bool) (noFile : ∀ path, .file path ∉ items)
    (noStdin : .fromStdin ∉ items) : ∀ item ∈ items, Passes (withSource file fromStdin) item := by
  intro item member
  cases item with
  | file path => exact absurd member (noFile path)
  | fromStdin => exact absurd member noStdin
  | _ => exact passes_of_take (fun _ => rfl) (fun _ => rfl)

theorem passes_withJson (json : Bool) (plain : .json ∉ items) : ∀ item ∈ items, Passes (withJson json) item := by
  intro item member
  cases item with
  | json => exact absurd member plain
  | _ => exact passes_of_take (fun _ => rfl) (fun _ => rfl)

theorem passes_withVerbosity (verbosity : Nat) (quiet : .verbose ∉ items) :
    ∀ item ∈ items, Passes (withVerbosity verbosity) item := by
  intro item member
  cases item with
  | verbose => exact absurd member quiet
  | _ => exact passes_of_take (fun _ => rfl) (fun _ => rfl)

theorem passes_withMore (requests : Nat) (item : Item) : Passes (withMore requests) item := by
  cases item with
  | verbose => exact passes_of_take (fun _ => rfl) fun _ => by simp only [take, withMore, Nat.add_right_comm]
  | _ => exact passes_of_take (fun _ => rfl) (fun _ => rfl)

end Passes

/-- A request for more log is counted, wherever it stands, and has no other effect. -/
theorem apply_eq_withMore (settings : Settings) (items : List Item) :
    settings.apply items =
      (settings.apply (items.filter (· ≠ .verbose))).map (Command.map (withMore (items.count .verbose))) := by
  induction items generalizing settings with
  | nil => rfl
  | cons item items ih =>
    by_cases verbose : item = .verbose
    · subst verbose
      have first : settings.apply (.verbose :: items) = (settings.withMore 1).apply items := rfl
      rw [List.filter_cons_of_neg (by simp), List.count_cons_self, first, ih,
        apply_change fun item _ => passes_withMore 1 item]
      rcases settings.apply (items.filter (· ≠ .verbose)) with fault | next | _ | _
      · rfl
      · simp only [Except.map, Command.map, withMore, Nat.add_assoc, Nat.add_comm 1]
      · rfl
      · rfl
    · rw [List.filter_cons_of_pos (by simpa using verbose), List.count_cons_of_ne verbose, apply_cons,
        apply_cons settings item (items.filter _)]
      rcases settings.apply [item] with fault | next | _ | _
      · rfl
      · exact ih next
      · rfl
      · rfl

end Settings

theorem items_cons_of_items {argument : String} {read : List Item}
    (spelled : Reading.ofArgument argument.toList = .items read) (arguments : List String) :
    items (argument :: arguments) = read ++ items arguments := by
  rw [items, spelled]

theorem Item.ofOutput_toList {path : String} (nonempty : path ≠ "") : ofOutput path.toList = output path := by
  rw [ofOutput, if_neg (by simpa using nonempty), String.ofList_toList]

theorem Item.ofFile_toList {path : String} (nonempty : path ≠ "") : ofFile path.toList = file path := by
  rw [ofFile, if_neg (by simpa using nonempty), String.ofList_toList]

/-- A path that cannot be taken for an option. -/
def IsPlainPath (path : String) : Prop := path ≠ "" ∧ isOption path.toList = false

namespace IsPlainPath

variable {path : String} (plain : IsPlainPath path)
include plain

theorem items_cons (arguments : List String) : items (path :: arguments) = .file path :: items arguments := by
  have read : Reading.ofArgument path.toList = .items [.ofFile path.toList] := by
    have noOption := plain.2
    unfold isOption at noOption
    unfold Reading.ofArgument
    split at noOption
    next => cases noOption
    next other =>
      split
      next same => exact absurd same (other _ _)
      next same => exact absurd same (other _ _)
      next same => exact absurd same (other _ _)
      next => rfl
  rw [items_cons_of_items read, Item.ofFile_toList plain.1]
  rfl

theorem items_awaited_cons {argument : String} {read : List Item}
    (waits : Reading.ofArgument argument.toList = .awaitPath read) (arguments : List String) :
    items (argument :: path :: arguments) = read ++ .output path :: items arguments := by
  rw [items, waits]
  simp only [plain.2, Item.ofOutput_toList plain.1, Bool.false_eq_true, if_false]

theorem items_output_cons (arguments : List String) :
    items ("-o" :: path :: arguments) = .output path :: items arguments :=
  plain.items_awaited_cons (by decide : Reading.ofArgument "-o".toList = .awaitPath []) arguments

end IsPlainPath

theorem items_json_cons (arguments : List String) : items ("--json" :: arguments) = .json :: items arguments :=
  items_cons_of_items (by decide : Reading.ofArgument "--json".toList = .items [.json]) arguments

theorem items_stdin_cons (arguments : List String) :
    items ("--stdin" :: arguments) = .fromStdin :: items arguments :=
  items_cons_of_items (by decide : Reading.ofArgument "--stdin".toList = .items [.fromStdin]) arguments

namespace Command

variable {arguments : List String}

theorem ofArguments_output_cons {path : String} (plain : IsPlainPath path)
    (unnamed : ∀ other, .output other ∉ items arguments) :
    ofArguments ("-o" :: path :: arguments) =
      (ofArguments arguments).map (map (Settings.withOutput (some path))) := by
  rw [ofArguments, plain.items_output_cons]
  exact Settings.apply_change (Settings.passes_withOutput (some path) unnamed) .initial

section Source

variable (noFile : ∀ path, .file path ∉ items arguments) (noStdin : .fromStdin ∉ items arguments)
include noFile noStdin

theorem ofArguments_file_cons {path : String} (plain : IsPlainPath path) :
    ofArguments (path :: arguments) = (ofArguments arguments).map (map (Settings.withSource (some path) false)) := by
  rw [ofArguments, plain.items_cons]
  exact Settings.apply_change (Settings.passes_withSource (some path) false noFile noStdin) .initial

theorem ofArguments_stdin_cons {path : String} (plain : IsPlainPath path) :
    ofArguments ("--stdin" :: path :: arguments) =
      (ofArguments arguments).map (map (Settings.withSource (some path) true)) := by
  rw [ofArguments, items_stdin_cons, plain.items_cons]
  exact Settings.apply_change (Settings.passes_withSource (some path) true noFile noStdin) .initial

end Source

theorem ofArguments_json_cons (plain : .json ∉ items arguments) :
    ofArguments ("--json" :: arguments) = (ofArguments arguments).map (map (Settings.withJson true)) := by
  rw [ofArguments, items_json_cons]
  exact Settings.apply_change (Settings.passes_withJson true plain) .initial

end Command
end SquareSums.Console
