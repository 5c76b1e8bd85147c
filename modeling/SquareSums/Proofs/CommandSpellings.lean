import SquareSums.Proofs.CommandRequests
import SquareSums.Proofs.SimulatedRuns

/-! The spellings of a command line. Options may be written in several ways and in any order, and letters
may be bundled; whatever the spelling, a line is read as the items that it was written with. So its
spelling has no effect on a run. -/

namespace SquareSums.Console

/-- A path for output may be attached to its option only if no hyphen and no equals sign begins it. -/
structure IsOutputPath (path : String) : Prop where
  nonempty : path ≠ ""
  noHyphen : path.toList.head? ≠ some '-'
  noEquals : path.toList.head? ≠ some '='

structure IsFilePath (path : String) : Prop where
  nonempty : path ≠ ""
  noHyphen : path.toList.head? ≠ some '-'

def letters (count : Nat) : String := String.ofList (List.replicate count 'v')

/-- The arguments that one option or path is written with, and the items that they write. Letters for
more log may be bundled, also in front of the letter for output. -/
inductive Phrase : List String → List Item → Prop where
  | fromStdin : Phrase ["--stdin"] [.fromStdin]
  | json : Phrase ["--json"] [.json]
  | verbose : Phrase ["--verbose"] [.verbose]
  | verboseLetters (more : Nat) : Phrase ["-" ++ letters (more + 1)] (List.replicate (more + 1) .verbose)
  | output {path : String} (plain : IsOutputPath path) : Phrase ["--output", path] [.output path]
  | outputAfterEquals {path : String} (plain : IsOutputPath path) : Phrase ["--output=" ++ path] [.output path]
  | outputLetter (before : Nat) {path : String} (plain : IsOutputPath path) :
      Phrase ["-" ++ letters before ++ "o", path] (List.replicate before .verbose ++ [.output path])
  | outputLetterAttached (before : Nat) {path : String} (plain : IsOutputPath path) :
      Phrase ["-" ++ letters before ++ "o" ++ path] (List.replicate before .verbose ++ [.output path])
  | outputLetterAfterEquals (before : Nat) {path : String} (plain : IsOutputPath path) :
      Phrase ["-" ++ letters before ++ "o=" ++ path] (List.replicate before .verbose ++ [.output path])
  | file {path : String} (plain : IsFilePath path) : Phrase [path] [.file path]

/-- A command line is written with such arguments in any order; behind two hyphens all are files. -/
inductive Written : List String → List Item → Prop where
  | nil : Written [] []
  | files {paths : List String} (named : ∀ path ∈ paths, path ≠ "") : Written ("--" :: paths) (paths.map .file)
  | cons {arguments later : List String} {first rest : List Item} (phrase : Phrase arguments first)
      (written : Written later rest) : Written (arguments ++ later) (first ++ rest)

theorem Reading.ofLetters_replicate (count : Nat) (read : List Item) (rest : List Char) :
    ofLetters read (List.replicate count 'v' ++ rest) = ofLetters (List.replicate count .verbose ++ read) rest := by
  induction count generalizing read with
  | zero => rfl
  | succ count ih =>
    have moved : List.replicate (count + 1) .verbose ++ read = List.replicate count .verbose ++ .verbose :: read := by
      rw [List.replicate_succ', List.append_assoc, List.singleton_append]
    rw [moved]
    exact ih (.verbose :: read)

theorem Reading.ofArgument_letters (before : Nat) {letter : Char} (notHyphen : letter ≠ '-') (rest : List Char) :
    ofArgument ('-' :: (List.replicate before 'v' ++ letter :: rest)) =
      ofLetters (List.replicate before .verbose) (letter :: rest) := by
  have bundled := ofLetters_replicate before [] (letter :: rest)
  rw [List.append_nil] at bundled
  rw [← bundled]
  cases before with
  | zero => simp [ofArgument, notHyphen]
  | succ before => rfl

theorem Reading.ofLetters_outputAfterEquals {path : String} (nonempty : path ≠ "") (before : Nat) :
    ofLetters (List.replicate before .verbose) ('o' :: '=' :: path.toList) =
      items (List.replicate before .verbose ++ [.output path]) := by
  rw [ofLetters, Item.ofOutput_toList nonempty, List.reverse_cons, List.reverse_replicate]

theorem Reading.ofLetters_outputAttached {path : String} (plain : IsOutputPath path) (before : Nat) :
    ofLetters (List.replicate before .verbose) ('o' :: path.toList) =
      items (List.replicate before .verbose ++ [.output path]) := by
  have noEquals := plain.noEquals
  rw [← Item.ofOutput_toList plain.nonempty]
  cases written : path.toList with
  | nil => exact absurd (String.toList_eq_nil_iff.mp written) plain.nonempty
  | cons first rest =>
    rw [written] at noEquals
    rw [ofLetters, List.reverse_cons, List.reverse_replicate]
    · rintro ⟨⟩
    · rintro _ ⟨⟩
      exact noEquals rfl

theorem IsFilePath.plain {path : String} (file : IsFilePath path) : IsPlainPath path := by
  refine ⟨file.nonempty, ?_⟩
  have noHyphen := file.noHyphen
  unfold isOption
  split
  next begins => exact absurd (by rw [begins]; rfl) noHyphen
  next => rfl

theorem IsOutputPath.plain {path : String} (output : IsOutputPath path) : IsPlainPath path :=
  IsFilePath.plain ⟨output.nonempty, output.noHyphen⟩

theorem Phrase.items_append {arguments : List String} {read : List Item} (phrase : Phrase arguments read)
    (later : List String) : items (arguments ++ later) = read ++ items later := by
  have toList_letters (before : Nat) (rest : String) :
      ("-" ++ letters before ++ rest).toList = '-' :: (List.replicate before 'v' ++ rest.toList) := by
    simp [letters]
  cases phrase with
  | fromStdin => exact items_stdin_cons later
  | json => exact items_json_cons later
  | verbose => exact items_cons_of_items (by decide : Reading.ofArgument "--verbose".toList = .items [.verbose]) later
  | verboseLetters more =>
    refine items_cons_of_items ?_ later
    have bundled := Reading.ofLetters_replicate (more + 1) [] []
    rw [List.append_nil, List.append_nil, Reading.ofLetters, List.reverse_replicate] at bundled
    have spelled : ("-" ++ letters (more + 1)).toList = '-' :: 'v' :: List.replicate more 'v' := by
      simp [letters, List.replicate_succ]
    rw [spelled]
    exact bundled
  | output plain =>
    have waits : Reading.ofArgument "--output".toList = .awaitPath [] := by decide
    exact plain.plain.items_awaited_cons waits later
  | @outputAfterEquals path plain =>
    refine items_cons_of_items ?_ later
    rw [String.toList_append, ← Item.ofOutput_toList plain.nonempty]
    rfl
  | @outputLetter before path plain =>
    have waits : Reading.ofArgument ("-" ++ letters before ++ "o").toList =
        .awaitPath (List.replicate before .verbose) := by
      rw [toList_letters]
      refine (Reading.ofArgument_letters before (by decide : 'o' ≠ '-') []).trans ?_
      rw [Reading.ofLetters, List.reverse_replicate]
    rw [List.append_assoc]
    exact plain.plain.items_awaited_cons waits later
  | @outputLetterAttached before path plain =>
    refine items_cons_of_items ?_ later
    rw [String.append_assoc, toList_letters, String.toList_append]
    exact (Reading.ofArgument_letters before (by decide) _).trans (Reading.ofLetters_outputAttached plain before)
  | @outputLetterAfterEquals before path plain =>
    refine items_cons_of_items ?_ later
    rw [String.append_assoc, toList_letters, String.toList_append]
    exact (Reading.ofArgument_letters before (by decide) _).trans
      (Reading.ofLetters_outputAfterEquals plain.nonempty before)
  | file plain => exact plain.plain.items_cons later

theorem Written.items_eq {arguments : List String} {read : List Item} (written : Written arguments read) :
    items arguments = read := by
  induction written with
  | nil => rfl
  | files named =>
    rw [items]
    exact List.map_congr_left fun path member => Item.ofFile_toList (named path member)
  | cons phrase _ ih => rw [phrase.items_append, ih]

theorem Settings.run_with_verbosity_min (settings : Settings) (invocation : Invocation) {limit : Nat}
    (two : 2 ≤ limit) :
    ({ settings with verbosity := min settings.verbosity limit } : Settings).run invocation =
      settings.run invocation := by
  have capped : Threshold.ofVerbosity (min settings.verbosity limit) = Threshold.ofVerbosity settings.verbosity := by
    rcases Nat.le_total settings.verbosity limit with few | many
    · rw [Nat.min_eq_left few]
    · obtain ⟨more, rfl⟩ := Nat.exists_eq_add_of_le two
      obtain ⟨beyond, counted⟩ := Nat.exists_eq_add_of_le many
      rw [Nat.min_eq_right many, counted, Nat.add_comm 2, Nat.add_right_comm]
      rfl
  have chosen : LogFilter.choose (min settings.verbosity limit) invocation.logSetting =
      LogFilter.choose settings.verbosity invocation.logSetting := by
    rw [LogFilter.choose, LogFilter.choose, capped]
  rw [run_eq, run_eq, shown, shown, chosen]
  rfl

/-- The line asks for the settings, whatever the order of its items and however they are spelled. -/
def Settings.IsAskedBy (settings : Settings) (arguments : List String) : Prop :=
  ∃ read, Written arguments read ∧ read.Perm settings.requests

theorem Settings.IsAskedBy.ofArguments_eq {settings : Settings} {arguments : List String}
    (asked : settings.IsAskedBy arguments) : Command.ofArguments arguments = .ok (.run settings) := by
  obtain ⟨read, written, requests⟩ := asked
  rw [Command.ofArguments_eq_run_iff, written.items_eq]
  exact requests

theorem Settings.IsAskedBy.run_eq {settings : Settings} {arguments : List String}
    (asked : settings.IsAskedBy arguments) (invocation : Invocation) :
    ({ invocation with arguments } : Invocation).run = settings.run invocation := by
  rw [Invocation.run_eq, asked.ofArguments_eq]
  rfl

def Invocation.IsRefused (invocation : Invocation) : Prop :=
  ∃ fault, Command.ofArguments invocation.arguments = .error fault ∧
    invocation.run = ⟨2, "", invocation.usage invocation.arguments, [], invocation.disk⟩

theorem Invocation.isRefused_iff {invocation : Invocation} (noVersion : .version ∉ items invocation.arguments)
    (noHelp : .help ∉ items invocation.arguments) :
    invocation.IsRefused ↔ Settings.initial.HasDefect (items invocation.arguments) := by
  rw [← Settings.exists_apply_eq_error_iff noVersion noHelp]
  constructor
  · rintro ⟨fault, refused, _⟩
    exact ⟨fault, refused⟩
  · rintro ⟨fault, refused⟩
    have same : Command.ofArguments invocation.arguments = .error fault := refused
    exact ⟨fault, same, by rw [run_eq, same]⟩

theorem Phrase.isRequest {arguments : List String} {read : List Item} (phrase : Phrase arguments read) :
    ∀ item ∈ read, item.isRequest = true := by
  have bundled (before : Nat) (path : String) :
      ∀ item ∈ List.replicate before Item.verbose ++ [.output path], item.isRequest = true := by
    simp [or_imp, forall_and, Item.isRequest]
  cases phrase with
  | outputLetter before _ | outputLetterAttached before _ | outputLetterAfterEquals before _ => exact bundled before _
  | verboseLetters more => simp [Item.isRequest]
  | _ => exact List.forall_mem_singleton.mpr rfl

theorem Written.isRequest {arguments : List String} {read : List Item} (written : Written arguments read) :
    ∀ item ∈ read, item.isRequest = true := by
  induction written with
  | nil => exact List.forall_mem_nil _
  | files _ =>
    intro item member
    obtain ⟨path, _, rfl⟩ := List.mem_map.mp member
    rfl
  | cons phrase _ ih => exact List.forall_mem_append.mpr ⟨phrase.isRequest, ih⟩

/-- What a line asks for decides the run, not how it is spelled. What may come only once is refused the
second time; and a line that asks for neither the version nor help is refused for no other reason than
that or an argument that cannot be taken. -/
theorem Invocation.spellings_agree :
    (∀ (settings : Settings) (arguments : List String), settings.IsAskedBy arguments →
      Command.ofArguments arguments = .ok (.run settings)) ∧
    (∀ (settings : Settings) (one other : List String), settings.IsAskedBy one → settings.IsAskedBy other →
      ∀ invocation : Invocation,
        ({ invocation with arguments := one } : Invocation).run = { invocation with arguments := other }.run) ∧
    (∀ (settings : Settings) (invocation : Invocation) (limit : Nat), 2 ≤ limit →
      { settings with verbosity := min settings.verbosity limit }.run invocation = settings.run invocation) ∧
    (∀ (invocation : Invocation) (single : Single) (read : List Item), Written invocation.arguments read →
      2 ≤ read.countP single.names → invocation.IsRefused) ∧
    (∀ invocation : Invocation, .version ∉ items invocation.arguments → .help ∉ items invocation.arguments →
      (invocation.IsRefused ↔ (∃ fault, .malformed fault ∈ items invocation.arguments) ∨
        ∃ single : Single, 2 ≤ (items invocation.arguments).countP single.names)) := by
  have refused_iff (invocation : Invocation) (noVersion : .version ∉ items invocation.arguments)
      (noHelp : .help ∉ items invocation.arguments) :
      invocation.IsRefused ↔ (∃ fault, .malformed fault ∈ items invocation.arguments) ∨
        ∃ single : Single, 2 ≤ (items invocation.arguments).countP single.names := by
    have nothing : Settings.initial.requests = [] := rfl
    rw [isRefused_iff noVersion noHelp, Settings.HasDefect, nothing, List.append_nil]
  refine ⟨fun _ _ asked => asked.ofArguments_eq, ?_, fun settings invocation limit two =>
    settings.run_with_verbosity_min invocation two, ?_, refused_iff⟩
  · intro settings one other asked alsoAsked invocation
    rw [asked.run_eq, alsoAsked.run_eq]
  · intro invocation single read written twice
    have isRequest := written.isRequest
    rw [← written.items_eq] at isRequest twice
    exact (refused_iff invocation (fun member => absurd (isRequest _ member) (by decide))
      (fun member => absurd (isRequest _ member) (by decide))).mpr (.inr ⟨single, twice⟩)

/-- A path behind two hyphens may begin with one. -/
theorem Invocation.spellings_agree_of_bundled :
    let settings : Settings := ⟨some "-in", true, some "a=b", true, 4⟩
    let one : Invocation := {
      arguments := ["-vvoa=b", "--json", "--verbose", "-v", "--stdin", "--", "-in"], stdin := [.chunk ⟨#[0x35]⟩]
      disk := ⟨[], [], []⟩, logSetting := none, elapsedMs := 7 }
    let other := ["--stdin", "--output", "a=b", "-vvvv", "--json", "--", "-in"]
    settings.IsAskedBy one.arguments ∧ settings.IsAskedBy other ∧
      Command.ofArguments one.arguments = .ok (.run settings) ∧ one.run = { one with arguments := other }.run ∧
      ({ settings with verbosity := min 4 255 } : Settings).run one = settings.run one ∧
      { one with arguments := ["-o", "x", "-vo=y"] }.IsRefused ∧
      { one with arguments := ["--output", "--json", "--json"] }.IsRefused := by
  intro settings one other
  have path : IsOutputPath "a=b" := ⟨by decide, by decide, by decide⟩
  have file : ∀ path ∈ ["-in"], path ≠ "" := by decide
  have asked : settings.IsAskedBy one.arguments :=
    ⟨_, .cons (.outputLetterAttached 2 path) (.cons .json (.cons .verbose (.cons (.verboseLetters 0)
      (.cons .fromStdin (.files file))))), by decide⟩
  have alsoAsked : settings.IsAskedBy other :=
    ⟨_, .cons .fromStdin (.cons (.output path) (.cons (.verboseLetters 3) (.cons .json (.files file)))), by decide⟩
  have first : IsOutputPath "x" := ⟨by decide, by decide, by decide⟩
  have second : IsOutputPath "y" := ⟨by decide, by decide, by decide⟩
  have twice : Written ["-o", "x", "-vo=y"] [.output "x", .verbose, .output "y"] :=
    .cons (.outputLetter 0 first) (.cons (.outputLetterAfterEquals 1 second) .nil)
  obtain ⟨parsed, agree, capped, repeated, refused⟩ := spellings_agree
  exact ⟨asked, alsoAsked, parsed settings _ asked, agree settings _ _ asked alsoAsked one,
    capped settings one 255 (by decide), repeated _ .output _ twice (by decide),
    (refused { one with arguments := ["--output", "--json", "--json"] } (by decide) (by decide)).mpr
      (.inl ⟨.missingPath, by decide⟩)⟩

end SquareSums.Console
