import SquareSums.Proofs.ProgramAnswer
import SquareSums.Proofs.RunChannels

/-! A run that fails. Before its output is written it has touched nothing, so it leaves everything as it
was, and about its fault it writes one line; before that line stands only what is said about an unreadable
log setting. An output that breaks off is the one fault that leaves something behind. -/

namespace SquareSums

namespace Console

def TellsPlainly {α : Type} (result : Except DiskFault α) : Prop :=
  ∀ fault, result = .error fault → Printable fault.reason.toList

section TellsPlainly

variable {α β : Type}

theorem tellsPlainly_ok (value : α) : TellsPlainly (.ok value) := by
  intro _ failed
  cases failed

theorem tellsPlainly_error {fault : DiskFault} (own : ∀ reason, fault ≠ .other reason) :
    TellsPlainly (.error fault : Except DiskFault α) := by
  rintro _ ⟨⟩
  cases fault with
  | other reason => exact absurd rfl (own reason)
  | _ => exact printable_of_ascii (by decide)

theorem TellsPlainly.bind {first : Except DiskFault α} {next : α → Except DiskFault β}
    (plain : TellsPlainly first) (rest : ∀ value, TellsPlainly (next value)) : TellsPlainly (first >>= next) := by
  cases first with
  | error fault =>
    intro other failed
    cases failed
    exact plain fault rfl
  | ok value => exact rest value

theorem tellsPlainly_foldlM {step : β → α → Except DiskFault β}
    (plain : ∀ value item, TellsPlainly (step value item)) (items : List α) (start : β) : TellsPlainly (items.foldlM step start) := by
  induction items generalizing start with
  | nil => exact tellsPlainly_ok start
  | cons item items ih => exact (plain start item).bind ih

end TellsPlainly

namespace Disk

theorem tellsPlainly_enter (disk : Disk) (place : Place) (name : String) : TellsPlainly (disk.enter place name) := by
  unfold enter
  repeat' split
  all_goals first | exact tellsPlainly_ok _ | exact tellsPlainly_error nofun

theorem tellsPlainly_locate (disk : Disk) (text : String) : TellsPlainly (disk.locate text) := by
  unfold locate
  split
  · exact tellsPlainly_error nofun
  · exact (tellsPlainly_foldlM (disk.tellsPlainly_enter) _ _).bind fun _ => tellsPlainly_ok _

theorem tellsPlainly_read (disk : Disk) (text : String) : TellsPlainly (disk.read text) := by
  refine (disk.tellsPlainly_locate text).bind fun (path, parent) => ?_
  repeat' split
  · exact (disk.tellsPlainly_enter _ _).bind fun _ => tellsPlainly_error nofun
  all_goals first | exact tellsPlainly_ok _ | exact tellsPlainly_error nofun

theorem tellsPlainly_target (disk : Disk) (text : String) : TellsPlainly (disk.target text) := by
  refine (disk.tellsPlainly_locate text).bind fun (path, parent) => ?_
  repeat' split
  all_goals first | exact tellsPlainly_ok _ | exact tellsPlainly_error nofun

end Disk

theorem newline_not_mem_of_tellsPlainly {α : Type} {result : Except DiskFault α} {fault : DiskFault}
    (plain : TellsPlainly result) (failed : result = .error fault) :
    '\n' ∉ (faultLine (.unreadable fault.reason)).toList := by
  have printable : Printable (Fault.unreadable fault.reason).message.toList := by
    apply Fault.printable_message
    intro reason same
    cases same
    exact plain fault failed
  rw [faultLine, String.toList_append]
  exact (Printable.append (printable_of_ascii (by decide)) printable).newline_not_mem

namespace Invocation

/-- What a run can fail of: its command line, its input file, what it read, or the path of its output. -/
inductive Fails (invocation : Invocation) : Prop where
  | usage {fault : UsageFault} (refused : Command.ofArguments invocation.arguments = .error fault)
  | unread {settings : Settings} {path : String} {fault : DiskFault}
      (asked : Command.ofArguments invocation.arguments = .ok (.run settings))
      (source : settings.source = some path) (unreadable : invocation.disk.read path = .error fault)
  | refused {settings : Settings} {bytes : ByteArray} {fault : Fault}
      (asked : Command.ofArguments invocation.arguments = .ok (.run settings))
      (content : settings.content invocation = .ok bytes) (refused : Refused invocation.memory bytes fault)
  | uncreatable {settings : Settings} {bytes : ByteArray} {length bound : Nat} {path : String} {fault : DiskFault}
      (asked : Command.ofArguments invocation.arguments = .ok (.run settings))
      (content : settings.content invocation = .ok bytes) (accepted : Accepted invocation.memory length bound bytes)
      (output : settings.output = some path) (uncreatable : invocation.disk.create path = .error fault)

variable {invocation : Invocation} {settings : Settings}

theorem run_of_answer_error {fault : Fault} (asked : Command.ofArguments invocation.arguments = .ok (.run settings))
    (answered : settings.answer invocation = .error fault) :
    invocation.run =
      ⟨1, "", LogFilter.complaints invocation.logSetting ++ [faultLine fault], settings.shown invocation,
        invocation.disk⟩ := by
  rw [run_of_asked asked, Settings.run_eq, answered]
  rfl

theorem run_of_answer_ok {text : String} (asked : Command.ofArguments invocation.arguments = .ok (.run settings))
    (answered : settings.answer invocation = .ok text) :
    invocation.run = .ofAnswer invocation settings.output (settings.shown invocation) (.ok text) := by
  rw [run_of_asked asked, Settings.run_eq, answered]

theorem exists_answer {length bound : Nat} {bytes : ByteArray} (content : settings.content invocation = .ok bytes)
    (accepted : Accepted invocation.memory length bound bytes) : ∃ text, settings.answer invocation = .ok text := by
  obtain ⟨report, _, answered⟩ := accepted.reported_eq invocation.elapsedMs
  refine ⟨settings.render report, ?_⟩
  rw [Settings.answer, content, answered]
  rfl

theorem Fails.run_eq (fails : invocation.Fails) :
    invocation.run = ⟨2, "", invocation.usage invocation.arguments, [], invocation.disk⟩ ∨
    ∃ fault shown, '\n' ∉ (faultLine fault).toList ∧
      invocation.run =
        ⟨1, "", LogFilter.complaints invocation.logSetting ++ [faultLine fault], shown, invocation.disk⟩ := by
  cases fails with
  | usage refused => exact .inl (run_of_refused refused)
  | unread asked source unreadable =>
    refine .inr ⟨_, _, newline_not_mem_of_tellsPlainly (invocation.disk.tellsPlainly_read _) unreadable,
      run_of_answer_error asked ?_⟩
    rw [Settings.answer, Settings.content, source]
    dsimp only
    rw [unreadable]
    rfl
  | refused asked content refused =>
    refine .inr ⟨_, _, refused.newline_not_mem, run_of_answer_error asked ?_⟩
    rw [Settings.answer, content, refused.reported_eq]
    rfl
  | @uncreatable settings bytes length bound path fault asked content accepted output uncreatable =>
    obtain ⟨text, answered⟩ := exists_answer content accepted
    have unplaced := Disk.create_eq_error_iff.mp uncreatable
    refine .inr ⟨_, settings.shown invocation,
      newline_not_mem_of_tellsPlainly (invocation.disk.tellsPlainly_target path) unplaced, ?_⟩
    rw [run_of_answer_ok asked answered, Outcome.ofAnswer, delivered, output, Option.map_some, unplaced]

/-- Standard input can be read to its end, and whatever is written is taken. -/
structure Steady (invocation : Invocation) : Prop extends TakesAll invocation where
  delivered : ∃ bytes, Delivery.readAll invocation.stdin = .ok bytes

/-- Where the streams hold there is nothing else to fail of. -/
theorem Steady.fails (steady : invocation.Steady) (failed : invocation.run.code ≠ 0) : invocation.Fails := by
  cases asked : Command.ofArguments invocation.arguments with
  | error fault => exact .usage asked
  | ok command =>
    cases command with
    | version | help =>
      rw [Invocation.run_eq, asked] at failed
      exact absurd rfl failed
    | run settings =>
      cases content : settings.content invocation with
      | error fault =>
        rw [Settings.content] at content
        cases source : settings.source with
        | none =>
          obtain ⟨bytes, delivered⟩ := steady.delivered
          rw [source, delivered] at content
          cases content
        | some path =>
          cases read : invocation.disk.read path with
          | error fault => exact .unread asked source read
          | ok bytes =>
            simp only [source, read] at content
            cases content
      | ok bytes =>
        rcases accepted_or_refused invocation.memory bytes with ⟨length, bound, accepted⟩ | ⟨fault, refused⟩
        · obtain ⟨text, answered⟩ := exists_answer content accepted
          rw [run_of_answer_ok asked answered, Outcome.ofAnswer, steady.toTakesAll.delivered] at failed
          cases output : settings.output with
          | none =>
            rw [output] at failed
            exact absurd rfl failed
          | some path =>
            rw [output, Option.map_some] at failed
            cases leads : invocation.disk.target path with
            | ok place =>
              rw [leads] at failed
              exact absurd rfl failed
            | error fault => exact .uncreatable asked content accepted output (Disk.create_eq_error_iff.mpr leads)
        · exact .refused asked content refused

/-- An output that breaks off has emptied its file before, and leaves there the part that was taken. -/
theorem run_of_cut_output {text path : String} {place : Place} {room : Nat} {fault : DiskFault}
    (asked : Command.ofArguments invocation.arguments = .ok (.run settings))
    (answered : settings.answer invocation = .ok text) (output : settings.output = some path)
    (leads : invocation.disk.target path = .ok place) (scarce : invocation.writing = .scarce room fault)
    (short : room < text.length) :
    invocation.run =
      ⟨1, "", LogFilter.complaints invocation.logSetting ++ [faultLine (.unreadable fault.reason)],
        settings.shown invocation,
        invocation.disk.put place (String.ofList (text.toList.take room)).toUTF8⟩ := by
  rw [run_of_answer_ok asked answered, Outcome.ofAnswer, delivered, output, Option.map_some, leads, scarce,
    Outlet.take, if_neg (Nat.not_le.mpr short)]

def FailsInOneLine (invocation : Invocation) : Prop :=
  invocation.run.code ≠ 0 →
    invocation.run.stdout = "" ∧ invocation.run.disk = invocation.disk ∧
      (invocation.run.code = 1 → ∃ line, invocation.run.stderr = [line] ∧ "Error: ".toList <+: line.toList)

end Invocation

/-- An unreadable log setting has a line of its own, before the one about the fault. -/
theorem not_failsInOneLine_of_unreadable_setting :
    ¬ Invocation.FailsInOneLine
      { arguments := [], stdin := [], disk := ⟨[], [], []⟩, logSetting := some "a=b=c" } := by
  intro claimed
  have ran := Invocation.run_of_answer_error
    (show Command.ofArguments [] = .ok (.run .initial) from rfl)
    (show Settings.initial.answer
        { arguments := [], stdin := [], disk := ⟨[], [], []⟩, logSetting := some "a=b=c" } =
      .error (.missing .length) from rfl)
  rw [Invocation.FailsInOneLine, ran] at claimed
  obtain ⟨_, _, oneLine⟩ := claimed (show (1 : UInt8) ≠ 0 by decide)
  obtain ⟨line, alone, _⟩ := oneLine rfl
  have told : (LogFilter.complaints (some "a=b=c")).length = 1 := by decide
  have two := congrArg List.length alone
  rw [List.length_append, told] at two
  cases two

namespace Invocation

/-- A run that fails leaves everything as it was, and says one line about its fault. Only an unreadable
log setting is told of besides. While the streams hold, a run fails of nothing else. -/
theorem failure_leaves_all {invocation : Invocation} :
    (invocation.Steady → invocation.run.code ≠ 0 → invocation.Fails) ∧
    (invocation.Fails → invocation.run.code ≠ 0 ∧ invocation.run.stdout = "" ∧
      invocation.run.disk = invocation.disk ∧
      (invocation.run.code = 1 →
        (∃ line, invocation.run.stderr = LogFilter.complaints invocation.logSetting ++ [line] ∧
          "Error: ".toList <+: line.toList ∧ '\n' ∉ line.toList) ∧
        (LogFilter.complaints invocation.logSetting = [] ↔ LogFilter.Readable invocation.logSetting))) := by
  refine ⟨Steady.fails, fun fails => ?_⟩
  rcases fails.run_eq with ran | ⟨fault, shown, single, ran⟩
  · rw [ran]
    refine ⟨show (2 : UInt8) ≠ 0 by decide, rfl, rfl, fun one => ?_⟩
    cases one
  · rw [ran]
    have begins : "Error: ".toList <+: (faultLine fault).toList := by
      rw [faultLine, String.toList_append]
      exact List.prefix_append _ _
    refine ⟨show (1 : UInt8) ≠ 0 by decide, rfl, rfl, fun _ => ⟨?_, LogFilter.complaints_eq_nil_iff⟩⟩
    exact ⟨faultLine fault, rfl, begins, single⟩

/-- The input is missing; the file named for the output stays. -/
theorem failure_leaves_all_of_missing_input :
    let disk : Disk := ⟨[], [(["kept"], ⟨#[0x35]⟩)], []⟩
    let invocation : Invocation :=
      { arguments := ["-o", "kept", "missing"], stdin := [], disk, logSetting := some "info" }
    invocation.Steady ∧ invocation.Fails ∧ invocation.run.code ≠ 0 ∧ invocation.run.stdout = "" ∧
      invocation.run.disk = disk ∧ invocation.run.code = 1 ∧
      ∃ line, invocation.run.stderr = LogFilter.complaints (some "info") ++ [line] ∧ '\n' ∉ line.toList := by
  intro disk invocation
  have steady : invocation.Steady := ⟨⟨rfl, rfl⟩, ByteArray.empty, rfl⟩
  have failed : invocation.run.code ≠ 0 := by decide
  have one : invocation.run.code = 1 := by decide
  have fails := failure_leaves_all.1 steady failed
  obtain ⟨_, silent, kept, told⟩ := failure_leaves_all.2 fails
  obtain ⟨⟨line, whole, _, single⟩, _⟩ := told one
  exact ⟨steady, fails, failed, silent, kept, one, line, whole, single⟩

end Invocation
end Console
end SquareSums
