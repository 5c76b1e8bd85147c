import SquareSums.Console.Program
import SquareSums.Proofs.FileWriting
import SquareSums.Proofs.LogWarnings

/-! What a run leaves in simulated surroundings. First its answer is known, from the input, the memory and the
clock; then the answer is delivered, and the records are chosen that are shown. -/

namespace SquareSums.Console

def Settings.content (settings : Settings) (invocation : Invocation) : Except Fault ByteArray :=
  match settings.source with
  | none => (Delivery.readAll invocation.stdin).mapError .unreadable
  | some path => (invocation.disk.read path).mapError fun fault => .unreadable fault.reason

def requested (content : Except Fault ByteArray) : Except Fault Query := content.bind Query.ofBytes

def reported (content : Except Fault ByteArray) (memory : Nat) (elapsedMs : UInt64) : Except Fault Report :=
  (requested content).bind fun query => (query.solve memory).value.map fun report => { report with elapsedMs }

/-- What a run has to write, told without its log. -/
def Settings.answer (settings : Settings) (invocation : Invocation) : Except Fault String :=
  (reported (settings.content invocation) invocation.memory invocation.elapsedMs).map settings.render

def recorded (content : Except Fault ByteArray) (memory : Nat) : List Event :=
  match requested content with
  | .error _ => []
  | .ok query => .solving query.length query.bound :: (query.solve memory).events

def Settings.shown (settings : Settings) (invocation : Invocation) : List Event :=
  (LogFilter.choose settings.verbosity invocation.logSetting).1.select
    (recorded (settings.content invocation) invocation.memory)

/-- What is printed and which files there are after an output was written, and whether all of it was. -/
def Invocation.delivered (invocation : Invocation) (output : Option String) (text : String) :
    String × Disk × Except DiskFault Unit :=
  match output.map invocation.disk.target with
  | none => ((invocation.printing.take text).1, invocation.disk, (invocation.printing.take text).2)
  | some (.error fault) => ("", invocation.disk, .error fault)
  | some (.ok place) =>
    ("", invocation.disk.put place (invocation.writing.take text).1.toUTF8, (invocation.writing.take text).2)

def Outcome.ofAnswer (invocation : Invocation) (output : Option String) (shown : List Event) :
    Except Fault String → Outcome
  | .error fault =>
    ⟨1, "", LogFilter.complaints invocation.logSetting ++ [faultLine fault], shown, invocation.disk⟩
  | .ok text =>
    match invocation.delivered output text with
    | (stdout, disk, .error fault) =>
      ⟨1, stdout, LogFilter.complaints invocation.logSetting ++ [faultLine (.unreadable fault.reason)], shown, disk⟩
    | (stdout, disk, .ok ()) => ⟨0, stdout, LogFilter.complaints invocation.logSetting, shown, disk⟩

theorem run_bind {σ α β : Type} (action : StateM σ α) (next : α → StateM σ β) (state : σ) :
    (action >>= next).run state = (next (action.run state).1).run (action.run state).2 := rfl

/-- An action that lets a state grow by its item, for all items of a list. -/
theorem run_forM_eq {σ α : Type} {action : α → StateM σ Unit} (grown : σ → List α → σ)
    (none : ∀ state, grown state [] = state) (one : ∀ state item, (action item).run state = ((), grown state [item]))
    (more : ∀ state item items, grown (grown state [item]) items = grown state (item :: items))
    (items : List α) (state : σ) : (items.forM action).run state = ((), grown state items) := by
  induction items generalizing state with
  | nil => exact congrArg (Prod.mk ()) (none state).symm
  | cons item items ih =>
    change (action item >>= fun _ => items.forM action).run state = _
    rw [run_bind, one, ← more state item items]
    exact ih (grown state [item])

section Requests

variable (invocation : Invocation) (outcome : Outcome)

theorem run_logSetting : (invocation.surroundings.logSetting).run outcome = (invocation.logSetting, outcome) := rfl

theorem run_timed {α : Type} (work : Unit → α) :
    (invocation.surroundings.timed work).run outcome = ((work (), invocation.elapsedMs), outcome) := rfl

theorem run_readFile (path : String) :
    (invocation.surroundings.readFile path).run outcome = (outcome.disk.read path, outcome) := rfl

theorem run_create (path : String) :
    (invocation.surroundings.create path).run outcome = outcome.created (outcome.disk.create path) := rfl

theorem run_complaints (lines : List String) :
    (lines.forM invocation.surroundings.complain).run outcome =
      ((), { outcome with stderr := outcome.stderr ++ lines }) := by
  refine run_forM_eq (fun outcome lines => { outcome with stderr := outcome.stderr ++ lines }) ?_ ?_ ?_ lines outcome
  · intro outcome
    rw [List.append_nil]
  · intro outcome line
    rfl
  · intro outcome line lines
    rw [List.append_assoc, List.singleton_append]

theorem run_records (events : List Event) :
    (events.forM invocation.surroundings.record).run outcome =
      ((), { outcome with events := outcome.events ++ events }) := by
  refine run_forM_eq (fun outcome events => { outcome with events := outcome.events ++ events }) ?_ ?_ ?_ events outcome
  · intro outcome
    rw [List.append_nil]
  · intro outcome event
    rfl
  · intro outcome event events
    rw [List.append_assoc, List.singleton_append]

theorem Settings.run_request (settings : Settings) (untouched : outcome.disk = invocation.disk) :
    (settings.request invocation.surroundings).run outcome =
      (requested (settings.content invocation), outcome) := by
  rw [request, requested, content]
  cases settings.source with
  | none =>
    change (Query.ofStream invocation.stdin, outcome) = _
    rw [Query.ofStream]
    cases Delivery.readAll invocation.stdin with
    | error reason => rfl
    | ok bytes => rfl
  | some path =>
    dsimp only
    rw [run_bind, run_readFile, untouched]
    cases invocation.disk.read path with
    | error fault => rfl
    | ok bytes => rfl

theorem Settings.run_deliver (settings : Settings) (text : String) (silent : outcome.stdout = "")
    (untouched : outcome.disk = invocation.disk) :
    (settings.deliver invocation.surroundings text).run outcome =
      ((invocation.delivered settings.output text).2.2,
        { outcome with
          stdout := (invocation.delivered settings.output text).1
          disk := (invocation.delivered settings.output text).2.1 }) := by
  rw [deliver, Invocation.delivered, ← untouched]
  cases settings.output with
  | none =>
    change ((invocation.printing.take text).2,
      { outcome with stdout := outcome.stdout ++ (invocation.printing.take text).1 }) = _
    rw [silent, String.empty_append, Option.map_none]
  | some path =>
    dsimp only
    rw [run_bind, run_create, Disk.create_eq, Option.map_some, ← silent]
    cases outcome.disk.target path with
    | error fault => rfl
    | ok place =>
      change ((invocation.writing.take text).2, { outcome with
        disk := (outcome.disk.put place ByteArray.empty).put place (invocation.writing.take text).1.toUTF8 }) = _
      rw [Disk.put_put]

end Requests

section Parts

variable (settings : Settings) (request : Except Fault Query) (memory : Nat) (elapsedMs : UInt64)

theorem Settings.value_conclude :
    (settings.conclude elapsedMs (search (prepare request memory).value).value).value =
      (request.bind fun query => (query.solve memory).value.map fun report => { report with elapsedMs }).map
        settings.render := by
  cases request with
  | error fault => rfl
  | ok query =>
    simp only [prepare, Except.bind, Query.solve, Query.search, Logged.value_bind]
    cases (Sieve.build query.bound memory).value with
    | error fault => rfl
    | ok sieve => rfl

theorem Settings.events_conclude :
    (prepare request memory).events ++ (search (prepare request memory).value).events ++
        (settings.conclude elapsedMs (search (prepare request memory).value).value).events =
      match request with
      | .error _ => []
      | .ok query => .solving query.length query.bound :: (query.solve memory).events := by
  cases request with
  | error fault => rfl
  | ok query =>
    simp only [prepare, Query.solve, Query.search, Logged.value_bind, Logged.events_bind]
    cases (Sieve.build query.bound memory).value with
    | error fault => simp [search, Settings.conclude, Logged.emit]
    | ok sieve => simp [search, Settings.conclude, Logged.emit, Report.collect]

end Parts

theorem Settings.run_eq (settings : Settings) (invocation : Invocation) :
    settings.run invocation =
      .ofAnswer invocation settings.output (settings.shown invocation) (settings.answer invocation) := by
  have memory : invocation.surroundings.memory = invocation.memory := rfl
  rw [run, Invocation.outcome, perform]
  simp only [run_bind, run_logSetting, run_complaints, run_request, run_timed, run_records, memory, value_conclude,
    events_conclude, LogFilter.choose_warnings, List.nil_append]
  rw [← recorded, ← reported, ← answer, ← shown, ← LogFilter.complaints]
  cases settings.answer invocation with
  | error fault => rfl
  | ok text =>
    dsimp only
    rw [run_bind, run_deliver invocation _ settings text rfl rfl, Outcome.ofAnswer]
    rcases invocation.delivered settings.output text with ⟨stdout, disk, fault | ⟨⟩⟩
    · rfl
    · rfl

theorem Invocation.run_eq (invocation : Invocation) :
    invocation.run =
      match Command.ofArguments invocation.arguments with
      | .error _ => ⟨2, "", invocation.usage invocation.arguments, [], invocation.disk⟩
      | .ok .version => ⟨0, (invocation.printing.take versionText).1, [], [], invocation.disk⟩
      | .ok .help => ⟨0, (invocation.printing.take helpText).1, [], [], invocation.disk⟩
      | .ok (.run settings) => settings.run invocation := by
  rw [run, outcome, perform]
  rcases Command.ofArguments invocation.arguments with fault | settings | _ | _
  · dsimp only
    rw [run_bind, run_complaints]
    rfl
  · rfl
  · change (⟨0, "" ++ (invocation.printing.take versionText).1, [], [], invocation.disk⟩ : Outcome) = _
    rw [String.empty_append]
  · change (⟨0, "" ++ (invocation.printing.take helpText).1, [], [], invocation.disk⟩ : Outcome) = _
    rw [String.empty_append]

theorem Settings.code_run_ne_two (settings : Settings) (invocation : Invocation) :
    (settings.run invocation).code ≠ 2 := by
  rw [run_eq]
  cases settings.answer invocation with
  | error fault => exact show (1 : UInt8) ≠ 2 by decide
  | ok text =>
    rw [Outcome.ofAnswer]
    rcases invocation.delivered settings.output text with ⟨stdout, disk, fault | ⟨⟩⟩
    · exact show (1 : UInt8) ≠ 2 by decide
    · exact show (0 : UInt8) ≠ 2 by decide

namespace Invocation

/-- Two runs that end alike. About a command line that is refused each says what is said of its own line. -/
structure EndsLike (one other : Invocation) : Prop where
  code : other.run.code = one.run.code
  events : other.run.events = one.run.events
  stderr : one.run.code ≠ 2 → other.run.stderr = one.run.stderr
  usage : one.run.code = 2 →
    one.run.stderr = one.usage one.arguments ∧ other.run.stderr = other.usage other.arguments

/-- Two runs that end alike and leave the same behind. -/
structure Agrees (one other : Invocation) : Prop extends EndsLike one other where
  stdout : other.run.stdout = one.run.stdout
  disk : other.run.disk = one.run.disk

variable {one other : Invocation}

theorem run_of_refused {fault : UsageFault} (refused : Command.ofArguments one.arguments = .error fault) :
    one.run = ⟨2, "", one.usage one.arguments, [], one.disk⟩ := by
  rw [run_eq, refused]

theorem run_of_asked {settings : Settings} (asked : Command.ofArguments one.arguments = .ok (.run settings)) :
    one.run = settings.run one := by
  rw [run_eq, asked]

theorem code_run_ne_two {command : Command} (taken : Command.ofArguments one.arguments = .ok command) :
    one.run.code ≠ 2 := by
  rw [run_eq, taken]
  cases command with
  | run settings => exact settings.code_run_ne_two one
  | version | help => exact show (0 : UInt8) ≠ 2 by decide

theorem agrees_of_refused {fault otherFault : UsageFault}
    (refused : Command.ofArguments one.arguments = .error fault)
    (alsoRefused : Command.ofArguments other.arguments = .error otherFault) (disk : other.disk = one.disk) :
    one.Agrees other := by
  have ran := run_of_refused refused
  have alsoRan := run_of_refused alsoRefused
  refine ⟨⟨?_, ?_, fun failed => absurd ?_ failed, fun _ => ⟨?_, ?_⟩⟩, ?_, ?_⟩
  all_goals simp only [ran, alsoRan, disk]

theorem agrees_of_eq {command : Command} (taken : Command.ofArguments one.arguments = .ok command)
    (same : other.run = one.run) : one.Agrees other := by
  refine ⟨⟨?_, ?_, fun _ => ?_, fun refused => absurd refused (code_run_ne_two taken)⟩, ?_, ?_⟩
  all_goals rw [same]

end Invocation
end SquareSums.Console
