import SquareSums.Proofs.RunChannels

/-! How much of the log is shown. Requests for more and a level named in the environment choose records
of one and the same log; of the results they choose nothing. -/

namespace SquareSums

namespace Blank

theorem holds_eq_false_of_isAlpha {character : Char} (letter : character.isAlpha = true) :
    holds character = false := by
  have bounds : 65 ≤ character.toNat ∧ character.toNat ≤ 122 := by
    rcases Bool.or_eq_true_iff.mp letter with upper | lower
    · have := isUpper_iff.mp upper
      omega
    · have := isLower_iff.mp lower
      omega
  refine List.any_eq_false.mpr fun range member inside => ?_
  simp only [Bool.and_eq_true, decide_eq_true_eq] at inside
  have outside : ∀ range ∈ ranges, range.2 < 65 ∨ 122 < range.1 := by decide
  have := outside range member
  omega

theorem trim_eq_self {text : List Char} (solid : ∀ character ∈ text, holds character = false) : trim text = text := by
  have kept {list : List Char} (solid : ∀ character ∈ list, holds character = false) :
      list.dropWhile holds = list := by
    cases list with
    | nil => rfl
    | cons first rest => rw [List.dropWhile_cons_of_neg (by simp [solid first])]
  have backwards : ∀ character ∈ text.reverse, holds character = false := by simpa using solid
  rw [trim, kept solid, kept backwards, List.reverse_reverse]

end Blank

namespace Console

namespace LogFilter

/-- Shows the records of one threshold, whatever their target and their message. -/
def uniform (threshold : Threshold) : LogFilter := ⟨threshold, [], none⟩

theorem select_uniform (threshold : Threshold) (events : List Event) :
    (uniform threshold).select events = events.filter (threshold.shows ·.level) := by
  have same : (uniform threshold).shows = (threshold.shows ·.level) := by
    funext event
    exact Bool.and_true _
  rw [select, same]

theorem choose_letters {text : List Char} {threshold : Threshold} (requests : Nat)
    (letters : ∀ character ∈ text, character.isAlpha = true) (named : Threshold.named? text = some threshold) :
    choose requests (some (String.ofList text)) = (uniform threshold, []) := by
  have without {mark : Char} (other : mark.isAlpha = false) : text.splitOn mark = [text] :=
    List.splitOn_eq_singleton fun member => Bool.false_ne_true (other.symm.trans (letters mark member))
  have nonempty : text.isEmpty = false := by
    rcases text with _ | _
    · cases named
    · rfl
  have trimmed : Blank.trim text = text :=
    Blank.trim_eq_self fun character member => Blank.holds_eq_false_of_isAlpha (letters character member)
  have read : Directive.ofText text = .ok (.general threshold) := by
    rw [Directive.ofText, without (by decide)]
    simp only [named]
  rw [choose, Option.map_some, String.toList_ofList]
  simp only [without (show '/'.isAlpha = false by decide), applyAll, without (show ','.isAlpha = false by decide),
    List.map_cons, List.map_nil, trimmed, List.filter_cons, nonempty]
  simp only [Bool.not_false, if_true, List.filter_nil, List.foldl_cons, List.foldl_nil, read]
  rfl

end LogFilter

def levelNames : List (String × Threshold) :=
  [("off", .off), ("error", .upTo .error), ("warn", .upTo .warn), ("info", .upTo .info), ("debug", .upTo .debug)]

theorem isAlpha_of_isLower_toLower {character : Char} (lower : character.toLower.isLower = true) :
    character.isAlpha = true := by
  by_cases upper : character.isUpper = true
  · exact Bool.or_eq_true_iff.mpr (.inl upper)
  · have kept : character.toLower = character := dif_neg fun within => upper (decide_eq_true within)
    rw [kept] at lower
    exact Bool.or_eq_true_iff.mpr (.inr lower)

/-- The threshold that is asked for by a setting that names one in any letter case, or else by the count
of requests for more. -/
inductive LevelAsked (requests : Nat) (setting : Option String) : Threshold → Prop where
  | named {text name : String} {threshold : Threshold} (isSet : setting = some text)
      (listed : (name, threshold) ∈ levelNames) (spelled : text.toLower = name) : LevelAsked requests setting threshold
  | warn (unset : setting.getD "" = "") (none : requests = 0) : LevelAsked requests setting (.upTo .warn)
  | info (unset : setting.getD "" = "") (one : requests = 1) : LevelAsked requests setting (.upTo .info)
  | debug (unset : setting.getD "" = "") (more : 2 ≤ requests) : LevelAsked requests setting (.upTo .debug)

theorem LevelAsked.choose_eq {requests : Nat} {setting : Option String} {threshold : Threshold}
    (asked : LevelAsked requests setting threshold) :
    LogFilter.choose requests setting = (LogFilter.uniform threshold, []) := by
  have unasked (unset : setting.getD "" = "") :
      LogFilter.choose requests setting = (LogFilter.uniform (Threshold.ofVerbosity requests), []) := by
    cases setting with
    | none => rfl
    | some text =>
      cases unset
      rfl
  cases asked with
  | warn unset none =>
    subst none
    exact unasked unset
  | info unset one =>
    subst one
    exact unasked unset
  | debug unset more =>
    obtain ⟨extra, rfl⟩ := Nat.exists_eq_add_of_le more
    rw [unasked unset, Nat.add_comm]
    rfl
  | @named text name _ isSet listed spelled =>
    have known : ∀ entry ∈ levelNames, entry.1.toList.all Char.isLower = true ∧
        entry.1.toList.map Char.toLower = entry.1.toList ∧ Threshold.named? entry.1.toList = some entry.2 := by decide
    obtain ⟨lower, plain, found⟩ := known _ listed
    have letters : text.toList.map Char.toLower = name.toList := by
      rw [← spelled]
      exact String.toList_map.symm
    have whole : String.ofList text.toList = text := String.ofList_toList
    rw [isSet, ← whole]
    refine LogFilter.choose_letters requests (fun character member => ?_) ?_
    · apply isAlpha_of_isLower_toLower
      apply List.all_eq_true.mp lower
      rw [← letters]
      exact List.mem_map_of_mem member
    · rw [Threshold.named?, plain] at found
      rw [Threshold.named?, letters]
      exact found

/-- Two invocations that differ in nothing but how much of their log they ask for. -/
structure Invocation.Alike (one other : Invocation) : Prop where
  around : { other with arguments := one.arguments, logSetting := one.logSetting } = one
  arguments : (items other.arguments).filter (· ≠ .verbose) = (items one.arguments).filter (· ≠ .verbose)

def Invocation.requests (invocation : Invocation) : Nat := (items invocation.arguments).count .verbose

theorem LevelAsked.complaints_eq_nil {requests : Nat} {setting : Option String} {threshold : Threshold}
    (asked : LevelAsked requests setting threshold) : LogFilter.complaints setting = [] := by
  rw [LogFilter.complaints, ← LogFilter.choose_warnings requests, asked.choose_eq]
  rfl

theorem Outcome.ofAnswer_eq (invocation : Invocation) (output : Option String) (shown : List Event)
    (answer : Except Fault String) :
    let silent := ofAnswer { invocation with logSetting := none } output [] answer
    ofAnswer invocation output shown answer =
      { silent with stderr := LogFilter.complaints invocation.logSetting ++ silent.stderr, events := shown } := by
  have unset : LogFilter.complaints none = [] := rfl
  cases answer with
  | error fault => rw [ofAnswer, ofAnswer, unset, List.nil_append]
  | ok text =>
    rw [ofAnswer, ofAnswer, unset]
    have delivered : Invocation.delivered { invocation with logSetting := none } output text =
      invocation.delivered output text := rfl
    rw [delivered]
    rcases invocation.delivered output text with ⟨stdout, disk, fault | ⟨⟩⟩
    · rfl
    · simp only [List.append_nil]

theorem Invocation.Alike.refl (one : Invocation) : one.Alike one := ⟨rfl, rfl⟩

/-- All invocations that are alike have one outcome, but for the part of its log that they show. -/
theorem Invocation.exists_outcome {one : Invocation} {command : Command}
    (valid : Command.ofArguments one.arguments = .ok command) :
    ∃ outcome : Outcome, ∀ other threshold, one.Alike other →
      LevelAsked other.requests other.logSetting threshold →
        other.run = { outcome with events := outcome.events.filter (threshold.shows ·.level) } := by
  have read {other : Invocation} (alike : one.Alike other) : Command.ofArguments other.arguments =
      (Settings.initial.apply ((items one.arguments).filter (· ≠ .verbose))).map
        (Command.map (Settings.withMore other.requests)) := by
    rw [Command.ofArguments, Settings.apply_eq_withMore, alike.arguments]
    rfl
  have quiet : .verbose ∉ (items one.arguments).filter (· ≠ .verbose) := by simp
  have unset {settings : Settings} (asked : Settings.initial.apply ((items one.arguments).filter (· ≠ .verbose)) =
      .ok (.run settings)) : settings.verbosity = 0 := by
    rw [← Settings.eq_of_passes (Settings.passes_withVerbosity 0 quiet) rfl asked]
    rfl
  have reads := (read (.refl one)).symm.trans valid
  generalize Settings.initial.apply ((items one.arguments).filter (· ≠ .verbose)) = base at read unset reads
  rcases base with fault | settings | _ | _
  · cases reads
  · refine ⟨{ Outcome.ofAnswer { one with logSetting := none } settings.output [] (settings.answer one) with
      events := recorded (settings.content one) one.memory }, fun other threshold alike asked => ?_⟩
    have verbosity : (settings.withMore other.requests).verbosity = other.requests := by
      rw [Settings.withMore, unset rfl, Nat.zero_add]
    rw [run_of_asked (read alike), Settings.run_eq, Outcome.ofAnswer_eq, Settings.shown, verbosity, asked.choose_eq,
      LogFilter.select_uniform, asked.complaints_eq_nil, List.nil_append, ← alike.around]
    rfl
  · refine ⟨⟨0, (one.printing.take versionText).1, [], [], one.disk⟩, fun other threshold alike _ => ?_⟩
    rw [run_eq, read alike, ← alike.around]
    rfl
  · refine ⟨⟨0, (one.printing.take helpText).1, [], [], one.disk⟩, fun other threshold alike _ => ?_⟩
    rw [run_eq, read alike, ← alike.around]
    rfl

/-- How much log is asked for has no effect but on the log. Of two invocations that are alike the less
verbose one shows a part of what the more verbose one does: the records that are severe enough. -/
theorem Invocation.log_levels_nest {one other : Invocation} {command : Command}
    (valid : Command.ofArguments one.arguments = .ok command) {threshold otherThreshold : Threshold}
    (alike : one.Alike other) (asked : LevelAsked one.requests one.logSetting threshold)
    (askedOther : LevelAsked other.requests other.logSetting otherThreshold) :
    (other.run.code = one.run.code ∧ other.run.stdout = one.run.stdout ∧ other.run.stderr = one.run.stderr ∧
      other.run.disk = one.run.disk) ∧
    (∀ fullest : Invocation, one.Alike fullest → LevelAsked fullest.requests fullest.logSetting (.upTo .debug) →
      one.run.events = fullest.run.events.filter (threshold.shows ·.level) ∧
        other.run.events = fullest.run.events.filter (otherThreshold.shows ·.level)) ∧
    ((∀ severity, threshold.shows severity = true → otherThreshold.shows severity = true) →
      one.run.events = other.run.events.filter (threshold.shows ·.level)) ∧
    ∀ invocation : Invocation, ∀ event ∈ invocation.run.events, event.level ≠ .error ∧ event.level ≠ .warn := by
  obtain ⟨outcome, ran⟩ := exists_outcome valid
  rw [ran one threshold (.refl one) asked, ran other otherThreshold alike askedOther]
  refine ⟨⟨rfl, rfl, rfl, rfl⟩, fun fullest alikeFullest askedFullest => ?_, fun weaker => ?_, ?_⟩
  · have all : outcome.events.filter ((Threshold.upTo .debug).shows ·.level) = outcome.events := by
      refine List.filter_eq_self.mpr fun event _ => ?_
      cases event <;> rfl
    rw [ran fullest _ alikeFullest askedFullest, all]
    exact ⟨rfl, rfl⟩
  · change _ = List.filter _ (List.filter _ outcome.events)
    rw [List.filter_filter]
    refine List.filter_congr fun event _ => ?_
    cases shown : threshold.shows event.level with
    | false => rfl
    | true => rw [weaker _ shown, Bool.and_self]
  · intro invocation event _
    cases event <;> exact ⟨nofun, nofun⟩

/-- The more verbose run names its level in mixed case, the other asks for it by an option. -/
theorem Invocation.log_levels_nest_of_mixed_case :
    let disk : Disk := ⟨[], [], []⟩
    let stdin : List Delivery := [.chunk ⟨#[0x32, 0x20, 0x30]⟩]
    let one : Invocation := { arguments := ["-v", "--json"], stdin, disk, logSetting := none, elapsedMs := 7 }
    let other : Invocation := { arguments := ["--json"], stdin, disk, logSetting := some "DeBug", elapsedMs := 7 }
    Command.ofArguments one.arguments = .ok (.run ⟨none, false, none, true, 1⟩) ∧ one.Alike other ∧
      LevelAsked one.requests one.logSetting (.upTo .info) ∧
      LevelAsked other.requests other.logSetting (.upTo .debug) ∧ other.run.stdout = one.run.stdout ∧
      one.run.events = other.run.events.filter ((Threshold.upTo .info).shows ·.level) ∧
      one.run.events.length = 2 ∧ other.run.events.length = 4 := by
  intro disk stdin one other
  have valid : Command.ofArguments one.arguments = .ok (.run ⟨none, false, none, true, 1⟩) := by rfl
  have alike : one.Alike other := ⟨rfl, by decide⟩
  have asked : LevelAsked one.requests one.logSetting (.upTo .info) := .info rfl (by decide)
  have askedOther : LevelAsked other.requests other.logSetting (.upTo .debug) :=
    .named rfl (show ("debug", Threshold.upTo .debug) ∈ levelNames by decide)
      (String.toList_inj.mp (String.toList_map.trans (by decide)))
  have weaker : ∀ severity, (Threshold.upTo .info).shows severity = true →
      (Threshold.upTo .debug).shows severity = true := by
    intro severity _
    cases severity <;> rfl
  obtain ⟨⟨_, same, _, _⟩, _, nested, _⟩ := log_levels_nest valid alike asked askedOther
  exact ⟨valid, alike, asked, askedOther, same, nested weaker, by decide, by decide⟩

end Console
end SquareSums
