import SquareSums.Proofs.MessageText
import SquareSums.Proofs.QueryGrammar
import SquareSums.Proofs.SimulatedRuns
import SquareSums.Proofs.SolutionListing
import SquareSums.Proofs.StreamReading

/-! The program without arguments, from the bytes of standard input to what it leaves behind. Either
the bytes are a request whose table memory can hold, and the run prints its listing; or they have one
first defect, and the run prints one line about it. Nothing else is written either way. -/

namespace SquareSums

/-- One line for each progression, or a single word when there is none. -/
def listingText (progressions : List Progression) : String :=
  if progressions = [] then "NONE\n"
  else String.join (progressions.map fun progression =>
    progression.first.toNat.repr ++ " " ++ progression.difference.toNat.repr ++ "\n")

theorem Report.text_eq_listingText (report : Report) : report.text = listingText report.progressions := by
  rw [Report.text, listingText]
  simp only [List.isEmpty_iff]
  rfl

namespace Console

theorem LogFilter.select_unasked (events : List Event) : (LogFilter.choose 0 none).1.select events = [] := by
  refine List.filter_eq_nil_iff.mpr fun event _ => ?_
  cases event <;> exact Bool.false_ne_true

theorem Invocation.run_plain {stdin : List Delivery} {bytes : ByteArray}
    (delivered : Delivery.readAll stdin = .ok bytes) (disk : Disk) (memory : Nat) (elapsedMs : UInt64) :
    Invocation.run { arguments := [], stdin, disk, logSetting := none, memory, elapsedMs } =
      match reported (.ok bytes) memory elapsedMs with
      | .error fault => ⟨1, "", [faultLine fault], [], disk⟩
      | .ok report => ⟨0, report.text, [], [], disk⟩ := by
  change Settings.initial.run _ = _
  rw [Settings.run_eq, Settings.shown, Settings.answer, Settings.content]
  change Outcome.ofAnswer _ none ((LogFilter.choose 0 none).1.select _)
    ((reported ((Delivery.readAll stdin).mapError _) memory elapsedMs).map _) = _
  rw [LogFilter.select_unasked, delivered, Except.mapError]
  cases reported (.ok bytes) memory elapsedMs with
  | error fault => rfl
  | ok report => rfl

/-- The bytes ask for progressions, and memory can hold their table. -/
def Accepted (memory length bound : Nat) (bytes : ByteArray) : Prop :=
  ∃ text : String, text.toUTF8 = bytes ∧ Query.Asks length bound (Blank.words text.toList) ∧
    2 * (bound * bound) + 1 ≤ memory

/-- The first defect of the bytes: in their encoding, in their words, or in the room for their table. -/
inductive Refused (memory : Nat) (bytes : ByteArray) : Fault → Prop where
  | undecodable (none : ∀ text : String, text.toUTF8 ≠ bytes) :
      Refused memory bytes (.unreadable "stream did not contain valid UTF-8")
  | rejected {text : String} {fault : Fault} (encoded : text.toUTF8 = bytes)
      (rejection : Query.Rejection (Blank.words text.toList) fault) : Refused memory bytes fault
  | withoutRoom {text : String} {length : Nat} {bound : UInt64} (encoded : text.toUTF8 = bytes)
      (asks : Query.Asks length bound.toNat (Blank.words text.toList))
      (full : memory < 2 * (bound.toNat * bound.toNat) + 1) : Refused memory bytes (.boundTooLarge bound)

theorem Accepted.reported_eq {memory length bound : Nat} {bytes : ByteArray}
    (accepted : Accepted memory length bound bytes) (elapsedMs : UInt64) :
    ∃ report, IsListing bound length report.progressions ∧ reported (.ok bytes) memory elapsedMs = .ok report := by
  obtain ⟨text, rfl, asks, room⟩ := accepted
  obtain ⟨query, rfl, rfl⟩ := asks.exists_query
  obtain ⟨sieve, built⟩ := Sieve.exists_build asks.bound_le room
  obtain ⟨report, solved, listing⟩ := Query.solve_eq_ok built query.length
  refine ⟨{ report with elapsedMs }, listing, ?_⟩
  rw [reported, requested, Except.bind, Query.ofBytes_toUTF8, Query.ofText_eq_ok_iff.mpr asks]
  dsimp only [Except.bind]
  rw [solved]
  rfl

theorem Refused.reported_eq {memory : Nat} {bytes : ByteArray} {fault : Fault}
    (refused : Refused memory bytes fault) (elapsedMs : UInt64) :
    reported (.ok bytes) memory elapsedMs = .error fault := by
  rw [reported, requested]
  cases refused with
  | undecodable none => rw [Except.bind, Query.ofBytes_undecodable none]; rfl
  | rejected encoded rejection =>
    rw [Except.bind, ← encoded, Query.ofBytes_toUTF8, Query.ofText_eq_error_iff.mpr rejection]
    rfl
  | withoutRoom encoded asks full =>
    obtain ⟨query, rfl, same⟩ := asks.exists_query
    cases UInt64.toNat_inj.mp same
    rw [Except.bind, ← encoded, Query.ofBytes_toUTF8, Query.ofText_eq_ok_iff.mpr asks]
    dsimp only [Except.bind]
    rw [Query.value_solve, Sieve.build_without_room full]
    rfl

theorem accepted_or_refused (memory : Nat) (bytes : ByteArray) :
    (∃ length bound, Accepted memory length bound bytes) ∨ ∃ fault, Refused memory bytes fault := by
  by_cases encoded : ∃ text : String, text.toUTF8 = bytes
  · obtain ⟨text, encoded⟩ := encoded
    rcases Query.asks_or_rejection (Blank.words text.toList) with ⟨query, asks⟩ | ⟨fault, rejection⟩
    · rcases Nat.lt_or_ge memory (2 * (query.bound.toNat * query.bound.toNat) + 1) with full | room
      · exact .inr ⟨_, .withoutRoom encoded asks full⟩
      · exact .inl ⟨_, _, text, encoded, asks, room⟩
    · exact .inr ⟨fault, .rejected encoded rejection⟩
  · exact .inr ⟨_, .undecodable (not_exists.mp encoded)⟩

theorem Accepted.not_refused {memory length bound : Nat} {bytes : ByteArray} {fault : Fault}
    (accepted : Accepted memory length bound bytes) : ¬ Refused memory bytes fault := by
  intro refused
  obtain ⟨_, _, answered⟩ := accepted.reported_eq 0
  cases answered.symm.trans (refused.reported_eq 0)

theorem Refused.unique {memory : Nat} {bytes : ByteArray} {fault other : Fault}
    (refused : Refused memory bytes fault) (again : Refused memory bytes other) : fault = other :=
  Except.error.inj ((refused.reported_eq 0).symm.trans (again.reported_eq 0))

/-- The line about a defect is a single line, although it may quote the input. -/
theorem Refused.newline_not_mem {memory : Nat} {bytes : ByteArray} {fault : Fault}
    (refused : Refused memory bytes fault) : '\n' ∉ (faultLine fault).toList := by
  have printable : Printable fault.message.toList := by
    apply fault.printable_message
    rintro reason rfl
    cases refused with
    | undecodable _ => exact printable_of_ascii (by decide)
    | rejected _ rejection => generalize Blank.words _ = words at rejection; cases rejection
  rw [faultLine, String.toList_append]
  exact (Printable.append (printable_of_ascii (by decide)) printable).newline_not_mem

/-- Without arguments and without a log setting a run does one of two things: it prints the listing
that its input asks for, or one line about the first defect of its input. -/
theorem run_without_arguments {stdin : List Delivery} {bytes : ByteArray}
    (delivered : Delivery.readAll stdin = .ok bytes) (disk : Disk) (memory : Nat) (elapsedMs : UInt64) :
    let outcome := Invocation.run { arguments := [], stdin, disk, logSetting := none, memory, elapsedMs }
    (∃ length bound progressions, Accepted memory length bound bytes ∧ IsListing bound length progressions ∧
      outcome = ⟨0, listingText progressions, [], [], disk⟩ ∧ ∀ fault, ¬ Refused memory bytes fault) ∨
    (∃ fault, Refused memory bytes fault ∧ (∀ other, Refused memory bytes other → other = fault) ∧
      '\n' ∉ ("Error: " ++ fault.message).toList ∧
      outcome = ⟨1, "", ["Error: " ++ fault.message], [], disk⟩ ∧
      ∀ length bound, ¬ Accepted memory length bound bytes) := by
  intro outcome
  have ran : outcome = _ := Invocation.run_plain delivered disk memory elapsedMs
  rcases accepted_or_refused memory bytes with ⟨length, bound, accepted⟩ | ⟨fault, refused⟩
  · obtain ⟨report, listing, answered⟩ := accepted.reported_eq elapsedMs
    refine .inl ⟨length, bound, report.progressions, accepted, listing, ?_, fun fault => accepted.not_refused⟩
    rw [ran, answered, ← report.text_eq_listingText]
  · refine .inr ⟨fault, refused, fun other again => again.unique refused, refused.newline_not_mem, ?_, ?_⟩
    · rw [ran, refused.reported_eq]
      rfl
    · intro length bound accepted
      exact accepted.not_refused refused

/-- The bytes of the request come in two parts, between which a read is interrupted. -/
theorem run_without_arguments_of_parts :
    let stdin : List Delivery := [.chunk ⟨#[0x32]⟩, .interrupted, .chunk ⟨#[0x20, 0x30]⟩]
    let outcome := Invocation.run
      { arguments := [], stdin, disk := ⟨[], [], []⟩, logSetting := none, memory := 1, elapsedMs := 7 }
    Delivery.readAll stdin = .ok ⟨#[0x32, 0x20, 0x30]⟩ ∧ outcome.stdout = "NONE\n" ∧
      ∃ length bound progressions, Accepted 1 length bound ⟨#[0x32, 0x20, 0x30]⟩ ∧
        IsListing bound length progressions ∧ outcome = ⟨0, listingText progressions, [], [], ⟨[], [], []⟩⟩ := by
  intro stdin outcome
  have delivered : Delivery.readAll stdin = .ok ⟨#[0x32, 0x20, 0x30]⟩ := by rfl
  have ended : outcome.code = 0 := by decide
  refine ⟨delivered, by decide, ?_⟩
  rcases run_without_arguments delivered ⟨[], [], []⟩ 1 7 with
    ⟨length, bound, progressions, accepted, listing, ran, _⟩ | ⟨fault, _, _, _, ran, _⟩
  · exact ⟨length, bound, progressions, accepted, listing, ran⟩
  · have failed : outcome.code = 1 := congrArg Outcome.code ran
    rw [ended] at failed
    cases failed

end Console
end SquareSums
