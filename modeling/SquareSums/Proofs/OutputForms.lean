import SquareSums.Proofs.JsonEnds
import SquareSums.Proofs.ProgramAnswer
import SquareSums.Proofs.RunChannels

/-! The two forms of an output. The option for JSON changes how a report is written and nothing else of a
run, so the listing of a run can be had from its JSON. -/

namespace SquareSums

theorem Report.getLast?_indentedJson (report : Report) : report.indentedJson.toList.getLast? = some '\x7d' :=
  Json.Layout.getLast?_indented_object _

theorem Report.ofJsonText?_indentedJson_newline (report : Report) :
    ofJsonText? (report.indentedJson ++ "\n") = some report := by
  apply ofJsonText?_of_spelled
  rw [String.toList_append]
  exact (Json.Layout.spelled_indented report.toJson).append_blank (by decide)

/-- No line of a listing is the word that stands for an empty one. -/
theorem listingText_eq_none_iff {progressions : List Progression} :
    listingText progressions = "NONE\n" ↔ progressions = [] := by
  constructor
  · intro same
    cases progressions with
    | nil => rfl
    | cons progression progressions =>
      rw [listingText, if_neg (List.cons_ne_nil _ _), List.map_cons, String.join_cons] at same
      have begins := congrArg (·.toList.head?) same
      simp only [String.toList_append, List.append_assoc] at begins
      have digits : progression.first.toNat.repr.toList = Nat.toDigits 10 progression.first.toNat :=
        String.toList_ofList
      rw [digits, List.head?_append_of_ne_nil _ Nat.toDigits_ne_nil] at begins
      have digit : 'N'.isDigit = true :=
        Nat.isDigit_of_mem_toDigits (by decide) (by decide) (List.mem_of_head? begins)
      cases digit
  · rintro rfl
    rfl

namespace Console

theorem exists_text_of_ofBytes {bytes : ByteArray} {query : Query} (read : Query.ofBytes bytes = .ok query) :
    ∃ text : String, text.toUTF8 = bytes ∧
      Query.Asks query.length.toNat query.bound.toNat (Blank.words text.toList) := by
  rw [Query.ofBytes] at read
  cases decoded : String.fromUTF8? bytes with
  | none =>
    rw [decoded] at read
    cases read
  | some text =>
    rw [decoded] at read
    exact ⟨text, fromUTF8?_eq_some_iff.mp decoded, Query.ofText_eq_ok_iff.mp read⟩

/-- A report tells which request it answers, and how long the search for it took. -/
theorem accepted_of_reported {content : Except Fault ByteArray} {memory : Nat} {elapsedMs : UInt64} {report : Report}
    (answered : reported content memory elapsedMs = .ok report) :
    ∃ bytes, content = .ok bytes ∧ Accepted memory report.length.toNat report.bound.toNat bytes ∧
      report.tableSize.toNat = 2 * (report.bound.toNat * report.bound.toNat) + 1 ∧ report.elapsedMs = elapsedMs := by
  cases content with
  | error fault => cases answered
  | ok bytes =>
    rw [reported, requested, Except.bind] at answered
    cases read : Query.ofBytes bytes with
    | error fault =>
      rw [read] at answered
      cases answered
    | ok query =>
      rw [read, Except.bind, Query.value_solve] at answered
      obtain ⟨text, encoded, asks⟩ := exists_text_of_ofBytes read
      cases built : (Sieve.build query.bound memory).value with
      | error fault =>
        rw [built] at answered
        cases answered
      | ok sieve =>
        rw [built] at answered
        cases answered
        obtain ⟨size, sized, room, same⟩ := Sieve.build_eq_ok_iff.mp built
        obtain ⟨bound, faithful⟩ := Sieve.faithful_of_build built
        rw [(Sieve.size?_eq_some_iff.mp sized).1] at room
        refine ⟨bytes, rfl, ⟨text, encoded, ?_, ?_⟩, ?_, rfl⟩
        · change Query.Asks query.length.toNat sieve.bound.toNat _
          rwa [bound]
        · change 2 * (sieve.bound.toNat * sieve.bound.toNat) + 1 ≤ memory
          rwa [bound]
        · change (Report.collect sieve query.length (sieve.findPairs query.length).value).value.tableSize.toNat = _
          exact Report.tableSize_collect faithful

/-- The text stands where the output goes, and no other file has changed. -/
def Outcome.Leaves (outcome : Outcome) (output : Option String) (disk : Disk) (text : String) : Prop :=
  match output with
  | none => outcome.stdout = text ∧ outcome.disk = disk
  | some path =>
    outcome.stdout = "" ∧ outcome.disk.read path = .ok text.toUTF8 ∧
      ∃ place, disk.target path = .ok place ∧ disk.Replaced outcome.disk place text.toUTF8

section OfAnswer

variable {invocation : Invocation} (takes : invocation.TakesAll) (output : Option String) (shown : List Event)
include takes

theorem Outcome.ofAnswer_ok_alike (text other : String) :
    let one := ofAnswer invocation output shown (.ok text)
    let another := ofAnswer invocation output shown (.ok other)
    another.code = one.code ∧ another.events = one.events ∧ another.stderr = one.stderr := by
  simp only [ofAnswer, takes.delivered]
  rcases output.map invocation.disk.target with _ | fault | place
  · exact ⟨rfl, rfl, rfl⟩
  · exact ⟨rfl, rfl, rfl⟩
  · exact ⟨rfl, rfl, rfl⟩

theorem Outcome.leaves_ofAnswer {text : String} (success : (ofAnswer invocation output shown (.ok text)).code = 0) :
    (ofAnswer invocation output shown (.ok text)).Leaves output invocation.disk text := by
  rw [ofAnswer, takes.delivered] at success ⊢
  cases output with
  | none => exact ⟨rfl, rfl⟩
  | some path =>
    rw [Option.map_some] at success ⊢
    cases leads : invocation.disk.target path with
    | error fault =>
      rw [leads] at success
      exact absurd success (show (1 : UInt8) ≠ 0 by decide)
    | ok place =>
      have replaced := invocation.disk.replaced_put place text.toUTF8
      exact ⟨rfl, replaced.read_eq leads, place, leads, replaced⟩

end OfAnswer

theorem Settings.run_withJson {settings : Settings} (plain : settings.json = false) {invocation : Invocation}
    (takes : invocation.TakesAll) :
    let listed := settings.run invocation
    let encoded := (settings.withJson true).run invocation
    (encoded.code = listed.code ∧ encoded.events = listed.events ∧ encoded.stderr = listed.stderr) ∧
    (listed.code = 0 → ∃ report,
      reported (settings.content invocation) invocation.memory invocation.elapsedMs = .ok report ∧
      encoded.Leaves settings.output invocation.disk (report.indentedJson ++ "\n") ∧
      listed.Leaves settings.output invocation.disk (listingText report.progressions)) := by
  have listing : settings.render = fun report => listingText report.progressions := by
    funext report
    rw [render, plain, if_neg Bool.false_ne_true, Report.text_eq_listingText]
  have encoding : (settings.withJson true).render = fun report => report.indentedJson ++ "\n" := rfl
  have content : (settings.withJson true).content invocation = settings.content invocation := rfl
  have shown : (settings.withJson true).shown invocation = settings.shown invocation := rfl
  have output : (settings.withJson true).output = settings.output := rfl
  rw [run_eq, run_eq, answer, answer, listing, encoding, content, shown, output]
  cases reported (settings.content invocation) invocation.memory invocation.elapsedMs with
  | error fault => exact ⟨⟨rfl, rfl, rfl⟩, fun zero => absurd zero (show (1 : UInt8) ≠ 0 by decide)⟩
  | ok report =>
    have alike := Outcome.ofAnswer_ok_alike takes settings.output (settings.shown invocation)
      (listingText report.progressions) (report.indentedJson ++ "\n")
    refine ⟨alike, fun zero => ⟨report, rfl, ?_, ?_⟩⟩
    · exact Outcome.leaves_ofAnswer takes _ _ (alike.1.trans zero)
    · exact Outcome.leaves_ofAnswer takes _ _ zero

namespace Invocation

end Invocation
end Console
end SquareSums
