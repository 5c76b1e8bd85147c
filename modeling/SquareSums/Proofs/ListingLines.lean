import SquareSums.Proofs.ListingComparison

/-! The text of a report, read back. Each line tells one progression, and the word for an empty listing tells
none, so the text keeps the progressions in their order and as often as they are listed. Nothing is asked of the
report: its progressions may be any words in any order. -/

namespace SquareSums

/-- Two numbers with one space between them, the first term before the difference. -/
def Progression.ofLine? (line : List Char) : Option Progression :=
  match line.splitOn ' ' with
  | [first, difference] => do pure ⟨← Decimal.value? difference, ← Decimal.value? first⟩
  | _ => none

/-- One progression for each line. A line is ended by a line feed, and nothing may stand behind the last one. -/
def Report.readLines? (text : List Char) : Option (List Progression) :=
  let pieces := text.splitOn '\n'
  if pieces.getLast? = some [] then pieces.dropLast.mapM Progression.ofLine? else none

theorem Lines.splitOn_ended {lines : List (List Char)} (single : ∀ line ∈ lines, '\n' ∉ line) :
    (lines.flatMap (· ++ ['\n'])).splitOn '\n' = lines ++ [[]] := by
  induction lines with
  | nil => rfl
  | cons line lines ih =>
    obtain ⟨first, later⟩ := List.forall_mem_cons.mp single
    rw [List.flatMap_cons, List.append_assoc, List.singleton_append, List.splitOn_append_cons_self_of_not_mem first,
      ih later]
    rfl

namespace Progression

theorem toList_text (progression : Progression) :
    progression.text.toList =
      Decimal.digits progression.first.toNat ++ ' ' :: Decimal.digits progression.difference.toNat := by
  simp only [text, Decimal.write, String.toList_append, String.toList_ofList, List.append_assoc]
  rfl

theorem newline_not_mem_text (progression : Progression) : '\n' ∉ progression.text.toList := by
  intro member
  rw [toList_text, List.mem_append, List.mem_cons] at member
  rcases member with first | space | difference
  · exact Decimal.not_mem_digits rfl _ first
  · cases space
  · exact Decimal.not_mem_digits rfl _ difference

theorem ofLine?_text (progression : Progression) : ofLine? progression.text.toList = some progression := by
  have first : ' ' ∉ Decimal.digits progression.first.toNat := Decimal.not_mem_digits rfl _
  have second : ' ' ∉ Decimal.digits progression.difference.toNat := Decimal.not_mem_digits rfl _
  rw [ofLine?, toList_text, List.splitOn_append_cons_self_of_not_mem first, List.splitOn_eq_singleton second]
  simp only [Decimal.value?_digits]
  rfl

end Progression

namespace Report

theorem toList_text {report : Report} (something : report.progressions ≠ []) :
    report.text.toList = (report.progressions.map (·.text.toList)).flatMap (· ++ ['\n']) := by
  rw [text, if_neg (by simpa using something), String.toList_join, List.flatMap_map, List.flatMap_map]
  exact List.flatMap_congr fun progression _ => String.toList_append

theorem readLines?_text {report : Report} (something : report.progressions ≠ []) :
    readLines? report.text.toList = some report.progressions := by
  have single : ∀ line ∈ report.progressions.map (·.text.toList), '\n' ∉ line := by
    intro line member
    obtain ⟨progression, _, rfl⟩ := List.mem_map.mp member
    exact progression.newline_not_mem_text
  simp only [readLines?, toList_text something, Lines.splitOn_ended single, List.getLast?_concat, if_true,
    List.dropLast_concat]
  rw [Json.Value.mapM_map_eq_some fun progression _ => progression.ofLine?_text, List.map_id']

theorem text_eq_text_iff {report other : Report} :
    other.text = report.text ↔ other.progressions = report.progressions := by
  constructor
  · intro same
    by_cases nothing : report.progressions = []
    · rw [nothing, ← text_eq_none_iff, same, text_eq_none_iff]
      exact nothing
    · have something : other.progressions ≠ [] := by rwa [ne_eq, ← text_eq_none_iff, same, text_eq_none_iff]
      have read := readLines?_text nothing
      rw [← same, readLines?_text something] at read
      exact Option.some.inj read
  · intro same
    rw [text, text, same]

theorem answer_eq_nothing_iff {report : Report} : report.answer = .nothing ↔ report.progressions = [] := by
  rw [answer, ← List.isEmpty_iff]
  split
  next nothing => exact iff_of_true rfl nothing
  next something => exact iff_of_false Answer.noConfusion something

/-- Nothing of a listing is lost in its text: read line by line the text tells the same progressions, in the same
order and as often, and only an empty listing is told by the word for it, which is no line itself. -/
theorem text_is_lossless (report : Report) :
    (report.text = "NONE\n" ↔ report.progressions = []) ∧
    (report.progressions ≠ [] → readLines? report.text.toList = some report.progressions) ∧
    readLines? "NONE\n".toList = none ∧
    (∀ other : Report, other.text = report.text ↔ other.progressions = report.progressions) ∧
    (report.answer = .nothing ↔ report.text = "NONE\n") := by
  refine ⟨text_eq_none_iff, readLines?_text, rfl, fun _ => text_eq_text_iff, ?_⟩
  rw [answer_eq_nothing_iff, text_eq_none_iff]

/-- The largest words, a difference of zero, out of order and one of them twice. -/
theorem text_is_lossless_of_repeated :
    let report : Report := ⟨0, 0, 0, 0, 0, 7, [⟨0xFFFFFFFFFFFFFFFF, 0xFFFFFFFFFFFFFFFF⟩, ⟨0, 10⟩, ⟨0, 10⟩]⟩
    let other : Report := { report with elapsedMs := 0, progressions := [⟨10, 0⟩] }
    report.progressions ≠ [] ∧
      report.text = "18446744073709551615 18446744073709551615\n10 0\n10 0\n" ∧
      readLines? report.text.toList = some report.progressions ∧ report.text ≠ "NONE\n" ∧
      report.answer ≠ .nothing ∧ other.text ≠ report.text := by
  intro report other
  have something : report.progressions ≠ [] := List.cons_ne_nil _ _
  obtain ⟨sentinel, read, _, alike, answered⟩ := text_is_lossless report
  have told := mt sentinel.mp something
  exact ⟨something, by decide, read something, told, mt answered.mp told, mt (alike other).mp (by decide)⟩

end Report
end SquareSums
