import SquareSums.Proofs.JsonGrammar
import SquareSums.Proofs.ReportJson

/-! Where a JSON text ends. What has been read is not looked at again, so a text behind another one is scanned
for itself; and the tokens of a value end with the value. So nothing but white space may stand behind an
array or an object, and no part of its text can do without the rest. -/

namespace SquareSums

namespace Json

namespace Scan

def behind (scan : Scan) (earlier : List Token) : Scan := ⟨scan.finished ++ earlier, scan.pending⟩

theorem start?_append (finished earlier : List Token) (character : Char) :
    start? (finished ++ earlier) character = (start? finished character).map (behind · earlier) := by
  unfold start?
  split
  next => rfl
  next =>
    split
    next => rfl
    next =>
      cases markOf? character with
      | some mark => rfl
      | none =>
        cases wordOf? character with
        | some word => rfl
        | none => cases NumberState.start? character <;> rfl

theorem next?_behind (scan : Scan) (earlier : List Token) (character : Char) :
    (scan.behind earlier).next? character = (scan.next? character).map (behind · earlier) := by
  obtain ⟨finished, pending⟩ := scan
  cases pending with
  | nothing => exact start?_append finished earlier character
  | word token left =>
    cases left with
    | nil => rfl
    | cons expected later =>
      simp only [next?, behind]
      split
      next => rfl
      next => split <;> rfl
  | number reversed state =>
    simp only [next?, behind]
    cases state.next? character with
    | some later => rfl
    | none =>
      cases state.isComplete with
      | true => exact start?_append (.number reversed.reverse :: finished) earlier character
      | false => rfl
  | string reversed state =>
    simp only [next?, behind]
    split
    next => rfl
    next => cases state.next? character <;> rfl

theorem foldlM_behind (text : List Char) (scan : Scan) (earlier : List Token) :
    text.foldlM next? (scan.behind earlier) = (text.foldlM next? scan).map (behind · earlier) := by
  induction text generalizing scan with
  | nil => rfl
  | cons character text ih =>
    rw [List.foldlM_cons, List.foldlM_cons, next?_behind]
    cases scan.next? character with
    | none => rfl
    | some later => exact ih later

theorem tokens?_behind (scan : Scan) (earlier : List Token) :
    (scan.behind earlier).tokens? = scan.tokens?.map (earlier.reverse ++ ·) := by
  obtain ⟨finished, pending⟩ := scan
  cases pending with
  | nothing => simp [behind, tokens?]
  | number reversed state =>
    simp only [behind, tokens?]
    split <;> simp
  | word token left => rfl
  | string reversed state => rfl

end Scan

/-- A text behind another one is scanned for itself, unless a number at the end of the first goes on. -/
theorem tokens?_append {text tail : List Char} {tokens : List Token} (read : tokens? text = some tokens)
    (apart : (∀ last ∈ tokens.getLast?, last.isNumber = false) ∨ ∀ first ∈ tail.head?, EndsNumber first) :
    tokens? (text ++ tail) = (tokens? tail).map (tokens ++ ·) := by
  obtain ⟨scan, scanned, settled⟩ := Option.bind_eq_some_iff.mp read
  cases tail with
  | nil =>
    rw [List.append_nil, read]
    exact congrArg some (List.append_nil tokens).symm
  | cons first rest =>
    have ending : ∀ reversed state, scan.pending = .number reversed state → state.next? first = none := by
      intro reversed state pending
      rcases apart with other | ends
      · rcases Scan.settled_or_number settled with rfl | ⟨previous, last, isNumber⟩
        · cases pending
        · rw [other previous last] at isNumber
          cases isNumber
      · exact ends first rfl state
    have begun : scan.next? first = (Scan.next? ⟨[], .nothing⟩ first).map (Scan.behind · tokens.reverse) := by
      rw [Scan.next?_of_ending settled ending, ← Scan.next?_behind]
      rfl
    rw [tokens?, tokens?, List.foldlM_append, scanned, Option.bind_eq_bind, Option.bind_some, List.foldlM_cons, begun,
      List.foldlM_cons]
    cases Scan.next? ⟨[], .nothing⟩ first with
    | none => rfl
    | some later =>
      simp only [Option.map_some, Option.bind_eq_bind, Option.bind_some, Scan.foldlM_behind]
      cases rest.foldlM Scan.next? later with
      | none => rfl
      | some last => simp only [Option.map_some, Option.bind_some, Scan.tokens?_behind, List.reverse_reverse]

theorem tokens?_eq_nil_iff {text : List Char} : tokens? text = some [] ↔ text.all isBlank = true := by
  constructor
  · intro read
    cases (spelled_of_tokens? read).1 with
    | nil blank => exact blank
  · intro blank
    exact tokens?_eq_of_spelled (.nil blank) (List.forall_mem_nil _) .nil

theorem tokens?_blank_append {space : List Char} (blank : space.all isBlank = true) (text : List Char) :
    tokens? (space ++ text) = tokens? text := by
  rw [tokens?_append (tokens?_eq_nil_iff.mpr blank) (.inl fun _ absent => by cases absent)]
  exact Option.map_id'

theorem tokens?_spelling {token : Token} (sound : token.isSound = true) : tokens? token.spelling = some [token] := by
  have single : Spelled [token] ([] ++ (token.spelling ++ [])) := .cons rfl (.nil rfl)
  rw [List.nil_append, List.append_nil] at single
  exact tokens?_eq_of_spelled single (List.forall_mem_singleton.mpr sound) (.singleton token)

namespace Value

theorem eq_nil_of_append_eq_tokens {value other : Value} {rest : List Token}
    (same : value.tokens ++ rest = other.tokens) : rest = [] := by
  have read := ofTokens?_tokens other
  rw [ofTokens?, ← same, foldlM_tokens] at read
  cases rest with
  | nil => rfl
  | cons token rest => cases read

theorem exists_tokens_array_eq (items : List Value) : ∃ front, (array items).tokens = front ++ [.closeBracket] := by
  rcases List.eq_nil_or_concat items with rfl | ⟨front, last, rfl⟩
  · exact ⟨[.openBracket], rfl⟩
  · exact ⟨.openBracket :: (front.flatMap itemTokens ++ last.tokens), by simp [tokens_array_concat]⟩

theorem exists_tokens_object_eq (members : List (List Char × Value)) :
    ∃ front, (object members).tokens = front ++ [.closeBrace] := by
  rcases List.eq_nil_or_concat members with rfl | ⟨front, ⟨key, last⟩, rfl⟩
  · exact ⟨[.openBrace], rfl⟩
  · exact ⟨.openBrace :: (front.flatMap memberTokens ++ .string key :: .colon :: last.tokens),
      by simp [tokens_object_concat]⟩

theorem isNumber_getLast?_tokens {value : Value} (other : ∀ lexeme, value ≠ number lexeme) :
    ∀ last ∈ value.tokens.getLast?, last.isNumber = false := by
  cases value with
  | number lexeme => exact absurd rfl (other lexeme)
  | array items =>
    obtain ⟨front, written⟩ := exists_tokens_array_eq items
    rw [written, List.getLast?_concat]
    rintro _ ⟨⟩
    rfl
  | object members =>
    obtain ⟨front, written⟩ := exists_tokens_object_eq members
    rw [written, List.getLast?_concat]
    rintro _ ⟨⟩
    rfl
  | _ =>
    rintro _ ⟨⟩
    rfl

/-- Behind the text of a value that is no number, anything but white space makes it the text of no value. -/
theorem ofText?_append {value : Value} {text : String} (read : ofText? text = some value)
    (other : ∀ lexeme, value ≠ number lexeme) (tail : String) :
    ofText? (text ++ tail) = if tail.toList.all isBlank then some value else none := by
  obtain ⟨tokens, scanned, parsed⟩ := Option.bind_eq_some_iff.mp read
  rw [ofTokens?_eq_some_iff] at parsed
  subst parsed
  have whole : tokens? (text.toList ++ tail.toList) = (tokens? tail.toList).map (value.tokens ++ ·) :=
    tokens?_append scanned (.inl (isNumber_getLast?_tokens other))
  rw [ofText?, String.toList_append, whole]
  split
  next blank =>
    rw [tokens?_eq_nil_iff.mpr blank, Option.map_some, Option.bind_some, List.append_nil]
    exact ofTokens?_tokens value
  next solid =>
    refine Option.eq_none_iff_forall_ne_some.mpr fun longer found => ?_
    obtain ⟨_, behind, parsed⟩ := Option.bind_eq_some_iff.mp found
    obtain ⟨more, scannedTail, rfl⟩ := Option.map_eq_some_iff.mp behind
    rw [ofTokens?_eq_some_iff] at parsed
    rw [eq_nil_of_append_eq_tokens parsed] at scannedTail
    exact solid (tokens?_eq_nil_iff.mp scannedTail)

section Records

variable {α : Type} {ofJson? : Value → Option α} (noNumber : ∀ lexeme, ofJson? (number lexeme) = none)
include noNumber

theorem bind_ofText?_append {text : String} {record : α} (read : (ofText? text).bind ofJson? = some record)
    (tail : String) :
    (ofText? (text ++ tail)).bind ofJson? = if tail.toList.all isBlank then some record else none := by
  obtain ⟨value, ofText, decoded⟩ := Option.bind_eq_some_iff.mp read
  have other : ∀ lexeme, value ≠ number lexeme := by
    rintro lexeme rfl
    rw [noNumber lexeme] at decoded
    cases decoded
  rw [ofText?_append ofText other]
  split
  next => exact decoded
  next => rfl

theorem bind_ofText?_part {part rest : String} {record : α}
    (whole : (ofText? (part ++ rest)).bind ofJson? = some record) {last : Char}
    (ends : rest.toList.getLast? = some last) (solid : isBlank last = false) : (ofText? part).bind ofJson? = none := by
  refine Option.eq_none_iff_forall_ne_some.mpr fun other read => ?_
  rw [bind_ofText?_append noNumber read] at whole
  obtain ⟨blank, _⟩ := Option.ite_none_right_eq_some.mp whole
  rw [List.all_eq_true.mp blank last (List.mem_of_getLast? ends)] at solid
  cases solid

end Records

end Value

namespace Layout

theorem getLast?_compact_object (members : List (List Char × Value)) :
    (compact (.object members)).toList.getLast? = some '\x7d' := by
  obtain ⟨front, written⟩ := Value.exists_tokens_object_eq members
  rw [compact, written, List.map_append, String.join_append, String.toList_append]
  exact List.getLast?_concat

theorem getLast?_indented_object (members : List (List Char × Value)) :
    (indented (.object members)).toList.getLast? = some '\x7d' := by
  obtain ⟨front, written⟩ := Value.exists_tokens_object_eq members
  rw [indented, written, List.foldl_append, List.foldl_cons, List.foldl_nil, Page.write, String.toList_append]
  exact List.getLast?_concat

end Layout

theorem isBlank_iff {character : Char} : isBlank character = true ↔ character ∈ [' ', '\t', '\r', '\n'] := by
  simp only [isBlank, Bool.or_eq_true, beq_iff_eq, List.mem_cons, List.not_mem_nil, or_false]
  tauto

end Json

open Json

namespace Report

/-- Of the text of a report nothing may be missing at its end, and only white space may stand behind it. -/
theorem damaged_json_refused (report : Report) :
    ∀ text ∈ [report.indentedJson, report.compactJson],
      (∀ part rest, text = part ++ rest → rest ≠ "" → ofJsonText? part = none) ∧
      (∀ tail : String, (∃ character ∈ tail.toList, character ∉ [' ', '\t', '\r', '\n']) →
        ofJsonText? (text ++ tail) = none) ∧
      ∀ tail : String, (∀ character ∈ tail.toList, character ∈ [' ', '\t', '\r', '\n']) →
        ofJsonText? (text ++ tail) = some report := by
  intro text member
  have written : ofJsonText? text = some report ∧ text.toList.getLast? = some '\x7d' := by
    rw [List.mem_pair] at member
    rcases member with rfl | rfl
    · exact ⟨ofJsonText?_of_spelled (Layout.spelled_indented report.toJson), Layout.getLast?_indented_object _⟩
    · exact ⟨ofJsonText?_of_spelled (Layout.spelled_compact report.toJson), Layout.getLast?_compact_object _⟩
  obtain ⟨read, ends⟩ := written
  have noNumber (lexeme : List Char) : ofJson? (.number lexeme) = none := rfl
  refine ⟨?_, ?_, ?_⟩
  · rintro part rest rfl missing
    rw [String.toList_append, List.getLast?_append_of_ne_nil _ (mt String.toList_eq_nil_iff.mp missing)] at ends
    exact Value.bind_ofText?_part noNumber read ends rfl
  · rintro tail ⟨character, member, solid⟩
    rw [ofJsonText?, Value.bind_ofText?_append noNumber read]
    exact if_neg fun blank => solid (isBlank_iff.mp (List.all_eq_true.mp blank character member))
  · intro tail blank
    rw [ofJsonText?, Value.bind_ofText?_append noNumber read]
    exact if_pos (List.all_eq_true.mpr fun character member => isBlank_iff.mpr (blank character member))

/-- Cut inside the number of its first field, run together with itself, and followed by an empty line. -/
theorem damaged_json_refused_of_short :
    let report : Report := ⟨20, 1, 3, 3, 3, 0, [⟨1, 0⟩]⟩
    (∃ rest, report.compactJson = "\x7b\"length\":2" ++ rest ∧ rest ≠ "") ∧
      ofJsonText? "\x7b\"length\":2" = none ∧
      ofJsonText? (report.indentedJson ++ report.indentedJson) = none ∧
      ofJsonText? (report.indentedJson ++ "\r\n") = some report := by
  intro report
  obtain ⟨rest, parted, missing⟩ : ∃ rest, report.compactJson = "\x7b\"length\":2" ++ rest ∧ rest ≠ "" :=
    ⟨"0,\"bound\":1,\"tableSize\":3,\"bisquareCount\":3,\"pairsTested\":3,\"timeElapsedMs\":0," ++
      "\"progressions\":[\x7b\"difference\":1,\"first\":0\x7d]\x7d", by decide +kernel, by decide +kernel⟩
  have brace : '\x7d' ∈ report.indentedJson.toList := List.mem_of_getLast? (Layout.getLast?_indented_object _)
  have compact := damaged_json_refused report report.compactJson (by simp)
  have indented := damaged_json_refused report report.indentedJson (by simp)
  exact ⟨⟨rest, parted, missing⟩, compact.1 _ rest parted missing, indented.2.1 _ ⟨_, brace, by decide⟩,
    indented.2.2 _ (by simp)⟩

end Report
end SquareSums
