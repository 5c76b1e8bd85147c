import SquareSums.Proofs.JsonSpellings

/-! Reports in canonical JSON. With the fields in their order, plain keys and no white space, a report has one
text only, the compact one; and however the rest is written, each of its numbers is spelled in one way only. -/

namespace SquareSums

namespace Json

theorem Spelled.eq_flatMap {tokens : List Token} {text : List Char} (spelled : Spelled tokens text)
    (solid : ∀ character ∈ text, isBlank character = false) : text = tokens.flatMap Token.spelling := by
  have absent {space : List Char} (blank : space.all isBlank = true)
      (solid : ∀ character ∈ space, isBlank character = false) : space = [] := by
    refine List.eq_nil_iff_forall_not_mem.mpr fun character member => ?_
    have both := solid character member
    rw [List.all_eq_true.mp blank character member] at both
    cases both
  induction spelled with
  | nil blank => exact absent blank solid
  | cons blank _ ih =>
    simp only [List.forall_mem_append] at solid
    obtain ⟨solidSpace, _, solidRest⟩ := solid
    rw [absent blank solidSpace, List.nil_append, List.flatMap_cons, ← ih solidRest]

def Token.isSolid (token : Token) : Bool := token.spelling.all (!isBlank ·)

theorem isSolid_digits (word : UInt64) : (Token.number (Decimal.digits word.toNat)).isSolid = true := by
  refine List.all_eq_true.mpr fun digit member => ?_
  have isDigit := Decimal.isDigit_of_mem_digits member
  rw [Bool.not_eq_true', Bool.eq_false_iff]
  intro blank
  rw [isBlank_iff] at blank
  simp only [List.mem_cons, List.not_mem_nil, or_false] at blank
  rcases blank with rfl | rfl | rfl | rfl <;> cases isDigit

namespace Layout

theorem toList_compact (value : Value) : (compact value).toList = value.tokens.flatMap Token.spelling := by
  rw [compact, String.toList_join, List.flatMap_map]
  exact List.flatMap_congr fun token _ => String.toList_ofList

theorem compact_eq_of_spelled {value : Value} {text : String} (spelled : Spelled value.tokens text.toList)
    (solid : ∀ character ∈ text.toList, isBlank character = false) : compact value = text := by
  rw [← String.toList_inj, toList_compact]
  exact (spelled.eq_flatMap solid).symm

theorem solid_compact {value : Value} (solid : ∀ token ∈ value.tokens, token.isSolid = true) :
    ∀ character ∈ (compact value).toList, isBlank character = false := by
  intro character member
  rw [toList_compact] at member
  obtain ⟨token, inside, member⟩ := List.mem_flatMap.mp member
  have bare := List.all_eq_true.mp (solid token inside) character member
  rwa [Bool.not_eq_true'] at bare

end Layout

namespace Value

theorem forall₂_isWord_iff {values : List Value} {words : List UInt64} :
    List.Forall₂ IsWord values words ↔ values = words.map ofWord := by
  have spelled : List.Forall₂ IsWord values words ↔ List.Forall₂ (fun value word => value = ofWord word) values words :=
    forall₂_congr fun _ _ _ => isWord_iff
  rw [spelled, ← List.forall₂_map_right_iff, List.forall₂_eq_eq_eq]

/-- The value is an object of just the fields in their order, each under its name written without escapes. -/
def IsOrdered (names : List String) (value : Value) : Prop :=
  ∃ fields, fields.length = names.length ∧ value = ofFields (names.zip fields)

theorem ArePlain.eq_ofFields {names : List String} (plain : ArePlain names) {value : Value} {values : List Value}
    (ordered : value.IsOrdered names) (isRecord : value.IsRecord names values) :
    value = ofFields (names.zip values) := by
  obtain ⟨fields, complete, rfl⟩ := ordered
  rw [isRecord.eq (fields?_eq_some_iff.mp (plain.fields?_ofFields complete))]

/-- One of the named fields has the value, in an object or in an array, whatever else is there. -/
inductive Gives (names : List String) : Value → Value → Prop where
  | object {members : List (List Char × Value)} {name : String} {key : List Char} {field : Value}
      (named : name ∈ names) (member : (key, field) ∈ members) (spells : Text.Spells name.toList key) :
      Gives names (.object members) field
  | array {items : List Value} {field : Value} (member : field ∈ items) : Gives names (.array items) field

theorem IsRecord.gives_iff {names : List String} {value : Value} {values : List Value}
    (isRecord : value.IsRecord names values) {field : Value} : value.Gives names field ↔ field ∈ values := by
  constructor
  · intro gives
    cases gives with
    | array member =>
      cases isRecord with
      | array _ => exact member
    | @object members name key _ named member spells =>
      cases isRecord with
      | @object _ entries _ keyed once =>
        obtain ⟨⟨characters, same⟩, listed, alsoSpells, rfl⟩ := exists_of_forall₂ keyed.flip _ member
        obtain ⟨value, given, alone⟩ := exists_of_forall₂ once.flip name named
        have decoded := (Text.decode?_eq_some_iff.mpr alsoSpells).symm.trans (Text.decode?_eq_some_iff.mpr spells)
        cases decoded
        have found : (name.toList, same) ∈ entries.filter (·.1 == name.toList) :=
          List.mem_filter.mpr ⟨listed, beq_self_eq_true _⟩
        rw [alone, List.mem_singleton] at found
        cases found
        exact given
  · intro given
    cases isRecord with
    | array _ => exact .array given
    | object keyed once =>
      obtain ⟨name, named, alone⟩ := exists_of_forall₂ once field given
      have listed : (name.toList, field) ∈ _ := List.mem_of_mem_filter (alone ▸ List.mem_singleton_self _)
      obtain ⟨⟨key, _⟩, inside, spells, rfl⟩ := exists_of_forall₂ keyed _ listed
      exact .object named inside spells

end Value
end Json

open Json

namespace Progression

def IsSpelled (value : Value) (progression : Progression) : Prop :=
  value.IsRecord fieldNames ([progression.difference, progression.first].map Value.ofWord)

theorem isWritten_iff {value : Value} {progression : Progression} :
    IsWritten value progression ↔ IsSpelled value progression := by
  constructor
  · rintro ⟨_, isRecord, areWords⟩
    rwa [Value.forall₂_isWord_iff.mp areWords] at isRecord
  · intro isRecord
    exact ⟨_, isRecord, Value.forall₂_isWord_iff.mpr rfl⟩

theorem isSpelled_iff_eq_toJson {value : Value} {progression : Progression} (ordered : value.IsOrdered fieldNames) :
    IsSpelled value progression ↔ value = progression.toJson := by
  constructor
  · exact plain_fieldNames.eq_ofFields ordered
  · rintro rfl
    exact Value.fields?_eq_some_iff.mp (plain_fieldNames.fields?_ofFields rfl)

end Progression

namespace Report

def fieldValues (report : Report) (items : List Value) : List Value :=
  [report.length, report.bound, report.tableSize, report.bisquareCount, report.pairsTested,
    report.elapsedMs].map Value.ofWord ++ [.array items]

theorem array_mem_fieldValues {report : Report} {items others : List Value} :
    .array others ∈ report.fieldValues items ↔ others = items := by
  rw [fieldValues, List.mem_append, List.mem_singleton, Value.array.injEq]
  refine or_iff_right fun word => ?_
  obtain ⟨_, _, absurd⟩ := List.mem_map.mp word
  cases absurd

/-- The value is a record of the report whose numbers are spelled by their digits, and the progressions in it are
those of the report, one by one. -/
def IsSpelled (value : Value) (report : Report) : Prop :=
  ∃ items, value.IsRecord fieldNames (report.fieldValues items) ∧
    List.Forall₂ Progression.IsSpelled items report.progressions

theorem ofJsonText?_eq_some_iff {text : String} {report : Report} :
    ofJsonText? text = some report ↔ ∃ value : Value, value.IsText text ∧ IsSpelled value report := by
  have alike (items : List Value) : List.Forall₂ Progression.IsWritten items report.progressions ↔
      List.Forall₂ Progression.IsSpelled items report.progressions :=
    forall₂_congr fun _ _ _ => Progression.isWritten_iff
  refine ((readsRecords ofJson?_eq_some_iff).exactly text report).trans (exists_congr fun value => ?_)
  refine and_congr_right fun _ => ?_
  constructor
  · rintro ⟨_, isRecord, _, items, rfl, areWords, written⟩
    rw [Value.forall₂_isWord_iff.mp areWords] at isRecord
    exact ⟨items, isRecord, (alike items).mp written⟩
  · rintro ⟨items, isRecord, spelled⟩
    exact ⟨_, isRecord, _, items, rfl, Value.forall₂_isWord_iff.mpr rfl, (alike items).mpr spelled⟩

/-- The value is an object of the fields in their order, and so is each progression in it. -/
structure IsOrdered (value : Value) : Prop where
  fields : value.IsOrdered fieldNames
  progressions : ∀ items, value.Gives fieldNames (.array items) →
    ∀ item ∈ items, item.IsOrdered Progression.fieldNames

theorem isOrdered_toJson (report : Report) : IsOrdered report.toJson := by
  have isRecord : report.toJson.IsRecord fieldNames
      (report.fieldValues (report.progressions.map Progression.toJson)) :=
    Value.fields?_eq_some_iff.mp (plain_fieldNames.fields?_ofFields rfl)
  refine ⟨⟨_, rfl, rfl⟩, fun items gives item member => ?_⟩
  rw [isRecord.gives_iff, array_mem_fieldValues] at gives
  subst gives
  obtain ⟨progression, _, rfl⟩ := List.mem_map.mp member
  exact ⟨_, rfl, rfl⟩

theorem IsOrdered.eq_toJson {value : Value} {report : Report} (ordered : IsOrdered value)
    (spelled : IsSpelled value report) : value = report.toJson := by
  obtain ⟨items, isRecord, spelledItems⟩ := spelled
  have plain := ordered.progressions items (isRecord.gives_iff.mpr (array_mem_fieldValues.mpr rfl))
  rw [forall₂_congr fun item member _ => Progression.isSpelled_iff_eq_toJson (plain item member),
    ← List.forall₂_map_right_iff, List.forall₂_eq_eq_eq] at spelledItems
  rw [plain_fieldNames.eq_ofFields ordered.fields isRecord, spelledItems]
  rfl

def HasNumber (value : Value) (lexeme : List Char) : Prop :=
  value.Gives fieldNames (.number lexeme) ∨
    ∃ items, value.Gives fieldNames (.array items) ∧ ∃ item ∈ items, item.Gives Progression.fieldNames (.number lexeme)

theorem IsSpelled.not_isStray {value : Value} {report : Report} (spelled : IsSpelled value report)
    {lexeme : List Char} (number : HasNumber value lexeme) : ¬ IsStray lexeme := by
  have digits {words : List UInt64} (member : .number lexeme ∈ words.map Value.ofWord) : ¬ IsStray lexeme := by
    obtain ⟨word, _, same⟩ := List.mem_map.mp member
    cases same
    exact not_isStray_digits word
  obtain ⟨items, isRecord, spelledItems⟩ := spelled
  rcases number with direct | ⟨others, gives, item, member, nested⟩
  · rw [isRecord.gives_iff] at direct
    rcases List.mem_append.mp direct with word | list
    · exact digits word
    · cases List.mem_singleton.mp list
  · rw [isRecord.gives_iff, array_mem_fieldValues] at gives
    subst gives
    obtain ⟨progression, _, spelledItem⟩ := exists_of_forall₂ spelledItems.flip item member
    exact digits (spelledItem.gives_iff.mp nested)

/-- The text is JSON without any white space, of a value in order. -/
structure IsCanonical (text : String) : Prop where
  solid : ∀ character ∈ text.toList, isBlank character = false
  ordered : ∃ value : Value, value.IsText text ∧ IsOrdered value

theorem isSolid_toJson (report : Report) : ∀ token ∈ report.toJson.tokens, token.isSolid = true := by
  have marks : ∀ mark ∈ Token.marks, mark.isSolid = true := by decide
  exact report.forall_tokens_toJson marks (by decide) isSolid_digits

theorem isCanonical_compactJson (report : Report) : IsCanonical report.compactJson := by
  have isText : report.toJson.IsText report.compactJson :=
    Value.isText_iff.mpr ⟨report.isSound_toJson, Layout.spelled_compact _⟩
  exact ⟨Layout.solid_compact report.isSolid_toJson, report.toJson, isText, report.isOrdered_toJson⟩

/-- Among canonical texts reading and writing undo each other. In any text that is read, the numbers are spelled by
their digits, and the progressions stand as they are listed; and a text with a number spelled otherwise, in any field,
is not read. -/
theorem compact_undoes_reading :
    (∀ text report, (ofJsonText? text = some report ∧ IsCanonical text) ↔ report.compactJson = text) ∧
    (∀ text report, ofJsonText? text = some report ↔ ∃ value : Value, value.IsText text ∧ IsSpelled value report) ∧
    ∀ (text : String) (value : Value) (lexeme : List Char),
      value.IsLooseText text → HasNumber value lexeme → IsStray lexeme → ofJsonText? text = none := by
  refine ⟨fun text report => ?_, fun text report => ofJsonText?_eq_some_iff, ?_⟩
  · constructor
    · rintro ⟨read, solid, value, isText, ordered⟩
      obtain ⟨other, also, spelled⟩ := ofJsonText?_eq_some_iff.mp read
      have same : other = value :=
        Option.some.inj ((Value.ofText?_eq_some_iff.mpr also).symm.trans (Value.ofText?_eq_some_iff.mpr isText))
      subst same
      rw [ordered.eq_toJson spelled] at isText
      exact Layout.compact_eq_of_spelled isText.spelled solid
    · rintro rfl
      exact ⟨ofJsonText?_of_spelled (Layout.spelled_compact report.toJson), report.isCanonical_compactJson⟩
  · intro text value lexeme loose number stray
    refine Option.eq_none_iff_forall_ne_some.mpr fun report read => ?_
    obtain ⟨other, isText, spelled⟩ := ofJsonText?_eq_some_iff.mp read
    rw [loose.eq (Value.ofText?_eq_some_iff.mpr isText)] at spelled
    exact spelled.not_isStray number stray

/-- Progressions out of order and twice, beside the largest word; and one whose first term has a zero in front. -/
theorem compact_undoes_reading_of_unsorted :
    let report : Report := ⟨0, 18446744073709551615, 3, 3, 3, 0, [⟨2, 0⟩, ⟨1, 0⟩, ⟨1, 0⟩]⟩
    (ofJsonText? report.compactJson = some report ∧ IsCanonical report.compactJson) ∧
      ofJsonText? "[0,1,3,3,3,0,[[1,0],[1,00]]]" = none := by
  intro report
  let items : List Value := [.array [.number ['1'], .number ['0']], .array [.number ['1'], .number ['0', '0']]]
  let value : Value := .array [.number ['0'], .number ['1'], .number ['3'], .number ['3'], .number ['3'],
    .number ['0'], .array items]
  have written : Layout.compact value = "[0,1,3,3,3,0,[[1,0],[1,00]]]" := by decide +kernel
  have loose : value.IsLooseText "[0,1,3,3,3,0,[[1,0],[1,00]]]" := by
    refine ⟨written ▸ Layout.spelled_compact value, ?_, ?_⟩
    · simp [value, items, Value.tokens, Value.itemsTokens, IsNumeric]
    · simp [value, items, Value.tokens, Value.itemsTokens]
  have number : HasNumber value ['0', '0'] :=
    .inr ⟨items, .array (by simp), _, List.mem_cons_of_mem _ List.mem_cons_self, .array (by simp)⟩
  exact ⟨(compact_undoes_reading.1 _ report).mpr rfl,
    compact_undoes_reading.2.2 _ value _ loose number (.padded (List.cons_ne_nil _ _))⟩

end Report
end SquareSums
