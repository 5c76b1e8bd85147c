import SquareSums.Proofs.JsonReading
import SquareSums.Report.Json

/-! Reports and progressions as JSON lose nothing: what is written of them, in either layout, is read
back as it was. They are records of plainly named fields, and a record is read field by field. -/

namespace SquareSums

namespace Decimal

theorem first_digit_ne_zero {number : Nat} (positive : 0 < number) : (digits number).head? ≠ some '0' := by
  have digit : ∀ value < 10, 0 < value → Nat.digitChar value ≠ '0' := by decide
  induction number using Nat.strongRecOn with
  | ind number ih =>
    rw [digits, Nat.toDigits_eq_if (by decide)]
    split
    next single => simpa using digit number single positive
    next more =>
      have front : (digits (number / 10)).head? ≠ some '0' := ih _ (by omega) (by omega)
      rwa [List.head?_append_of_ne_nil _ Nat.toDigits_ne_nil]

end Decimal

namespace Json

namespace NumberState

theorem foldlM_whole {rest : List Char} (digits : ∀ character ∈ rest, character.isDigit = true) :
    rest.foldlM next? whole = some whole := by
  induction rest with
  | nil => rfl
  | cons character rest ih =>
    rw [List.forall_mem_cons] at digits
    rw [List.foldlM_cons, next?, if_pos digits.1]
    exact ih digits.2

theorem isLexeme_digits (number : Nat) : isLexeme (Decimal.digits number) = true := by
  rcases Nat.eq_zero_or_pos number with rfl | positive
  · rfl
  · have noZero := Decimal.first_digit_ne_zero positive
    have allDigits : ∀ character ∈ Decimal.digits number, character.isDigit = true :=
      fun _ => Decimal.isDigit_of_mem_digits
    cases written : Decimal.digits number with
    | nil => exact absurd written Nat.toDigits_ne_nil
    | cons first rest =>
      rw [written, List.forall_mem_cons] at allDigits
      have positive : first ≠ '0' := by simpa [written] using noZero
      have unsigned : first ≠ '-' := by
        rintro rfl
        cases allDigits.1
      have begins : start? first = some whole := by
        simp [start?, next?, unsigned, positive, allDigits.1]
      rw [isLexeme, begins, Option.bind_some, foldlM_whole allDigits.2]
      rfl

end NumberState

namespace Value

theorem isSound_ofWord (word : UInt64) : (ofWord word).IsSound := by
  intro token member
  rw [List.mem_singleton.mp member]
  exact NumberState.isLexeme_digits word.toNat

theorem word?_ofWord (word : UInt64) : (ofWord word).word? = some word := Decimal.value?_digits word

/-- Names that need no escapes, none of them twice. -/
structure ArePlain (names : List String) : Prop where
  body : ∀ name ∈ names, StringState.isBody name.toList = true
  decoded : ∀ name ∈ names, Text.decode? name.toList = some name.toList
  distinct : names.Nodup

/-- What holds of the marks, of the names as keys and throughout the values holds throughout their record. -/
theorem forall_tokens_ofFields {Holds : Token → Prop} (marks : ∀ mark ∈ Token.marks, Holds mark) {names : List String}
    {values : List Value} (keys : ∀ name ∈ names, Holds (.string name.toList))
    (all : ∀ value ∈ values, ∀ token ∈ value.tokens, Holds token) :
    ∀ token ∈ (ofFields (names.zip values)).tokens, Holds token := by
  refine forall_tokens_object marks fun member inside => ?_
  obtain ⟨field, listed, rfl⟩ := List.mem_map.mp inside
  have both := List.of_mem_zip listed
  exact ⟨keys _ both.1, all _ both.2⟩

theorem mapM_map_eq_some {α β γ : Type} {items : List α} {written : α → β} {wanted : α → γ} {read : β → Option γ}
    (reads : ∀ item ∈ items, read (written item) = some (wanted item)) :
    (items.map written).mapM read = some (items.map wanted) := by
  induction items with
  | nil => rfl
  | cons item items ih =>
    rw [List.forall_mem_cons] at reads
    rw [List.map_cons, List.mapM_cons, reads.1, ih reads.2]
    rfl

theorem filter_eq_singleton {fields : List (String × Value)} {name : String} {value : Value}
    (distinct : (fields.map Prod.fst).Nodup) (member : (name, value) ∈ fields) :
    fields.filter (fun field => field.1 == name) = [(name, value)] := by
  induction fields with
  | nil => cases member
  | cons field fields ih =>
    rw [List.map_cons, List.nodup_cons] at distinct
    rcases List.mem_cons.mp member with rfl | later
    · have others : fields.filter (fun field => field.1 == name) = [] := by
        refine List.filter_eq_nil_iff.mpr fun other inside same => distinct.1 ?_
        exact List.mem_map.mpr ⟨other, inside, beq_iff_eq.mp same⟩
      rw [List.filter_cons_of_pos (by exact beq_self_eq_true name), others]
    · have different : ¬ (field.1 == name) = true := fun same =>
        distinct.1 (List.mem_map.mpr ⟨_, later, (beq_iff_eq.mp same).symm⟩)
      rw [List.filter_cons_of_neg (by exact different), ih distinct.2 later]

def members (fields : List (String × Value)) : List (List Char × Value) :=
  fields.map fun field => (field.1.toList, field.2)

theorem unique?_members {fields : List (String × Value)} {name : String} {value : Value}
    (distinct : (fields.map Prod.fst).Nodup) (member : (name, value) ∈ fields) :
    unique? (members fields) name = some value := by
  have key : ((fun member : List Char × Value => member.1 == name.toList) ∘
      fun field : String × Value => (field.1.toList, field.2)) = fun field => field.1 == name := by
    funext field
    exact Bool.eq_iff_iff.mpr (by simp [String.toList_inj])
  rw [unique?, members, List.filter_map, key, filter_eq_singleton distinct member]
  rfl

/-- A record is read as the values that were written under its names. -/
theorem ArePlain.fields?_ofFields {names : List String} (plain : ArePlain names) {values : List Value}
    (same : values.length = names.length) : fields? names (ofFields (names.zip values)) = some values := by
  have keys : (names.zip values).map Prod.fst = names := List.map_fst_zip (Nat.le_of_eq same.symm)
  have decoded : (members (names.zip values)).mapM (fun member => (Text.decode? member.1).map (·, member.2)) =
      some (members (names.zip values)) := by
    refine mapM_map_eq_some fun field inside => ?_
    rw [plain.decoded _ (List.of_mem_zip inside).1]
    rfl
  have found : ((names.zip values).map Prod.fst).mapM (unique? (members (names.zip values))) =
      some ((names.zip values).map Prod.snd) := by
    refine mapM_map_eq_some fun field inside => unique?_members ?_ inside
    rw [keys]
    exact plain.distinct
  rw [keys, List.map_snd_zip (Nat.le_of_eq same)] at found
  change Option.bind ((members _).mapM _) _ = _
  rw [decoded]
  exact found

end Value
end Json

open Json

namespace Progression

theorem plain_fieldNames : Value.ArePlain fieldNames := ⟨by decide, by decide, by decide⟩

theorem forall_tokens_toJson {Holds : Token → Prop} (marks : ∀ mark ∈ Token.marks, Holds mark)
    (keys : ∀ name ∈ fieldNames, Holds (.string name.toList))
    (numbers : ∀ word : UInt64, Holds (.number (Decimal.digits word.toNat))) (progression : Progression) :
    ∀ token ∈ progression.toJson.tokens, Holds token := by
  apply Value.forall_tokens_ofFields marks keys
  have word (word : UInt64) : ∀ token ∈ (Value.ofWord word).tokens, Holds token :=
    List.forall_mem_singleton.mpr (numbers word)
  simp only [List.forall_mem_cons]
  exact ⟨word _, word _, List.forall_mem_nil _⟩

theorem isSound_toJson (progression : Progression) : progression.toJson.IsSound :=
  progression.forall_tokens_toJson (by decide) plain_fieldNames.body fun word => NumberState.isLexeme_digits word.toNat

theorem ofJson?_toJson (progression : Progression) : ofJson? progression.toJson = some progression := by
  rw [ofJson?, toJson, plain_fieldNames.fields?_ofFields rfl]
  simp only [Option.bind_eq_bind, Option.bind_some, Value.word?_ofWord]
  rfl

theorem ofJsonText?_of_spelled {progression : Progression} {text : String}
    (spelled : Spelled progression.toJson.tokens text.toList) : ofJsonText? text = some progression := by
  rw [ofJsonText?, Value.ofText?_of_spelled progression.isSound_toJson spelled]
  exact ofJson?_toJson progression

end Progression

namespace Report

theorem plain_fieldNames : Value.ArePlain fieldNames := ⟨by decide, by decide, by decide⟩

theorem forall_tokens_toJson {Holds : Token → Prop} (marks : ∀ mark ∈ Token.marks, Holds mark)
    (keys : ∀ name ∈ fieldNames ++ Progression.fieldNames, Holds (.string name.toList))
    (numbers : ∀ word : UInt64, Holds (.number (Decimal.digits word.toNat))) (report : Report) :
    ∀ token ∈ report.toJson.tokens, Holds token := by
  obtain ⟨keys, itemKeys⟩ := List.forall_mem_append.mp keys
  apply Value.forall_tokens_ofFields marks keys
  have word (word : UInt64) : ∀ token ∈ (Value.ofWord word).tokens, Holds token :=
    List.forall_mem_singleton.mpr (numbers word)
  have listed : ∀ token ∈ (Value.array (report.progressions.map Progression.toJson)).tokens, Holds token := by
    refine Value.forall_tokens_array marks fun item member => ?_
    obtain ⟨progression, _, rfl⟩ := List.mem_map.mp member
    exact progression.forall_tokens_toJson marks itemKeys numbers
  simp only [List.forall_mem_cons]
  exact ⟨word _, word _, word _, word _, word _, word _, listed, List.forall_mem_nil _⟩

theorem isSound_toJson (report : Report) : report.toJson.IsSound :=
  report.forall_tokens_toJson (by decide) (by decide) fun word => NumberState.isLexeme_digits word.toNat

theorem ofJson?_toJson (report : Report) : ofJson? report.toJson = some report := by
  have listed : (report.progressions.map Progression.toJson).mapM Progression.ofJson? = some report.progressions := by
    have read : (report.progressions.map Progression.toJson).mapM Progression.ofJson? =
        some (report.progressions.map id) :=
      Value.mapM_map_eq_some fun progression _ => Progression.ofJson?_toJson progression
    rwa [List.map_id] at read
  rw [ofJson?, toJson, plain_fieldNames.fields?_ofFields rfl]
  simp only [Option.bind_eq_bind, Option.bind_some, Value.word?_ofWord, Value.items?, listed]
  rfl

theorem ofJsonText?_of_spelled {report : Report} {text : String}
    (spelled : Spelled report.toJson.tokens text.toList) : ofJsonText? text = some report := by
  rw [ofJsonText?, Value.ofText?_of_spelled report.isSound_toJson spelled]
  exact ofJson?_toJson report

/-- Both layouts lose nothing, whatever the numbers are and however the progressions are listed, and
so no text is the JSON of two reports. -/
theorem json_round_trip :
    (∀ report : Report, ofJsonText? report.indentedJson = some report ∧
      ofJsonText? report.compactJson = some report) ∧
    (∀ progression : Progression, Progression.ofJsonText? progression.compactJson = some progression) ∧
    ∀ one other : Report, one ≠ other →
      one.indentedJson ≠ other.indentedJson ∧ one.compactJson ≠ other.compactJson ∧
        one.indentedJson ≠ other.compactJson := by
  have indented (report : Report) : ofJsonText? report.indentedJson = some report :=
    ofJsonText?_of_spelled (Layout.spelled_indented report.toJson)
  have compact (report : Report) : ofJsonText? report.compactJson = some report :=
    ofJsonText?_of_spelled (Layout.spelled_compact report.toJson)
  refine ⟨fun report => ⟨indented report, compact report⟩,
    fun progression => Progression.ofJsonText?_of_spelled (Layout.spelled_compact progression.toJson), ?_⟩
  intro one other different
  have apart {first second : String} (readFirst : ofJsonText? first = some one)
      (readSecond : ofJsonText? second = some other) : first ≠ second := by
    rintro rfl
    exact different (Option.some.inj (readFirst.symm.trans readSecond))
  exact ⟨apart (indented one) (indented other), apart (compact one) (compact other),
    apart (indented one) (compact other)⟩

/-- The order in which progressions are listed is kept, for one. -/
theorem json_round_trip_of_reversed :
    let one : Report := ⟨0, 18446744073709551615, 3, 3, 3, 0, [⟨1, 18446744073709551615⟩, ⟨1, 0⟩, ⟨1, 0⟩]⟩
    let other : Report := { one with progressions := one.progressions.reverse }
    one ≠ other ∧ one.indentedJson ≠ other.indentedJson ∧ ofJsonText? other.compactJson = some other := by
  intro one other
  have different : one ≠ other := by decide
  exact ⟨different, (json_round_trip.2.2 one other different).1, (json_round_trip.1 other).2⟩

end Report
end SquareSums
