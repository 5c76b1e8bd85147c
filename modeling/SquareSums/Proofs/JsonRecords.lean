import SquareSums.Proofs.JsonGrammar
import SquareSums.Proofs.JsonKeys
import SquareSums.Proofs.ListRelations
import SquareSums.Proofs.ReportJson

/-! Which texts are records. An object is one if each field has its name exactly once and a value of its kind;
the order of the members, the spelling of the keys and members of other names play no part. An array is
one if it has just the values of the fields, in their order. -/

namespace SquareSums

namespace Json

theorem IsNumber.isWhole {lexeme : List Char} (isNumber : IsNumber lexeme) (digits : AreDigits lexeme) :
    IsWhole lexeme := by
  obtain ⟨sign, _, rfl, isSign, whole, _, rfl, isWhole, fraction, exponent, rfl, isFraction, isExponent⟩ := isNumber
  simp only [AreDigits, List.forall_mem_append] at digits
  obtain ⟨inSign, -, inFraction, inExponent⟩ := digits
  have noSign : sign = [] := by
    refine isSign.resolve_right ?_
    rintro rfl
    exact absurd (inSign '-' (List.mem_singleton_self _)) (by decide)
  have noFraction : fraction = [] := by
    refine isFraction.resolve_right ?_
    rintro ⟨after, rfl, _⟩
    exact absurd (inFraction '.' List.mem_cons_self) (by decide)
  have noExponent : exponent = [] := by
    refine isExponent.resolve_right ?_
    rintro ⟨mark, after, rfl, rfl | rfl, _⟩
    · exact absurd (inExponent 'e' List.mem_cons_self) (by decide)
    · exact absurd (inExponent 'E' List.mem_cons_self) (by decide)
  rwa [noSign, noFraction, noExponent, List.nil_append, List.append_nil, List.append_nil]

theorem IsWhole.areSomeDigits {lexeme : List Char} (isWhole : IsWhole lexeme) : AreSomeDigits lexeme := by
  rcases isWhole with rfl | ⟨digits, _⟩
  · simp [AreSomeDigits, AreDigits]
  · exact digits

namespace Value

/-- The members of an object, with each key as the characters that it spells. -/
def Keyed (members entries : List (List Char × Value)) : Prop :=
  List.Forall₂ (fun member entry => Text.Spells entry.1 member.1 ∧ entry.2 = member.2) members entries

/-- One entry and no other has the name, and this is its value. -/
def Once (entries : List (List Char × Value)) (name : String) (value : Value) : Prop :=
  entries.filter (·.1 == name.toList) = [(name.toList, value)]

/-- The values of the named fields. An object gives each of them once under its name, in any order and beside
members of other names; an array gives just them, in the order of the names. -/
inductive IsRecord (names : List String) : Value → List Value → Prop where
  | object {members entries : List (List Char × Value)} {values : List Value} (keyed : Keyed members entries)
      (once : List.Forall₂ (Once entries) names values) : IsRecord names (.object members) values
  | array {values : List Value} (complete : values.length = names.length) : IsRecord names (.array values) values

/-- A number of digits alone, without a zero in front of others, that writes the word. -/
def IsWord (value : Value) (word : UInt64) : Prop :=
  ∃ lexeme, value = .number lexeme ∧ IsWhole lexeme ∧ Nat.ofDigitChars 10 lexeme 0 = word.toNat

theorem keyed_iff {members entries : List (List Char × Value)} :
    (members.mapM fun member => (Text.decode? member.1).map (·, member.2)) = some entries ↔ Keyed members entries := by
  rw [mapM_eq_some_iff]
  refine forall₂_congr fun member _ entry => ?_
  rw [Option.map_eq_some_iff]
  constructor
  · rintro ⟨characters, decoded, rfl⟩
    exact ⟨Text.decode?_eq_some_iff.mp decoded, rfl⟩
  · rintro ⟨spells, same⟩
    exact ⟨entry.1, Text.decode?_eq_some_iff.mpr spells, Prod.ext rfl same.symm⟩

theorem unique?_eq_some_iff {entries : List (List Char × Value)} {name : String} {value : Value} :
    unique? entries name = some value ↔ Once entries name value := by
  rw [unique?, Once]
  constructor
  · intro found
    split at found
    next key _ alone =>
      cases found
      have named : (key, value) ∈ entries.filter (·.1 == name.toList) := alone ▸ List.mem_singleton_self _
      have same : key = name.toList := beq_iff_eq.mp (List.mem_filter.mp named).2
      rw [alone, same]
    next => cases found
  · intro alone
    rw [alone]

theorem fields?_eq_some_iff {names : List String} {value : Value} {values : List Value} :
    value.fields? names = some values ↔ value.IsRecord names values := by
  constructor
  · intro read
    cases value with
    | object members =>
      obtain ⟨entries, decoded, found⟩ := Option.bind_eq_some_iff.mp read
      exact .object (keyed_iff.mp decoded) ((mapM_eq_some_iff.mp found).imp fun _ _ => unique?_eq_some_iff.mp)
    | array items =>
      obtain ⟨complete, same⟩ := Option.ite_none_right_eq_some.mp read
      cases same
      exact .array complete
    | _ => cases read
  · intro isRecord
    cases isRecord with
    | object keyed once =>
      have found := mapM_eq_some_iff.mpr (once.imp fun _ _ => unique?_eq_some_iff.mpr)
      exact Option.bind_eq_some_iff.mpr ⟨_, keyed_iff.mpr keyed, found⟩
    | array complete => exact if_pos complete

theorem word?_eq_some_iff {value : Value} {word : UInt64} (sound : value.IsSound) :
    value.word? = some word ↔ value.IsWord word := by
  constructor
  · intro read
    cases value with
    | number lexeme =>
      obtain ⟨_, digits, written⟩ := Decimal.value?_eq_some_iff.mp read
      have isNumber := (NumberState.isLexeme_iff lexeme).mp (sound _ (List.mem_singleton_self _))
      exact ⟨lexeme, rfl, isNumber.isWhole digits, written⟩
    | _ => cases read
  · rintro ⟨lexeme, rfl, isWhole, written⟩
    exact Decimal.value?_eq_some_iff.mpr ⟨isWhole.areSomeDigits.1, isWhole.areSomeDigits.2, written⟩

theorem items?_eq_some_iff {value : Value} {items : List Value} : value.items? = some items ↔ value = array items := by
  cases value <;> simp [items?]

theorem IsRecord.isSound {names : List String} {value : Value} {values : List Value}
    (isRecord : value.IsRecord names values) (sound : value.IsSound) : ∀ field ∈ values, field.IsSound := by
  cases isRecord with
  | array complete => exact sound.item
  | object keyed once =>
    intro field given
    obtain ⟨name, _, alone⟩ := exists_of_forall₂ once field given
    have listed : (name.toList, field) ∈ _ := List.mem_of_mem_filter (alone ▸ List.mem_singleton_self _)
    obtain ⟨member, inside, _, rfl⟩ := exists_of_forall₂ keyed _ listed
    exact sound.member member inside

theorem Keyed.eq {members entries others : List (List Char × Value)} (keyed : Keyed members entries)
    (also : Keyed members others) : entries = others :=
  Option.some.inj ((keyed_iff.mpr keyed).symm.trans (keyed_iff.mpr also))

theorem IsRecord.eq {names : List String} {value : Value} {values others : List Value}
    (isRecord : value.IsRecord names values) (also : value.IsRecord names others) : values = others :=
  Option.some.inj ((fields?_eq_some_iff.mpr isRecord).symm.trans (fields?_eq_some_iff.mpr also))

theorem IsRecord.length_eq {names : List String} {value : Value} {values : List Value}
    (isRecord : value.IsRecord names values) : values.length = names.length := by
  cases isRecord with
  | object _ once => exact once.length_eq.symm
  | array complete => exact complete

theorem isRecord_object_iff {names : List String} {members entries : List (List Char × Value)}
    {values : List Value} (keyed : Keyed members entries) :
    (object members).IsRecord names values ↔ List.Forall₂ (Once entries) names values := by
  constructor
  · intro isRecord
    cases isRecord with
    | object also once => rwa [keyed.eq also]
  · exact .object keyed

def known (names : List String) (entries : List (List Char × Value)) : List (List Char × Value) :=
  entries.filter fun entry => names.any (·.toList == entry.1)

theorem once_known_iff {names : List String} {entries : List (List Char × Value)} {name : String}
    (member : name ∈ names) {value : Value} : Once (known names entries) name value ↔ Once entries name value := by
  have same : (known names entries).filter (·.1 == name.toList) = entries.filter (·.1 == name.toList) := by
    rw [known, List.filter_filter]
    refine List.filter_congr fun entry _ => ?_
    rw [Bool.and_eq_left_iff_imp]
    exact fun named => List.any_eq_true.mpr ⟨name, member, beq_iff_eq.mpr (beq_iff_eq.mp named).symm⟩
  rw [Once, Once, same]

/-- The order of the entries does not matter, nor do those of other names. -/
theorem forall₂_once_congr {names : List String} {entries others : List (List Char × Value)} {values : List Value}
    (alike : (known names entries).Perm (known names others)) :
    List.Forall₂ (Once entries) names values ↔ List.Forall₂ (Once others) names values := by
  refine forall₂_congr fun name member value => ?_
  rw [← once_known_iff member, ← @once_known_iff _ others _ member, Once, Once]
  constructor
  · intro alone
    exact List.perm_singleton.mp (alone ▸ (alike.filter _).symm)
  · intro alone
    exact List.perm_singleton.mp (alone ▸ alike.filter _)

end Value

section Records

open Value

variable {α : Type}

/-- How records are read from text, where the named fields must have values that fit the record. -/
structure ReadsRecords (read : String → Option α) (names : List String) (Fits : List Value → α → Prop) : Prop where
  /-- A text is read as a record exactly if it is JSON that gives each field once and a value that fits. -/
  exactly : ∀ text record, read text = some record ↔
    ∃ value : Value, value.IsText text ∧ ∃ values, value.IsRecord names values ∧ Fits values record
  /-- Nothing else about an object matters. -/
  anyOrder : ∀ {text other : String} {members entries otherMembers otherEntries : List (List Char × Value)},
    (object members).IsText text → Keyed members entries →
    (object otherMembers).IsText other → Keyed otherMembers otherEntries →
    (known names entries).Perm (known names otherEntries) → read text = read other
  /-- An array of the values in their order stands for an object of the fields. -/
  inOrder : ∀ {text other : String} {values : List Value} {members entries : List (List Char × Value)},
    (array values).IsText text → (object members).IsText other → Keyed members entries →
    List.Forall₂ (Once entries) names values → read text = read other

theorem readsRecords {ofJson? : Value → Option α} {names : List String} {Fits : List Value → α → Prop}
    (decodes : ∀ {value : Value} {record : α}, value.IsSound →
      (ofJson? value = some record ↔ ∃ values, value.IsRecord names values ∧ Fits values record)) :
    ReadsRecords (fun text => (ofText? text).bind ofJson?) names Fits := by
  have decided {value : Value} {text : String} (isText : value.IsText text) (record : α) :
      (ofText? text).bind ofJson? = some record ↔ ∃ values, value.IsRecord names values ∧ Fits values record := by
    rw [ofText?_eq_some_iff.mpr isText, Option.bind_some]
    exact decodes (isText_iff.mp isText).1
  constructor
  · intro text record
    constructor
    · intro read
      obtain ⟨value, ofText, _⟩ := Option.bind_eq_some_iff.mp read
      have isText := ofText?_eq_some_iff.mp ofText
      exact ⟨value, isText, (decided isText record).mp read⟩
    · rintro ⟨value, isText, fields⟩
      exact (decided isText record).mpr fields
  · intro text other members entries otherMembers otherEntries isText keyed otherIsText otherKeyed alike
    refine Option.ext fun record => ?_
    rw [decided isText, decided otherIsText]
    simp only [isRecord_object_iff keyed, isRecord_object_iff otherKeyed, forall₂_once_congr alike]
  · intro text other values members entries isText otherIsText keyed once
    have sole {value : Value} (isRecord : value.IsRecord names values) (record : α) :
        (∃ given, value.IsRecord names given ∧ Fits given record) ↔ Fits values record := by
      constructor
      · rintro ⟨given, also, fits⟩
        rwa [isRecord.eq also]
      · exact fun fits => ⟨values, isRecord, fits⟩
    refine Option.ext fun record => ?_
    rw [decided isText, decided otherIsText, sole (.array once.length_eq.symm), sole (.object keyed once)]

end Records
end Json

open Json

namespace Progression

def Fits (values : List Value) (progression : Progression) : Prop :=
  List.Forall₂ Value.IsWord values [progression.difference, progression.first]

def IsWritten (value : Value) (progression : Progression) : Prop :=
  ∃ values, value.IsRecord fieldNames values ∧ Fits values progression

theorem ofJson?_eq_some_iff {value : Value} {progression : Progression} (sound : value.IsSound) :
    ofJson? value = some progression ↔ IsWritten value progression := by
  rw [ofJson?, Option.bind_eq_bind, Option.bind_eq_some_iff]
  refine exists_congr fun values => ?_
  rw [Value.fields?_eq_some_iff]
  refine and_congr_right fun isRecord => ?_
  have sounds := isRecord.isSound sound
  obtain ⟨difference, first, rfl⟩ := List.length_eq_two.mp isRecord.length_eq
  simp only [List.forall_mem_cons] at sounds
  simp only [Fits, List.forall₂_cons, Option.bind_eq_bind, Option.bind_eq_some_iff, Value.word?_eq_some_iff sounds.1,
    Value.word?_eq_some_iff sounds.2.1]
  constructor
  · rintro ⟨_, isDifference, _, isFirst, ⟨⟩⟩
    exact ⟨isDifference, isFirst, .nil⟩
  · rintro ⟨isDifference, isFirst, _⟩
    exact ⟨_, isDifference, _, isFirst, rfl⟩

theorem mapM_ofJson?_eq_some_iff {items : List Value} {progressions : List Progression}
    (sound : ∀ item ∈ items, item.IsSound) :
    items.mapM ofJson? = some progressions ↔ List.Forall₂ IsWritten items progressions := by
  rw [mapM_eq_some_iff]
  exact forall₂_congr fun item member _ => ofJson?_eq_some_iff (sound item member)

end Progression

namespace Report

def Fits (values : List Value) (report : Report) : Prop :=
  ∃ words items, values = words ++ [.array items] ∧
    List.Forall₂ Value.IsWord words
      [report.length, report.bound, report.tableSize, report.bisquareCount, report.pairsTested, report.elapsedMs] ∧
    List.Forall₂ Progression.IsWritten items report.progressions

theorem ofJson?_eq_some_iff {value : Value} {report : Report} (sound : value.IsSound) :
    ofJson? value = some report ↔ ∃ values, value.IsRecord fieldNames values ∧ Fits values report := by
  rw [ofJson?, Option.bind_eq_bind, Option.bind_eq_some_iff]
  refine exists_congr fun values => ?_
  rw [Value.fields?_eq_some_iff]
  refine and_congr_right fun isRecord => ?_
  have sounds := isRecord.isSound sound
  obtain ⟨length, bound, tableSize, bisquareCount, pairsTested, elapsedMs, progressions, rfl⟩ :=
    exists_seven isRecord.length_eq
  simp only [List.forall_mem_cons] at sounds
  obtain ⟨first, second, third, fourth, fifth, sixth, seventh, _⟩ := sounds
  simp only [Fits, Option.bind_eq_bind, Option.bind_eq_some_iff, Value.items?_eq_some_iff,
    Value.word?_eq_some_iff first, Value.word?_eq_some_iff second, Value.word?_eq_some_iff third,
    Value.word?_eq_some_iff fourth, Value.word?_eq_some_iff fifth, Value.word?_eq_some_iff sixth]
  constructor
  · rintro ⟨_, isLength, _, isBound, _, isSize, _, isCount, _, isTested, _, isElapsed, items, rfl, _, read, ⟨⟩⟩
    refine ⟨[length, bound, tableSize, bisquareCount, pairsTested, elapsedMs], items, rfl, ?_, ?_⟩
    · exact .cons isLength (.cons isBound (.cons isSize (.cons isCount (.cons isTested (.cons isElapsed .nil)))))
    · exact (Progression.mapM_ofJson?_eq_some_iff seventh.item).mp read
  · rintro ⟨words, items, same, areWords, written⟩
    simp only [List.forall₂_cons_right_iff, List.forall₂_nil_right_iff] at areWords
    obtain ⟨_, _, isLength, ⟨_, _, isBound, ⟨_, _, isSize, ⟨_, _, isCount, ⟨_, _, isTested, ⟨_, _, isElapsed,
      rfl, rfl⟩, rfl⟩, rfl⟩, rfl⟩, rfl⟩, rfl⟩ := areWords
    cases same
    exact ⟨_, isLength, _, isBound, _, isSize, _, isCount, _, isTested, _, isElapsed, items, rfl, _,
      (Progression.mapM_ofJson?_eq_some_iff seventh.item).mpr written, rfl⟩

/-- Each known key counts, once, and nothing else does, for reports as for the progressions in them. -/
theorem reads_records :
    ReadsRecords Progression.ofJsonText? Progression.fieldNames Progression.Fits ∧
      ReadsRecords ofJsonText? fieldNames Fits :=
  ⟨readsRecords Progression.ofJson?_eq_some_iff, readsRecords ofJson?_eq_some_iff⟩

/-- Two ways to write one progression, and another way to write what is written of one report. -/
theorem reads_records_of_shuffled :
    let report : Report := ⟨0, 1, 2, 3, 4, 5, [⟨12, 1⟩]⟩
    Progression.ofJsonText? "\x7b\"first\": 1, \"more\": [\x7b\x7d], \"\\u0064ifference\": 12\x7d" =
        Progression.ofJsonText? "\x7b\"difference\":12,\"first\":1\x7d" ∧
      ofJsonText? "[0, 1, 2, 3, 4, 5, [\x7b\"difference\": 12, \"first\": 1\x7d]]" =
        ofJsonText? report.compactJson := by
  intro report
  have shuffled : (Value.object [("first".toList, .number ['1']), ("more".toList, .array [.object []]),
      ("\\u0064ifference".toList, .number ['1', '2'])]).IsText
        "\x7b\"first\": 1, \"more\": [\x7b\x7d], \"\\u0064ifference\": 12\x7d" :=
    Value.ofText?_eq_some_iff.mp rfl
  have plain : (Value.object [("difference".toList, .number ['1', '2']), ("first".toList, .number ['1'])]).IsText
      "\x7b\"difference\":12,\"first\":1\x7d" :=
    Value.ofText?_eq_some_iff.mp rfl
  have listed : (Value.array [.ofWord 0, .ofWord 1, .ofWord 2, .ofWord 3, .ofWord 4, .ofWord 5,
      .array [Progression.toJson ⟨12, 1⟩]]).IsText
        "[0, 1, 2, 3, 4, 5, [\x7b\"difference\": 12, \"first\": 1\x7d]]" :=
    Value.ofText?_eq_some_iff.mp rfl
  have written : report.toJson.IsText report.compactJson :=
    Value.isText_iff.mpr ⟨isSound_toJson report, Layout.spelled_compact report.toJson⟩
  exact ⟨reads_records.1.anyOrder shuffled (Value.keyed_iff.mp rfl) plain (Value.keyed_iff.mp rfl) (.swap _ _ _),
    reads_records.2.inOrder listed written (Value.keyed_iff.mp rfl)
      (.cons rfl (.cons rfl (.cons rfl (.cons rfl (.cons rfl (.cons rfl (.cons rfl .nil)))))))⟩

end Report
end SquareSums
