import SquareSums.Proofs.JsonLexemes
import SquareSums.Proofs.JsonReading

/-! What is read was written. A text is read as a value only if it spells the tokens of that value, with
sound numbers and strings; so reading decides the grammar. Scanner and reader each keep account of what
they have consumed, step by step. -/

namespace SquareSums.Json

theorem covers_of_foldlM {σ α : Type} {step : σ → α → Option σ} {Covers : σ → List α → Prop}
    (keeps : ∀ {state later item consumed}, Covers state consumed → step state item = some later →
      Covers later (consumed ++ [item]))
    {items consumed : List α} {start last : σ} (covers : Covers start consumed)
    (ran : items.foldlM step start = some last) : Covers last (consumed ++ items) := by
  induction items generalizing start consumed with
  | nil =>
    cases ran
    rwa [List.append_nil]
  | cons item items ih =>
    rw [List.foldlM_cons] at ran
    obtain ⟨later, stepped, ran⟩ := Option.bind_eq_some_iff.mp ran
    rw [List.append_cons]
    exact ih (keeps covers stepped) ran

theorem Spelled.concat {tokens : List Token} {text : List Char} (spelled : Spelled tokens text) (token : Token) :
    Spelled (tokens ++ [token]) (text ++ token.spelling) := by
  induction spelled with
  | @nil space blank =>
    have last : Spelled [token] (space ++ (token.spelling ++ [])) := .cons blank (.nil rfl)
    rwa [List.append_nil] at last
  | cons blank _ ih =>
    rw [List.append_assoc, List.append_assoc]
    exact .cons blank ih

inductive Pending.Holds : Pending → List Char → Prop where
  | nothing : Holds .nothing []
  | word {token : Token} {read left : List Char} (spelling : token.spelling = read ++ left)
      (sound : token.isSound = true) : Holds (.word token left) read
  | number {first : Char} {rest reversed : List Char} {start state : NumberState}
      (order : reversed.reverse = first :: rest) (begins : NumberState.start? first = some start)
      (read : rest.foldlM NumberState.next? start = some state) : Holds (.number reversed state) (first :: rest)
  | string {reversed : List Char} {state : StringState}
      (read : reversed.reverse.foldlM StringState.inside? .plain = some state) :
      Holds (.string reversed state) ('"' :: reversed.reverse)

namespace Scan

/-- The text consumed so far spells the finished tokens, all of them sound, and what is being read. -/
structure Covers (scan : Scan) (text : List Char) : Prop where
  sound : ∀ token ∈ scan.finished, token.isSound = true
  parts : ∃ before part, text = before ++ part ∧ Spelled scan.finished.reverse before ∧ scan.pending.Holds part

theorem spelling_of_markOf? {character : Char} {token : Token} (mark : markOf? character = some token) :
    token.spelling = [character] ∧ token.isSound = true := by
  unfold markOf? at mark
  iterate 6
    split at mark
    next same =>
      cases mark
      rw [beq_iff_eq.mp same]
      exact ⟨rfl, rfl⟩
  cases mark

theorem spelling_of_wordOf? {character : Char} {token : Token} (word : wordOf? character = some token) :
    token.spelling = [character] ++ token.spelling.tail ∧ token.isSound = true := by
  unfold wordOf? at word
  iterate 3
    split at word
    next same =>
      cases word
      rw [beq_iff_eq.mp same]
      exact ⟨rfl, rfl⟩
  cases word

theorem covers_of_start? {finished : List Token} {text : List Char} {character : Char} {later : Scan}
    (sound : ∀ token ∈ finished, token.isSound = true) (spelled : Spelled finished.reverse text)
    (started : start? finished character = some later) : later.Covers (text ++ [character]) := by
  unfold start? at started
  split at started
  next blank =>
    cases started
    have space : [character].all isBlank = true := by simpa using blank
    exact ⟨sound, _, [], (List.append_nil _).symm, spelled.append_blank space, .nothing⟩
  next =>
    split at started
    next quote =>
      cases started
      rw [beq_iff_eq.mp quote]
      exact ⟨sound, text, ['"'], rfl, spelled, .string rfl⟩
    next =>
      split at started
      next token mark =>
        cases started
        obtain ⟨spelling, alsoSound⟩ := spelling_of_markOf? mark
        have longer := spelled.concat token
        rw [spelling, ← List.reverse_cons] at longer
        exact ⟨List.forall_mem_cons.mpr ⟨alsoSound, sound⟩, _, [], (List.append_nil _).symm, longer, .nothing⟩
      next =>
        split at started
        next token word =>
          cases started
          obtain ⟨spelling, alsoSound⟩ := spelling_of_wordOf? word
          exact ⟨sound, text, [character], rfl, spelled, .word spelling alsoSound⟩
        next =>
          obtain ⟨state, begins, rfl⟩ := Option.map_eq_some_iff.mp started
          exact ⟨sound, text, [character], rfl, spelled, .number rfl begins rfl⟩

theorem covers_number {finished : List Token} {before part reversed : List Char} {state : NumberState}
    (sound : ∀ token ∈ finished, token.isSound = true) (spelled : Spelled finished.reverse before)
    (holds : Pending.Holds (.number reversed state) part) (complete : state.isComplete = true) :
    (∀ token ∈ Token.number reversed.reverse :: finished, token.isSound = true) ∧
      Spelled (Token.number reversed.reverse :: finished).reverse (before ++ part) := by
  cases holds with
  | @number first rest _ start _ order begins read =>
    have whole : (Token.number reversed.reverse).isSound = true := by
      rw [order]
      simp only [Token.isSound, NumberState.isLexeme, begins, Option.bind_some, read, Option.any_some, complete]
    have longer := spelled.concat (.number reversed.reverse)
    rw [← List.reverse_cons] at longer
    refine ⟨List.forall_mem_cons.mpr ⟨whole, sound⟩, ?_⟩
    rwa [← order]

theorem covers_next? {scan later : Scan} {text : List Char} {character : Char} (covers : scan.Covers text)
    (stepped : scan.next? character = some later) : later.Covers (text ++ [character]) := by
  obtain ⟨sound, before, part, rfl, spelled, holds⟩ := covers
  obtain ⟨finished, pending⟩ := scan
  cases pending with
  | nothing =>
    cases holds
    rw [List.append_nil]
    exact covers_of_start? sound spelled stepped
  | word token left =>
    cases holds with
    | word spelling alsoSound =>
      cases left with
      | nil => cases stepped
      | cons expected left =>
        obtain ⟨same, stepped⟩ := Option.ite_none_left_eq_some.mp stepped
        rw [← not_not.mp same, List.append_cons] at spelling
        cases left with
        | nil =>
          cases stepped
          have longer := spelled.concat token
          rw [spelling, List.append_nil, ← List.append_assoc, ← List.reverse_cons] at longer
          exact ⟨List.forall_mem_cons.mpr ⟨alsoSound, sound⟩, _, [], (List.append_nil _).symm, longer, .nothing⟩
        | cons next left =>
          cases stepped
          exact ⟨sound, before, _, List.append_assoc _ _ _, spelled, .word spelling alsoSound⟩
  | number reversed state =>
    simp only [next?] at stepped
    cases next : state.next? character with
    | some further =>
      simp only [next, Option.some.injEq] at stepped
      subst stepped
      cases holds with
      | number order begins read =>
        refine ⟨sound, before, _, List.append_assoc _ _ _, spelled, ?_⟩
        rw [List.cons_append]
        refine .number ?_ begins ?_
        · rw [List.reverse_cons, order, List.cons_append]
        · rw [List.foldlM_append, read]
          simp [next]
    | none =>
      simp only [next] at stepped
      obtain ⟨complete, stepped⟩ := Option.ite_none_right_eq_some.mp stepped
      obtain ⟨sound, spelled⟩ := covers_number sound spelled holds complete
      exact covers_of_start? sound spelled stepped
  | string reversed state =>
    cases holds with
    | string read =>
      simp only [next?] at stepped
      split at stepped
      next closed =>
        obtain ⟨rfl, rfl⟩ := closed
        cases stepped
        have whole : (Token.string reversed.reverse).isSound = true := beq_iff_eq.mpr read
        have longer := spelled.concat (.string reversed.reverse)
        rw [← List.reverse_cons] at longer
        refine ⟨List.forall_mem_cons.mpr ⟨whole, sound⟩, _, [], (List.append_nil _).symm, ?_, .nothing⟩
        rwa [List.append_assoc]
      next inside =>
        obtain ⟨further, next, rfl⟩ := Option.map_eq_some_iff.mp stepped
        have held : StringState.inside? state character = some further := by rwa [StringState.inside?, if_neg inside]
        have longer : Pending.Holds (.string (character :: reversed) further)
            ('"' :: (character :: reversed).reverse) := by
          refine .string ?_
          rw [List.reverse_cons, List.foldlM_append, read]
          simp [held]
        rw [List.reverse_cons] at longer
        exact ⟨sound, before, _, List.append_assoc _ _ _, spelled, longer⟩

theorem spelled_of_tokens? {scan : Scan} {text : List Char} {tokens : List Token} (covers : scan.Covers text)
    (ended : scan.tokens? = some tokens) : Spelled tokens text ∧ ∀ token ∈ tokens, token.isSound = true := by
  obtain ⟨sound, before, part, rfl, spelled, holds⟩ := covers
  obtain ⟨finished, pending⟩ := scan
  cases pending with
  | nothing =>
    cases holds
    cases ended
    rw [List.append_nil]
    exact ⟨spelled, fun token member => sound token (List.mem_reverse.mp member)⟩
  | number reversed state =>
    obtain ⟨complete, ended⟩ := Option.ite_none_right_eq_some.mp ended
    cases ended
    obtain ⟨sound, spelled⟩ := covers_number sound spelled holds complete
    exact ⟨spelled, fun token member => sound token (List.mem_reverse.mp member)⟩
  | word token left => cases ended
  | string reversed state => cases ended

end Scan

theorem spelled_of_tokens? {text : List Char} {tokens : List Token} (read : tokens? text = some tokens) :
    Spelled tokens text ∧ ∀ token ∈ tokens, token.isSound = true := by
  obtain ⟨last, ran, ended⟩ := Option.bind_eq_some_iff.mp read
  have start : Scan.Covers ⟨[], .nothing⟩ [] := ⟨List.forall_mem_nil _, [], [], rfl, .nil rfl, .nothing⟩
  exact Scan.spelled_of_tokens? (covers_of_foldlM Scan.covers_next? start ran) ended

namespace Value

def itemTokens (item : Value) : List Token := item.tokens ++ [.comma]

def memberTokens (member : List Char × Value) : List Token :=
  .string member.1 :: .colon :: (member.2.tokens ++ [.comma])

theorem itemsTokens_concat (items : List Value) (last : Value) :
    itemsTokens (items ++ [last]) = .comma :: (items.flatMap itemTokens ++ (last.tokens ++ [.closeBracket])) := by
  induction items with
  | nil => rfl
  | cons item items ih =>
    rw [List.cons_append, itemsTokens, ih, List.flatMap_cons, itemTokens]
    simp

theorem tokens_array_concat (items : List Value) (last : Value) :
    (array (items ++ [last])).tokens =
      .openBracket :: (items.flatMap itemTokens ++ (last.tokens ++ [.closeBracket])) := by
  cases items with
  | nil => rw [List.nil_append, tokens]; rfl
  | cons item items =>
    rw [List.cons_append, tokens, itemsTokens_concat, List.flatMap_cons, itemTokens]
    simp

theorem membersTokens_concat (members : List (List Char × Value)) (key : List Char) (last : Value) :
    membersTokens (members ++ [(key, last)]) =
      .comma :: (members.flatMap memberTokens ++ .string key :: .colon :: (last.tokens ++ [.closeBrace])) := by
  induction members with
  | nil => rfl
  | cons member members ih =>
    rw [List.cons_append, membersTokens, ih, List.flatMap_cons, memberTokens]
    simp

theorem tokens_object_concat (members : List (List Char × Value)) (key : List Char) (last : Value) :
    (object (members ++ [(key, last)])).tokens =
      .openBrace :: (members.flatMap memberTokens ++ .string key :: .colon :: (last.tokens ++ [.closeBrace])) := by
  cases members with
  | nil => rw [List.nil_append, tokens]; rfl
  | cons member members =>
    rw [List.cons_append, tokens, membersTokens_concat, List.flatMap_cons, memberTokens]
    simp

/-- The tokens that have begun the frames and filled them so far. -/
def framesTokens : List Frame → List Token
  | [] => []
  | .array items :: frames => framesTokens frames ++ .openBracket :: items.reverse.flatMap itemTokens
  | .object members key :: frames =>
    framesTokens frames ++ .openBrace :: (members.reverse.flatMap memberTokens ++ [.string key, .colon])

namespace Reading

def consumed : Reading → List Token
  | awaitValue frames => framesTokens frames
  | awaitItem frames => framesTokens frames ++ [.openBracket]
  | awaitFirstKey frames => framesTokens frames ++ [.openBrace]
  | awaitKey members frames => framesTokens frames ++ .openBrace :: members.reverse.flatMap memberTokens
  | awaitColon members key frames =>
    framesTokens frames ++ .openBrace :: (members.reverse.flatMap memberTokens ++ [.string key])
  | after value frames => framesTokens frames ++ value.tokens

theorem consumed_beginValue? {frames : List Frame} {token : Token} {later : Reading}
    (begun : beginValue? frames token = some later) : later.consumed = framesTokens frames ++ [token] := by
  cases token <;> cases begun <;> simp [consumed, tokens]

theorem consumed_endValue? {item : Value} {frames : List Frame} {token : Token} {later : Reading}
    (ended : endValue? item frames token = some later) :
    later.consumed = framesTokens frames ++ item.tokens ++ [token] := by
  unfold endValue? at ended
  split at ended <;> cases ended
  next => simp [consumed, framesTokens, itemTokens]
  next => simp [consumed, framesTokens, tokens_array_concat]
  next => simp [consumed, framesTokens, memberTokens]
  next => simp [consumed, framesTokens, tokens_object_concat]

theorem consumed_next? {reading later : Reading} {token : Token} (stepped : reading.next? token = some later) :
    later.consumed = reading.consumed ++ [token] := by
  unfold next? at stepped
  split at stepped
  next => exact consumed_beginValue? stepped
  next => cases stepped; simp [consumed, tokens]
  next => rw [consumed_beginValue? stepped]; simp [consumed, framesTokens]
  next => cases stepped; simp [consumed, tokens]
  next => cases stepped; simp [consumed]
  next => cases stepped; simp [consumed]
  next => cases stepped; simp [consumed, framesTokens]
  next => exact consumed_endValue? stepped
  next => cases stepped

end Reading

theorem ofTokens?_eq_some_iff {tokens : List Token} {value : Value} :
    ofTokens? tokens = some value ↔ tokens = value.tokens := by
  constructor
  · intro read
    obtain ⟨last, ran, ended⟩ := Option.bind_eq_some_iff.mp read
    have kept : last.consumed = tokens := by
      refine @covers_of_foldlM _ _ _ (fun reading read => reading.consumed = read) ?_ _ _ _ _ rfl ran
      rintro reading later token _ rfl stepped
      exact Reading.consumed_next? stepped
    unfold Reading.value? at ended
    split at ended <;> cases ended
    exact kept.symm
  · rintro rfl
    exact ofTokens?_tokens value

/-- The text is JSON of the value: it spells its tokens in their order with nothing but white space around
them, and every number and every string in it, at any depth, is well-formed. -/
structure IsText (value : Value) (text : String) : Prop where
  spelled : Spelled value.tokens text.toList
  numbers : ∀ lexeme, .number lexeme ∈ value.tokens → IsNumber lexeme
  strings : ∀ body, .string body ∈ value.tokens → IsBody body

theorem isText_iff {value : Value} {text : String} :
    value.IsText text ↔ value.IsSound ∧ Spelled value.tokens text.toList := by
  constructor
  · intro isText
    refine ⟨fun token member => ?_, isText.spelled⟩
    cases token with
    | number lexeme => exact (NumberState.isLexeme_iff lexeme).mpr (isText.numbers lexeme member)
    | string body => exact (StringState.isBody_iff body).mpr (isText.strings body member)
    | _ => rfl
  · rintro ⟨sound, spelled⟩
    exact ⟨spelled, fun lexeme member => (NumberState.isLexeme_iff lexeme).mp (sound _ member),
      fun body member => (StringState.isBody_iff body).mp (sound _ member)⟩

/-- A text is read as a value exactly if it is JSON of that value. -/
theorem ofText?_eq_some_iff {text : String} {value : Value} : ofText? text = some value ↔ value.IsText text := by
  rw [isText_iff]
  constructor
  · intro read
    obtain ⟨tokens, scanned, parsed⟩ := Option.bind_eq_some_iff.mp read
    obtain ⟨spelled, sound⟩ := spelled_of_tokens? scanned
    rw [ofTokens?_eq_some_iff] at parsed
    subst parsed
    exact ⟨sound, spelled⟩
  · rintro ⟨sound, spelled⟩
    exact ofText?_of_spelled sound spelled

end Value
end SquareSums.Json
