import Mathlib.Data.List.Chain
import SquareSums.Json.Layout

/-! A text that spells tokens, with white space around them and nothing else, is read as those tokens.
Of all tokens only a number can run on into what follows it, so no two numbers may be neighbours. -/

namespace SquareSums.Json

/-- The text holds the tokens in their order, as they are spelled, and white space besides. -/
inductive Spelled : List Token → List Char → Prop where
  | nil {space : List Char} (blank : space.all isBlank = true) : Spelled [] space
  | cons {space text : List Char} {token : Token} {tokens : List Token} (blank : space.all isBlank = true)
      (rest : Spelled tokens text) : Spelled (token :: tokens) (space ++ (token.spelling ++ text))

theorem Spelled.append_blank {tokens : List Token} {text space : List Char} (spelled : Spelled tokens text)
    (blank : space.all isBlank = true) : Spelled tokens (text ++ space) := by
  induction spelled with
  | nil before => exact .nil (by rw [List.all_append, before, blank]; rfl)
  | cons before _ ih =>
    rw [List.append_assoc, List.append_assoc]
    exact .cons before ih

namespace NumberState

def isLexeme : List Char → Bool
  | [] => false
  | first :: rest => ((start? first).bind fun start => rest.foldlM next? start).any isComplete

end NumberState

namespace StringState

def inside? (state : StringState) (character : Char) : Option StringState :=
  if state = plain ∧ character = '"' then none else state.next? character

/-- What may stand between two quotes: every escape is complete, and no quote is bare. -/
def isBody (body : List Char) : Bool := body.foldlM inside? plain == some plain

end StringState

/-- No number goes on with the character. -/
def EndsNumber (character : Char) : Prop := ∀ state : NumberState, state.next? character = none

theorem endsNumber_of_isBlank {character : Char} (blank : isBlank character = true) : EndsNumber character := by
  intro state
  simp only [isBlank, Bool.or_eq_true, beq_iff_eq] at blank
  rcases blank with ((rfl | rfl) | rfl) | rfl <;> cases state <;> rfl

namespace Token

def isSound : Token → Bool
  | number lexeme => NumberState.isLexeme lexeme
  | string body => StringState.isBody body
  | _ => true

def isNumber : Token → Bool
  | number _ => true
  | _ => false

def Apart (previous next : Token) : Prop := previous.isNumber = true → next.isNumber = false

theorem spelling_of_not_number {token : Token} (other : token.isNumber = false) :
    ∃ first rest, token.spelling = first :: rest ∧ EndsNumber first := by
  cases token with
  | number lexeme => cases other
  | boolean value => cases value <;> exact ⟨_, _, rfl, fun state => by cases state <;> rfl⟩
  | string body => exact ⟨'"', body ++ ['"'], rfl, fun state => by cases state <;> rfl⟩
  | _ => exact ⟨_, _, rfl, fun state => by cases state <;> rfl⟩

end Token

namespace Scan

theorem foldlM_number {rest : List Char} {state last : NumberState} (finished : List Token) (reversed : List Char)
    (read : rest.foldlM NumberState.next? state = some last) :
    rest.foldlM next? ⟨finished, .number reversed state⟩ = some ⟨finished, .number (rest.reverse ++ reversed) last⟩ := by
  induction rest generalizing reversed state with
  | nil =>
    cases read
    rfl
  | cons character rest ih =>
    rw [List.foldlM_cons] at read ⊢
    obtain ⟨later, stepped, read⟩ := Option.bind_eq_some_iff.mp read
    have step : next? ⟨finished, .number reversed state⟩ character =
        some ⟨finished, .number (character :: reversed) later⟩ := by
      simp only [next?, stepped]
    rw [step, List.reverse_cons, List.append_assoc]
    exact ih (character :: reversed) read

theorem foldlM_string {body : List Char} {state last : StringState} (finished : List Token) (reversed : List Char)
    (read : body.foldlM StringState.inside? state = some last) :
    body.foldlM next? ⟨finished, .string reversed state⟩ = some ⟨finished, .string (body.reverse ++ reversed) last⟩ := by
  induction body generalizing reversed state with
  | nil =>
    cases read
    rfl
  | cons character body ih =>
    rw [List.foldlM_cons] at read ⊢
    obtain ⟨later, stepped, read⟩ := Option.bind_eq_some_iff.mp read
    obtain ⟨open_, stepped⟩ := Option.ite_none_left_eq_some.mp stepped
    have step : next? ⟨finished, .string reversed state⟩ character =
        some ⟨finished, .string (character :: reversed) later⟩ := by
      simp only [next?, if_neg open_, stepped, Option.map_some]
    rw [step, List.reverse_cons, List.append_assoc]
    exact ih (character :: reversed) read

theorem start?_of_number {character : Char} {state : NumberState} (finished : List Token)
    (begins : NumberState.start? character = some state) :
    start? finished character = some ⟨finished, .number [character] state⟩ := by
  have absurd_of_none {proposition : Prop} (refused : NumberState.start? character = none) : proposition := by
    rw [refused] at begins
    cases begins
  have notBlank : isBlank character = false := by
    by_contra blank
    simp only [isBlank, Bool.not_eq_false, Bool.or_eq_true, beq_iff_eq] at blank
    rcases blank with ((rfl | rfl) | rfl) | rfl <;> exact absurd_of_none rfl
  have notMark : markOf? character = none := by
    unfold markOf?
    iterate 6
      split
      next mark => exact absurd_of_none (by rw [beq_iff_eq.mp mark]; rfl)
    rfl
  have notWord : wordOf? character = none := by
    unfold wordOf?
    iterate 3
      split
      next word => exact absurd_of_none (by rw [beq_iff_eq.mp word]; rfl)
    rfl
  have notQuote : (character == '"') = false := by
    by_contra quote
    rw [Bool.not_eq_false, beq_iff_eq] at quote
    exact absurd_of_none (by rw [quote]; rfl)
  simp only [start?, notBlank, notQuote, notMark, notWord, begins, Bool.false_eq_true, if_false, Option.map_some]

theorem foldlM_spelling {token : Token} (sound : token.isSound = true) (finished : List Token) :
    ∃ scan, token.spelling.foldlM next? ⟨finished, .nothing⟩ = some scan ∧
      scan.tokens? = some (finished.reverse ++ [token]) := by
  have ended : tokens? ⟨token :: finished, .nothing⟩ = some (finished.reverse ++ [token]) := by
    rw [tokens?, List.reverse_cons]
  cases token with
  | number lexeme =>
    cases lexeme with
    | nil => cases sound
    | cons first rest =>
      obtain ⟨last, read, complete⟩ := (Option.any_eq_true _ _).mp sound
      obtain ⟨start, begins, read⟩ := Option.bind_eq_some_iff.mp read
      refine ⟨⟨finished, .number (rest.reverse ++ [first]) last⟩, ?_, ?_⟩
      · change (start? finished first).bind (fun scan => rest.foldlM next? scan) = _
        rw [start?_of_number finished begins]
        exact foldlM_number finished [first] read
      · simp [tokens?, complete]
  | string body =>
    have read := foldlM_string finished [] (beq_iff_eq.mp sound)
    refine ⟨_, ?_, ended⟩
    change (body ++ ['"']).foldlM next? ⟨finished, .string [] .plain⟩ = _
    rw [List.foldlM_append, read, List.append_nil]
    change some _ = _
    rw [List.reverse_reverse]
  | boolean value => cases value <;> exact ⟨_, rfl, ended⟩
  | _ => exact ⟨_, rfl, ended⟩

/-- What was being read has ended if the next character cannot belong to a number. -/
theorem next?_of_ending {scan : Scan} {tokens : List Token} {character : Char} (behind : scan.tokens? = some tokens)
    (ending : ∀ reversed state, scan.pending = .number reversed state → state.next? character = none) :
    scan.next? character = next? ⟨tokens.reverse, .nothing⟩ character := by
  obtain ⟨finished, pending⟩ := scan
  cases pending with
  | nothing =>
    cases behind
    rw [List.reverse_reverse]
  | number reversed state =>
    obtain ⟨complete, same⟩ := Option.ite_none_right_eq_some.mp behind
    cases same
    simp only [next?, ending reversed state rfl, complete, if_true, List.reverse_reverse]
  | word token left => cases behind
  | string reversed state => cases behind

theorem next?_of_blank {scan : Scan} {tokens : List Token} {character : Char} (behind : scan.tokens? = some tokens)
    (blank : isBlank character = true) : scan.next? character = some ⟨tokens.reverse, .nothing⟩ := by
  rw [next?_of_ending behind]
  · simp only [next?, start?, blank, if_true]
  · exact fun _ state _ => endsNumber_of_isBlank blank state

theorem tokens?_settled (tokens : List Token) : Scan.tokens? ⟨tokens.reverse, .nothing⟩ = some tokens := by
  rw [tokens?, List.reverse_reverse]

theorem settled_or_number {scan : Scan} {tokens : List Token} (behind : scan.tokens? = some tokens) :
    scan = ⟨tokens.reverse, .nothing⟩ ∨ ∃ previous ∈ tokens.getLast?, previous.isNumber = true := by
  obtain ⟨finished, pending⟩ := scan
  cases pending with
  | nothing =>
    cases behind
    rw [List.reverse_reverse]
    exact .inl rfl
  | number reversed state =>
    obtain ⟨_, same⟩ := Option.ite_none_right_eq_some.mp behind
    cases same
    exact .inr ⟨.number reversed.reverse, by rw [List.getLast?_reverse]; rfl, rfl⟩
  | word token left => cases behind
  | string reversed state => cases behind

theorem foldlM_blank {space : List Char} (blank : space.all isBlank = true) {scan : Scan} {tokens : List Token}
    (behind : scan.tokens? = some tokens) :
    ∃ later, space.foldlM next? scan = some later ∧ later.tokens? = some tokens := by
  induction space generalizing scan with
  | nil => exact ⟨scan, rfl, behind⟩
  | cons first rest ih =>
    rw [List.all_cons, Bool.and_eq_true] at blank
    rw [List.foldlM_cons, next?_of_blank behind blank.1]
    exact ih blank.2 (tokens?_settled tokens)

/-- A token is read as if nothing were pending, unless it is a number and follows another one. -/
theorem foldlM_apart {scan : Scan} {tokens : List Token} (behind : scan.tokens? = some tokens) {token : Token}
    (sound : token.isSound = true) (apart : ∀ previous ∈ tokens.getLast?, previous.Apart token) :
    ∃ later, token.spelling.foldlM next? scan = some later ∧ later.tokens? = some (tokens ++ [token]) := by
  have alone := foldlM_spelling sound tokens.reverse
  rw [List.reverse_reverse] at alone
  rcases settled_or_number behind with rfl | ⟨previous, last, isNumber⟩
  · exact alone
  · obtain ⟨first, rest, spelling, ending⟩ := Token.spelling_of_not_number (apart previous last isNumber)
    rw [spelling, List.foldlM_cons] at alone ⊢
    rwa [next?_of_ending behind fun _ state _ => ending state]

end Scan

theorem foldlM_spelled {tokens : List Token} {text : List Char} (spelled : Spelled tokens text)
    (sound : ∀ token ∈ tokens, token.isSound = true) {scan : Scan} {earlier : List Token}
    (behind : scan.tokens? = some earlier) (apart : (earlier ++ tokens).IsChain Token.Apart) :
    ∃ last, text.foldlM Scan.next? scan = some last ∧ last.tokens? = some (earlier ++ tokens) := by
  induction spelled generalizing scan earlier with
  | nil blank =>
    rw [List.append_nil]
    exact Scan.foldlM_blank blank behind
  | @cons space text token tokens blank rest ih =>
    obtain ⟨spaced, skipped, behind⟩ := Scan.foldlM_blank blank behind
    have next := (List.isChain_append.mp apart).2.2
    obtain ⟨later, read, behind⟩ := Scan.foldlM_apart behind (sound token List.mem_cons_self)
      fun previous last => next previous last token rfl
    rw [List.append_cons] at apart ⊢
    rw [List.foldlM_append, skipped, Option.bind_eq_bind, Option.bind_some, List.foldlM_append, read]
    exact ih (fun other member => sound other (List.mem_cons_of_mem _ member)) behind apart

theorem tokens?_eq_of_spelled {tokens : List Token} {text : List Char} (spelled : Spelled tokens text)
    (sound : ∀ token ∈ tokens, token.isSound = true) (apart : tokens.IsChain Token.Apart) :
    tokens? text = some tokens := by
  have start : Scan.tokens? ⟨[], .nothing⟩ = some [] := rfl
  obtain ⟨last, read, after⟩ := foldlM_spelled spelled sound start apart
  rw [tokens?, read]
  exact after

end SquareSums.Json
