import SquareSums.Json.Record
import SquareSums.Proofs.JsonScanning

/-! Whatever is printed is read back. A value is determined by its tokens, and both layouts put nothing
but white space between them; numbers never become neighbours, since a mark follows each of them. -/

namespace SquareSums.Json

theorem Token.isChain_cons {mark : Token} {rest : List Token} (notNumber : mark.isNumber = false)
    (apart : rest.IsChain Token.Apart) : (mark :: rest).IsChain Token.Apart := by
  refine List.isChain_cons.mpr ⟨fun next _ isNumber => ?_, apart⟩
  rw [notNumber] at isNumber
  cases isNumber

def Token.marks : List Token := [.openBrace, .closeBrace, .openBracket, .closeBracket, .comma, .colon]

namespace Value

theorem foldlM_awaitItem (value : Value) (frames : List Frame) (rest : List Token) :
    (value.tokens ++ rest).foldlM Reading.next? (.awaitItem frames) =
      (value.tokens ++ rest).foldlM Reading.next? (.awaitValue (.array [] :: frames)) := by
  cases value with
  | array items => cases items <;> rfl
  | object members => cases members <;> rfl
  | _ => rfl

mutual
/-- Reading the tokens of a value leaves that value, whatever encloses it and whatever follows. -/
theorem foldlM_tokens (value : Value) (frames : List Frame) (rest : List Token) :
    (value.tokens ++ rest).foldlM Reading.next? (.awaitValue frames) =
      rest.foldlM Reading.next? (.after value frames) := by
  match value with
  | .null | .boolean _ | .number _ | .string _ | .array [] | .object [] => rfl
  | .array (item :: items) =>
    rw [tokens, List.cons_append, List.append_assoc, List.foldlM_cons]
    change (item.tokens ++ _).foldlM Reading.next? (.awaitItem frames) = _
    rw [foldlM_awaitItem, foldlM_tokens item, foldlM_itemsTokens items]
    rfl
  | .object ((key, member) :: members) =>
    rw [tokens, List.cons_append, List.cons_append, List.cons_append, List.append_assoc]
    change (member.tokens ++ _).foldlM Reading.next? (.awaitValue (.object [] key :: frames)) = _
    rw [foldlM_tokens member, foldlM_membersTokens members]
    rfl
termination_by structural value

theorem foldlM_itemsTokens (items : List Value) (last : Value) (earlier : List Value) (frames : List Frame)
    (rest : List Token) :
    (itemsTokens items ++ rest).foldlM Reading.next? (.after last (.array earlier :: frames)) =
      rest.foldlM Reading.next? (.after (.array ((last :: earlier).reverse ++ items)) frames) := by
  match items with
  | [] =>
    rw [List.append_nil]
    rfl
  | item :: items =>
    rw [itemsTokens, List.cons_append, List.append_assoc]
    change (item.tokens ++ _).foldlM Reading.next? (.awaitValue (.array (last :: earlier) :: frames)) = _
    rw [foldlM_tokens item, foldlM_itemsTokens items, List.reverse_cons, List.append_assoc, List.singleton_append]
termination_by structural items

theorem foldlM_membersTokens (members : List (List Char × Value)) (last : Value) (key : List Char)
    (earlier : List (List Char × Value)) (frames : List Frame) (rest : List Token) :
    (membersTokens members ++ rest).foldlM Reading.next? (.after last (.object earlier key :: frames)) =
      rest.foldlM Reading.next? (.after (.object (((key, last) :: earlier).reverse ++ members)) frames) := by
  match members with
  | [] =>
    rw [List.append_nil]
    rfl
  | (next, member) :: members =>
    rw [membersTokens, List.cons_append, List.cons_append, List.cons_append, List.append_assoc]
    change (member.tokens ++ _).foldlM Reading.next?
      (.awaitValue (.object ((key, last) :: earlier) next :: frames)) = _
    rw [foldlM_tokens member, foldlM_membersTokens members, List.reverse_cons, List.append_assoc,
      List.singleton_append]
termination_by structural members
end

theorem ofTokens?_tokens (value : Value) : ofTokens? value.tokens = some value := by
  have read := foldlM_tokens value [] []
  rw [List.append_nil] at read
  rw [ofTokens?, read]
  rfl

mutual
/-- A mark stands before each item and after it, so a number that is an item meets no other. -/
theorem isChain_tokens (value : Value) {rest : List Token} (follows : ∀ token ∈ rest.head?, token.isNumber = false)
    (apart : rest.IsChain Token.Apart) : (value.tokens ++ rest).IsChain Token.Apart := by
  have closed (token : Token) : (token :: rest).IsChain Token.Apart :=
    List.isChain_cons.mpr ⟨fun next member _ => follows next member, apart⟩
  match value with
  | .null | .boolean _ | .number _ | .string _ => exact closed _
  | .array [] | .object [] => exact Token.isChain_cons rfl (closed _)
  | .array (item :: items) =>
    rw [tokens, List.cons_append, List.append_assoc]
    refine Token.isChain_cons rfl (isChain_tokens item ?_ (isChain_itemsTokens items apart))
    cases items <;> rintro _ ⟨⟩ <;> rfl
  | .object ((key, member) :: members) =>
    rw [tokens, List.cons_append, List.cons_append, List.cons_append, List.append_assoc]
    refine Token.isChain_cons rfl (Token.isChain_cons rfl (Token.isChain_cons rfl ?_))
    refine isChain_tokens member ?_ (isChain_membersTokens members apart)
    cases members <;> rintro _ ⟨⟩ <;> rfl
termination_by structural value

theorem isChain_itemsTokens (items : List Value) {rest : List Token} (apart : rest.IsChain Token.Apart) :
    (itemsTokens items ++ rest).IsChain Token.Apart := by
  match items with
  | [] => exact Token.isChain_cons rfl apart
  | item :: items =>
    rw [itemsTokens, List.cons_append, List.append_assoc]
    refine Token.isChain_cons rfl (isChain_tokens item ?_ (isChain_itemsTokens items apart))
    cases items <;> rintro _ ⟨⟩ <;> rfl
termination_by structural items

theorem isChain_membersTokens (members : List (List Char × Value)) {rest : List Token}
    (apart : rest.IsChain Token.Apart) : (membersTokens members ++ rest).IsChain Token.Apart := by
  match members with
  | [] => exact Token.isChain_cons rfl apart
  | (key, member) :: members =>
    rw [membersTokens, List.cons_append, List.cons_append, List.cons_append, List.append_assoc]
    refine Token.isChain_cons rfl (Token.isChain_cons rfl (Token.isChain_cons rfl ?_))
    refine isChain_tokens member ?_ (isChain_membersTokens members apart)
    cases members <;> rintro _ ⟨⟩ <;> rfl
termination_by structural members
end

theorem apart_tokens (value : Value) : value.tokens.IsChain Token.Apart := by
  have apart : (value.tokens ++ []).IsChain Token.Apart := isChain_tokens value (fun _ absent => by cases absent) .nil
  rwa [List.append_nil] at apart

section Throughout

variable {Holds : Token → Prop} (marks : ∀ mark ∈ Token.marks, Holds mark)
include marks

theorem forall_itemsTokens {items : List Value} (all : ∀ item ∈ items, ∀ token ∈ item.tokens, Holds token) :
    ∀ token ∈ itemsTokens items, Holds token := by
  induction items with
  | nil => exact List.forall_mem_singleton.mpr (marks .closeBracket (by decide))
  | cons item items ih =>
    rw [List.forall_mem_cons] at all
    rw [itemsTokens, List.forall_mem_cons, List.forall_mem_append]
    exact ⟨marks .comma (by decide), all.1, ih all.2⟩

theorem forall_tokens_array {items : List Value} (all : ∀ item ∈ items, ∀ token ∈ item.tokens, Holds token) :
    ∀ token ∈ (array items).tokens, Holds token := by
  have opened := marks .openBracket (by decide)
  cases items with
  | nil => exact List.forall_mem_cons.mpr ⟨opened, forall_itemsTokens marks all⟩
  | cons item items =>
    rw [List.forall_mem_cons] at all
    rw [tokens, List.forall_mem_cons, List.forall_mem_append]
    exact ⟨opened, all.1, forall_itemsTokens marks all.2⟩

theorem forall_membersTokens {members : List (List Char × Value)}
    (all : ∀ member ∈ members, Holds (.string member.1) ∧ ∀ token ∈ member.2.tokens, Holds token) :
    ∀ token ∈ membersTokens members, Holds token := by
  induction members with
  | nil => exact List.forall_mem_singleton.mpr (marks .closeBrace (by decide))
  | cons member members ih =>
    rw [List.forall_mem_cons] at all
    simp only [membersTokens, List.forall_mem_cons, List.forall_mem_append]
    exact ⟨marks .comma (by decide), all.1.1, marks .colon (by decide), all.1.2, ih all.2⟩

theorem forall_tokens_object {members : List (List Char × Value)}
    (all : ∀ member ∈ members, Holds (.string member.1) ∧ ∀ token ∈ member.2.tokens, Holds token) :
    ∀ token ∈ (object members).tokens, Holds token := by
  have opened := marks .openBrace (by decide)
  cases members with
  | nil => exact List.forall_mem_cons.mpr ⟨opened, forall_membersTokens marks all⟩
  | cons member members =>
    rw [List.forall_mem_cons] at all
    simp only [tokens, List.forall_mem_cons, List.forall_mem_append]
    exact ⟨opened, all.1.1, marks .colon (by decide), all.1.2, forall_membersTokens marks all.2⟩

end Throughout

/-- The numbers, strings and keys in it, at every depth, could have been read. -/
def IsSound (value : Value) : Prop := ∀ token ∈ value.tokens, token.isSound = true

theorem isSound_of_itemsTokens {items : List Value} (sound : ∀ token ∈ itemsTokens items, token.isSound = true) :
    ∀ item ∈ items, item.IsSound := by
  induction items with
  | nil => exact List.forall_mem_nil _
  | cons item items ih =>
    simp only [itemsTokens, List.forall_mem_cons, List.forall_mem_append] at sound
    exact List.forall_mem_cons.mpr ⟨sound.2.1, ih sound.2.2⟩

theorem isSound_of_membersTokens {members : List (List Char × Value)}
    (sound : ∀ token ∈ membersTokens members, token.isSound = true) : ∀ member ∈ members, member.2.IsSound := by
  induction members with
  | nil => exact List.forall_mem_nil _
  | cons member members ih =>
    simp only [membersTokens, List.forall_mem_cons, List.forall_mem_append] at sound
    exact List.forall_mem_cons.mpr ⟨sound.2.2.2.1, ih sound.2.2.2.2⟩

theorem IsSound.item {items : List Value} (sound : (array items).IsSound) : ∀ item ∈ items, item.IsSound := by
  cases items with
  | nil => exact List.forall_mem_nil _
  | cons item items =>
    simp only [IsSound, tokens, List.forall_mem_cons, List.forall_mem_append] at sound
    exact List.forall_mem_cons.mpr ⟨sound.2.1, isSound_of_itemsTokens sound.2.2⟩

theorem IsSound.member {members : List (List Char × Value)} (sound : (object members).IsSound) :
    ∀ member ∈ members, member.2.IsSound := by
  cases members with
  | nil => exact List.forall_mem_nil _
  | cons member members =>
    simp only [IsSound, tokens, List.forall_mem_cons, List.forall_mem_append] at sound
    exact List.forall_mem_cons.mpr ⟨sound.2.2.2.1, isSound_of_membersTokens sound.2.2.2.2⟩

/-- However a value is laid out, its text is read as that value. -/
theorem ofText?_of_spelled {value : Value} {text : String} (sound : value.IsSound)
    (spelled : Spelled value.tokens text.toList) : ofText? text = some value := by
  rw [ofText?, tokens?_eq_of_spelled spelled sound value.apart_tokens]
  exact ofTokens?_tokens value

end Value

namespace Layout

theorem spelled_compact (value : Value) : Spelled value.tokens (compact value).toList := by
  rw [compact, String.toList_join, List.flatMap_map]
  induction value.tokens with
  | nil => exact .nil rfl
  | cons token tokens ih =>
    have noSpace : [].all isBlank = true := rfl
    rw [List.flatMap_cons, text, String.toList_ofList]
    exact .cons noSpace ih

theorem isBlank_newLine (depth : Nat) : (newLine depth).toList.all isBlank = true := by
  rw [newLine, String.toList_ofList, List.all_cons, List.all_replicate]
  split <;> rfl

theorem isBlank_gap (depth : Nat) (previous next : Token) : (gap depth previous next).toList.all isBlank = true := by
  have nothing : "".toList.all isBlank = true := rfl
  have space : " ".toList.all isBlank = true := rfl
  unfold gap
  split <;> simp only [nothing, space, isBlank_newLine]

theorem exists_spelled_write (tokens : List Token) (page : Page) :
    ∃ text, (tokens.foldl Page.write page).written.toList = page.written.toList ++ text ∧ Spelled tokens text := by
  induction tokens generalizing page with
  | nil => exact ⟨[], (List.append_nil _).symm, .nil rfl⟩
  | cons token tokens ih =>
    obtain ⟨text, written, spelled⟩ := ih (page.write token)
    have blank : (page.last.elim "" (gap page.depth · token)).toList.all isBlank = true := by
      cases page.last with
      | none => rfl
      | some previous => exact isBlank_gap _ _ _
    refine ⟨_, ?_, .cons blank spelled⟩
    rw [List.foldl_cons, written, Page.write, String.toList_append, String.toList_append, Layout.text,
      String.toList_ofList, List.append_assoc, List.append_assoc]

theorem spelled_indented (value : Value) : Spelled value.tokens (indented value).toList := by
  obtain ⟨text, written, spelled⟩ := exists_spelled_write value.tokens ⟨"", 0, none⟩
  rw [indented, written]
  exact spelled

end Layout
end SquareSums.Json
