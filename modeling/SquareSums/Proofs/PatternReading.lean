import SquareSums.Pattern.Reader

/-! What the reader of regular expressions makes. A repetition that it makes never asks for more than it
allows: the counts in braces are compared, and the signs have counts in order. Every item that is read keeps
this of all that has been read before. -/

namespace SquareSums.Pattern

def Repetition.Ordered (repetition : Repetition) : Prop :=
  ∀ greatest, repetition.most = some greatest → repetition.least ≤ greatest

mutual
/-- No repetition within asks for more than it allows. -/
def Tree.Ordered : Tree → Prop
  | .repetition _ least most isLazy body => Repetition.Ordered ⟨least, most, isLazy⟩ ∧ body.Ordered
  | .group _ _ body => body.Ordered
  | .sequence _ parts => Tree.AllOrdered parts
  | .choice _ branches => Tree.AllOrdered branches
  | .empty _ | .flags .. | .literal .. | .dot _ | .anchor .. | .property .. | .short .. | .bracket .. => True

def Tree.AllOrdered : List Tree → Prop
  | [] => True
  | tree :: later => tree.Ordered ∧ Tree.AllOrdered later
end

theorem Tree.allOrdered_iff {trees : List Tree} : Tree.AllOrdered trees ↔ ∀ tree ∈ trees, tree.Ordered := by
  induction trees with
  | nil => simp [Tree.AllOrdered]
  | cons tree trees ih => simp [Tree.AllOrdered, ih]

/-- What is read, if anything is, has a property. -/
def Gives {ε α : Type} (holds : α → Prop) (result : Except ε α) : Prop :=
  ∀ value, result = .ok value → holds value

section Gives

variable {ε α β : Type} {holds : α → Prop}

theorem gives_ok {value : α} (held : holds value) : Gives holds (.ok value : Except ε α) := by
  intro _ same
  cases same
  exact held

theorem gives_error {failure : ε} : Gives holds (.error failure) := by
  intro _ same
  cases same

theorem gives_bind {first : Except ε β} {next : β → Except ε α}
    (rest : ∀ value, first = .ok value → Gives holds (next value)) : Gives holds (first >>= next) := by
  cases first with
  | error failure => exact gives_error
  | ok value => exact rest value rfl

end Gives

section Items

variable (verbose : Bool) (cursor : Cursor)

theorem gives_readBraces (start : Place) : Gives (·.1.Ordered) (readBraces start verbose cursor) := by
  unfold readBraces
  dsimp only
  repeat' split
  all_goals first | exact gives_error | exact gives_bind fun _ _ => gives_ok trivial

theorem gives_readCodePoint (start : Place) (count : Nat) :
    Gives (·.1.Ordered) (readCodePoint start verbose count cursor) := by
  unfold readCodePoint
  repeat' split
  · exact gives_error
  · exact gives_readBraces verbose cursor start
  · exact gives_bind fun _ _ => gives_bind fun _ _ => gives_ok trivial

theorem gives_readProperty (start : Place) : Gives (·.1.Ordered) (readProperty start verbose cursor) := by
  unfold readProperty
  dsimp only
  repeat' split
  all_goals first | exact gives_error | exact gives_ok trivial

theorem gives_readWordBoundary (start : Place) : Gives (·.1.Ordered) (readWordBoundary start verbose cursor) := by
  unfold readWordBoundary
  dsimp only
  repeat' split
  all_goals first | exact gives_error | exact gives_ok trivial

theorem gives_readEscape : Gives (·.1.Ordered) (readEscape verbose cursor) := by
  unfold readEscape
  dsimp only
  repeat' split
  all_goals first
    | exact gives_error
    | exact gives_ok trivial
    | exact gives_readProperty verbose _ _
    | exact gives_readWordBoundary verbose _ _
    | exact gives_readCodePoint verbose _ _ _

theorem BracketReading.gives_read (rounds : Nat) (reading : BracketReading) :
    Gives (·.1.Ordered) (reading.read verbose rounds cursor) := by
  have unclosed (reading : BracketReading) : Gives (fun read : Tree × Cursor => read.1.Ordered) reading.unclosed := by
    unfold BracketReading.unclosed
    split
    · exact gives_error
    · exact gives_error
  induction rounds generalizing reading cursor with
  | zero => exact unclosed reading
  | succ rounds ih =>
    unfold BracketReading.read
    dsimp only
    repeat' split
    all_goals first | exact unclosed reading | exact gives_error | exact gives_ok trivial | exact ih _ _

theorem gives_readBracket (rounds : Nat) : Gives (·.1.Ordered) (readBracket verbose rounds cursor) := by
  unfold readBracket
  split
  · exact gives_error
  · exact BracketReading.gives_read verbose _ rounds _

theorem Repetition.gives_ofBraces : Gives (·.1.Ordered) (ofBraces verbose cursor) := by
  refine gives_bind fun (least, most, stop) _ => ?_
  dsimp only
  repeat' split
  · exact gives_error
  · exact gives_error
  next allowed =>
    apply gives_ok
    intro greatest same
    cases same
    exact Nat.not_lt.mp fun fewer => allowed (decide_eq_true fewer)

end Items

theorem Tree.ordered_ofItems {items : List Tree} (ordered : ∀ item ∈ items, item.Ordered) (span : Span) :
    (Tree.ofItems span items).Ordered := by
  rcases items with _ | ⟨item, _ | ⟨other, items⟩⟩
  · exact trivial
  · exact ordered item List.mem_cons_self
  · exact Tree.allOrdered_iff.mpr fun item member => ordered item (List.mem_reverse.mp member)

namespace Branches

structure Ordered (branches : Branches) : Prop where
  finished : ∀ branch ∈ branches.finished, branch.Ordered
  items : ∀ item ∈ branches.items, item.Ordered

variable {branches : Branches}

theorem ordered_initial (place : Place) : (initial place).Ordered := ⟨nofun, nofun⟩

theorem Ordered.push (ordered : branches.Ordered) {item : Tree} (read : item.Ordered) : (branches.push item).Ordered :=
  ⟨ordered.finished, List.forall_mem_cons.mpr ⟨read, ordered.items⟩⟩

theorem Ordered.last (ordered : branches.Ordered) (stop : Place) : (branches.last stop).Ordered :=
  Tree.ordered_ofItems ordered.items _

theorem Ordered.alternate (ordered : branches.Ordered) (stop next : Place) : (branches.alternate stop next).Ordered :=
  ⟨List.forall_mem_cons.mpr ⟨ordered.last stop, ordered.finished⟩, nofun⟩

theorem Ordered.toTree (ordered : branches.Ordered) (stop : Place) : (branches.toTree stop).Ordered := by
  unfold Branches.toTree
  split
  · exact ordered.last stop
  · apply Tree.allOrdered_iff.mpr
    intro branch member
    rcases List.mem_cons.mp (List.mem_reverse.mp member) with rfl | earlier
    · exact ordered.last stop
    · exact ordered.finished branch earlier

end Branches

namespace Reading

/-- All that has been read is in order: what stands in the group that is read, and before the groups around it. -/
structure Ordered (reading : Reading) : Prop where
  branches : reading.branches.Ordered
  opened : ∀ group ∈ reading.opened, group.outer.Ordered

theorem ordered_initial : initial.Ordered := ⟨Branches.ordered_initial _, nofun⟩

section Steps

variable {reading : Reading} (ordered : reading.Ordered) (cursor : Cursor)
include ordered

theorem Ordered.push {item : Tree} (read : item.Ordered) : (reading.push item).Ordered :=
  ⟨ordered.branches.push read, ordered.opened⟩

theorem gives_close : Gives (·.1.Ordered) (reading.close cursor) := by
  unfold Reading.close
  split
  · exact gives_error
  next group outer opened =>
    obtain ⟨before, around⟩ := List.forall_mem_cons.mp (opened ▸ ordered.opened)
    exact gives_ok ⟨before.push (ordered.branches.toTree _), around⟩

theorem gives_readGroup : Gives (·.1.Ordered) (reading.readGroup cursor) := by
  unfold Reading.readGroup
  split
  · exact gives_error
  · exact gives_ok ⟨Branches.ordered_initial _, List.forall_mem_cons.mpr ⟨ordered.branches, ordered.opened⟩⟩
  · exact gives_ok ⟨ordered.branches.push trivial, ordered.opened⟩

theorem gives_pushRead {read : Except Flaw (Tree × Cursor)} (given : Gives (·.1.Ordered) read) :
    Gives (·.1.Ordered) (reading.pushRead read) := by
  unfold Reading.pushRead
  split
  · exact gives_error
  next item after => exact gives_ok (ordered.push (given (item, after) rfl))

theorem ordered_takeItem {item : Tree} {earlier : List Tree} (taken : reading.takeItem cursor = .ok (item, earlier)) :
    item.Ordered ∧ ∀ other ∈ earlier, other.Ordered := by
  unfold Reading.takeItem at taken
  split at taken
  · cases taken
  · cases taken
  · cases taken
  next items =>
    cases taken
    exact List.forall_mem_cons.mp (items ▸ ordered.branches.items)

theorem gives_repeatItem {read : Cursor → Except Flaw (Repetition × Cursor)}
    (given : Gives (·.1.Ordered) (read cursor)) : Gives (·.1.Ordered) (reading.repeatItem cursor read) := by
  refine gives_bind fun (item, earlier) taken => gives_bind fun (repetition, after) counted => ?_
  obtain ⟨last, before⟩ := ordered_takeItem ordered cursor taken
  have counts := given (repetition, after) counted
  exact gives_ok ⟨⟨ordered.branches.finished, List.forall_mem_cons.mpr ⟨⟨counts, last⟩, before⟩⟩, ordered.opened⟩

theorem gives_readItem (rounds : Nat) : Gives (·.1.Ordered) (reading.readItem rounds cursor) := by
  unfold Reading.readItem
  dsimp only
  split
  · exact gives_ok ordered
  · exact gives_readGroup ordered cursor
  · exact gives_close ordered cursor
  · exact gives_ok ⟨ordered.branches.alternate _ _, ordered.opened⟩
  · exact gives_pushRead ordered (gives_readBracket _ _ _)
  · apply gives_repeatItem ordered
    apply gives_ok
    intro greatest same
    cases same
    exact Nat.zero_le 1
  · apply gives_repeatItem ordered
    apply gives_ok
    intro greatest same
    cases same
  · apply gives_repeatItem ordered
    apply gives_ok
    intro greatest same
    cases same
  · exact gives_repeatItem ordered cursor (Repetition.gives_ofBraces _ _)
  · exact gives_pushRead ordered (gives_readEscape _ _)
  all_goals exact gives_ok (ordered.push trivial)

theorem ordered_read {rounds : Nat} {tree : Tree} (finished : reading.read rounds cursor = .ok tree) :
    tree.Ordered := by
  fun_induction Reading.read rounds reading cursor with
  | case1 => cases finished
  | case2 _ _ _ _ _ _ _ later after taken ih => exact ih (gives_readItem ordered _ _ (later, after) taken) finished
  | case3 =>
    cases finished
    exact ordered.branches.toTree _
  | case4 => cases finished

end Steps

end Reading

theorem Tree.ordered_ofText {text : List Char} {tree : Tree} (read : Tree.ofText text = .ok tree) : tree.Ordered :=
  Reading.ordered_read Reading.ordered_initial _ read

end SquareSums.Pattern
