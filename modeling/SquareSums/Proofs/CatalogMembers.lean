import Mathlib.Data.List.Induction
import Std.Data.TreeSet.Lemmas
import SquareSums.Catalog
import SquareSums.Proofs.ProgressionOrder

/-! What a catalog lists: its members once each, in the order of answers, whatever the order in which
they came. -/

namespace SquareSums.Catalog

theorem toList_ascending (catalog : Catalog) : catalog.toList.Pairwise Progression.Precedes :=
  Std.TreeSet.ordered_toList.imp Progression.compare_eq_lt_iff.mp

@[simp] theorem toList_empty : (∅ : Catalog).toList = [] := rfl

theorem insert_eq (catalog : Catalog) (progression : Progression) :
    catalog.insert progression =
      (!catalog.members.contains progression, ⟨catalog.members.insert progression⟩) := by
  have split : catalog.members.containsThenInsert progression =
      (catalog.members.contains progression, catalog.members.insert progression) :=
    Prod.ext Std.TreeSet.containsThenInsert_fst Std.TreeSet.containsThenInsert_snd
  rw [insert, split]

theorem mem_toList_insert {catalog : Catalog} {inserted progression : Progression} :
    progression ∈ (catalog.insert inserted).2.toList ↔ progression = inserted ∨ progression ∈ catalog.toList := by
  rw [insert_eq, toList, toList, Std.TreeSet.mem_toList, Std.TreeSet.mem_toList, Std.TreeSet.mem_insert,
    Std.LawfulEqCmp.compare_eq_iff_eq, eq_comm]

theorem mem_toList_insertAll {catalog : Catalog} {progressions : List Progression} {progression : Progression} :
    progression ∈ (catalog.insertAll progressions).2.toList ↔
      progression ∈ progressions ∨ progression ∈ catalog.toList := by
  suffices folded : ∀ (areNew : Array Bool) (catalog : Catalog),
      progression ∈ (progressions.foldl (fun (state : Array Bool × Catalog) item =>
        (state.1.push (state.2.insert item).1, (state.2.insert item).2)) (areNew, catalog)).2.toList ↔
        progression ∈ progressions ∨ progression ∈ catalog.toList from folded #[] catalog
  induction progressions with
  | nil => simp
  | cons first later ih =>
    intro areNew catalog
    rw [List.foldl_cons, ih, mem_toList_insert, List.mem_cons, or_assoc, or_left_comm]

theorem mem_toList_ofList {progressions : List Progression} {progression : Progression} :
    progression ∈ (ofList progressions).toList ↔ progression ∈ progressions := by
  rw [ofList, mem_toList_insertAll, toList_empty]
  simp

theorem insert_isNew {catalog : Catalog} {progression : Progression} :
    (catalog.insert progression).1 = true ↔ progression ∉ catalog.toList := by
  rw [insert_eq, toList, Std.TreeSet.mem_toList, Bool.not_eq_true', ← Bool.not_eq_true]
  exact Iff.rfl

theorem insertAll_concat (catalog : Catalog) (progressions : List Progression) (last : Progression) :
    catalog.insertAll (progressions ++ [last]) =
      ((catalog.insertAll progressions).1 ++ [((catalog.insertAll progressions).2.insert last).1],
        ((catalog.insertAll progressions).2.insert last).2) := by
  simp only [insertAll, List.foldl_append, List.foldl_cons, List.foldl_nil, Array.toList_push]

theorem length_insertAll (catalog : Catalog) (progressions : List Progression) :
    (catalog.insertAll progressions).1.length = progressions.length := by
  induction progressions using List.reverseRecOn with
  | nil => rfl
  | append_singleton progressions last ih => rw [insertAll_concat, List.length_append, List.length_append, ih]; rfl

/-- The verdict on one of many insertions depends only on those before it. -/
theorem insertAll_isNew (catalog : Catalog) (before after : List Progression) (progression : Progression) :
    (catalog.insertAll (before ++ progression :: after)).1[before.length]? =
      some ((catalog.insertAll before).2.insert progression).1 := by
  induction after using List.reverseRecOn with
  | nil => rw [insertAll_concat, ← length_insertAll catalog before, List.getElem?_concat_length]
  | append_singleton after last ih =>
    rw [← List.cons_append, ← List.append_assoc, insertAll_concat, List.getElem?_append_left, ih]
    rw [length_insertAll, List.length_append, List.length_cons]
    omega

theorem beq_iff_same_members {left right : Catalog} :
    (left == right) = true ↔ ∀ progression, progression ∈ left.toList ↔ progression ∈ right.toList := by
  change (left.toList == right.toList) = true ↔ _
  rw [beq_iff_eq]
  constructor
  · intro same progression
    rw [same]
  · intro same
    exact left.toList_ascending.eq_of_mem_iff right.toList_ascending same

end SquareSums.Catalog
