import Mathlib.Data.List.Forall2

/-! Lists whose items stand in a relation, each to the one at its place. -/

namespace SquareSums

variable {α β : Type} {items : List α} {results : List β}

theorem mapM_eq_some_iff {read : α → Option β} :
    items.mapM read = some results ↔ List.Forall₂ (fun item result => read item = some result) items results := by
  induction items generalizing results with
  | nil => rw [List.mapM_nil, List.forall₂_nil_left_iff, Option.pure_def, Option.some_inj, eq_comm]
  | cons item items ih =>
    rw [List.mapM_cons]
    constructor
    · intro ran
      obtain ⟨result, read, ran⟩ := Option.bind_eq_some_iff.mp ran
      obtain ⟨later, readLater, ran⟩ := Option.bind_eq_some_iff.mp ran
      cases ran
      exact .cons read (ih.mp readLater)
    · rintro (_ | ⟨read, later⟩)
      rw [read, Option.bind_eq_bind, Option.bind_some, ih.mpr later]
      rfl

theorem exists_of_forall₂ {related : α → β → Prop} (all : List.Forall₂ related items results) :
    ∀ result ∈ results, ∃ item ∈ items, related item result := by
  induction all with
  | nil => exact List.forall_mem_nil _
  | cons first _ ih =>
    refine List.forall_mem_cons.mpr ⟨⟨_, List.mem_cons_self, first⟩, fun result member => ?_⟩
    obtain ⟨item, inside, holds⟩ := ih result member
    exact ⟨item, List.mem_cons_of_mem _ inside, holds⟩

theorem forall₂_congr {one other : α → β → Prop}
    (same : ∀ item ∈ items, ∀ result, one item result ↔ other item result) :
    List.Forall₂ one items results ↔ List.Forall₂ other items results := by
  induction items generalizing results with
  | nil => rw [List.forall₂_nil_left_iff, List.forall₂_nil_left_iff]
  | cons item items ih =>
    rw [List.forall_mem_cons] at same
    rw [List.forall₂_cons_left_iff, List.forall₂_cons_left_iff]
    simp only [same.1, ih same.2]

theorem exists_seven (seven : items.length = 7) :
    ∃ first second third fourth fifth sixth seventh, items = [first, second, third, fourth, fifth, sixth, seventh] :=
  let [first, second, third, fourth, fifth, sixth, seventh] := items
  ⟨first, second, third, fourth, fifth, sixth, seventh, rfl⟩

end SquareSums
