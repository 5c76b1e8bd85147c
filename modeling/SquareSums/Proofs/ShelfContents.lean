import SquareSums.Proofs.CatalogMembers
import SquareSums.Shelf

/-! What named catalogs hold is told by the steps taken, without looking at a catalog: a name holds what
was put under it since it was last emptied or overwritten. Every answer follows from that. -/

namespace SquareSums.Shelf

namespace Step

def Discards (name : String) : Step → Prop
  | take emptied => emptied = name
  | copy _ target => target = name
  | insert .. | insertAll .. | list _ | compare .. => False

/-- The only name whose catalog the step may change. -/
def target? : Step → Option String
  | insert name _ | insertAll name _ | take name | copy _ name => some name
  | list _ | compare .. => none

/-- What the step puts under the name, given what every name holds before it. -/
def Brings (holds : String → Progression → Prop) (name : String) (progression : Progression) : Step → Prop
  | insert target inserted => target = name ∧ progression = inserted
  | insertAll target progressions => target = name ∧ progression ∈ progressions
  | copy source target => target = name ∧ holds source progression
  | take _ | list _ | compare .. => False

end Step

/-- The name has received the progression, by insertion or by copy, and kept it since. The steps are
those taken so far, the last first. -/
def Received : List Step → String → Progression → Prop
  | [], _, _ => False
  | step :: past, name, progression =>
    step.Brings (Received past) name progression ∨ Received past name progression ∧ ¬ step.Discards name

/-- The answer that a step must get after the given past. -/
def Step.Deserves (past : List Step) : Step → Reply → Prop
  | insert name progression, reply =>
    ∃ isNew, reply = .new isNew ∧ (isNew = true ↔ ¬ Received past name progression)
  | insertAll name progressions, reply =>
    ∃ areNew : List Bool, reply = .newEach areNew ∧ areNew.length = progressions.length ∧
      ∀ before progression after, progressions = before ++ progression :: after →
        ∃ isNew, areNew[before.length]? = some isNew ∧
          (isNew = true ↔ ¬ Received (insertAll name before :: past) name progression)
  | list name, reply | take name, reply =>
    ∃ progressions : List Progression, reply = .listed progressions ∧ progressions.Pairwise Progression.Precedes ∧
      ∀ progression, progression ∈ progressions ↔ Received past name progression
  | copy .., reply => reply = .copied
  | compare left right, reply =>
    ∃ equal, reply = .compared equal ∧
      (equal = true ↔ ∀ progression, Received past left progression ↔ Received past right progression)

def Holds (shelf : Shelf) (name : String) (progression : Progression) : Prop :=
  progression ∈ (shelf.catalog name).toList

theorem holds_put {shelf : Shelf} {name target : String} {catalog : Catalog} {progression : Progression} :
    (shelf.put target catalog).Holds name progression ↔
      target = name ∧ progression ∈ catalog.toList ∨ target ≠ name ∧ shelf.Holds name progression := by
  by_cases same : target = name
  · subst same
    simp [Holds, catalog_put_self]
  · simp [Holds, catalog_put_other shelf catalog (Ne.symm same), same]

theorem holds_put_of_gained {shelf : Shelf} {name target : String} {catalog : Catalog} {progression : Progression}
    {gained : Prop} (grown : progression ∈ catalog.toList ↔ gained ∨ progression ∈ (shelf.catalog target).toList) :
    (shelf.put target catalog).Holds name progression ↔ target = name ∧ gained ∨ shelf.Holds name progression := by
  rw [holds_put, grown]
  by_cases same : target = name
  · subst same
    simp [Holds]
  · simp [same]

/-- A step brings some progressions to a name and may discard what it held; nothing else changes. -/
theorem holds_step {shelf : Shelf} {step : Step} {name : String} {progression : Progression} :
    (shelf.step step).2.Holds name progression ↔
      step.Brings shelf.Holds name progression ∨ shelf.Holds name progression ∧ ¬ step.Discards name := by
  cases step with
  | insert target inserted =>
    change (shelf.put target ((shelf.catalog target).insert inserted).2).Holds name progression ↔ _
    rw [holds_put_of_gained Catalog.mem_toList_insert]
    simp [Step.Brings, Step.Discards]
  | insertAll target progressions =>
    change (shelf.put target ((shelf.catalog target).insertAll progressions).2).Holds name progression ↔ _
    rw [holds_put_of_gained Catalog.mem_toList_insertAll]
    simp [Step.Brings, Step.Discards]
  | take target =>
    change (shelf.put target ∅).Holds name progression ↔ _
    rw [holds_put, Catalog.toList_empty]
    simp [Step.Brings, Step.Discards, and_comm]
  | copy source target =>
    change (shelf.put target (shelf.catalog source)).Holds name progression ↔ _
    rw [holds_put]
    simp [Step.Brings, Step.Discards, Holds, and_comm]
  | list _ | compare _ _ => simp [step, Step.Brings, Step.Discards]

theorem catalog_step_of_ne {shelf : Shelf} {step : Step} {name : String} (other : step.target? ≠ some name) :
    (shelf.step step).2.catalog name = shelf.catalog name := by
  have different {target : String} (changed : step.target? = some target) : name ≠ target := by
    rintro rfl
    exact other changed
  cases step with
  | insert target _ => exact catalog_put_other _ _ (different rfl)
  | insertAll target _ => exact catalog_put_other _ _ (different rfl)
  | take target => exact catalog_put_other _ _ (different rfl)
  | copy _ target => exact catalog_put_other _ _ (different rfl)
  | list _ | compare _ _ => rfl

theorem deserves_step {shelf : Shelf} {past : List Step} (holds : shelf.Holds = Received past) (step : Step) :
    step.Deserves past (shelf.step step).1 := by
  have members (name : String) (progression : Progression) :
      progression ∈ (shelf.catalog name).toList ↔ Received past name progression := by
    rw [← holds]
    exact Iff.rfl
  cases step with
  | insert name progression =>
    refine ⟨((shelf.catalog name).insert progression).1, rfl, ?_⟩
    rw [Catalog.insert_isNew, members]
  | insertAll name progressions =>
    refine ⟨_, rfl, Catalog.length_insertAll _ _, ?_⟩
    rintro before progression after rfl
    refine ⟨_, Catalog.insertAll_isNew _ before after progression, ?_⟩
    rw [Catalog.insert_isNew, Catalog.mem_toList_insertAll, members]
    simp [Received, Step.Brings, Step.Discards]
  | list name => exact ⟨_, rfl, Catalog.toList_ascending _, members name⟩
  | take name => exact ⟨_, rfl, Catalog.toList_ascending _, members name⟩
  | copy source target => rfl
  | compare left right => exact ⟨_, rfl, by simp only [Catalog.beq_iff_same_members, members]⟩

theorem run_append (shelf : Shelf) (earlier later : List Step) :
    shelf.run (earlier ++ later) =
      ((shelf.run earlier).1 ++ ((shelf.run earlier).2.run later).1, ((shelf.run earlier).2.run later).2) := by
  induction earlier generalizing shelf with
  | nil => rfl
  | cons step earlier ih => simp only [List.cons_append, run, ih]

theorem length_run (shelf : Shelf) (steps : List Step) : (shelf.run steps).1.length = steps.length := by
  induction steps generalizing shelf with
  | nil => rfl
  | cons step steps ih => simp only [run, List.length_cons, ih]

theorem holds_run (steps : List Step) : (run ∅ steps).2.Holds = Received steps.reverse := by
  induction steps using List.reverseRecOn with
  | nil =>
    funext name progression
    exact propext (iff_of_false List.not_mem_nil id)
  | append_singleton steps step ih =>
    funext name progression
    rw [run_append, List.reverse_append]
    refine propext (holds_step.trans ?_)
    rw [ih]
    rfl

/-- Wherever a run stands, its catalogs list in order what they have received, the next step gets the
answer it deserves, and it changes no catalog but its target's. -/
theorem run_follows_sets (before after : List Step) (step : Step) :
    (∀ name, ((run ∅ before).2.catalog name).toList.Pairwise Progression.Precedes ∧
      ∀ progression, progression ∈ ((run ∅ before).2.catalog name).toList ↔
        Received before.reverse name progression) ∧
    (∃ reply, (run ∅ (before ++ step :: after)).1[before.length]? = some reply ∧
      step.Deserves before.reverse reply) ∧
    ∀ name, step.target? ≠ some name →
      (run ∅ (before ++ [step])).2.catalog name = (run ∅ before).2.catalog name := by
  have holds := holds_run before
  refine ⟨fun name => ⟨Catalog.toList_ascending _, fun progression => ?_⟩, ?_, fun name other => ?_⟩
  · rw [← holds]
    exact Iff.rfl
  · refine ⟨_, ?_, deserves_step holds step⟩
    rw [run_append, ← length_run ∅ before, List.getElem?_append_right (Nat.le_refl _), Nat.sub_self]
    rfl
  · rw [run_append]
    exact catalog_step_of_ne other

end SquareSums.Shelf
