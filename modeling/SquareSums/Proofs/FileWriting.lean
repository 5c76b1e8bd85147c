import SquareSums.Console.Disk

/-! What writing a file does. Where a path leads is settled before anything is written, so whether a
file can be created does not depend on its contents. Afterwards the path reads as what was written,
and every other file is as it was. -/

namespace SquareSums.Console

section Steps

variable {α β : Type}

theorem bind_eq_ok_iff {first : Except DiskFault α} {next : α → Except DiskFault β} {result : β} :
    (first >>= next) = .ok result ↔ ∃ value, first = .ok value ∧ next value = .ok result := by
  cases first with
  | error fault => simp [bind, Except.bind]
  | ok value => simp [bind, Except.bind]

theorem unless_eq_ok_iff {refused : Prop} [Decidable refused] {fault : DiskFault} {rest : Except DiskFault α}
    {result : α} : (if refused then .error fault else rest) = .ok result ↔ ¬ refused ∧ rest = .ok result := by
  split <;> simp_all

theorem foldlM_eq_ok_iff {one other : β → α → Except DiskFault β}
    (alike : ∀ start item result, one start item = .ok result ↔ other start item = .ok result)
    (items : List α) (start result : β) :
    items.foldlM one start = .ok result ↔ items.foldlM other start = .ok result := by
  induction items generalizing start with
  | nil => rfl
  | cons item items ih =>
    rw [List.foldlM_cons, List.foldlM_cons, bind_eq_ok_iff, bind_eq_ok_iff]
    simp only [alike, ih]

end Steps

namespace Disk

theorem enter_eq_ok_iff {disk : Disk} {place result : Place} {name : String} :
    disk.enter place name = .ok result ↔
      name = "." ∧ result = place ∨
      name = ".." ∧ result = place.tail ∨
      name ≠ "." ∧ name ≠ ".." ∧ name.utf8ByteSize ≤ maxNameBytes ∧ disk.hasDirectory (name :: place) = true ∧
        result = name :: place := by
  rw [enter]
  by_cases here : name = "."
  · simp [here, eq_comm (a := result)]
  by_cases up : name = ".."
  · simp [up, eq_comm (a := result)]
  simp only [beq_iff_eq, here, up, if_false, unless_eq_ok_iff, false_and, false_or, ne_eq, not_false_eq_true,
    true_and, Nat.not_lt]
  refine and_congr_right fun _ => ?_
  split
  next present => simp [present, eq_comm]
  next absent => split <;> simp [absent]

theorem locate_eq_ok_iff {disk : Disk} {text : String} {path : Path} {parent : Place} :
    disk.locate text = .ok (path, parent) ↔
      text.utf8ByteSize ≤ maxPathBytes ∧ path = Path.ofText text ∧
        path.parents.foldlM disk.enter (if path.isAbsolute then [] else disk.home) = .ok parent := by
  rw [locate, unless_eq_ok_iff, Nat.not_lt]
  refine and_congr_right fun _ => ?_
  rw [bind_eq_ok_iff]
  constructor
  · rintro ⟨_, walked, ⟨⟩⟩
    exact ⟨rfl, walked⟩
  · rintro ⟨rfl, walked⟩
    exact ⟨parent, walked, rfl⟩

theorem target_eq_ok_iff {disk : Disk} {text : String} {place : Place} :
    disk.target text = .ok place ↔
      ∃ path parent, disk.locate text = .ok (path, parent) ∧ ¬ path.isDirectory = true ∧
        path.name.utf8ByteSize ≤ maxNameBytes ∧ ¬ disk.hasDirectory place = true ∧ place = path.name :: parent := by
  rw [target, bind_eq_ok_iff]
  simp only [unless_eq_ok_iff, Nat.not_lt, Prod.exists]
  constructor
  · rintro ⟨path, parent, located, file, short, free, ⟨⟩⟩
    exact ⟨path, parent, located, file, short, free, rfl⟩
  · rintro ⟨path, parent, located, file, short, free, rfl⟩
    exact ⟨path, parent, located, file, short, free, rfl⟩

theorem read_eq_ok_iff {disk : Disk} {text : String} {bytes : ByteArray} :
    disk.read text = .ok bytes ↔ ∃ place, disk.target text = .ok place ∧ disk.file? place = some bytes := by
  rw [read, bind_eq_ok_iff]
  simp only [target_eq_ok_iff, Prod.exists]
  constructor
  · rintro ⟨path, parent, located, found⟩
    by_cases directory : path.isDirectory = true
    · rw [if_pos directory, bind_eq_ok_iff] at found
      obtain ⟨_, _, ⟨⟩⟩ := found
    · rw [if_neg directory, unless_eq_ok_iff, unless_eq_ok_iff, Nat.not_lt] at found
      obtain ⟨short, free, contents⟩ := found
      refine ⟨_, ⟨path, parent, located, directory, short, free, rfl⟩, ?_⟩
      cases held : disk.file? (path.name :: parent) with
      | none =>
        rw [held] at contents
        cases contents
      | some other =>
        rw [held] at contents
        cases contents
        rfl
  · rintro ⟨_, ⟨path, parent, located, file, short, free, rfl⟩, contents⟩
    refine ⟨path, parent, located, ?_⟩
    rw [if_neg file, unless_eq_ok_iff, unless_eq_ok_iff, contents, Nat.not_lt]
    exact ⟨short, free, rfl⟩

theorem create_eq (disk : Disk) (text : String) :
    disk.create text = (disk.target text).map fun place => (place, disk.put place ByteArray.empty) := by
  rw [create]
  cases disk.target text <;> rfl

theorem create_eq_ok_iff {disk emptied : Disk} {text : String} {place : Place} :
    disk.create text = .ok (place, emptied) ↔
      disk.target text = .ok place ∧ emptied = disk.put place ByteArray.empty := by
  rw [create, bind_eq_ok_iff]
  constructor
  · intro created
    obtain ⟨found, leads, same⟩ := created
    cases same
    exact ⟨leads, rfl⟩
  · intro created
    exact ⟨place, created.1, created.2 ▸ rfl⟩

theorem create_eq_error_iff {disk : Disk} {text : String} {fault : DiskFault} :
    disk.create text = .error fault ↔ disk.target text = .error fault := by
  rw [create_eq]
  cases disk.target text with
  | error other =>
    rw [Except.map, Except.error.injEq, Except.error.injEq]
  | ok place => exact iff_of_false nofun nofun

theorem put_put (disk : Disk) (place : Place) (earlier bytes : ByteArray) :
    (disk.put place earlier).put place bytes = disk.put place bytes := by
  rw [put, put, put]
  simp

/-- A disk after a file was written: that file holds the bytes, and all else is as before. -/
structure Replaced (before after : Disk) (place : Place) (bytes : ByteArray) : Prop where
  home : after.home = before.home
  directories : after.directories = before.directories
  held : after.file? place = some bytes
  others : ∀ other, other ≠ place → after.file? other = before.file? other

theorem lookup_filter_of_ne {files : List (Place × ByteArray)} {place other : Place} (different : other ≠ place) :
    (files.filter (·.1 != place)).lookup other = files.lookup other := by
  induction files with
  | nil => rfl
  | cons file files ih =>
    by_cases same : file.1 = place
    · have missed : (other == file.1) = false := by simpa [same] using different
      rw [List.filter_cons_of_neg (by simp [same]), ih, List.lookup_cons, missed]
    · rw [List.filter_cons_of_pos (by simpa using same), List.lookup_cons, List.lookup_cons, ih]

theorem replaced_put (disk : Disk) (place : Place) (bytes : ByteArray) :
    Replaced disk (disk.put place bytes) place bytes := by
  refine ⟨rfl, rfl, List.lookup_cons_self, fun other different => ?_⟩
  have missed : (other == place) = false := beq_eq_false_iff_ne.mpr different
  rw [file?, put, List.lookup_cons, missed]
  exact lookup_filter_of_ne different

namespace Replaced

variable {before after : Disk} {place : Place} {bytes : ByteArray} (replaced : Replaced before after place bytes)
include replaced

theorem hasDirectory_eq (other : Place) : after.hasDirectory other = before.hasDirectory other := by
  rw [hasDirectory, hasDirectory, replaced.directories]

theorem locate_eq_ok {text : String} {path : Path} {parent : Place} :
    after.locate text = .ok (path, parent) ↔ before.locate text = .ok (path, parent) := by
  have enters (start : Place) (name : String) (result : Place) :
      after.enter start name = .ok result ↔ before.enter start name = .ok result := by
    rw [enter_eq_ok_iff, enter_eq_ok_iff, replaced.hasDirectory_eq]
  rw [locate_eq_ok_iff, locate_eq_ok_iff, replaced.home, foldlM_eq_ok_iff enters]

theorem target_eq_ok {text : String} {other : Place} :
    after.target text = .ok other ↔ before.target text = .ok other := by
  simp only [target_eq_ok_iff, replaced.locate_eq_ok, replaced.hasDirectory_eq]

theorem read_eq {text : String} (leads : before.target text = .ok place) : after.read text = .ok bytes :=
  read_eq_ok_iff.mpr ⟨place, replaced.target_eq_ok.mpr leads, replaced.held⟩

end Replaced
end Disk
end SquareSums.Console
