import SquareSums.Catalog

/-! Named catalogs and the steps that change them. A name that was never filled stands for the empty
catalog, and a copy shares nothing with what it was copied from. -/

namespace SquareSums

structure Shelf where
  catalog : String → Catalog

namespace Shelf

instance : EmptyCollection Shelf := ⟨⟨fun _ => ∅⟩⟩

def put (shelf : Shelf) (name : String) (catalog : Catalog) : Shelf :=
  ⟨fun other => if other = name then catalog else shelf.catalog other⟩

theorem catalog_put_self (shelf : Shelf) (name : String) (catalog : Catalog) :
    (shelf.put name catalog).catalog name = catalog := by
  simp [put]

theorem catalog_put_other (shelf : Shelf) {name other : String} (catalog : Catalog) (different : other ≠ name) :
    (shelf.put name catalog).catalog other = shelf.catalog other := by
  simp [put, different]

inductive Step where
  | insert (name : String) (progression : Progression)
  | insertAll (name : String) (progressions : List Progression)
  | list (name : String)
  | take (name : String)
  | copy (source target : String)
  | compare (left right : String)
deriving Repr

inductive Reply where
  | new (isNew : Bool)
  | newEach (areNew : List Bool)
  | listed (progressions : List Progression)
  | copied
  | compared (equal : Bool)
deriving DecidableEq, Repr

def step (shelf : Shelf) : Step → Reply × Shelf
  | .insert name progression =>
    let (isNew, catalog) := (shelf.catalog name).insert progression
    (.new isNew, shelf.put name catalog)
  | .insertAll name progressions =>
    let (areNew, catalog) := (shelf.catalog name).insertAll progressions
    (.newEach areNew, shelf.put name catalog)
  | .list name => (.listed (shelf.catalog name).toList, shelf)
  | .take name => (.listed (shelf.catalog name).toList, shelf.put name ∅)
  | .copy source target => (.copied, shelf.put target (shelf.catalog source))
  | .compare left right => (.compared (shelf.catalog left == shelf.catalog right), shelf)

def run (shelf : Shelf) : List Step → List Reply × Shelf
  | [] => ([], shelf)
  | first :: later =>
    let (reply, next) := shelf.step first
    let (replies, last) := next.run later
    (reply :: replies, last)

end Shelf
end SquareSums
