import SquareSums.Progression

/-! A set of progressions, listed in canonical order. Two catalogs are equal when they list the same
members, however they came to hold them. -/

namespace SquareSums

structure Catalog where
  members : Std.TreeSet Progression

namespace Catalog

instance : EmptyCollection Catalog := ⟨⟨∅⟩⟩

def toList (catalog : Catalog) : List Progression := catalog.members.toList

def size (catalog : Catalog) : Nat := catalog.members.size

def contains (catalog : Catalog) (progression : Progression) : Bool := catalog.members.contains progression

instance : BEq Catalog := ⟨fun left right => left.toList == right.toList⟩

/-- Whether the progression was new, and the catalog with it. -/
def insert (catalog : Catalog) (progression : Progression) : Bool × Catalog :=
  let (present, members) := catalog.members.containsThenInsert progression
  (!present, ⟨members⟩)

/-- For each progression in turn, whether it was new when it came; and the catalog with all of them. -/
def insertAll (catalog : Catalog) (progressions : List Progression) : List Bool × Catalog :=
  let (areNew, filled) := progressions.foldl
    (fun (areNew, catalog) progression =>
      let (isNew, next) := insert catalog progression
      (areNew.push isNew, next))
    (#[], catalog)
  (areNew.toList, filled)

def ofList (progressions : List Progression) : Catalog := (insertAll ∅ progressions).2

end Catalog
end SquareSums
