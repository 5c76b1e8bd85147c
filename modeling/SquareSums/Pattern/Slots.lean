import Std.Data.HashMap

/-! A memory of limited size. Every key, a list of numbers, has one slot, told by its hash; an entry stays
until another key with the same slot displaces it. -/

namespace SquareSums

/-- For each slot the key it holds and the number kept for the key. -/
structure Slots where
  count : Nat
  held : Std.HashMap Nat (List Nat × Nat)

namespace Slots

def empty (count : Nat) : Slots := ⟨count, {}⟩

/-- The hash of Fowler, Noll and Vo: number by number, exclusive or and a product in 64 bits. -/
def hash (key : List Nat) : UInt64 :=
  key.foldl (fun hash number => (hash ^^^ UInt64.ofNat number) * 1099511628211) 14695981039346656037

def slot (slots : Slots) (key : List Nat) : Nat := (hash key).toNat % slots.count

def find? (slots : Slots) (key : List Nat) : Option Nat :=
  match slots.held[slots.slot key]? with
  | some (held, number) => if held == key then some number else none
  | none => none

def insert (slots : Slots) (key : List Nat) (number : Nat) : Slots :=
  { slots with held := slots.held.insert (slots.slot key) (key, number) }

end Slots
end SquareSums
