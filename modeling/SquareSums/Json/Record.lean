import SquareSums.Json.Text
import SquareSums.Json.Value
import SquareSums.Text.Decimal

/-! Values read as records of named fields. An object gives each field once, in any order, beside
members of other names; an array gives exactly the fields, in their order. -/

namespace SquareSums.Json

namespace Value

def word? : Value → Option UInt64
  | number lexeme => Decimal.value? lexeme
  | _ => none

def items? : Value → Option (List Value)
  | array items => some items
  | _ => none

def ofWord (word : UInt64) : Value := number (Decimal.digits word.toNat)

def ofFields (fields : List (String × Value)) : Value :=
  object (fields.map fun (name, value) => (name.toList, value))

/-- The one value under a name. -/
def unique? (members : List (List Char × Value)) (name : String) : Option Value :=
  match members.filter (·.1 == name.toList) with
  | [(_, value)] => some value
  | _ => none

/-- The values of the named fields, in the order of the names. Every key of an object must be readable. -/
def fields? (names : List String) : Value → Option (List Value)
  | object members => do
    let decoded ← members.mapM fun (key, value) => (Text.decode? key).map (·, value)
    names.mapM (unique? decoded)
  | array items => if items.length = names.length then some items else none
  | _ => none

end Value
end SquareSums.Json
