import SquareSums.Text.Decimal
import SquareSums.Text.Quoted

/-! Why a request cannot be answered. A cause carries what its message needs: the quantity that is
missing or malformed, the offending token as it was written, the bound that is too large. -/

namespace SquareSums

/-- The two numbers of a request. -/
inductive Quantity where
  | length
  | bound
deriving DecidableEq, Repr

def Quantity.symbol : Quantity → String
  | .length => "N"
  | .bound => "M"

inductive Fault where
  | unreadable (reason : String)
  | missing (quantity : Quantity)
  | malformed (quantity : Quantity) (token : String)
  | zeroLength
  | boundTooLarge (bound : UInt64)
deriving DecidableEq, Repr

namespace Fault

def message : Fault → String
  | unreadable reason => "i/o error: " ++ reason
  | missing quantity => "missing value for " ++ quantity.symbol
  | malformed quantity token => "invalid value for " ++ quantity.symbol ++ ": " ++ Quoted.encode token
  | zeroLength => "progression length must be positive"
  | boundTooLarge bound => "bound " ++ Decimal.write bound ++ " is too large: table size overflows"

/-- The reason that lies outside the program, if there is one. -/
def cause? : Fault → Option String
  | unreadable reason => some reason
  | _ => none

end Fault
end SquareSums
