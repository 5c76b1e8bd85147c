import SquareSums.Sieve
import SquareSums.Text.Blank

/-! A request for progressions: how many terms, and the bound on the squared roots. It is read from
the first two words of a text; the first defect met decides the fault, and what follows the second
word has no influence. -/

namespace SquareSums

structure Query where
  length : UInt64
  bound : UInt64
deriving DecidableEq, Repr

namespace Query

/-- A length must be positive and a bound must give a table a size. -/
def check (length bound : UInt64) : Except Fault Query :=
  if length = 0 then .error .zeroLength
  else if (Sieve.size? bound).isNone then .error (.boundTooLarge bound)
  else .ok ⟨length, bound⟩

/-- Decimal digits after at most one plus sign. -/
def number? : List Char → Option UInt64
  | '+' :: characters => Decimal.value? characters
  | characters => Decimal.value? characters

def next (quantity : Quantity) (text : List Char) : Except Fault (UInt64 × List Char) :=
  match Blank.word? text with
  | none => .error (.missing quantity)
  | some (word, rest) =>
    match number? word with
    | none => .error (.malformed quantity (String.ofList word))
    | some number => .ok (number, rest)

def ofText (text : String) : Except Fault Query := do
  let (length, rest) ← next .length text.toList
  let (bound, _) ← next .bound rest
  check length bound

def ofBytes (bytes : ByteArray) : Except Fault Query :=
  match String.fromUTF8? bytes with
  | none => .error (.unreadable "stream did not contain valid UTF-8")
  | some text => ofText text

end Query
end SquareSums
