import SquareSums.Pattern.Cursor

/-! Reading how often an item may be repeated. A number is only a flaw where it is needed: a brace that
is never closed is found first. -/

namespace SquareSums.Pattern

structure Repetition where
  least : Nat
  most : Option Nat
  isLazy : Bool
deriving DecidableEq, Repr

namespace Repetition

def lazy? (cursor : Cursor) : Bool × Cursor :=
  if cursor.sees '?' then (true, cursor.advance) else (false, cursor)

/-- The cursor stands on a sign that repeats. -/
def ofSign (least : Nat) (most : Option Nat) (cursor : Cursor) : Repetition × Cursor :=
  let (isLazy, after) := lazy? cursor.advance
  (⟨least, most, isLazy⟩, after)

def isCountable (count : Nat) : Bool := count < UInt32.size

def readCount (verbose : Bool) (cursor : Cursor) : Except Flaw Nat × Cursor :=
  let (_, start) := cursor.takeWhile false Blank.holds
  let (digits, stop) := start.takeWhile verbose Char.isDigit
  let (_, after) := stop.takeWhile verbose Blank.holds
  let span := stop.since start.place
  let count := Nat.ofDigitChars 10 digits 0
  if digits.isEmpty then (fail .repetitionDecimal span, after)
  else if isCountable count then (.ok count, after)
  else (fail .decimalInvalid span, after)

def unclosed {α : Type} (brace cursor : Cursor) : Except Flaw α :=
  fail .repetitionUnclosed (cursor.since brace.place)

/-- The least and the greatest count, up to the closing brace. -/
def readCounts (verbose : Bool) (brace : Cursor) : Except Flaw (Nat × Option Nat × Cursor) := do
  let inside := brace.step verbose
  if inside.atEnd then unclosed brace inside
  else
    let (least, stop) := readCount verbose inside
    if stop.atEnd then unclosed brace stop
    else if !stop.sees ',' then
      let least ← least
      pure (least, some least, stop)
    else
      let second := stop.step verbose
      if second.atEnd then unclosed brace second
      else
        let least ← least
        if second.sees '\x7d' then pure (least, none, second)
        else
          let (most, stop) := readCount verbose second
          pure (least, some (← most), stop)

/-- The cursor stands on the opening brace. -/
def ofBraces (verbose : Bool) (brace : Cursor) : Except Flaw (Repetition × Cursor) := do
  let (least, most, stop) ← readCounts verbose brace
  if !stop.sees '\x7d' then unclosed brace stop
  else
    let (isLazy, after) := lazy? (stop.step verbose)
    if most.any (· < least) then fail .repetitionRange (after.since brace.place)
    else pure (⟨least, most, isLazy⟩, after)

end Repetition
end SquareSums.Pattern
