import SquareSums.Log

/-! How fine a log may be. A threshold shows every record that is at least as severe. -/

namespace SquareSums.Console

inductive Threshold where
  | off
  | upTo (level : Level)
deriving DecidableEq, Repr

namespace Threshold

def shows : Threshold → Level → Bool
  | off, _ => false
  | upTo least, level => level.rank ≤ least.rank

/-- No record is finer than the level debug. -/
def finest : Threshold := upTo .debug

/-- Names are read in any letter case. -/
def named? (name : List Char) : Option Threshold :=
  [("off", off), ("error", upTo .error), ("warn", upTo .warn), ("info", upTo .info), ("debug", upTo .debug),
    ("trace", finest)].lookup (String.ofList (name.map Char.toLower))

/-- Each request for more shows one level more, starting from warnings. -/
def ofVerbosity : Nat → Threshold
  | 0 => upTo .warn
  | 1 => upTo .info
  | _ => finest

end Threshold
end SquareSums.Console
