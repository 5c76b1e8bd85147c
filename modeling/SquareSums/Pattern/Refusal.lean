import SquareSums.Pattern.Beginnings
import SquareSums.Pattern.Footprint
import SquareSums.Pattern.Meaning
import SquareSums.Pattern.Nesting
import SquareSums.Pattern.Reader

/-! From the text of a regular expression to its meaning, or to the reason why it is refused. What is
written wrongly is found before what cannot be meant, and that before what cannot be built. -/

namespace SquareSums.Pattern

inductive Refusal where
  | flaw (flaw : Flaw)
  | tooLarge
  | noUnicodeWords
deriving DecidableEq, Repr

def Refusal.message (refusal : Refusal) (text : List Char) : String :=
  match refusal with
  | flaw found => found.message text
  | tooLarge => "Compiled regex exceeds size limit of " ++ toString sizeLimit ++ " bytes."
  | noUnicodeWords => "error building NFA"

/-- What is wrong with the automata: the one that reads forward is built first, the one that reads backward
last. -/
def excess? (pattern : Pattern) : Option Refusal :=
  if sizeLimit < pattern.footprint false then some .tooLarge
  else if pattern.needsUnicodeWords then some .noUnicodeWords
  else if sizeLimit < pattern.footprint true then some .tooLarge
  else none

/-- Where a search does, there are no automata. -/
def check (pattern : Pattern) : Except Refusal Pattern :=
  match pattern.excess? with
  | none => .ok pattern
  | some refusal => if pattern.isSearch then .ok pattern else .error refusal

def ofText (text : List Char) : Except Refusal Pattern := do
  let tree ← (Tree.ofText text).mapError .flaw
  tree.checkDepth.mapError .flaw
  let (pattern, _) ← (tree.meaning Flags.initial).mapError .flaw
  pattern.check

end SquareSums.Pattern
