import SquareSums.Pattern.Tree

/-! Regular expressions by their meaning: flags and names are gone, neighbouring literals are one, and a
part is written in its simplest form by the functions that build it. A class is one of characters or, where
Unicode is set aside, one of bytes. -/

namespace SquareSums

/-- A condition on the place between two characters. Lines may end with carriage returns; words may be
those of ASCII or of Unicode. -/
inductive Look where
  | textStart
  | textEnd
  | lineStart (carriageReturns : Bool)
  | lineEnd (carriageReturns : Bool)
  | word (edge : Pattern.WordEdge) (unicode : Bool)
deriving DecidableEq, Repr

inductive Pattern where
  | empty
  | literal (text : List Char)
  | oneOf (members : CharSet) (isBytes : Bool)
  | look (condition : Look)
  | capture (index : Nat) (body : Pattern)
  | repeated (least : Nat) (most : Option Nat) (isLazy : Bool) (body : Pattern)
  | sequence (parts : List Pattern)
  | choice (branches : List Pattern)

namespace Pattern

mutual
/-- Whether nothing but the empty text can match. -/
def isOnlyEmpty : Pattern → Bool
  | empty | look _ => true
  | literal _ | oneOf .. => false
  | capture _ body | repeated _ _ _ body => body.isOnlyEmpty
  | sequence parts | choice parts => areOnlyEmpty parts

def areOnlyEmpty : List Pattern → Bool
  | [] => true
  | part :: later => if part.isOnlyEmpty then areOnlyEmpty later else false
end

mutual
/-- Whether two expressions are built alike. -/
def same : Pattern → Pattern → Bool
  | empty, empty => true
  | literal text, literal other => text == other
  | oneOf members isBytes, oneOf others areBytes => members == others && isBytes == areBytes
  | look condition, look other => condition == other
  | capture index body, capture other otherBody => index == other && body.same otherBody
  | repeated least most isLazy body, repeated otherLeast otherMost otherLazy otherBody =>
    least == otherLeast && most == otherMost && isLazy == otherLazy && body.same otherBody
  | sequence parts, sequence others => allSame parts others
  | choice branches, choice others => allSame branches others
  | _, _ => false

def allSame : List Pattern → List Pattern → Bool
  | [], [] => true
  | part :: parts, other :: others => if part.same other then allSame parts others else false
  | _, _ => false
end

/-- A class with a single member is a literal; without members it does not matter what they would be. -/
def ofSet (members : CharSet) (isBytes : Bool) : Pattern :=
  match members.single? with
  | some character => literal [character]
  | none => oneOf members (isBytes || members.ranges.isEmpty)

/-- Repeating the empty text more than once means no more than doing so once. -/
def ofRepetition (least : Nat) (most : Option Nat) (isLazy : Bool) (body : Pattern) : Pattern :=
  let once := body.isOnlyEmpty
  let least := if once then min least 1 else least
  let most := if once then some (most.elim 1 (min · 1)) else most
  if most == some 0 then empty
  else if least == 1 && most == some 1 then body
  else repeated least most isLazy body

/-- Parts of a sequence, and the literal at its end, both backwards. -/
structure Joining where
  parts : List Pattern
  text : List Char

namespace Joining

def finish (joining : Joining) : List Pattern :=
  if joining.text.isEmpty then joining.parts else literal joining.text.reverse :: joining.parts

def add (joining : Joining) : Pattern → Joining
  | empty => joining
  | literal text => { joining with text := text.reverseAux joining.text }
  | part => ⟨part :: joining.finish, []⟩

end Joining

/-- A sequence of parts that may be sequences themselves. -/
def ofSequence (parts : List Pattern) : Pattern :=
  let joined := parts.foldl
    (fun (joining : Joining) part =>
      match part with
      | sequence inner => inner.foldl Joining.add joining
      | _ => joining.add part)
    ⟨[], []⟩
  match joined.finish with
  | [] => empty
  | [part] => part
  | backwards => sequence backwards.reverse

def character? : Pattern → Option (Nat × Nat)
  | literal [character] => some (character.toNat, character.toNat)
  | _ => none

def ranges? : Pattern → Option (List (Nat × Nat))
  | oneOf members _ => some members.ranges
  | _ => none

/-- A choice between single characters, or between classes, is a class. -/
def asSet? (branches : List Pattern) : Option CharSet :=
  ((branches.mapM character?).or ((branches.mapM ranges?).map List.flatten)).map CharSet.ofRanges

def ofBranches (branches : List Pattern) : Pattern :=
  match branches with
  | [branch] => branch
  | _ =>
    match asSet? branches with
    | some members => ofSet members false
    | none => choice branches

def alternatives : Pattern → List Pattern
  | choice branches => branches
  | branch => [branch]

def parts? : Pattern → Option (List Pattern)
  | sequence parts => some parts
  | _ => none

def commonStart : List Pattern → List Pattern → List Pattern
  | part :: parts, other :: others => if part.same other then part :: commonStart parts others else []
  | _, _ => []

/-- A choice between branches that may be choices themselves. What all branches begin with stands before
a choice between the rests, which may begin alike in turn where a rest is a choice. -/
def choose : (rounds : Nat) → List Pattern → Pattern
  | 0, branches => ofBranches branches
  | rounds + 1, branches =>
    let branches := branches.flatMap alternatives
    match branches.mapM parts? with
    | some (first :: second :: others) =>
      let common := (second :: others).foldl commonStart first
      if common.isEmpty then ofBranches branches
      else
        let rests := (first :: second :: others).map fun parts => ofSequence (parts.drop common.length)
        ofSequence (common ++ [choose rounds rests])
    | _ => ofBranches branches

mutual
def weight : Pattern → Nat
  | empty | literal _ | oneOf .. | look _ => 1
  | capture _ body | repeated _ _ _ body => body.weight + 1
  | sequence parts | choice parts => weightOf 1 parts

/-- How many expressions there are, with those inside and a number of others. -/
def weightOf (others : Nat) : List Pattern → Nat
  | [] => others
  | part :: later => weightOf (others + part.weight) later
end

/-- Every round takes a part from the branches, so as many rounds as there are expressions suffice. -/
def ofChoice (branches : List Pattern) : Pattern := choose (weightOf 1 branches) branches

end Pattern
end SquareSums
