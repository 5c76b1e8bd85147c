import SquareSums.Pattern.Basic

/-! Where a regular expression matches, told by reachability: from a place in the text where a match may
begin, it reaches the places where it may end. A set of places is a number whose binary digits tell the
places, the lowest the first. Greedy and lazy repetitions reach the same places. -/

namespace SquareSums

def isWordCharacter (character : Char) : Bool := character.isAlphanum || character == '_'

/-- A condition on the characters before and after a place. -/
def Look.holds (before after : Option Char) (look : Look) : Bool :=
  let wordBefore := before.any isWordCharacter
  let wordAfter := after.any isWordCharacter
  match look with
  | textStart => before.isNone
  | textEnd => after.isNone
  | lineStart false => before.all (· == '\n')
  | lineEnd false => after.all (· == '\n')
  | lineStart true => before.all (fun character => character == '\n' || (character == '\r' && after != some '\n'))
  | lineEnd true => after.all (fun character => character == '\r' || (character == '\n' && before != some '\r'))
  | word .boundary _ => wordBefore != wordAfter
  | word .noBoundary _ => wordBefore == wordAfter
  | word .start _ => !wordBefore && wordAfter
  | word .stop _ => wordBefore && !wordAfter
  | word .startHalf _ => !wordBefore
  | word .stopHalf _ => !wordAfter

namespace Pattern

abbrev Places := Nat

/-- The positions of the items that pass a test. -/
def placesWhere {α : Type} (test : α → Bool) (items : List α) : Places :=
  items.foldr (fun item places => 2 * places + (test item).toNat) 0

/-- What stands before and after each place of a text. -/
def surroundings (text : List Char) : List (Option Char × Option Char) :=
  (none :: text.map some).zip (text.map some ++ [none])

/-- For every place the places that can be reached from it. -/
abbrev Reach := List Places

def follow : Reach → Places → Places
  | [], _ => 0
  | reached :: later, places =>
    let rest := follow later (places / 2)
    if places % 2 = 1 then reached ||| rest else rest

def Reach.andThen (first second : Reach) : Reach := first.map (follow second)

def Reach.or (first second : Reach) : Reach := first.zipWith (· ||| ·) second

def Reach.isNowhere (reach : Reach) : Bool := reach.all (· == 0)

/-- From every place of a text no other than itself. -/
def Reach.stay (text : List Char) : Reach := (List.range (text.length + 1)).map fun place => Nat.pow 2 place

/-- The same step several times, by squaring. A step that leads no further when doubled need not be
repeated. -/
def Reach.times (start step : Reach) (count : Nat) : Reach :=
  if count = 0 then start
  else if count = 1 then start.andThen step
  else
    let double := step.andThen step
    if double == step then start.andThen step
    else Reach.times (if count % 2 = 1 then start.andThen step else start) double (count / 2)
termination_by count
decreasing_by omega

/-- A step at least and at most so often. Whatever can be reached at all can be reached by no more steps
than there are characters. -/
def Reach.repeated (start step : Reach) (text : List Char) (least : Nat) (most : Option Nat) : Reach :=
  let allowed := most.elim text.length fun most => min (most - least) text.length
  (start.times step least).times ((Reach.stay text).or step) allowed

/-- Past one character, where it belongs to a class. -/
def Reach.past (start : Reach) (text : List Char) (accepts : Char → Bool) : Reach :=
  let places := placesWhere accepts text
  start.map fun reached => 2 * (reached &&& places)

def Reach.pastAll (start : Reach) (text : List Char) : List Char → Reach
  | [] => start
  | character :: later =>
    if start.isNowhere then start else (start.past text (· == character)).pastAll text later

mutual
def extend (text : List Char) (start : Reach) : Pattern → Reach
  | empty => start
  | literal characters => start.pastAll text characters
  | oneOf members _ => start.past text members.contains
  | look condition =>
    let places := placesWhere (fun (before, after) => condition.holds before after) (surroundings text)
    start.map (· &&& places)
  | capture _ body => body.extend text start
  | repeated least most _ body =>
    if start.isNowhere then start
    else start.repeated (body.extend text (Reach.stay text)) text least most
  | sequence parts => extendThrough text start parts
  | choice branches => extendAny text start (start.map fun _ => 0) branches

def extendThrough (text : List Char) (start : Reach) : List Pattern → Reach
  | [] => start
  | part :: later => if start.isNowhere then start else extendThrough text (part.extend text start) later

def extendAny (text : List Char) (start found : Reach) : List Pattern → Reach
  | [] => found
  | branch :: others => extendAny text start (found.or (branch.extend text start)) others
end

/-- Whether some part of the text matches. -/
def occursIn (pattern : Pattern) (text : String) : Bool :=
  let characters := text.toList
  !(pattern.extend characters [Nat.pow 2 (characters.length + 1) - 1]).isNowhere

end Pattern
end SquareSums
