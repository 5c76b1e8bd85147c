import SquareSums.Pattern.Flaw
import SquareSums.Text.Blank

/-! A reader's position in the text of a regular expression. In a verbose expression white space and
comments mean nothing, so most steps pass over them. -/

namespace SquareSums.Pattern

structure Cursor where
  place : Place
  rest : List Char

namespace Cursor

def ofText (text : List Char) : Cursor := ⟨Place.start, text⟩

def advance (cursor : Cursor) : Cursor :=
  match cursor.rest with
  | [] => cursor
  | character :: rest => ⟨cursor.place.after character, rest⟩

def atEnd (cursor : Cursor) : Bool := cursor.rest.isEmpty

def sees (cursor : Cursor) (character : Char) : Bool := cursor.rest.head? == some character

/-- The character under the cursor, or nothing at the end. -/
def here (cursor : Cursor) : Span := ⟨cursor.place, cursor.advance.place⟩

def since (cursor : Cursor) (first : Place) : Span := ⟨first, cursor.place⟩

def skipFrom (place : Place) (inComment : Bool) : List Char → Cursor
  | [] => ⟨place, []⟩
  | character :: rest =>
    if inComment then skipFrom (place.after character) (character != '\n') rest
    else if Blank.holds character then skipFrom (place.after character) false rest
    else if character == '#' then skipFrom (place.after character) true rest
    else ⟨place, character :: rest⟩

/-- Past white space and comments, if they mean nothing. -/
def skip (cursor : Cursor) (verbose : Bool) : Cursor :=
  if verbose then skipFrom cursor.place false cursor.rest else cursor

/-- Past one character and what means nothing behind it. -/
def step (cursor : Cursor) (verbose : Bool) : Cursor := cursor.advance.skip verbose

/-- The next character that means something, of those behind a first one. A comment hides no more than
its sign and the white space before its text; where nothing else follows, the first character counts. -/
def significant? (inComment : Bool) : List Char → Option Char
  | [] => none
  | character :: rest =>
    if Blank.holds character then significant? inComment rest
    else if character == '#' && !inComment then significant? true rest
    else some character

/-- The character behind the one under the cursor. -/
def next? (cursor : Cursor) (verbose : Bool) : Option Char :=
  let following := cursor.rest.tail
  if verbose then (significant? false following).or following.head? else following.head?

def takeFrom (accepts : Char → Bool) (verbose inComment : Bool) (taken : List Char) (place : Place) :
    List Char → List Char × Cursor
  | [] => (taken.reverse, ⟨place, []⟩)
  | character :: rest =>
    let later := place.after character
    if inComment then takeFrom accepts verbose (character != '\n') taken later rest
    else if verbose && Blank.holds character then takeFrom accepts verbose false taken later rest
    else if verbose && character == '#' then takeFrom accepts verbose true taken later rest
    else if accepts character then takeFrom accepts verbose false (character :: taken) later rest
    else (taken.reverse, ⟨place, character :: rest⟩)

/-- The longest run of accepted characters, without what means nothing between them. -/
def takeWhile (cursor : Cursor) (verbose : Bool) (accepts : Char → Bool) : List Char × Cursor :=
  takeFrom accepts verbose false [] cursor.place cursor.rest

/-- Behind a lead that stands at the cursor. -/
def drop? (cursor : Cursor) : (lead : List Char) → Option Cursor
  | [] => some cursor
  | character :: lead => if cursor.sees character then cursor.advance.drop? lead else none

end Cursor

end SquareSums.Pattern
