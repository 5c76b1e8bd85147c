import SquareSums.Json.Token

/-! JSON values and the sequence of tokens that each of them is. The reader keeps the enclosing
arrays and objects on a stack of its own, so values may be nested to any depth. -/

namespace SquareSums.Json

inductive Value where
  | null
  | boolean (value : Bool)
  | number (lexeme : List Char)
  | string (body : List Char)
  | array (items : List Value)
  | object (members : List (List Char × Value))
deriving Repr

namespace Value

mutual

def tokens : Value → List Token
  | null => [.null]
  | boolean value => [.boolean value]
  | number lexeme => [.number lexeme]
  | string body => [.string body]
  | array [] => [.openBracket, .closeBracket]
  | array (item :: items) => .openBracket :: (item.tokens ++ itemsTokens items)
  | object [] => [.openBrace, .closeBrace]
  | object ((key, value) :: members) =>
    .openBrace :: .string key :: .colon :: (value.tokens ++ membersTokens members)

/-- The rest of an array whose first item has been written. -/
def itemsTokens : List Value → List Token
  | [] => [.closeBracket]
  | item :: items => .comma :: (item.tokens ++ itemsTokens items)

/-- The rest of an object whose first member has been written. -/
def membersTokens : List (List Char × Value) → List Token
  | [] => [.closeBrace]
  | (key, value) :: members => .comma :: .string key :: .colon :: (value.tokens ++ membersTokens members)

end

/-- An array or object that has begun, with what it already holds, the last first. -/
inductive Frame where
  | array (items : List Value)
  | object (members : List (List Char × Value)) (key : List Char)
deriving Repr

/-- What must come next inside the enclosing frames, the innermost first. -/
inductive Reading where
  | awaitValue (frames : List Frame)
  | awaitItem (frames : List Frame)
  | awaitFirstKey (frames : List Frame)
  | awaitKey (members : List (List Char × Value)) (frames : List Frame)
  | awaitColon (members : List (List Char × Value)) (key : List Char) (frames : List Frame)
  | after (value : Value) (frames : List Frame)
deriving Repr

namespace Reading

def beginValue? (frames : List Frame) : Token → Option Reading
  | .null => some (after .null frames)
  | .boolean value => some (after (.boolean value) frames)
  | .number lexeme => some (after (.number lexeme) frames)
  | .string body => some (after (.string body) frames)
  | .openBracket => some (awaitItem frames)
  | .openBrace => some (awaitFirstKey frames)
  | .closeBrace | .closeBracket | .comma | .colon => none

/-- Between values comes a comma or the end of the innermost frame. -/
def endValue? (item : Value) : List Frame → Token → Option Reading
  | .array items :: frames, .comma => some (awaitValue (.array (item :: items) :: frames))
  | .array items :: frames, .closeBracket => some (after (.array (item :: items).reverse) frames)
  | .object members key :: frames, .comma => some (awaitKey ((key, item) :: members) frames)
  | .object members key :: frames, .closeBrace => some (after (.object ((key, item) :: members).reverse) frames)
  | _, _ => none

def next? : Reading → Token → Option Reading
  | awaitValue frames, token => beginValue? frames token
  | awaitItem frames, .closeBracket => some (after (.array []) frames)
  | awaitItem frames, token => beginValue? (.array [] :: frames) token
  | awaitFirstKey frames, .closeBrace => some (after (.object []) frames)
  | awaitFirstKey frames, .string key => some (awaitColon [] key frames)
  | awaitKey members frames, .string key => some (awaitColon members key frames)
  | awaitColon members key frames, .colon => some (awaitValue (.object members key :: frames))
  | after item frames, token => endValue? item frames token
  | _, _ => none

def value? : Reading → Option Value
  | after value [] => some value
  | _ => none

end Reading

def ofTokens? (tokens : List Token) : Option Value :=
  (tokens.foldlM Reading.next? (.awaitValue [])).bind Reading.value?

def ofText? (text : String) : Option Value := (tokens? text.toList).bind ofTokens?

end Value
end SquareSums.Json
