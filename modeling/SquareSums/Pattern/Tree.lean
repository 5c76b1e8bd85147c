import SquareSums.Pattern.CharSet
import SquareSums.Pattern.Span

/-! The parts of a regular expression as they are written, each with the place where it stands. What
they mean depends on the flags that hold there, which `SquareSums.Pattern.Meaning` follows. -/

namespace SquareSums.Pattern

/-- Places that a word can be seen from; a half looks at one side only. -/
inductive WordEdge where
  | boundary
  | noBoundary
  | start
  | stop
  | startHalf
  | stopHalf
deriving DecidableEq, Repr

/-- A condition on the place between two characters. -/
inductive Anchor where
  | textStart
  | textEnd
  | lineStart
  | lineEnd
  | word (edge : WordEdge)
deriving DecidableEq, Repr

structure Literal where
  character : Char
  /-- Whether two hexadecimal digits give it, so that it may stand for a byte. -/
  isByte : Bool
deriving DecidableEq, Repr

/-- The classes that a single letter names. -/
inductive ShortClass where
  | digit
  | space
  | word
deriving DecidableEq, Repr

inductive SetOperation where
  | intersection
  | difference
  | symmetricDifference
deriving DecidableEq, Repr

def SetOperation.apply : SetOperation → CharSet → CharSet → CharSet
  | intersection => CharSet.intersection
  | difference => CharSet.difference
  | symmetricDifference => CharSet.symmetricDifference

/-- What stands between the brackets of a class. -/
inductive Members where
  | empty (span : Span)
  | literal (span : Span) (literal : Literal)
  | range (span lowSpan : Span) (low : Literal) (highSpan : Span) (high : Literal)
  | named (span : Span) (set : CharSet) (negated : Bool)
  | property (span : Span) (name : List Char)
  | short (span : Span) (kind : ShortClass) (negated : Bool)
  | bracket (span : Span) (negated : Bool) (content : Members)
  | union (span : Span) (parts : List Members)
  | operation (span : Span) (operation : SetOperation) (left right : Members)

namespace Members

def span : Members → Span
  | empty span | literal span _ | range span .. | named span .. | property span _ | short span .. | bracket span ..
  | union span _ | operation span .. => span

/-- Parts that stand side by side, given backwards, at a place where there may be none. -/
def ofParts (place : Place) : List Members → Members
  | [] => empty (Span.empty place)
  | [part] => part
  | last :: earlier =>
    let parts := earlier.reverse ++ [last]
    union ⟨(parts.head?.elim last.span span).first, last.span.last⟩ parts

end Members

inductive Flag where
  | caseless
  | multiLine
  | dotAll
  | lazyFirst
  | unicode
  | carriageReturns
  | verbose
deriving DecidableEq, Repr

/-- Flags with the value that each takes. -/
abbrev FlagChanges := List (Flag × Bool)

inductive GroupKind where
  | capture (index : Nat)
  | plain (changes : FlagChanges)
deriving DecidableEq, Repr

inductive Tree where
  | empty (span : Span)
  | flags (span : Span) (changes : FlagChanges)
  | literal (span : Span) (literal : Literal)
  | dot (span : Span)
  | anchor (span : Span) (anchor : Anchor)
  | property (span : Span) (name : List Char)
  | short (span : Span) (kind : ShortClass) (negated : Bool)
  | bracket (span : Span) (negated : Bool) (content : Members)
  | repetition (span : Span) (least : Nat) (most : Option Nat) (isLazy : Bool) (body : Tree)
  | group (span : Span) (kind : GroupKind) (body : Tree)
  | sequence (span : Span) (parts : List Tree)
  | choice (span : Span) (branches : List Tree)

namespace Tree

def span : Tree → Span
  | empty span | flags span _ | literal span _ | dot span | anchor span _ | property span _ | short span ..
  | bracket span .. | repetition span .. | group span .. | sequence span _ | choice span _ => span

/-- Items that follow one another, given backwards. -/
def ofItems (span : Span) : List Tree → Tree
  | [] => empty span
  | [item] => item
  | items => sequence span items.reverse

end Tree
end SquareSums.Pattern
