import SquareSums.Pattern.Span
import SquareSums.Text.Lines

/-! What is wrong with a regular expression, and where. A flaw is shown with the text it was found in: a
caret stands below every character concerned, and a text of several lines is numbered and framed. -/

namespace SquareSums.Pattern

/-- No expression may be nested more deeply. -/
def depthLimit : Nat := 250

inductive Defect where
  | classEscape
  | classRange
  | classRangeBoundary
  | classUnclosed
  | decimalInvalid
  | hexadecimalEmpty
  | hexadecimalNoCharacter
  | hexadecimalDigit
  | escapeUnfinished
  | escapeUnknown
  | flagDanglingNegation
  | flagDuplicate
  | flagRepeatedNegation
  | flagMissing
  | flagUnknown
  | groupNameDuplicate
  | groupNameEmpty
  | groupNameInvalid
  | groupNameUnclosed
  | groupUnclosed
  | groupUnopened
  | tooDeep
  | repetitionRange
  | repetitionDecimal
  | repetitionUnclosed
  | repetitionMissing
  | wordBoundaryUnclosed
  | wordBoundaryUnknown
  | wordBoundaryUnfinished
  | propertyInvalid
  | backreference
  | lookAround
  | beyondAscii
  | partOfCharacter
  | propertyUnknown
  | propertyValueUnknown
  | shortClassUnknown
  | caseUnknown
deriving DecidableEq, Repr

def Defect.message : Defect → String
  | classEscape => "invalid escape sequence found in character class"
  | classRange => "invalid character class range, the start must be <= the end"
  | classRangeBoundary => "invalid range boundary, must be a literal"
  | classUnclosed => "unclosed character class"
  | decimalInvalid => "decimal literal invalid"
  | hexadecimalEmpty => "hexadecimal literal empty"
  | hexadecimalNoCharacter => "hexadecimal literal is not a Unicode scalar value"
  | hexadecimalDigit => "invalid hexadecimal digit"
  | escapeUnfinished => "incomplete escape sequence, reached end of pattern prematurely"
  | escapeUnknown => "unrecognized escape sequence"
  | flagDanglingNegation => "dangling flag negation operator"
  | flagDuplicate => "duplicate flag"
  | flagRepeatedNegation => "flag negation operator repeated"
  | flagMissing => "expected flag but got end of regex"
  | flagUnknown => "unrecognized flag"
  | groupNameDuplicate => "duplicate capture group name"
  | groupNameEmpty => "empty capture group name"
  | groupNameInvalid => "invalid capture group character"
  | groupNameUnclosed => "unclosed capture group name"
  | groupUnclosed => "unclosed group"
  | groupUnopened => "unopened group"
  | tooDeep => "exceed the maximum number of nested parentheses/brackets (" ++ toString depthLimit ++ ")"
  | repetitionRange => "invalid repetition count range, the start must be <= the end"
  | repetitionDecimal => "repetition quantifier expects a valid decimal"
  | repetitionUnclosed => "unclosed counted repetition"
  | repetitionMissing => "repetition operator missing expression"
  | wordBoundaryUnclosed =>
    "special word boundary assertion is either unclosed or contains an invalid character"
  | wordBoundaryUnknown =>
    "unrecognized special word boundary assertion, valid choices are: start, end, start-half or end-half"
  | wordBoundaryUnfinished =>
    "found either the beginning of a special word boundary or a bounded repetition on a " ++
      "\\b with an opening brace, but no closing brace"
  | propertyInvalid => "invalid Unicode character class"
  | backreference => "backreferences are not supported"
  | lookAround => "look-around, including look-ahead and look-behind, is not supported"
  | beyondAscii => "Unicode not allowed here"
  | partOfCharacter => "pattern can match invalid UTF-8"
  | propertyUnknown => "Unicode property not found"
  | propertyValueUnknown => "Unicode property value not found"
  | shortClassUnknown =>
    "Unicode-aware Perl class not found (make sure the unicode-perl feature is enabled)"
  | caseUnknown =>
    "Unicode-aware case insensitivity matching is not available (make sure the unicode-case feature is enabled)"

structure Flaw where
  defect : Defect
  span : Span
  /-- The earlier place that a duplicate repeats. -/
  earlier : Option Span
deriving DecidableEq, Repr

namespace Flaw

/-- In the order of the text. -/
def spans (flaw : Flaw) : List Span := flaw.earlier.toList ++ [flaw.span]

/-- Carets below the runs of one line, under a margin of the given width. -/
def carets (margin : Nat) (spans : List Span) : List Char :=
  (spans.foldl
    (fun (drawn : List Char × Nat) span =>
      let gap := span.first.column - 1 - drawn.2
      (drawn.1 ++ List.replicate gap ' ' ++ List.replicate span.width '^', drawn.2 + gap + span.width))
    (List.replicate margin ' ', 0)).1

/-- A line of the text behind its margin, and the carets below it if it needs any. -/
def showLine (flaw : Flaw) (margin : List Char) (number : Nat) (line : List Char) : List String :=
  let here := flaw.spans.filter fun span => span.isWithinLine && span.first.line == number
  String.ofList (margin ++ line) ::
    (if here.isEmpty then [] else [String.ofList (carets margin.length here)])

/-- The column given last is that of the last character. -/
def showExtent (span : Span) : String :=
  "on line " ++ toString span.first.line ++ " (column " ++ toString span.first.column ++ ") through line " ++
    toString span.last.line ++ " (column " ++ toString (span.last.column - 1) ++ ")"

def showNumber (width number : Nat) : List Char :=
  let digits := Nat.toDigits 10 number
  List.replicate (width - digits.length) ' ' ++ digits ++ [':', ' ']

/-- The flawed text; a line feed at its end opens one more line, which is counted but not shown. -/
def showText (flaw : Flaw) (text : List Char) : List String :=
  let lines := (Lines.ofText text).zipIdx 1
  if text.contains '\n' then
    let count := lines.length + if text.getLast? == some '\n' then 1 else 0
    let width := (Nat.toDigits 10 count).length
    let divider := String.ofList (List.replicate 79 '~')
    [divider] ++ lines.flatMap (fun (line, number) => flaw.showLine (showNumber width number) number line) ++
      [divider] ++ (flaw.spans.filter (!·.isWithinLine)).map showExtent
  else lines.flatMap fun (line, number) => flaw.showLine [' ', ' ', ' ', ' '] number line

def message (flaw : Flaw) (text : List Char) : String :=
  "\n".intercalate (["regex parse error:"] ++ flaw.showText text ++ ["error: " ++ flaw.defect.message])

end Flaw

def fail {α : Type} (defect : Defect) (span : Span) : Except Flaw α := .error ⟨defect, span, none⟩

end SquareSums.Pattern
