import SquareSums.Pattern.Flaw
import SquareSums.Pattern.Tree

/-! How deeply a regular expression is nested. Every part that holds others is one level; a part at which
the allowed levels are used up is told by its place, the first such part in the order of the text. -/

namespace SquareSums.Pattern

mutual
def Members.excess? (allowed : Nat) : Members → Option Span
  | .bracket span _ content =>
    match allowed with
    | 0 => some span
    | allowed + 1 => content.excess? allowed
  | .union span parts =>
    match allowed with
    | 0 => some span
    | allowed + 1 => Members.firstExcess? allowed parts
  | .operation span _ left right =>
    match allowed with
    | 0 => some span
    | allowed + 1 => (left.excess? allowed).or (right.excess? allowed)
  | .empty _ | .literal .. | .range .. | .named .. | .property .. | .short .. => none

def Members.firstExcess? (allowed : Nat) : List Members → Option Span
  | [] => none
  | part :: later =>
    match part.excess? allowed with
    | some span => some span
    | none => Members.firstExcess? allowed later
end

mutual
def Tree.excess? (allowed : Nat) : Tree → Option Span
  | .bracket span _ content =>
    match allowed with
    | 0 => some span
    | allowed + 1 => content.excess? allowed
  | .repetition span _ _ _ body | .group span _ body =>
    match allowed with
    | 0 => some span
    | allowed + 1 => body.excess? allowed
  | .sequence span parts | .choice span parts =>
    match allowed with
    | 0 => some span
    | allowed + 1 => Tree.firstExcess? allowed parts
  | .empty _ | .flags .. | .literal .. | .dot _ | .anchor .. | .property .. | .short .. => none

def Tree.firstExcess? (allowed : Nat) : List Tree → Option Span
  | [] => none
  | part :: later =>
    match part.excess? allowed with
    | some span => some span
    | none => Tree.firstExcess? allowed later
end

def Tree.checkDepth (tree : Tree) : Except Flaw Unit :=
  match tree.excess? depthLimit with
  | some span => fail .tooDeep span
  | none => .ok ()

end SquareSums.Pattern
