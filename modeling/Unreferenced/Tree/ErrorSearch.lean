/-
Unreferenced/Tree/ErrorSearch.lean

Finding the first syntax error in a tree.  A node marked as having errors has one
below it, and only such nodes are searched.
-/
import Unreferenced.Tree.Basic

namespace Unreferenced.Node

mutual

/-- The line of the first error in a tree. -/
def errorLine? : Node → Option Nat
  | ⟨kind, _, _, row, _, missing, hasError, _, children⟩ =>
    if kind == "ERROR" || missing then some (row + 1)
    else if hasError then errorLineAmong? children
    else none

/-- The line of the first error in several trees. -/
def errorLineAmong? : List Node → Option Nat
  | [] => none
  | n :: rest =>
    match errorLine? n with
    | some line => some line
    | none => errorLineAmong? rest

end

/-- The line where the syntax errors of a tree start; that of the tree itself if none is found. -/
def firstErrorLine (n : Node) : Nat :=
  n.errorLine?.getD n.line

end Unreferenced.Node
