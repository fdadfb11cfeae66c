/-
Unreferenced/Host.lean

What a run finds besides the files of its project: the machine and the
interpreter it runs on.

The stack of an interpreter is bounded, and how much of it a piece of work takes
is not to be seen from the project.  So a host says for itself which translation
units are too much for it, and nothing is assumed about its answers.
-/
import Unreferenced.Compile.Command
import Unreferenced.Note

namespace Unreferenced

/-- Why a translation unit could not be loaded, and what was noted up to then. -/
structure LoadFault where
  reason : String
  notes : List Note := []

/-- The machine and the interpreter of a run. -/
structure Host where
  /-- The number of processors. -/
  processors : Nat := 1
  /-- How many lists and objects may be open when JSON is read. -/
  jsonNesting : Nat
  /-- The text on the standard input, which a command without a text is read from; `none` if such a
  command is refused. -/
  standardInput : Option String := none
  /-- The commands whose translation units cannot be loaded. -/
  loadFault? : CompileCommand → Option LoadFault := fun _ => none
  /-- The commands in whose translation units the search for uses nests too deep, with the number of
  events reported up to then. -/
  exhaustion? : CompileCommand → Option Nat := fun _ => none

/-- The host gets through the translation unit of a command. -/
def Host.Bears (host : Host) (c : CompileCommand) : Prop :=
  host.loadFault? c = none ∧ host.exhaustion? c = none

instance (host : Host) (c : CompileCommand) : Decidable (host.Bears c) :=
  decidable_of_iff ((host.loadFault? c).isNone ∧ (host.exhaustion? c).isNone)
    (and_congr Option.isNone_iff_eq_none Option.isNone_iff_eq_none)

end Unreferenced
