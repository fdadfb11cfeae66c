/-
Unreferenced/Settings.lean

Settings from environment variables and from a file of variables.  A variable
that is set in the environment, even to nothing, is not looked up in the file.
-/
import Unreferenced.Text.Blank
import Unreferenced.Text.Cut
import Unreferenced.Text.Integer
import Unreferenced.Text.Letter

namespace Unreferenced

open Text

/-- The settings of a run. -/
structure Settings where
  /-- The number of workers. -/
  jobs : Nat
  /-- Directories whose headers belong to the system. -/
  systemDirs : List String
  /-- Whether the trace is shown. -/
  debug : Bool
  /-- Names of directories in which no sources are looked for. -/
  excludedDirs : List String
deriving DecidableEq, Repr, Inhabited

/-- Variables with their values. -/
abbrev Variables := List (String × String)

namespace Settings

/-- The variable a line of a file sets: its name, an equals sign and the value, blanks around both
taken away. -/
def lineVariable? (line : List Char) : Option (String × String) :=
  let name := trim (line.takeWhile (· != '='))
  match line.dropWhile (· != '=') with
  | [] => none
  | _ :: value =>
    if name = [] ∨ name.head? = some '#' then none
    else some (String.ofList name, String.ofList (trim value))

/-- The variables a file sets; of two lines for one variable the later counts. -/
def fileVariables (text : String) : Variables :=
  ((splitAt '\n' text.toList).filterMap lineVariable?).reverse

/-- The value of a variable in the environment or else in a file. -/
def value? (environment file : Variables) (name : String) : Option String :=
  (environment.lookup name).orElse fun _ => file.lookup name

/-- The number of workers a value asks for, if it is a positive number; else there is one for each
processor. -/
def jobsOf (processors : Nat) (value : String) : Nat :=
  match integer? value with
  | some (.ofNat n) => if 0 < n then n else processors
  | _ => processors

/-- Whether a value means yes.  The words are ASCII, and no character outside ASCII has one of their
letters as its lower case. -/
def isYes (value : String) : Bool :=
  ["1", "true", "yes", "on"].contains (String.ofList ((trim value.toList).map lowerAscii))

/-- The settings that an environment and the text of a file of variables give on a machine with so
many processors. -/
def of (processors : Nat) (environment : Variables) (fileText : String) : Settings :=
  let value (name : String) : String :=
    (value? environment (fileVariables fileText) name).getD ""
  { jobs := jobsOf processors (value "XUNUSED_JOBS")
    systemDirs := (pieces ':' (value "XUNUSED_SYSTEM_DIRS")).filter (· != "")
    debug := isYes (value "XUNUSED_DEBUG")
    excludedDirs :=
      ((splitAt ',' (value "XUNUSED_EXCLUDED_DIRS").toList).map fun d => String.ofList (trim d)).filter
        (· != "") }

end Settings

end Unreferenced
