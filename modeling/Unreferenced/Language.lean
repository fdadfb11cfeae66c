/-
Unreferenced/Language.lean

The two source languages, and how a file name or a compiler switch selects one.
-/
import Unreferenced.Path
import Unreferenced.Text.Letter

namespace Unreferenced

/-- A source language. -/
inductive Language where
  | c
  | cpp
deriving DecidableEq, Repr, Inhabited

namespace Language

/-- The name of a language. -/
def name : Language → String
  | .c => "c"
  | .cpp => "cpp"

/-- The language of a name. -/
def ofName? : String → Option Language
  | "c" => some .c
  | "cpp" => some .cpp
  | _ => none

/-- The language of a file name extension spelled exactly so; `.C` is C++ and `.c` is C. -/
def ofExtension? (extension : String) : Option Language :=
  if extension = ".c" then some .c
  else if [".cc", ".cp", ".cpp", ".cxx", ".c++", ".C", ".h", ".hh", ".hpp", ".hxx", ".h++", ".inl",
      ".ipp", ".tpp"].contains extension then some .cpp
  else none

/-- The language of a file, by the extension of its name; an unknown extension is tried again in
lower case.  Lowering ASCII letters is enough, since the known extensions are ASCII and no other
character has one of their letters as its lower case. -/
def ofFile? (file : String) : Option Language :=
  let extension := (Path.parse file).suffix
  (ofExtension? extension).orElse fun _ =>
    ofExtension? (String.ofList (extension.toList.map Text.lowerAscii))

/-- The language a compiler's `-x` switch selects. -/
def ofSwitch? (value : String) : Option Language :=
  if value = "c" ∨ value = "c-header" then some .c
  else if value = "c++" ∨ value = "c++-header" then some .cpp
  else none

/-- Whether files with this extension are compiled on their own, rather than included. -/
def isSourceExtension (extension : String) : Bool :=
  [".c", ".cc", ".cp", ".cpp", ".cxx", ".c++", ".C"].contains extension

/-- The language of a name, or the complaint that there is no such language. -/
def ofName (name : String) : Except String Language :=
  match ofName? name with
  | some language => .ok language
  | none => .error ("Unsupported language: " ++ name)

end Language

end Unreferenced
