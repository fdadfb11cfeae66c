/-
Unreferenced/Note.lean

Notes are the lines of the debugging trace.  Every step of an analysis says
which notes it makes; only `Note.message` knows their wording.
-/
import Unreferenced.Declaration
import Unreferenced.Text.Cut
import Unreferenced.Text.Quoted

namespace Unreferenced

open Text

/-- Something the trace tells. -/
inductive Note where
  /-- A run over so many translation units starts. -/
  | analyzing (units workers : Nat)
  /-- One translation unit is next. -/
  | processing (file : String)
  /-- A file of the unit cannot be read, for the reason given. -/
  | cannotRead (path reason : String)
  /-- No file is found for an include directive. -/
  | cannotFindInclude (path spelling : String)
  /-- A function definition has a declarator of an unknown shape. -/
  | unsupportedDeclarator (location : Location)
  /-- A declaration gets no symbol because of the scope it stands in. -/
  | noSymbol (qualifiedName : String) (segment : ScopeSegment)
  /-- A base class is not known. -/
  | baseNotFound (className base : String)
  /-- Classes inherit from themselves. -/
  | hierarchyCycle
  | defines (qualifiedName : String)
  | uses (qualifiedName : String)
  | unusedDefinition (qualifiedName : String)
  | externalUse (qualifiedName symbol : String)
deriving DecidableEq, Repr

/-- A scope segment as the trace shows it. -/
def ScopeSegment.shown (s : ScopeSegment) : String :=
  "ScopeSegment(kind=" ++ quoted s.kind.word ++ ", name=" ++ quoted s.name ++ ", template_arity=" ++
    toString s.templateArity ++ ")"

/-- The wording of a note. -/
def Note.message : Note → String
  | .analyzing units workers =>
    "Analyzing " ++ toString units ++ " translation units with " ++ toString workers ++ " workers"
  | .processing file => "Processing " ++ file
  | .cannotRead path reason => "cannot read " ++ path ++ ": " ++ reason
  | .cannotFindInclude path spelling => path ++ ": cannot find include '" ++ spelling ++ "'"
  | .unsupportedDeclarator location =>
    location.file ++ ":" ++ toString location.line ++ ": unsupported function declarator"
  | .noSymbol qualifiedName segment =>
    "No USR for " ++ qualifiedName ++ ": unsupported scope " ++ segment.shown
  | .baseNotFound className base => className ++ ": base '" ++ base ++ "' not found"
  | .hierarchyCycle =>
    "class hierarchy has a cycle; overrides are computed in declaration order"
  | .defines qualifiedName => "Defs: " ++ qualifiedName
  | .uses qualifiedName => "Uses: " ++ qualifiedName
  | .unusedDefinition qualifiedName => "UnusedDefs: " ++ qualifiedName
  | .externalUse qualifiedName symbol => "ExternalUses: " ++ qualifiedName ++ " USR: " ++ symbol

/-- The text the trace has for a note. -/
def Note.line (n : Note) : String :=
  "[xunused] " ++ n.message

/-- The lines that text takes up. -/
def Note.lines (n : Note) : List String :=
  printedLines n.line

end Unreferenced
