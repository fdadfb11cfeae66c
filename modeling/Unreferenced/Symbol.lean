/-
Unreferenced/Symbol.lean

Symbols: one string per function that is the same in every translation unit.

    c:@N@ns@S@Widget@F@resize#int#int#1
    c:@ST>1@Box@F@get#
    c:@FT@>2convert#const char*
    c:/abs/path/util.cpp@F@helper#int      (internal linkage)
    c:@F@legacy_api                        (C linkage)

A template instantiation is named by its pattern and every declaration by the
first one of its function.  Destructors, functions without a name and functions
inside a class or namespace without a name have no symbol; so do functions in a
scope that is neither.
-/
import Unreferenced.Note

namespace Unreferenced

/-- The name of a function across translation units. -/
abbrev Symbol := String

/-- What naming a declaration comes to. -/
inductive Naming where
  /-- It has a symbol. -/
  | named (symbol : Symbol)
  /-- Functions of this sort have no symbol. -/
  | unnamed
  /-- It stands in a scope that cannot be named. -/
  | unsupported (segment : ScopeSegment)
deriving DecidableEq, Repr

/-- The text of one scope, if it can be named. -/
def ScopeSegment.symbolText? (s : ScopeSegment) : Option String :=
  match s.kind with
  | .anonymous => some "@aN"
  | .nspace => if s.name = "" then none else some ("@N@" ++ s.name)
  | .record =>
    if s.name = "" then none
    else if s.templateArity = 0 then some ("@S@" ++ s.name)
    else some ("@ST>" ++ toString s.templateArity ++ "@" ++ s.name)
  | .other _ => none

/-- The text of a scope, or its first segment that cannot be named. -/
def scopeSymbolText : List ScopeSegment → Except ScopeSegment String
  | [] => .ok ""
  | s :: rest =>
    match s.symbolText? with
    | none => .error s
    | some text =>
      match scopeSymbolText rest with
      | .ok more => .ok (text ++ more)
      | .error t => .error t

namespace Declaration

variable {δ : Type}

/-- The part of a symbol after its scope: name, template data, signature and qualifiers. -/
def symbolTail (d : Declaration δ) : String :=
  (if d.templateArity = 0 then "@F@" else "@FT@>" ++ toString d.templateArity) ++ d.name ++
    (match d.templateArgs with
      | some args => "<" ++ args ++ ">"
      | none => "") ++
    "#" ++ "#".intercalate d.signature ++
    (if d.qualifiers = 0 then "" else "#" ++ toString d.qualifiers)

/-- Naming a declaration by its own data. -/
def naming (d : Declaration δ) : Naming :=
  if d.isDestructor || d.name == "" then .unnamed
  else if d.linkage = .c then .named ("c:@F@" ++ d.name)
  else
    match scopeSymbolText d.scope with
    | .error s => .unsupported s
    | .ok scope =>
      .named ("c:" ++ (if d.linkage = .internal then d.declaringFile else "") ++ scope ++
        d.symbolTail)

end Declaration

namespace View

variable {δ : Type} (view : View δ)

/-- The declaration that a declaration is named by, unless it is an instantiation of nothing. -/
def namesake? (d : δ) : Option δ :=
  if (view d).isInstantiation then (view d).pattern.map view.canonical
  else some (view.canonical d)

/-- The symbol of a declaration. -/
def symbol? (d : δ) : Option Symbol :=
  match view.namesake? d with
  | none => none
  | some e =>
    match (view e).naming with
    | .named symbol => some symbol
    | _ => none

/-- The notes made while a declaration is named. -/
def symbolNotes (d : δ) : List Note :=
  match view.namesake? d with
  | none => []
  | some e =>
    match (view e).naming with
    | .unsupported segment => [.noSymbol (view e).qualifiedName segment]
    | _ => []

end View

end Unreferenced
