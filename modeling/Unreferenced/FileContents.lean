/-
Unreferenced/FileContents.lean

What one file declares: functions, classes, global variables, weak names and the
identifiers in its macros.

Only namespaces, linkage specifications, class bodies, templates and the
branches of preprocessor conditionals are entered.  The bodies of functions are
not.
-/
import Unreferenced.Container.OrderedSet
import Unreferenced.FunctionSite.Reading
import Unreferenced.Language
import Unreferenced.Tree.ValueType

namespace Unreferenced

open Text

/-- What a file declares, in the order of the file. -/
structure FileContents where
  functions : List FunctionSite := []
  classes : List ClassType := []
  /-- The types of global variables, by name. -/
  globals : OrderedMap String String := .empty
  /-- The functions declared weak by name. -/
  weakNames : OrderedSet String := .empty
  /-- The identifiers that macros expand to. -/
  macroNames : OrderedSet String := .empty
  notes : List Note := []
deriving Inhabited

/-- What is known while a file is read: the classes of all files so far, and this file's contents. -/
structure Survey where
  registry : Registry
  contents : FileContents := {}
deriving Inhabited

/-- The kinds of node whose children stand in the same context. -/
def transparentKinds : List String :=
  ["translation_unit", "declaration_list", "preproc_if", "preproc_ifdef", "preproc_else",
    "preproc_elif", "preproc_elifdef", "field_declaration_list"]

namespace Node

/-- The bases named in the head of a class. -/
def baseSpellings (n : Node) : List String :=
  (n.children.filter fun c => c.kind == "base_class_clause").flatMap fun clause =>
    (clause.namedChildren.filter fun b =>
      b.isOneOf ["type_identifier", "qualified_identifier", "template_type"]).map fun b =>
        Spelling.typeName b.text

/-- The qualifiers and the name of a class.  A specialization is named with its arguments. -/
def className (n : Node) : List String × String :=
  match n.child? "name" with
  | none => ([], "")
  | some name =>
    if name.kind = "qualified_identifier" then
      let parts := (scopePieces name.text).map Spelling.typeName
      (parts.dropLast, parts.getLastD "")
    else if name.kind = "template_type" then ([], Spelling.typeName name.text)
    else ([], name.text)

/-- The number of parameters of a template. -/
def templateParameterCount (n : Node) : Nat :=
  match n.child? "parameters" with
  | some p => (p.namedChildren.filter fun c => c.kind != "comment").length
  | none => 0

/-- The name a weak pragma makes weak. -/
def weakPragmaName? (n : Node) : Option String :=
  let directive := trim (textOf (n.child? "directive")).toList
  let argument := trim (textOf (n.child? "argument")).toList
  if directive = "#pragma".toList ∧ "weak".toList.isPrefixOf argument then
    (identifiers argument)[1]?.map String.ofList
  else none

/-- The identifiers in the value of a macro. -/
def macroValueNames (n : Node) : List String :=
  (identifiers (textOf (n.child? "value")).toList).map String.ofList

/-- The declarator of a function definition that declares a function or a conversion. -/
def definedDeclarator? (declarator : Node) : Option Node :=
  match declarator.functionDeclarator? with
  | some f => some f
  | none => declarator.conversion?.map fun _ => declarator

end Node

namespace Context

/-- The context inside a namespace definition. -/
def enterNamespace (ctx : Context) (n : Node) : Context :=
  match n.child? "name" with
  | none => ctx.enter ⟨.anonymous, "", 0⟩
  | some name =>
    ((splitColons name.text.toList).map trim).foldl
      (fun inner part => if part.isEmpty then inner else inner.enter ⟨.nspace, String.ofList part, 0⟩)
      ctx

/-- The class that a class specifier defines in a context. -/
def classType (ctx : Context) (r : Registry) (file : String) (n : Node) : ClassType :=
  let (qualifiers, name) := n.className
  let scope := ctx.scope ++ r.qualifierScopes ctx.names qualifiers
  { key := .named (scopeNames scope ++ [name])
    name := name
    scope := scope
    templateArity := ctx.lastTemplate?.getD 0
    location := ⟨file, n.line⟩
    bases := n.baseSpellings }

end Context

namespace Survey

/-- Add a function. -/
def addFunction (s : Survey) (f : FunctionSite) : Survey :=
  { s with contents := { s.contents with functions := s.contents.functions ++ [f] } }

/-- Add the function that a declarator declares. -/
def addDeclared (file : String) (ctx : Context) (n declarator : Node) (isDefinition : Bool)
    (s : Survey) : Survey :=
  match ctx.site? s.registry file n declarator isDefinition with
  | some f => s.addFunction f
  | none => s

/-- Add the function that a function definition defines. -/
def addDefinition (file : String) (ctx : Context) (n : Node) (s : Survey) : Survey :=
  match n.child? "declarator" with
  | none => s
  | some declarator =>
    match declarator.definedDeclarator? with
    | some d => addDeclared file ctx n d true s
    | none =>
      let note := Note.unsupportedDeclarator ⟨file, n.line⟩
      { s with contents := { s.contents with notes := s.contents.notes ++ [note] } }

/-- Add a member of a class. -/
def addMember (s : Survey) (owner : ClassType) (name type : String) : Survey :=
  { s with registry := s.registry.setMember owner name type }

/-- Add a global variable. -/
def addGlobal (s : Survey) (name type : String) : Survey :=
  { s with contents := { s.contents with globals := s.contents.globals.insert name type } }

/-- Add what one declarator of a declaration declares: a function, a member or a global variable. -/
def addDeclarator (file : String) (ctx : Context) (n : Node) (s : Survey) (declarator : Node) :
    Survey :=
  match declarator.definedDeclarator? with
  | some d => addDeclared file ctx n d false s
  | none =>
    match n.child? "type", declarator.declaredName? with
    | some type, some name =>
      if name = "" then s
      else
        match ctx.owner with
        | some owner =>
          if n.kind = "field_declaration" then s.addMember owner name type.valueType else s
        | none => s.addGlobal name type.valueType
    | _, _ => s

/-- Add everything that the declarators of a declaration declare. -/
def addDeclarators (file : String) (ctx : Context) (n : Node) (s : Survey) : Survey :=
  (n.childrenIn "declarator").foldl (addDeclarator file ctx n) s

/-- Add the functions that a friend declaration defines. -/
def addFriends (file : String) (ctx : Context) (n : Node) (s : Survey) : Survey :=
  (n.namedChildren.filter fun c => c.kind == "function_definition").foldl
    (fun s c => addDefinition file ctx.ofFriend c s) s

/-- Add the name that a pragma makes weak. -/
def addWeakPragma (n : Node) (s : Survey) : Survey :=
  match n.weakPragmaName? with
  | some name => { s with contents := { s.contents with
      weakNames := s.contents.weakNames.insert name } }
  | none => s

/-- Add the identifiers of a macro. -/
def addMacro (n : Node) (s : Survey) : Survey :=
  { s with contents := { s.contents with
      macroNames := n.macroValueNames.foldl OrderedSet.insert s.contents.macroNames } }

/-- Take up a class and give the context of its body. -/
def addClass (file : String) (ctx : Context) (n : Node) (s : Survey) : Context × Survey :=
  let c := ctx.classType s.registry file n
  let (owner, registry) := s.registry.declare c
  (ctx.enterClass c.segments owner,
    { registry := registry
      contents := { s.contents with classes := s.contents.classes ++ [owner] } })

/-! ### The walk

A node is met before its own class specifier, and both before what stands inside: `walk` has the
measure `2 * sizeOf n + 1`, `walkClass` the measure `2 * sizeOf n`. -/

theorem twice_lt_twice_succ {a b : Nat} (h : a < b) : 2 * a < 2 * b + 1 := by omega

theorem twice_succ_lt_twice_succ {a b : Nat} (h : a < b) : 2 * a + 1 < 2 * b + 1 := by omega

mutual

/-- Add what a node declares. -/
def walk (file : String) (ctx : Context) (n : Node) (s : Survey) : Survey :=
  if n.kind = "ERROR" then walkAll file ctx n.namedChildren s
  else if n.isOneOf transparentKinds then walkAll file ctx.plain n.namedChildren s
  else if n.kind = "namespace_definition" then
    match _h : n.child? "body" with
    | some body => walk file (ctx.enterNamespace n) body s
    | none => s
  else if n.kind = "linkage_specification" then
    match _h : n.child? "body" with
    | some body =>
      walk file (ctx.enterLinkage (dropAround '"' (Node.textOf (n.child? "value")) == "C")) body s
    | none => s
  else if n.kind = "template_declaration" then
    walkAll file (ctx.enterTemplate n.templateParameterCount)
      (n.namedChildren.filter fun c =>
        !c.isOneOf ["template_parameter_list", "requires_clause"]) s
  else if n.isOneOf classKinds then walkClass file ctx n s
  else if n.kind = "function_definition" then addDefinition file ctx n s
  else if n.isOneOf ["declaration", "field_declaration"] then
    match _h : n.child? "type" with
    | some type =>
      addDeclarators file ctx n
        (if type.isOneOf classKinds then walkClass file ctx.plain type s else s)
    | none => addDeclarators file ctx n s
  else if n.kind = "friend_declaration" then addFriends file ctx n s
  else if n.kind = "type_definition" then
    match _h : n.child? "type" with
    | some type => if type.isOneOf classKinds then walkClass file ctx.plain type s else s
    | none => s
  else if n.kind = "preproc_call" then addWeakPragma n s
  else if n.isOneOf ["preproc_def", "preproc_function_def"] then addMacro n s
  else s
termination_by 2 * sizeOf n + 1
decreasing_by
  · exact twice_lt_twice_succ (Node.sizeOf_filter_lt n _)
  · exact twice_lt_twice_succ (Node.sizeOf_filter_lt n _)
  · exact twice_succ_lt_twice_succ (Node.sizeOf_lt_of_child? _h)
  · exact twice_succ_lt_twice_succ (Node.sizeOf_lt_of_child? _h)
  · exact twice_lt_twice_succ
      (Nat.lt_of_le_of_lt (Node.sizeOf_filter_le _ _) (Node.sizeOf_filter_lt n _))
  · exact Nat.lt_succ_self _
  · exact twice_lt_twice_succ (Node.sizeOf_lt_of_child? _h)
  · exact twice_lt_twice_succ (Node.sizeOf_lt_of_child? _h)

/-- Add what a class specifier declares; one without a body only mentions a class. -/
def walkClass (file : String) (ctx : Context) (n : Node) (s : Survey) : Survey :=
  match _h : n.child? "body" with
  | some body => walk file (addClass file ctx n s).1 body (addClass file ctx n s).2
  | none => s
termination_by 2 * sizeOf n
decreasing_by
  have := Node.sizeOf_lt_of_child? _h
  omega

/-- Add what several nodes declare. -/
def walkAll (file : String) (ctx : Context) (nodes : List Node) (s : Survey) : Survey :=
  match nodes with
  | [] => s
  | n :: rest => walkAll file ctx rest (walk file ctx n s)
termination_by 2 * sizeOf nodes
decreasing_by
  · rw [List.cons.sizeOf_spec]; omega
  · rw [List.cons.sizeOf_spec]; omega

end

end Survey

/-- Read a file: what it declares, and the registry with its classes. -/
def FileContents.read (language : Language) (registry : Registry) (file : String) (root : Node) :
    Survey :=
  Survey.walk file { cLinkage := language = .c } root { registry := registry }

end Unreferenced
