/-
Unreferenced/FunctionSite/Reading.lean

Reading a function site off a declaration and its declarator.

A site depends on where it stands, the `Context`, and on the classes known so
far, which decide what its qualifiers mean: a qualifier that names a known class
stands for the scopes of that class, and any other one for a namespace.
-/
import Unreferenced.Class.Registry
import Unreferenced.FunctionSite.Name
import Unreferenced.Text.Word

namespace Unreferenced

open Text

/-- Where in a file a declaration stands. -/
structure Context where
  scope : List ScopeSegment := []
  /-- Functions have C linkage here. -/
  cLinkage : Bool := false
  /-- The class whose body this is. -/
  owner : Option ClassType := none
  /-- The numbers of parameters in the template headers just before, outermost first. -/
  templates : List Nat := []
deriving Inhabited

namespace Context

/-- The names of the enclosing scopes. -/
def names (ctx : Context) : List String :=
  scopeNames ctx.scope

/-- The context inside a namespace. -/
def enter (ctx : Context) (segment : ScopeSegment) : Context :=
  { ctx with scope := ctx.scope ++ [segment], owner := none, templates := [] }

/-- The context without template headers. -/
def plain (ctx : Context) : Context :=
  { ctx with templates := [] }

/-- The context after one more template header. -/
def enterTemplate (ctx : Context) (arity : Nat) : Context :=
  { ctx with templates := ctx.templates ++ [arity] }

/-- The context inside the body of a class. -/
def enterClass (ctx : Context) (segments : List ScopeSegment) (owner : ClassType) : Context :=
  { ctx with scope := segments, owner := some owner, templates := [] }

/-- The context inside a linkage specification. -/
def enterLinkage (ctx : Context) (isC : Bool) : Context :=
  { ctx with cLinkage := isC || ctx.cLinkage, templates := [] }

/-- The namespaces around a class, which a friend defined in its body belongs to. -/
def ofFriend (ctx : Context) : Context where
  scope := ctx.scope.filter fun s => s.kind != .record
  cLinkage := ctx.cLinkage

/-- The parameters of the template header next to the declaration. -/
def lastTemplate? (ctx : Context) : Option Nat :=
  ctx.templates.getLast?

end Context

/-- The scopes that a list of qualifiers stands for, with the path they have led to. -/
def Registry.qualifierStep (r : Registry) (enclosing : List String)
    (reached : List ScopeSegment × List String) (qualifier : String) :
    List ScopeSegment × List String :=
  let name := String.ofList (trim (before '<' qualifier).toList)
  if name = "" then reached
  else
    match r.find? (reached.2 ++ [name]) (if reached.2.isEmpty then enclosing else []) with
    | some c => (c.segments, c.path)
    | none => (reached.1 ++ [⟨.nspace, name, 0⟩], reached.2 ++ [name])

/-- The scopes that a list of qualifiers stands for, seen from an enclosing scope. -/
def Registry.qualifierScopes (r : Registry) (enclosing : List String) (qualifiers : List String) :
    List ScopeSegment :=
  (qualifiers.foldl (r.qualifierStep enclosing) ([], [])).1

/-- Whether a scope ends in a class. -/
def endsInClass (scope : List ScopeSegment) : Bool :=
  scope.getLast?.any fun s => s.kind = .record

/-- The name of a scope as part of a qualified name. -/
def ScopeSegment.shownName (s : ScopeSegment) : String :=
  if s.kind = .anonymous then "(anonymous namespace)"
  else if s.name = "" then "(anonymous)"
  else s.name

/-- The weight of each qualifier after a parameter list. -/
def qualifierWeight (n : Node) : Nat :=
  if n.kind = "type_qualifier" then
    if n.text = "const" then 1 else if n.text = "volatile" then 4 else 0
  else if n.kind = "ref_qualifier" then if n.text = "&&" then 16 else 8
  else 0

/-- The number for the qualifiers after a parameter list; repetitions count once. -/
def qualifierMask (nodes : List Node) : Nat :=
  nodes.foldl (fun mask n => mask ||| qualifierWeight n) 0

/-- A declarator taken apart. -/
structure DeclaratorParts where
  /-- What names the function. -/
  nameNode : Node
  parameters : Option Node
  /-- The node that the qualifiers and specifiers after the parameters are children of. -/
  holder : Node

/-- The parts of a declarator of a function or of a conversion. -/
def Node.declaratorParts? (declarator : Node) : Option DeclaratorParts :=
  if declarator.kind = "function_declarator" then
    (declarator.child? "declarator").map fun name =>
      ⟨name, declarator.child? "parameters", declarator⟩
  else
    match declarator.conversion?.bind fun cast => cast.child? "declarator" with
    | some inner => some ⟨declarator, inner.child? "parameters", inner⟩
    | none => some ⟨declarator, none, declarator⟩

namespace Context

/-- The class that a function declared in a scope is a member of. -/
def ownerOf (ctx : Context) (r : Registry) (qualified : Bool) (scope : List ScopeSegment) :
    Option ClassType :=
  if endsInClass scope then if qualified then r.get? (scopeNames scope) else ctx.owner else none

/-- The number of template parameters of the function itself.  Outside of a class body the headers
of the enclosing class templates come first. -/
def ownTemplateArity (ctx : Context) (scope : List ScopeSegment) : Nat :=
  let ofClasses :=
    if ctx.owner.isNone then
      (scope.filter fun s => s.kind == .record && s.templateArity != 0).length
    else 0
  (ctx.templates.drop ofClasses).getLastD 0

/-- The sort of a function, given what its name says and the class it is a member of. -/
def kindOf (name : FunctionName) (owner : Option ClassType) : FunctionKind :=
  match name.kind, owner with
  | .function, some c => if name.name = before '<' c.name then .constructor else .method
  | .constructor, none => .function
  | kind, _ => kind

/-- The linkage of a function. -/
def linkageOf (ctx : Context) (scope : List ScopeSegment) (isStatic isMember : Bool) : Linkage :=
  if scope.any (fun s => s.kind == .anonymous) || (isStatic && !isMember) then .internal
  else if ctx.cLinkage && !isMember then .c
  else .external

/-- The site of a function declared by a declaration or definition `n`. -/
def siteOf (ctx : Context) (r : Registry) (file : String) (n : Node) (isDefinition : Bool)
    (parts : DeclaratorParts) (name : FunctionName) : FunctionSite :=
  let scope := ctx.scope ++ r.qualifierScopes ctx.names name.qualifiers
  let owner := ctx.ownerOf r (!name.qualifiers.isEmpty) scope
  let specifiers := (n.children.filter fun c =>
    c.isOneOf ["storage_class_specifier", "virtual", "virtual_function_specifier"]).map Node.text
  let isStatic := specifiers.contains "static"
  let around := n.children ++ parts.holder.children
  let attributes := (around.filter fun c => c.isOneOf attributeKinds).map Node.text
  let virtualSpecifiers := (around.filter fun c => c.kind == "virtual_specifier").map Node.text
  let hasClause (kind : String) : Bool := n.children.any fun c => c.kind == kind
  let templateArity := ctx.ownTemplateArity scope
  { name := name.name
    qualifiedName := "::".intercalate (scope.map ScopeSegment.shownName ++ [name.name])
    location := ⟨file, n.line⟩
    kind := kindOf name owner
    scope := scope
    signature := (parts.parameters.map Node.signature).getD {}
    qualifiers := qualifierMask parts.holder.children
    linkage := ctx.linkageOf scope isStatic owner.isSome
    templateArity := templateArity
    templateArgs :=
      if templateArity = 0 ∧ name.templateArgs = none ∧ ctx.lastTemplate? = some 0 then some ""
      else name.templateArgs
    isDefinition := isDefinition
    body := isDefinition && (n.child? "body").isSome
    isDeleted := hasClause "delete_method_clause"
    isDefaulted := hasClause "default_method_clause"
    declaredVirtual := specifiers.contains "virtual"
    declaredOverride := virtualSpecifiers.contains "override"
    declaredFinal := virtualSpecifiers.contains "final"
    declaredPure := hasClause "pure_virtual_clause" ||
      (n.kind == "field_declaration" && Node.textOf (n.child? "default_value") == "0")
    isStaticMember := isStatic && owner.isSome
    isWeak := attributes.any fun a => hasWord "weak" a || hasWord "weakref" a
    runsAtLoad := attributes.any (hasWord "constructor")
    owner := owner.map ClassType.path
    start := n.start }

/-- The site of a function declared by `declarator`, if that gives a name to it. -/
def site? (ctx : Context) (r : Registry) (file : String) (n declarator : Node)
    (isDefinition : Bool) : Option FunctionSite :=
  declarator.declaratorParts?.bind fun parts =>
    parts.nameNode.functionName?.map fun name => ctx.siteOf r file n isDefinition parts name

end Context

end Unreferenced
