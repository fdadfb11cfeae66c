/-
Unreferenced/Usage/Step.lean

One step of the search for uses: what a node uses by itself, which variables it
declares, and where the search goes on below it.

The step is a function of the node and of the scope it is met in.  It never
looks at what was met before, other than through the scope.
-/
import Unreferenced.Spelling.OperatorName
import Unreferenced.Tree.Below
import Unreferenced.Usage.Receiver

namespace Unreferenced

open Text

/-- What a node comes to. -/
structure Step (n : Node) where
  uses : List (Event Nat) := []
  /-- The scope with what the node declares in it. -/
  scope : LocalScope
  /-- Where the search goes on. -/
  next : List n.Below := []
  /-- The scope it goes on in, if it is another one. -/
  inside : Option LocalScope := none

/-- The kinds of node that hold no uses. -/
def skippedKinds : List String :=
  ["preproc_include", "preproc_def", "preproc_function_def", "preproc_call", "using_declaration",
    "alias_declaration", "type_definition", "friend_declaration", "namespace_alias_definition",
    "lambda_capture_specifier", "comment", "template_parameter_list", "base_class_clause",
    "access_specifier", "static_assert_declaration", "concept_definition",
    "template_instantiation"]

/-- The kinds of node that open a block. -/
def blockKinds : List String :=
  ["compound_statement", "for_statement", "for_range_loop", "if_statement", "while_statement",
    "switch_statement", "catch_clause", "try_statement"]

/-- The kinds of expression with an operator. -/
def operatorKinds : List String :=
  ["binary_expression", "unary_expression", "update_expression", "assignment_expression",
    "pointer_expression"]

/-- The uses of some functions. -/
def usesOf (kind : UseKind) (chains : List Chain) : List (Event Nat) :=
  chains.map fun c => .use kind (some c.canonical.index)

namespace Node

/-- The number of arguments in an argument list. -/
def argumentCount (n : Node) : Nat :=
  (n.namedChildren.filter fun c => c.kind != "comment").length

/-- The name of the member that a field expression names. -/
def memberName (n : Node) : String :=
  if n.isOneOf ["template_method", "template_function"] then textOf (n.child? "name")
  else if n.kind = "operator_name" then Spelling.operatorName n.text
  else if n.kind = "qualified_identifier" then lastScopePiece n.text
  else n.text

/-- The operator of an expression, which some grammars give no field. -/
def operator? (n : Node) : Option Node :=
  match n.child? "operator" with
  | some c => some c
  | none => n.children.find? fun c => !c.named

/-- The operand that decides which class an operator is looked up in. -/
def leftOperand? (n : Node) : Option Node :=
  match n.child? "left" with
  | some c => some c
  | none => n.child? "argument"

/-- Whether a declaration only announces a variable. -/
def isExtern (n : Node) : Bool :=
  n.children.any fun c => c.kind == "storage_class_specifier" && c.text == "extern"

/-- The scope with the variable of a parameter or a range loop declared in it. -/
def declareVariable (n : Node) (scope : LocalScope) : LocalScope :=
  scope.declareNamed ((n.child? "declarator").bind declaredName?) (valueTypeOf (n.child? "type"))

/-- The scope with the parameters of a list declared in it. -/
def declareParameters (n : Node) (scope : LocalScope) : LocalScope :=
  n.namedChildren.foldl (fun scope p => p.declareVariable scope) scope

end Node

namespace TranslationUnit

variable (u : TranslationUnit)

/-- The uses of making an object of a class, if that is known. -/
def makingUses (made : Option ClassType) (arity : Option Nat) : List (Event Nat) :=
  match made with
  | some c => usesOf .construction (u.constructionUses c arity)
  | none => []

/-! ### Functions and blocks -/

/-- A namespace: its body is met in a scope of its own. -/
def stepNamespace (n : Node) (scope : LocalScope) : Step n :=
  let names :=
    match n.child? "name" with
    | some name => ((scopePieces name.text).map fun p => String.ofList (trim p.toList)).filter (· != "")
    | none => []
  { scope := scope
    next := (n.belowAt? "body").toList
    inside := some { enclosing := scope.enclosing ++ names } }

/-- A class: its body is met with its members visible. -/
def stepClass (n : Node) (scope : LocalScope) : Step n :=
  let found := (n.child? "name").bind fun name => u.findClass name.text scope.enclosing
  { scope := scope
    next := (n.belowAt? "body").toList
    inside := some
      (match found with
        | some c => { enclosing := c.path, owner := some c }
        | none => { enclosing := scope.enclosing }) }

/-- The scope that the body of a function starts in. -/
def functionScope (path : String) (n : Node) (scope : LocalScope) : LocalScope :=
  match u.siteAt? path n.start with
  | some site =>
    { enclosing := (site.scope.filter fun s => s.kind == .nspace).map ScopeSegment.name
      owner := u.classOf site }
  | none => scope.inner

/-- A function definition: its parameters are visible in its body. -/
def stepFunction (path : String) (n : Node) (scope : LocalScope) : Step n :=
  let start := u.functionScope path n scope
  let bodies := n.namedBelowOf ["field_initializer_list", "compound_statement", "try_statement"]
  match (n.belowAt? "declarator").bind fun d => d.1.parametersBelow?.map d.lift with
  | some parameters =>
    { scope := scope
      next := parameters.1.defaultValues.map parameters.lift ++ bodies
      inside := some (parameters.1.declareParameters start) }
  | none => { scope := scope, next := bodies, inside := some start }

/-- A function object: its parameters are visible in its body, and so is everything around it. -/
def stepLambda (n : Node) (scope : LocalScope) : Step n :=
  { scope := scope
    next := (n.belowAt? "body").toList
    inside := some
      (match (n.child? "declarator").bind Node.parameters? with
        | some parameters => parameters.declareParameters scope.inner
        | none => scope.inner) }

/-- A block. -/
def stepBlock (n : Node) (scope : LocalScope) : Step n :=
  { scope := scope
    next := n.namedBelow
    inside := some
      (if n.kind = "for_range_loop" then n.declareVariable scope.inner else scope.inner) }

/-! ### Declarations -/

/-- The initial value of a declarator. -/
def initialValue? {n : Node} (d : n.Below) : Option n.Below :=
  if d.1.kind = "init_declarator" then d.at? "value" else none

/-- The class of the variable that a declarator declares; the class of `auto` is that of the value. -/
def variableClass? (typeName : String) (declaredClass : Option ClassType) (scope : LocalScope)
    (value : Option Node) : Option ClassType :=
  match value with
  | some v => if typeName = "auto" then u.classOfExpression? scope v else declaredClass
  | none => declaredClass

/-- The arguments that a declarator of a declaration gives to a constructor, if it runs one. -/
def constructorArity? (n d : Node) (typeName : String) (value : Option Node) :
    Option (Option Nat) :=
  if d.kind = "function_declarator" then some ((d.child? "parameters").map Node.argumentCount)
  else
    match value with
    | some v =>
      if v.isOneOf ["argument_list", "initializer_list"] && typeName != "auto" then
        some (some v.argumentCount)
      else none
    | none =>
      if d.isOneOf ["identifier", "array_declarator"] && !n.isExtern &&
          n.kind != "field_declaration" then
        some (some 0)
      else none

/-- What a declarator declares and uses; the parts of a declaration that all its declarators share
come first. -/
def stepDeclarator {n : Node} (typeName : String) (declaredClass : Option ClassType)
    (s : Step n) (d : n.Below) : Step n :=
  if d.1.functionDeclarator?.isSome && !s.scope.isInner then
    match d.1.functionParametersBelow? with
    | some p => { s with next := s.next ++ (p.1.defaultValues.map p.lift).map d.lift }
    | none => s
  else
    let value := initialValue? d
    let variableClass :=
      u.variableClass? typeName declaredClass s.scope (value.map Subtype.val)
    { s with
      scope :=
        if n.kind = "field_declaration" then s.scope
        else s.scope.declareNamed d.1.declaredName?
          ((variableClass.map ClassType.qualifiedName).getD typeName)
      uses := s.uses ++
        match constructorArity? n d.1 typeName (value.map Subtype.val) with
        | some arity => u.makingUses variableClass arity
        | none => []
      next := s.next ++ value.toList }

/-- A declaration: variables, their initial values and the constructors they run. -/
def stepDeclaration (n : Node) (scope : LocalScope) : Step n :=
  let type := n.belowAt? "type"
  let typeName := Node.valueTypeOf (type.map Subtype.val)
  let declaredClass := u.findClass typeName scope.enclosing
  let start : Step n :=
    { scope := scope
      next := (type.filter fun t => t.1.isOneOf ("decltype" :: classKinds)).toList }
  let s := (n.belowIn "declarator").foldl (u.stepDeclarator typeName declaredClass) start
  { s with next := s.next ++ (n.belowAt? "default_value").toList }

/-- The initial value of a member or a base in the head of a constructor. -/
def stepFieldInitializer (n : Node) (scope : LocalScope) : Step n :=
  let arguments := (n.namedBelowOf ["argument_list", "initializer_list"]).head?
  let made :=
    match n.namedChildren.head?, scope.owner with
    | some target, some owner =>
      let spelling :=
        if target.kind = "field_identifier" then
          match u.hierarchy.memberType? owner target.text with
          | some type => if type = "" then target.text else type
          | none => target.text
        else target.text
      u.findClass spelling owner.path
    | _, _ => none
  { scope := scope
    uses :=
      match made with
      | some c =>
        usesOf .construction (u.constructors c (arguments.map fun a => a.1.argumentCount))
      | none => []
    next := arguments.toList }

/-! ### Expressions -/

/-- The uses of a name that is a function's or, if there is no such function, a class's. -/
def callUses (found : List Chain) (name : String) (scope : LocalScope) (arity : Option Nat) :
    List (Event Nat) :=
  match found with
  | [] => u.makingUses (u.findClass name scope.enclosing) arity
  | _ => usesOf .name found

/-- The uses of calling a plain name.  A variable that is called is an object with a call operator. -/
def identifierCallUses (name : String) (scope : LocalScope) (arity : Option Nat) :
    List (Event Nat) :=
  match u.variableType? scope name with
  | some type =>
    match u.findClass type scope.enclosing with
    | some c => usesOf .memberAccess (u.memberCandidates c "operator()")
    | none => []
  | none =>
    u.callUses (u.lookupUnqualified name scope.enclosing scope.owner arity) name scope arity

/-- The uses of a function template with its arguments. -/
def templateUses (n : Node) (scope : LocalScope) (arity : Option Nat) : List (Event Nat) :=
  match n.child? "name" with
  | none => []
  | some name =>
    usesOf .name
        (if name.kind = "qualified_identifier" then
          u.lookupQualified name.text scope.enclosing arity
        else u.lookupUnqualified name.text scope.enclosing scope.owner arity) ++
      if n.namesMakingFunction then u.makingUses (u.templateArgumentClass? scope n) arity else []

/-- A call. -/
def stepCall (n : Node) (scope : LocalScope) : Step n :=
  let arguments := n.belowAt? "arguments"
  let arity := arguments.map fun a => a.1.argumentCount
  match n.belowAt? "function" with
  | none => { scope := scope, next := arguments.toList }
  | some f =>
    if f.1.kind = "identifier" then
      { scope := scope
        uses := u.identifierCallUses f.1.text scope arity
        next := arguments.toList }
    else if f.1.kind = "qualified_identifier" then
      { scope := scope
        uses := u.callUses (u.lookupQualified f.1.text scope.enclosing arity) f.1.text scope arity
        next := arguments.toList }
    else if f.1.kind = "template_function" then
      { scope := scope
        uses := u.templateUses f.1 scope arity
        next := arguments.toList ++ (f.1.namedBelowOf ["template_argument_list"]).map f.lift }
    else if f.1.kind = "field_expression" then
      let receiver := f.at? "argument"
      let name := ((f.1.child? "field").map Node.memberName).getD ""
      { scope := scope
        uses :=
          if name = "" then []
          else
            usesOf .memberAccess
              (u.lookupMember name (receiver.bind fun r => u.classOfExpression? scope r.1) arity)
        next := receiver.toList ++ arguments.toList }
    else { scope := scope, next := f :: arguments.toList }

/-- A plain name: a variable, or else whatever function it means. -/
def identifierUses (n : Node) (scope : LocalScope) : List (Event Nat) :=
  match u.variableType? scope n.text with
  | some _ => []
  | none => usesOf .name (u.lookupUnqualified n.text scope.enclosing scope.owner none)

/-- A qualified name. -/
def stepQualified (n : Node) (scope : LocalScope) : Step n :=
  match n.innermostName? with
  | none => { scope := scope }
  | some last =>
    { scope := scope
      uses :=
        if last.isOneOf ["identifier", "operator_name", "destructor_name", "template_function"] then
          usesOf .name (u.lookupQualified n.text scope.enclosing none)
        else []
      next := n.innermostArguments }

/-- An expression that makes an object. -/
def stepConstruction (n : Node) (scope : LocalScope) : Step n :=
  let field := if (n.child? "arguments").isSome then "arguments" else "value"
  let arguments := n.belowAt? field
  let made := (n.child? "type").bind fun t => u.findClass t.valueType scope.enclosing
  { scope := scope
    uses := u.makingUses made (some ((arguments.map fun a => a.1.argumentCount).getD 0))
    next := ((n.namedBelowBut field).filter fun c => c.1.kind == "argument_list") ++
      arguments.toList }

/-- The uses of an operator, whose class is that of an operand. -/
def operatorUses (name : String) (operand : Option Node) (scope : LocalScope) :
    List (Event Nat) :=
  match operand.bind (u.classOfExpression? scope) with
  | some c =>
    if (u.lookupAny name).isEmpty then []
    else usesOf .name (u.memberCandidates c name ++ u.freeFunctions name)
  | none => usesOf .name (u.lookupAny name)

/-- The uses of the operator in an expression.  Taking an address uses none. -/
def expressionUses (n : Node) (scope : LocalScope) : List (Event Nat) :=
  if n.isOneOf operatorKinds then
    match n.operator? with
    | none => []
    | some operator =>
      if n.kind = "pointer_expression" && operator.text == "&" then []
      else u.operatorUses (Spelling.operatorName ("operator" ++ operator.text)) n.leftOperand? scope
  else if n.kind = "subscript_expression" then
    u.operatorUses "operator[]" (n.child? "argument") scope
  else []

/-! ### Every node -/

/-- What a node of a file comes to in a scope. -/
def step (path : String) (n : Node) (scope : LocalScope) : Step n :=
  if n.isOneOf skippedKinds then { scope := scope }
  else if n.kind = "namespace_definition" then stepNamespace n scope
  else if n.isOneOf classKinds then u.stepClass n scope
  else if n.kind = "function_definition" then u.stepFunction path n scope
  else if n.isOneOf ["declaration", "field_declaration"] then u.stepDeclaration n scope
  else if n.kind = "template_declaration" then
    { scope := scope
      next := n.namedBelow.filter fun c => c.1.kind != "template_parameter_list" }
  else if n.isOneOf ["preproc_if", "preproc_elif"] then
    { scope := scope, next := n.namedBelowBut "condition" }
  else if n.isOneOf ["preproc_ifdef", "preproc_elifdef"] then
    { scope := scope, next := n.namedBelowBut "name" }
  else if n.kind = "enumerator" then { scope := scope, next := (n.belowAt? "value").toList }
  else if n.isOneOf blockKinds then stepBlock n scope
  else if n.kind = "lambda_expression" then stepLambda n scope
  else if n.kind = "parameter_list" then { scope := scope, next := n.defaultValues }
  else if n.kind = "call_expression" then u.stepCall n scope
  else if n.kind = "field_expression" then
    { scope := scope, next := (n.belowAt? "argument").toList }
  else if n.kind = "identifier" then { scope := scope, uses := u.identifierUses n scope }
  else if n.kind = "qualified_identifier" then u.stepQualified n scope
  else if n.kind = "template_function" then
    { scope := scope
      uses := u.templateUses n scope none
      next := n.namedBelowOf ["template_argument_list"] }
  else if n.isOneOf ["new_expression", "compound_literal_expression"] then
    u.stepConstruction n scope
  else if n.kind = "field_initializer" then u.stepFieldInitializer n scope
  else { scope := scope, uses := u.expressionUses n scope, next := n.namedBelow }

end TranslationUnit

end Unreferenced
