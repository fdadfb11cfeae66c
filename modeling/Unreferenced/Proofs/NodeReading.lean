/-
Unreferenced/Proofs/NodeReading.lean

What a step of the search for uses reads.

A step goes by the kinds of the nodes around it and by a few texts: names, types,
operators and the numbers of arguments.  `Node.reads` lists them for every kind of
node.  The text of a node contains that of everything below it, and yet little of
it is read: a qualified name by its parts, which are what is left without the
template arguments, and an expression by the names that decide its class
(`objectReading`).

What is looked up depends on what is read and on nothing else of the tree
(`classOfExpression?_eq`, `lookupQualified_congr`).
-/
import Unreferenced.Usage.Step

namespace Unreferenced

open Spelling

/-- One thing that a node reads. -/
inductive NodeReading where
  | nothing
  /-- A text as it is written. -/
  | word (text : String)
  /-- A name by its parts. -/
  | name (parts : List String)
  /-- A number of arguments, if there are any to count. -/
  | count (number : Option Nat)
  /-- The object whose member function this is. -/
  | this
  /-- A member of an object. -/
  | member (object : NodeReading) (name : String)
  /-- A variable with its type, and the arguments that a constructor gets. -/
  | variable (name : String) (type : NodeReading) (arguments : Option (Option Nat))
deriving DecidableEq

namespace Node

/-! ### Expressions -/

/-- What a template reads of its arguments: the class that it makes an object of. -/
def madeReading (n : Node) : NodeReading :=
  if n.namesMakingFunction then
    n.firstTypeArgument?.elim .nothing fun first =>
      .name (scopeParts (valueTypeOf (first.child? "type")))
  else .nothing

/-- What is read of an expression for its class. -/
def objectReading (n : Node) : NodeReading :=
  if n.kind = "this" then .this
  else if n.kind = "identifier" then .word n.text
  else if n.isOneOf ["parenthesized_expression", "pointer_expression"] then
    match _h : n.operand? with
    | some c => objectReading c
    | none => .nothing
  else if n.kind = "field_expression" then
    match _h : n.child? "argument", n.child? "field" with
    | some c, some field => .member (objectReading c) field.text
    | _, _ => .nothing
  else if n.isOneOf ["new_expression", "compound_literal_expression"] then
    .name (scopeParts (valueTypeOf (n.child? "type")))
  else if n.kind = "call_expression" then
    (n.child? "function").elim .nothing fun function =>
      if function.isOneOf ["identifier", "qualified_identifier"] then
        .name (scopeParts function.text)
      else if function.kind = "template_function" then function.madeReading
      else .nothing
  else .nothing
termination_by sizeOf n
decreasing_by
  · exact sizeOf_lt_of_operand? _h
  · exact sizeOf_lt_of_child? _h

/-- What is read of an operand that may be absent. -/
def operandReading (operand : Option Node) : NodeReading :=
  operand.elim .nothing objectReading

/-- What is read of a function template with its arguments. -/
def templateReadings (n : Node) : List NodeReading :=
  (n.child? "name").elim [] fun name =>
    [if name.kind = "qualified_identifier" then .name (scopeParts name.text) else .word name.text,
      n.madeReading]

/-- What is read of the arguments of a call. -/
def countReading (arguments : Option Node) : NodeReading :=
  .count (arguments.map argumentCount)

/-- What a call reads. -/
def callReadings (n : Node) : List NodeReading :=
  countReading (n.child? "arguments") ::
    (n.child? "function").elim [] fun f =>
      if f.kind = "identifier" then [.word f.text]
      else if f.kind = "qualified_identifier" then [.name (scopeParts f.text)]
      else if f.kind = "template_function" then f.templateReadings
      else if f.kind = "field_expression" then
        [.word (((f.child? "field").map memberName).getD ""),
          operandReading (f.child? "argument")]
      else []

/-- What an expression that makes an object reads. -/
def constructionReadings (n : Node) : List NodeReading :=
  [.name (scopeParts (valueTypeOf (n.child? "type"))),
    countReading (n.child? (if (n.child? "arguments").isSome then "arguments" else "value"))]

/-- What the initial value of a member reads. -/
def initializerReadings (n : Node) : List NodeReading :=
  countReading (n.namedChildren.filter fun c =>
      c.isOneOf ["argument_list", "initializer_list"]).head? ::
    (n.namedChildren.head?.map fun target => .word target.text).toList

/-- What an expression with an operator reads. -/
def operatorReadings (n : Node) : List NodeReading :=
  if n.isOneOf operatorKinds then
    [(n.operator?.map fun operator => .word operator.text).getD .nothing,
      operandReading n.leftOperand?]
  else if n.kind = "subscript_expression" then [operandReading (n.child? "argument")]
  else []

/-! ### Declarations -/

/-- What is read of a parameter or of the variable of a range loop. -/
def variableReading (n : Node) : NodeReading :=
  .variable (((n.child? "declarator").bind declaredName?).getD "")
    (.word (valueTypeOf (n.child? "type"))) none

/-- What is read of the parameters that a function or a function object declares. -/
def parameterReadings (n : Node) : List NodeReading :=
  ((n.child? "declarator").bind parameters?).elim [] fun parameters =>
    parameters.namedChildren.map variableReading

/-- The initial value of a declarator. -/
def initialValue? (n : Node) : Option Node :=
  if n.kind = "init_declarator" then n.child? "value" else none

/-- What is read of a declarator of a declaration. -/
def declaratorReading (n : Node) (typeName : String) (d : Node) : NodeReading :=
  .variable (d.declaredName?.getD "")
    (if typeName = "auto" then operandReading d.initialValue? else .nothing)
    (TranslationUnit.constructorArity? n d typeName d.initialValue?)

/-- What a declaration reads. -/
def declarationReadings (n : Node) : List NodeReading :=
  let typeName := valueTypeOf (n.child? "type")
  .word typeName :: (n.childrenIn "declarator").map (n.declaratorReading typeName)

/-! ### Every node -/

/-- What a node reads, other than the kinds of nodes. -/
def reads (n : Node) : List NodeReading :=
  if n.isOneOf skippedKinds then []
  else if n.kind = "namespace_definition" then
    ((n.child? "name").map fun name => .word name.text).toList
  else if n.isOneOf classKinds then
    ((n.child? "name").map fun name => .name (scopeParts name.text)).toList
  else if n.kind = "function_definition" then n.parameterReadings
  else if n.isOneOf ["declaration", "field_declaration"] then n.declarationReadings
  else if n.kind = "template_declaration" then []
  else if n.isOneOf ["preproc_if", "preproc_elif"] then []
  else if n.isOneOf ["preproc_ifdef", "preproc_elifdef"] then []
  else if n.kind = "enumerator" then []
  else if n.isOneOf blockKinds then
    if n.kind = "for_range_loop" then [n.variableReading] else []
  else if n.kind = "lambda_expression" then n.parameterReadings
  else if n.kind = "parameter_list" then []
  else if n.kind = "call_expression" then n.callReadings
  else if n.kind = "field_expression" then []
  else if n.kind = "identifier" then [.word n.text]
  else if n.kind = "qualified_identifier" then [.name (scopeParts n.text)]
  else if n.kind = "template_function" then n.templateReadings
  else if n.isOneOf ["new_expression", "compound_literal_expression"] then n.constructionReadings
  else if n.kind = "field_initializer" then n.initializerReadings
  else n.operatorReadings

end Node

/-! ### Looking up what is read -/

namespace TranslationUnit

variable (u : TranslationUnit) (scope : LocalScope)

/-- The class of an expression of which something is read. -/
def classRead? : NodeReading → Option ClassType
  | .this => scope.owner
  | .word text =>
    ((u.variableType? scope text).orElse fun _ => u.globals.get? text).bind fun type =>
      u.findClass type scope.enclosing
  | .name parts => u.registry.named? parts scope.enclosing
  | .member object name =>
    (classRead? object).bind fun holder =>
      (u.hierarchy.memberType? holder name).bind fun type => u.findClass type holder.path
  | _ => none

theorem findClass_congr {spelling spelling' : String}
    (h : scopeParts spelling = scopeParts spelling') (enclosing : List String) :
    u.findClass spelling enclosing = u.findClass spelling' enclosing :=
  congrArg (fun parts => u.registry.named? parts enclosing) h

theorem lookupQualified_congr {spelling spelling' : String}
    (h : scopeParts spelling = scopeParts spelling') (enclosing : List String)
    (arity : Option Nat) :
    u.lookupQualified spelling enclosing arity = u.lookupQualified spelling' enclosing arity := by
  unfold lookupQualified
  rw [h]

/-- The class that a template makes an object of. -/
theorem classRead?_madeReading (n : Node) :
    u.classRead? scope n.madeReading =
      if n.namesMakingFunction then u.templateArgumentClass? scope n else none := by
  unfold Node.madeReading templateArgumentClass?
  split
  · rcases n.firstTypeArgument? with - | first
    · rfl
    · rfl
  · rfl

/-- The class of an expression depends on what is read of it. -/
theorem classOfExpression?_eq (n : Node) :
    u.classOfExpression? scope n = u.classRead? scope n.objectReading := by
  fun_induction Node.objectReading n with
  | case1 n hthis => rw [classOfExpression?, if_pos hthis]; rfl
  | case2 n hthis hname => rw [classOfExpression?, if_neg hthis, if_pos hname]; rfl
  | case3 n hthis hname hwrapped c hc ih =>
    rw [classOfExpression?, if_neg hthis, if_neg hname, if_pos hwrapped, ← ih]
    split
    · next hc' => rw [hc] at hc'; cases hc'; rfl
    · next hc' => rw [hc] at hc'; cases hc'
  | case4 n hthis hname hwrapped hc =>
    rw [classOfExpression?, if_neg hthis, if_neg hname, if_pos hwrapped]
    split
    · next hc' => rw [hc] at hc'; cases hc'
    · rfl
  | case5 n hthis hname hwrapped hmember c field hc hfield ih =>
    rw [classOfExpression?, if_neg hthis, if_neg hname, if_neg hwrapped, if_pos hmember, classRead?,
      ← ih]
    split
    · next hc' hfield' =>
      rw [hc] at hc'
      rw [hfield] at hfield'
      cases hc'
      cases hfield'
      rfl
    · next hnot => exact absurd hfield (hnot _ _ hc)
  | case6 n hthis hname hwrapped hmember hnot =>
    rw [classOfExpression?, if_neg hthis, if_neg hname, if_neg hwrapped, if_pos hmember]
    split
    · next hc hfield => exact absurd hfield (hnot _ _ hc)
    · rfl
  | case7 n hthis hname hwrapped hmember hmade =>
    rw [classOfExpression?, if_neg hthis, if_neg hname, if_neg hwrapped, if_neg hmember,
      if_pos hmade]
    rfl
  | case8 n hthis hname hwrapped hmember hmade hcall =>
    rw [classOfExpression?, if_neg hthis, if_neg hname, if_neg hwrapped, if_neg hmember,
      if_neg hmade, if_pos hcall]
    rcases n.child? "function" with - | f
    · rfl
    rw [Option.bind_some, Option.elim_some]
    split
    · rfl
    · by_cases htemplate : f.kind = "template_function"
      · rw [if_pos htemplate, classRead?_madeReading, decide_eq_true htemplate, Bool.true_and]
      · rw [if_neg htemplate, decide_eq_false htemplate, Bool.false_and]
        rfl
  | case9 n hthis hname hwrapped hmember hmade hcall =>
    rw [classOfExpression?, if_neg hthis, if_neg hname, if_neg hwrapped, if_neg hmember,
      if_neg hmade, if_neg hcall]
    rfl

theorem bind_classOfExpression? (operand : Option Node) :
    operand.bind (u.classOfExpression? scope) =
      u.classRead? scope (Node.operandReading operand) := by
  rcases operand with - | n
  · rfl
  · exact u.classOfExpression?_eq scope n

/-! ### Uses and variables -/

variable {u scope} {n n' : Node}

theorem identifierUses_congr (h : [NodeReading.word n.text] = [.word n'.text]) :
    u.identifierUses n scope = u.identifierUses n' scope := by
  unfold identifierUses
  rw [NodeReading.word.inj (List.cons.inj h).1]

theorem callUses_congr {found : List Chain} {name name' : String}
    (h : scopeParts name = scopeParts name') (arity : Option Nat) :
    u.callUses found name scope arity = u.callUses found name' scope arity := by
  unfold callUses
  rw [u.findClass_congr h]

/-- A function template is used by what is read of it. -/
theorem templateUses_congr (h : n.templateReadings = n'.templateReadings) (arity : Option Nat) :
    u.templateUses n scope arity = u.templateUses n' scope arity := by
  have hmade : ∀ m : Node, (if m.namesMakingFunction then
      u.makingUses (u.templateArgumentClass? scope m) arity else []) =
        u.makingUses (u.classRead? scope m.madeReading) arity := by
    intro m
    rw [classRead?_madeReading]
    split
    · rfl
    · rfl
  unfold Node.templateReadings at h
  unfold templateUses
  rw [hmade, hmade]
  generalize n.child? "name" = name at h
  generalize n'.child? "name" = name' at h
  rcases name with - | name
  · rcases name' with - | name'
    · rfl
    · cases h
  rcases name' with - | name'
  · cases h
  simp only [Option.elim_some, List.cons.injEq, and_true] at h
  rw [h.2]
  refine congrArg (usesOf .name · ++ _) ?_
  have hname := h.1
  split at hname
  · next hkind =>
    split at hname
    · next hkind' =>
      rw [if_pos hkind, if_pos hkind']
      exact u.lookupQualified_congr (NodeReading.name.inj hname) _ _
    · cases hname
  · next hkind =>
    split at hname
    · cases hname
    · next hkind' => rw [if_neg hkind, if_neg hkind', NodeReading.word.inj hname]

/-- An operator is used by the name and by what is read of the operand. -/
theorem operatorUses_congr {operand operand' : Option Node}
    (h : Node.operandReading operand = Node.operandReading operand') (name : String) :
    u.operatorUses name operand scope = u.operatorUses name operand' scope := by
  unfold operatorUses
  rw [bind_classOfExpression?, bind_classOfExpression?, h]

theorem expressionUses_congr (hkind : n.kind = n'.kind)
    (h : n.operatorReadings = n'.operatorReadings) :
    u.expressionUses n scope = u.expressionUses n' scope := by
  have hkinds : ∀ kinds, n.isOneOf kinds = n'.isOneOf kinds := fun kinds => by
    rw [Node.isOneOf, Node.isOneOf, hkind]
  unfold Node.operatorReadings at h
  unfold expressionUses
  rw [hkind, hkinds] at h ⊢
  split at h
  · next hoperator =>
    rw [if_pos hoperator, if_pos hoperator]
    simp only [List.cons.injEq, and_true] at h
    obtain ⟨htext, hoperand⟩ := h
    generalize n.operator? = operator at htext
    generalize n'.operator? = operator' at htext
    rcases operator with - | operator
    · rcases operator' with - | operator'
      · rfl
      · cases htext
    rcases operator' with - | operator'
    · cases htext
    dsimp only
    rw [NodeReading.word.inj htext, operatorUses_congr hoperand]
  · next hoperator =>
    rw [if_neg hoperator, if_neg hoperator]
    split at h
    · next hsubscript =>
      rw [if_pos hsubscript, if_pos hsubscript]
      exact operatorUses_congr (List.cons.inj h).1 _
    · next hsubscript => rw [if_neg hsubscript, if_neg hsubscript]

end TranslationUnit

theorem LocalScope.declareNamed_getD (s : LocalScope) (name : Option String) (type : String) :
    s.declareNamed (some (name.getD "")) type = s.declareNamed name type := by
  rcases name with - | name
  · rfl
  · rfl

namespace Node

variable {n n' : Node}

theorem declareVariable_congr (h : n.variableReading = n'.variableReading) (scope : LocalScope) :
    n.declareVariable scope = n'.declareVariable scope := by
  simp only [variableReading, NodeReading.variable.injEq, NodeReading.word.injEq, and_true] at h
  unfold declareVariable
  rw [← LocalScope.declareNamed_getD, h.1, h.2, LocalScope.declareNamed_getD]

/-- The parameters are declared by what is read of them. -/
theorem declareParameters_congr (h : n.parameterReadings = n'.parameterReadings)
    (start : LocalScope) :
    (((n.child? "declarator").bind parameters?).elim start fun p => p.declareParameters start) =
      ((n'.child? "declarator").bind parameters?).elim start fun p =>
        p.declareParameters start := by
  have hfold : ∀ (nodes nodes' : List Node) (scope : LocalScope),
      nodes.map variableReading = nodes'.map variableReading →
      nodes.foldl (fun scope p => p.declareVariable scope) scope =
        nodes'.foldl (fun scope p => p.declareVariable scope) scope := by
    intro nodes
    induction nodes with
    | nil =>
      intro nodes' scope hnodes
      rw [List.map_eq_nil_iff.1 hnodes.symm]
    | cons p nodes ih =>
      intro nodes' scope hnodes
      rcases nodes' with - | ⟨p', nodes'⟩
      · cases hnodes
      · simp only [List.map_cons, List.cons.injEq] at hnodes
        rw [List.foldl_cons, List.foldl_cons, declareVariable_congr hnodes.1]
        exact ih nodes' _ hnodes.2
  have helim : ∀ parameters : Option Node,
      (parameters.elim start fun p => p.declareParameters start) =
        (parameters.elim [] namedChildren).foldl (fun scope p => p.declareVariable scope) start := by
    intro parameters
    rcases parameters with - | p
    · rfl
    · rfl
  have hread : ∀ m : Node, m.parameterReadings =
      (((m.child? "declarator").bind parameters?).elim [] namedChildren).map variableReading := by
    intro m
    unfold parameterReadings
    rcases (m.child? "declarator").bind parameters? with - | p
    · rfl
    · rfl
  rw [helim, helim]
  exact hfold _ _ start (by rw [← hread, ← hread, h])

end Node

end Unreferenced
