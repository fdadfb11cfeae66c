/-
Unreferenced/Proofs/BlockScope.lean

What a block keeps to itself.

When a block or a function object is done, all scopes that were there before are
as they were: nothing that is declared inside is visible behind it
(`cells_searchFrom_of_closed`).  So if a block is put in the place of another one,
the nodes outside are visited in the scopes they were visited in before
(`alikeOutside_of_exchanged`).  They use what they used before, too, unless they
stand around the block and read something else than before.

The text of a node around a block contains that of the block, so it may well read
something else.  Names with template arguments are the case in point, since what
looks like template arguments is taken out of their text, and a `>` in a block
among the arguments ends them too early (`uses_templateTree_ne`).
-/
import Unreferenced.Proofs.BlockReplacement

namespace Unreferenced

/-- The visit seen from the end of a trail that leads to it. -/
def Visit.below (trail : List Node) (v : Visit) : Visit :=
  { v with trail := trail ++ v.trail }

namespace TranslationUnit

variable (u : TranslationUnit) (path : String)

/-! ### One tree after the other -/

/-- The scope after several trees. -/
def scopeAfter (scope : LocalScope) (nodes : List Node) : LocalScope :=
  nodes.foldl (fun s n => (u.searchTree path n s).scope) scope

/-- The visits when several trees are searched, one after the other. -/
def visitsOfAll : LocalScope → List Node → List Visit
  | _, [] => []
  | scope, n :: nodes =>
    u.visitsOf path n scope ++ visitsOfAll (u.searchTree path n scope).scope nodes

/-- The scope that the search goes on in below a node. -/
def scopeBelow (n : Node) (scope : LocalScope) : LocalScope :=
  (u.step path n scope).inside.getD (u.step path n scope).scope

/-- The root is visited, and then the trees below it one after the other. -/
theorem visitsOf_eq (n : Node) (scope : LocalScope) :
    u.visitsOf path n scope = ⟨[n], scope⟩ ::
      (u.visitsOfAll path (u.scopeBelow path n scope) (u.nextNodes path scope n)).map
        (Visit.under n) := by
  have hturn : ∀ (nodes : List n.Below) (s : LocalScope),
      ((u.inTurn path s nodes).flatMap fun m => (u.visitsOf path m.1.1 m.2).map (Visit.under n)) =
        (u.visitsOfAll path s (nodes.map Subtype.val)).map (Visit.under n) := by
    intro nodes
    induction nodes with
    | nil => exact fun s => rfl
    | cons m nodes ih =>
      intro s
      rw [inTurn, List.flatMap_cons, ih, List.map_cons, visitsOfAll, List.map_append]
  rw [visitsOf]
  exact congrArg _ (hturn _ _)

/-- The scope after a tree is the one after its root if the root opens a scope of its own, and the
one after the trees below otherwise. -/
theorem scope_searchTree (n : Node) (scope : LocalScope) :
    (u.searchTree path n scope).scope =
      if (u.step path n scope).inside.isSome then (u.step path n scope).scope
      else u.scopeAfter path (u.scopeBelow path n scope) (u.nextNodes path scope n) := by
  have hfold : ∀ (nodes : List n.Below) (found : Searched),
      (nodes.foldl (fun found m => found.append (u.searchTree path m.1 found.scope)) found).scope =
      u.scopeAfter path found.scope (nodes.map Subtype.val) := by
    intro nodes
    induction nodes with
    | nil => exact fun found => rfl
    | cons m nodes ih =>
      intro found
      rw [List.foldl_cons, ih]
      rfl
  rw [searchTree]
  show (if _ then _ else _) = _
  rw [hfold]
  rfl

end TranslationUnit

/-! ### Blocks and declarations -/

/-- A step that declares nothing and opens a given scope. -/
structure Step.Quiet {n : Node} (s : Step n) (scope : LocalScope) (inside : Option LocalScope) :
    Prop where
  scope : s.scope = scope
  inside : s.inside = inside

namespace Step.Quiet

variable {n : Node} {scope : LocalScope}

theorem plain (uses : List (Event Nat)) (next : List n.Below) :
    (Step.mk uses scope next none).Quiet scope none :=
  ⟨rfl, rfl⟩

theorem ite {inside : Option LocalScope} {c : Prop} [Decidable c] {s s' : Step n}
    (hpos : c → s.Quiet scope inside) (hneg : ¬c → s'.Quiet scope inside) :
    (if c then s else s').Quiet scope inside := by
  split
  · next h => exact hpos h
  · next h => exact hneg h

end Step.Quiet

namespace TranslationUnit

variable (u : TranslationUnit) (path : String) {n : Node} (scope : LocalScope)

theorem quiet_stepFieldDeclaration (h : n.kind = "field_declaration") :
    (u.stepDeclaration n scope).Quiet scope none := by
  have hstep : ∀ (typeName : String) (declaredClass : Option ClassType) (s : Step n) (d : n.Below),
      s.Quiet scope none → (u.stepDeclarator typeName declaredClass s d).Quiet scope none := by
    intro typeName declaredClass s d hs
    unfold stepDeclarator
    split
    · split
      · exact ⟨hs.scope, hs.inside⟩
      · exact hs
    · exact ⟨hs.scope, hs.inside⟩
  have hfold : ∀ (typeName : String) (declaredClass : Option ClassType) (ds : List n.Below)
      (s : Step n), s.Quiet scope none →
        (ds.foldl (u.stepDeclarator typeName declaredClass) s).Quiet scope none := by
    intro typeName declaredClass ds
    induction ds with
    | nil => exact fun s hs => hs
    | cons d ds ih => exact fun s hs => ih _ (hstep typeName declaredClass s d hs)
  have hdeclared := hfold (Node.valueTypeOf ((n.belowAt? "type").map Subtype.val))
    (u.findClass (Node.valueTypeOf ((n.belowAt? "type").map Subtype.val)) scope.enclosing)
    (n.belowIn "declarator") _
    (.plain [] ((n.belowAt? "type").filter fun t => t.1.isOneOf ("decltype" :: classKinds)).toList)
  exact ⟨hdeclared.scope, hdeclared.inside⟩

theorem quiet_stepCall : (u.stepCall n scope).Quiet scope none := by
  unfold stepCall
  dsimp only
  split
  · exact .plain _ _
  · exact .ite (fun _ => .plain _ _) fun _ => .ite (fun _ => .plain _ _) fun _ =>
      .ite (fun _ => .plain _ _) fun _ => .ite (fun _ => .plain _ _) fun _ => .plain _ _

theorem quiet_stepQualified : (u.stepQualified n scope).Quiet scope none := by
  unfold stepQualified
  split
  · exact .plain _ _
  · exact .plain _ _

/-- Kinds of node other than the declaring ones declare nothing and open no scope. -/
theorem quiet_step (h : n.kind ∉ declaringKinds) : (u.step path n scope).Quiet scope none := by
  have hnot : ∀ kinds : List String, kinds ⊆ declaringKinds → ¬n.isOneOf kinds = true :=
    fun kinds hkinds hn => h (hkinds (Node.isOneOf_iff.1 hn))
  have hne : ∀ kind ∈ declaringKinds, n.kind ≠ kind := fun kind hkind hn => h (hn ▸ hkind)
  have hdeclaration (hkinds : n.isOneOf ["declaration", "field_declaration"] = true) :
      n.kind = "field_declaration" := by
    have hkind := Node.isOneOf_iff.1 hkinds
    simp only [List.mem_cons, List.not_mem_nil, or_false] at hkind
    exact hkind.resolve_left (hne _ (by decide))
  unfold step
  exact
    .ite (fun _ => .plain _ _) fun _ =>
    .ite (fun hkind => absurd hkind (hne _ (by decide))) fun _ =>
    .ite (fun hkind => absurd hkind (hnot _ (by decide))) fun _ =>
    .ite (fun hkind => absurd hkind (hne _ (by decide))) fun _ =>
    .ite (fun hkinds => u.quiet_stepFieldDeclaration scope (hdeclaration hkinds)) fun _ =>
    .ite (fun _ => .plain _ _) fun _ => .ite (fun _ => .plain _ _) fun _ =>
    .ite (fun _ => .plain _ _) fun _ => .ite (fun _ => .plain _ _) fun _ =>
    .ite (fun hkind => absurd hkind (hnot _ (by decide))) fun _ =>
    .ite (fun hkind => absurd hkind (hne _ (by decide))) fun _ =>
    .ite (fun _ => .plain _ _) fun _ => .ite (fun _ => u.quiet_stepCall scope) fun _ =>
    .ite (fun _ => .plain _ _) fun _ => .ite (fun _ => .plain _ _) fun _ =>
    .ite (fun _ => u.quiet_stepQualified scope) fun _ => .ite (fun _ => .plain _ _) fun _ =>
    .ite (fun _ => .plain _ _) fun _ => .ite (fun _ => .plain _ _) fun _ => .plain _ _

theorem exists_quiet_of_closed (h : n.kind ∈ closedKinds) :
    ∃ inside, (u.step path n scope).Quiet scope (some inside) := by
  have hcases : u.step path n scope = stepLambda n scope ∨
      u.step path n scope = stepBlock n scope := by
    simp only [closedKinds, blockKinds, List.mem_cons, List.not_mem_nil, or_false] at h
    rcases h with h | h | h | h | h | h | h | h | h
    · left
      simp [step, Node.isOneOf, h, skippedKinds, classKinds, blockKinds]
    all_goals
      right
      simp [step, Node.isOneOf, h, skippedKinds, classKinds, blockKinds]
  rcases hcases with hstep | hstep
  · exact ⟨_, by rw [hstep]; exact ⟨rfl, rfl⟩⟩
  · exact ⟨_, by rw [hstep]; exact ⟨rfl, rfl⟩⟩

/-- When a block or a function object is done, every scope of the store is as before. -/
theorem cells_searchFrom_of_closed (h : n.kind ∈ closedKinds) {place : Nat} {found : Search}
    (hplace : place < found.scopes.size) {i : Nat} (hi : i < found.scopes.size) :
    (u.searchFrom path n place found).scopes.cells[i]? = found.scopes.cells[i]? := by
  obtain ⟨inside, hquiet⟩ := u.exists_quiet_of_closed path (found.scopes.view place) h
  refine u.cells_searchFrom_of_opens path n hplace ?_ hi
  rw [hquiet.inside]
  rfl

/-- After a block or a function object the scope is the one before. -/
theorem scope_searchTree_of_closed (h : n.kind ∈ closedKinds) :
    (u.searchTree path n scope).scope = scope := by
  obtain ⟨inside, hquiet⟩ := u.exists_quiet_of_closed path scope h
  rw [scope_searchTree, hquiet.inside, hquiet.scope]
  rfl

/-! ### A block in the place of another -/

open Node

variable {scope}

/-- The visits are made in one scope, and the visited nodes are the same but for `b` and `b'` below
them.  If the nodes read the same, they use the same. -/
def Alike (b b' : Node) (v v' : Visit) : Prop :=
  v.scope = v'.scope ∧ ∃ n ∈ v.trail.getLast?, ∃ n' ∈ v'.trail.getLast?, Exchanged b b' n n' ∧
    (n.reads = n'.reads → u.usesAt path v = u.usesAt path v')

/-- Outside `b` and `b'` the visits are alike.  Where one search comes to `b`, the other one comes to
`b'`, in the same scope. -/
inductive AlikeOutside (b b' : Node) : List Visit → List Visit → Prop where
  | nil : AlikeOutside b b' [] []
  | visit {v v' : Visit} {rest rest' : List Visit} (h : u.Alike path b b' v v')
      (hrest : AlikeOutside b b' rest rest') : AlikeOutside b b' (v :: rest) (v' :: rest')
  | block (s : LocalScope) (trail trail' : List Node) {rest rest' : List Visit}
      (hrest : AlikeOutside b b' rest rest') :
      AlikeOutside b b' ((u.visitsOf path b s).map (Visit.below trail) ++ rest)
        ((u.visitsOf path b' s).map (Visit.below trail') ++ rest')

variable {u path} {b b' n' : Node}

theorem Alike.under (m m' : Node) {v v' : Visit} (h : u.Alike path b b' v v') :
    u.Alike path b b' (v.under m) (v'.under m') := by
  obtain ⟨hscope, k, hk, k', hk', hkk, huses⟩ := h
  rw [Option.mem_def] at hk hk'
  have hlast : (v.under m).trail.getLast? = some k := by
    rw [Visit.under, List.getLast?_cons, hk]
    rfl
  have hlast' : (v'.under m').trail.getLast? = some k' := by
    rw [Visit.under, List.getLast?_cons, hk']
    rfl
  refine ⟨hscope, k, hlast, k', hlast', hkk, fun hreads => ?_⟩
  have hsame := huses hreads
  unfold usesAt at hsame ⊢
  rw [hlast, hlast']
  rw [hk, hk'] at hsame
  exact hsame

theorem AlikeOutside.append {before before' after after' : List Visit}
    (h : u.AlikeOutside path b b' before before') (h' : u.AlikeOutside path b b' after after') :
    u.AlikeOutside path b b' (before ++ after) (before' ++ after') := by
  induction h with
  | nil => exact h'
  | visit hv _ ih => exact .visit hv ih
  | block s trail trail' _ ih =>
    rw [List.append_assoc, List.append_assoc]
    exact .block s trail trail' ih

theorem AlikeOutside.under (m m' : Node) {visits visits' : List Visit}
    (h : u.AlikeOutside path b b' visits visits') :
    u.AlikeOutside path b b' (visits.map (Visit.under m)) (visits'.map (Visit.under m')) := by
  induction h with
  | nil => exact .nil
  | visit hv _ ih => exact .visit (hv.under m m') ih
  | block s trail trail' _ ih =>
    rw [List.map_append, List.map_append, List.map_map, List.map_map]
    exact .block s (m :: trail) (m' :: trail') ih

theorem alikeOutside_self (n : Node) (scope : LocalScope) :
    u.AlikeOutside path b b' (u.visitsOf path n scope) (u.visitsOf path n scope) := by
  have hself : ∀ visits : List Visit, (∀ v ∈ visits, v.trail.head? = some n) →
      u.AlikeOutside path b b' visits visits := by
    intro visits
    induction visits with
    | nil => exact fun _ => .nil
    | cons v visits ih =>
      intro htrails
      refine .visit ?_ (ih fun w hw => htrails w (List.mem_cons_of_mem _ hw))
      obtain ⟨rest, hrest⟩ := List.head?_eq_some_iff.1 (htrails v List.mem_cons_self)
      have hlast := List.getLast?_eq_some_getLast (l := v.trail) (by simp [hrest])
      exact ⟨rfl, _, hlast, _, hlast, .refl _, fun _ => rfl⟩
  exact hself _ fun v hv => u.trail_of_mem_visitsOf hv

variable (u path) in
/-- A node around the place declares the same and opens the same scope. -/
theorem declared_of_replaced (h : Replaced b b' n n') (haround : Around b b' n n')
    (hreads : n.kind ∈ declaringKinds → n.reads = n'.reads) (scope : LocalScope) :
    (u.step path n scope).scope = (u.step path n' scope).scope ∧
      (u.step path n scope).inside = (u.step path n' scope).inside := by
  by_cases hkind : n.kind ∈ declaringKinds
  · have hfollows : Step.Follows b b' n.reads n'.reads (u.step path n scope)
        (u.step path n' scope) := follows_step haround h
    exact ⟨hfollows.scope (hreads hkind), hfollows.inside (hreads hkind)⟩
  · have hquiet := u.quiet_step path scope hkind
    have hquiet' := u.quiet_step path scope (haround.shape.kind ▸ hkind)
    exact ⟨hquiet.scope.trans hquiet'.scope.symm, hquiet.inside.trans hquiet'.inside.symm⟩

/-- If `b'` is put in the place of `b`, the nodes outside are visited in the scopes they were visited
in before, and the scope after the tree is the same. -/
theorem alikeOutside_of_exchanged {t t' : Node} (h : Exchanged b b' t t') (scope : LocalScope) :
    u.AlikeOutside path b b' (u.visitsOf path t scope) (u.visitsOf path t' scope) ∧
      (u.searchTree path t scope).scope = (u.searchTree path t' scope).scope := by
  induction hsize : sizeOf t using Nat.strongRecOn generalizing t t' scope with
  | _ size ih =>
  subst hsize
  rcases h with rfl | h
  · exact ⟨alikeOutside_self t scope, rfl⟩
  have hreplaced := h
  cases h with
  | here hkind hshape =>
    have hid : Visit.below [] = id := rfl
    refine ⟨?_, ?_⟩
    · have hblock : u.AlikeOutside path b b' _ _ := .block scope [] [] .nil
      rw [hid, List.map_id, List.map_id, List.append_nil, List.append_nil] at hblock
      exact hblock
    · rw [u.scope_searchTree_of_closed path scope hkind,
        u.scope_searchTree_of_closed path scope (hshape.kind ▸ hkind)]
  | around _ _ hshape hstart hchildren hchildren' _ hreads hm =>
    have haround : Around b b' t t' := by
      refine ⟨hshape, hstart, ?_⟩
      rw [hchildren, hchildren']
      exact forall₂_exchanged hm
    have hfollows : Step.Follows b b' t.reads t'.reads (u.step path t scope)
        (u.step path t' scope) := follows_step haround hreplaced
    obtain ⟨hscope, hinside⟩ := u.declared_of_replaced path hreplaced haround hreads scope
    have hbelow : u.scopeBelow path t scope = u.scopeBelow path t' scope := by
      rw [scopeBelow, scopeBelow, hinside, hscope]
    -- the trees below are searched one after the other, each pair from one scope
    have hall : ∀ (nodes nodes' : List Node) (s : LocalScope),
        List.Forall₂ (Exchanged b b') nodes nodes' → (∀ m ∈ nodes, sizeOf m < sizeOf t) →
        u.AlikeOutside path b b' (u.visitsOfAll path s nodes) (u.visitsOfAll path s nodes') ∧
          u.scopeAfter path s nodes = u.scopeAfter path s nodes' := by
      intro nodes nodes' s hnodes
      induction hnodes generalizing s with
      | nil => exact fun _ => ⟨.nil, rfl⟩
      | @cons m m' nodes nodes' hm _ ihnodes =>
        intro hsizes
        obtain ⟨hvisits, hafter⟩ := ih (sizeOf m) (hsizes m List.mem_cons_self) hm s rfl
        obtain ⟨hrest, hlast⟩ := ihnodes (u.searchTree path m s).scope fun k hk =>
          hsizes k (List.mem_cons_of_mem _ hk)
        rw [visitsOfAll, visitsOfAll, ← hafter]
        refine ⟨hvisits.append hrest, ?_⟩
        rw [scopeAfter, scopeAfter, List.foldl_cons, List.foldl_cons, ← hafter]
        exact hlast
    obtain ⟨hvisits, hafter⟩ := hall _ _ (u.scopeBelow path t scope) hfollows.next fun m hm => by
      obtain ⟨k, -, rfl⟩ := List.mem_map.1 hm
      exact k.2
    refine ⟨?_, ?_⟩
    · rw [visitsOf_eq, visitsOf_eq, ← hbelow]
      exact .visit ⟨rfl, t, rfl, t', rfl, .inr hreplaced, hfollows.uses⟩ (hvisits.under t t')
    · rw [scope_searchTree, scope_searchTree, ← hbelow, hinside, hscope]
      split
      · rfl
      · exact hafter

/-! ### Samples -/

/-- The function object `[] { int name = value; }`. -/
def lambdaSample (name : String) (value : Node) : Node :=
  let node := Context.sampleNode
  let declarator := name ++ " = " ++ value.text
  node "lambda_expression" "" ("[] \x7b int " ++ declarator ++ "; \x7d")
    [node "lambda_capture_specifier" "captures" "[]" [],
      node "compound_statement" "body" ("\x7b int " ++ declarator ++ "; \x7d")
        [node "declaration" "" ("int " ++ declarator ++ ";")
          [node "primitive_type" "type" "int" [],
            node "init_declarator" "declarator" declarator
              [node "identifier" "declarator" name [], value]]]]

/-- The value `2 > 1`, or one with another operator. -/
def comparison (operator : String) : Node :=
  let node := Context.sampleNode
  node "binary_expression" "value" ("2 " ++ operator ++ " 1")
    [node "number_literal" "left" "2" [],
      { node operator "operator" operator [] with named := false },
      node "number_literal" "right" "1" []]

/-- The name `N::f<[] { int a = 2 > 1; }>`, or one with another operator. -/
def templateName (field name operator : String) : Node :=
  let node := Context.sampleNode
  let argument := lambdaSample "a" (comparison operator)
  node "qualified_identifier" field ("N::" ++ name ++ "<" ++ argument.text ++ ">")
    [node "namespace_identifier" "scope" "N" [],
      node "template_function" "name" (name ++ "<" ++ argument.text ++ ">")
        [node "identifier" "name" name [],
          node "template_argument_list" "arguments" ("<" ++ argument.text ++ ">") [argument]]]

/-- A list of arguments. -/
def argumentSample (arguments : List Node) : Node :=
  Context.sampleNode "argument_list" "arguments" "" arguments

/-- A call. -/
def callSample (function : Node) (arguments : List Node) : Node :=
  Context.sampleNode "call_expression" "" "" [function, argumentSample arguments]

/-- A statement made of an expression. -/
def statementSample (expression : Node) : Node :=
  Context.sampleNode "expression_statement" "" "" [expression]

/-- A file with a namespace `N` and a function `h`, which starts behind everything else. -/
def fileSample (declared : Node) (statements : List Node) : Node :=
  let node := Context.sampleNode
  node "translation_unit" "" ""
    [node "namespace_definition" "" ""
        [node "namespace_identifier" "name" "N" [], node "declaration_list" "body" "" [declared]],
      { node "function_definition" "" ""
          [node "primitive_type" "type" "void" [],
            Context.sampleDeclarator "h()" (node "identifier" "declarator" "h" []),
            node "compound_statement" "body" "" statements] with
        start := 100 }]

/-- The unit of a sample file. -/
def unitSample (root : Node) : TranslationUnit :=
  ofGraph "/p/a.cpp" .cpp ⟨[], [], []⟩
    { files := OrderedMap.empty.insert "/p/a.cpp" root, order := ["/p/a.cpp"] }

/-- A sample file in which a template is named.

    namespace N { template <auto F> void f(); }
    void h() { &N::f<[] { int a = 2 > 1; }>; } -/
def templateTree (operator : String) : Node :=
  let node := Context.sampleNode
  fileSample
    (node "template_declaration" "" ""
      [node "template_parameter_list" "parameters" ""
          [node "parameter_declaration" "" "auto F" []],
        node "declaration" "" "void f();"
          [node "primitive_type" "type" "void" [],
            Context.sampleDeclarator "f()" (node "identifier" "declarator" "f" [])]])
    [statementSample (node "pointer_expression" "" ""
      [{ node "&" "operator" "&" [] with named := false }, templateName "argument" "f" operator])]

/-- The unit of the file. -/
def templateUnit : TranslationUnit :=
  unitSample (templateTree "+")

/-- A sample file in which a variable gets its class from a template.

    namespace N { template <auto F> struct C { void operator()(); }; }
    void h() { auto x = N::C<[] { int a = 2 > 1; }>(); x(); } -/
def variableTree (operator : String) : Node :=
  let node := Context.sampleNode
  fileSample
    (node "template_declaration" "" ""
      [node "template_parameter_list" "parameters" ""
          [node "parameter_declaration" "" "auto F" []],
        node "struct_specifier" "" ""
          [node "type_identifier" "name" "C" [],
            node "field_declaration_list" "body" ""
              [node "field_declaration" "" "void operator()();"
                [node "primitive_type" "type" "void" [],
                  Context.sampleDeclarator "operator()()"
                    (node "operator_name" "declarator" "operator()" [])]]]])
    [node "declaration" "" ""
        [node "placeholder_type_specifier" "type" "auto" [],
          node "init_declarator" "declarator" ""
            [node "identifier" "declarator" "x" [],
              { callSample (templateName "function" "C" operator) [] with field := "value" }]],
      statementSample (callSample (node "identifier" "function" "x" []) [])]

/-- The unit of the file. -/
def variableUnit : TranslationUnit :=
  unitSample (variableTree "+")

/-- The function object `[] { int name = 1; }`. -/
def plainLambda (name : String) : Node :=
  lambdaSample name (Context.sampleNode "number_literal" "value" "1" [])

/-- A function body in which a variable is declared in a function object, and then `g` is called.

    { h([] { int name = 1; }); g(); } -/
def bodySample (name : String) : Node :=
  Context.sampleNode "compound_statement" "body" ""
    [statementSample (callSample (Context.sampleNode "identifier" "function" "h" [])
        [plainLambda name]),
      statementSample (callSample (Context.sampleNode "identifier" "function" "g" []) [])]

/-- **Around a block.**  In the search of a file every scope is, after a block or a function object,
what it was before.  The uses that the search ends with are those of the visited nodes.  If one block
or function object is put in the place of another, the nodes outside are visited in the scopes they
were visited in before, and they use what they used before, unless they stand around the place and
read something else. -/
theorem search_around_block (u : TranslationUnit) (path : String) (t : Node) :
    (∀ b place rest found, b.kind ∈ closedKinds →
        StateTransition.Reaches (Traversal.step u path) (Traversal.start t)
          ⟨(b, place) :: rest, found⟩ →
        place < found.scopes.size ∧ ∃ found',
          StateTransition.Reaches (Traversal.step u path) ⟨(b, place) :: rest, found⟩
            ⟨rest, found'⟩ ∧
          ∀ i < found.scopes.size, found'.scopes.cells[i]? = found.scopes.cells[i]?) ∧
      (⟨[], u.searchFrom path t 0 {}⟩ ∈
          StateTransition.eval (Traversal.step u path) (Traversal.start t) ∧
        (u.searchFrom path t 0 {}).uses.toList =
          (u.visitsOf path t {}).flatMap (u.usesAt path)) ∧
      ∀ b b' t', Replaced b b' t t' →
        u.AlikeOutside path b b' (u.visitsOf path t {}) (u.visitsOf path t' {}) := by
  refine ⟨?_, ?_, ?_⟩
  · intro b place rest found hb hreaches
    have hplace : place < found.scopes.size :=
      Traversal.placed_of_reaches hreaches _ List.mem_cons_self
    exact ⟨hplace, _, Traversal.reaches_searchFrom u path b place rest found, fun i hi =>
      u.cells_searchFrom_of_closed path hb hplace hi⟩
  · refine ⟨Traversal.mem_eval_searchFrom u path t, ?_⟩
    rw [uses_searchFrom, uses_searchTree_eq]
  · intro b b' t' h
    exact (alikeOutside_of_exchanged (.inr h) {}).1

/-- The sample trees differ in the function object only. -/
theorem replaced_templateTree : Replaced (lambdaSample "a" (comparison "+"))
    (lambdaSample "a" (comparison ">")) (templateTree "+") (templateTree ">") := by
  refine .around [_] [] ⟨rfl, rfl, rfl⟩ rfl rfl rfl (by decide) (by decide) ?_
  refine .around [_, _] [] ⟨rfl, rfl, rfl⟩ rfl rfl rfl (by decide) (by decide +kernel) ?_
  refine .around [] [] ⟨rfl, rfl, rfl⟩ rfl rfl rfl (by decide) (by decide) ?_
  refine .around [] [] ⟨rfl, rfl, rfl⟩ rfl rfl rfl (by decide) (by decide) ?_
  refine .around [_] [] ⟨rfl, rfl, rfl⟩ rfl rfl rfl (by decide) (by decide) ?_
  refine .around [_] [] ⟨rfl, rfl, rfl⟩ rfl rfl rfl (by decide) (by decide) ?_
  refine .around [_] [] ⟨rfl, rfl, rfl⟩ rfl rfl rfl (by decide) (by decide) ?_
  refine .around [] [] ⟨rfl, rfl, rfl⟩ rfl rfl rfl (by decide) (by decide) ?_
  exact .here (by decide) ⟨rfl, rfl, rfl⟩

/-- In the sample body the search comes to the function object, and no scope has changed when it is
done.  In the sample file the nodes outside the function object are visited alike, whichever operator
stands in it. -/
theorem search_around_block_sample :
    (∃ place rest found found',
      StateTransition.Reaches (Traversal.step templateUnit "/p/a.cpp")
        (Traversal.start (bodySample "g")) ⟨(plainLambda "g", place) :: rest, found⟩ ∧
      StateTransition.Reaches (Traversal.step templateUnit "/p/a.cpp")
        ⟨(plainLambda "g", place) :: rest, found⟩ ⟨rest, found'⟩ ∧
      ∀ i < found.scopes.size, found'.scopes.cells[i]? = found.scopes.cells[i]?) ∧
    Replaced (lambdaSample "a" (comparison "+")) (lambdaSample "a" (comparison ">"))
      (templateTree "+") (templateTree ">") ∧
    templateUnit.AlikeOutside "/p/a.cpp" (lambdaSample "a" (comparison "+"))
      (lambdaSample "a" (comparison ">")) (templateUnit.visitsOf "/p/a.cpp" (templateTree "+") {})
      (templateUnit.visitsOf "/p/a.cpp" (templateTree ">") {}) := by
  refine ⟨?_, replaced_templateTree,
    (search_around_block templateUnit "/p/a.cpp" (templateTree "+")).2.2 _ _ _
      replaced_templateTree⟩
  have hreaches : StateTransition.Reaches (Traversal.step templateUnit "/p/a.cpp")
      (Traversal.start (bodySample "g")) ⟨(plainLambda "g", _) :: _, _⟩ :=
    .head rfl (.head rfl (.head rfl (.head rfl .refl)))
  obtain ⟨-, found', hdone, hcells⟩ :=
    (search_around_block templateUnit "/p/a.cpp" (bodySample "g")).1 _ _ _ _ (by decide) hreaches
  exact ⟨_, _, _, found', hreaches, hdone, hcells⟩

/-- **What is declared among template arguments can matter outside.**  In each sample file the trees
differ in the declaration in the function object, which uses nothing in either.  The name around it is
that of `f` in one tree and of nothing in the other.  A declaration around it gives the variable the
class `C` in one tree and no class in the other, and so the call behind it uses the call operator or
nothing. -/
theorem uses_templateTree_ne :
    (∀ operator ∈ ["+", ">"], (templateUnit.searchTree "/p/a.cpp"
        (lambdaSample "a" (comparison operator)) (LocalScope.inner {})).uses = []) ∧
      (templateUnit.searchTree "/p/a.cpp" (templateTree "+") {}).uses =
        [.use .name (some 0)] ∧
      (templateUnit.searchTree "/p/a.cpp" (templateTree ">") {}).uses = [] ∧
      (variableUnit.searchTree "/p/a.cpp" (variableTree "+") {}).uses =
        [.use .memberAccess (some 0)] ∧
      (variableUnit.searchTree "/p/a.cpp" (variableTree ">") {}).uses = [] := by
  decide +kernel

end TranslationUnit

end Unreferenced
