/-
Unreferenced/Proofs/BodyTrail.lean

The function definitions that the declarations of a file are read off.

Reading a file enters some nodes and passes others by, and what it makes of a
node depends on the scopes around it and on all classes met before.  Where it
goes does not: `declarationNext` gives the nodes entered from a node, whatever
the context, and reading a node is reading those (`walk_eq`).  A trail is a way
from the root through such nodes, and `bodyTrails` lists the trails to the
function definitions with a body.

The functions with a body that a file declares are those at the ends of these
trails, one for each and in the same order (`readAt_bodies`).
-/
import Mathlib.Data.List.Forall2
import Mathlib.Tactic.Tauto
import Unreferenced.TranslationUnit.Basic

namespace Unreferenced

/-! ### Trails -/

namespace Node

/-- The nodes that are entered next when declarations are read.  The bodies of functions are not
entered. -/
def declarationNext (n : Node) : List Node :=
  if n.kind = "ERROR" then n.namedChildren
  else if n.isOneOf transparentKinds then n.namedChildren
  else if n.kind = "namespace_definition" then (n.child? "body").toList
  else if n.kind = "linkage_specification" then (n.child? "body").toList
  else if n.kind = "template_declaration" then
    n.namedChildren.filter fun c => !c.isOneOf ["template_parameter_list", "requires_clause"]
  else if n.isOneOf classKinds then (n.child? "body").toList
  else if n.kind = "function_definition" then []
  else if n.isOneOf ["declaration", "field_declaration"] then
    ((n.child? "type").filter fun t => t.isOneOf classKinds).toList
  else if n.kind = "friend_declaration" then
    n.namedChildren.filter fun c => c.kind == "function_definition"
  else if n.kind = "type_definition" then
    ((n.child? "type").filter fun t => t.isOneOf classKinds).toList
  else []

/-- The ways in which a node is entered from another one, told apart by what the search for uses
makes of them. -/
inductive Enters (n m : Node) : Prop where
  | plain (hkind : n.kind ∈ ["ERROR", "translation_unit", "declaration_list", "preproc_else",
      "field_declaration_list"]) (hnamed : m ∈ n.namedChildren)
  | condition (hkind : n.kind ∈ ["preproc_if", "preproc_elif"]) (hnamed : m ∈ n.namedChildren)
  | macroCondition (hkind : n.kind ∈ ["preproc_ifdef", "preproc_elifdef"])
      (hnamed : m ∈ n.namedChildren)
  | linkage (hkind : n.kind = "linkage_specification") (hbody : n.child? "body" = some m)
  | body (hkind : n.kind ∈ "namespace_definition" :: classKinds) (hbody : n.child? "body" = some m)
  | template (hkind : n.kind = "template_declaration") (hnamed : m ∈ n.namedChildren)
      (hparameters : m.kind ≠ "template_parameter_list")
  | classType (hkind : n.kind ∈ ["declaration", "field_declaration"])
      (htype : n.child? "type" = some m) (hclass : m.kind ∈ classKinds)
  | friendFunction (hkind : n.kind = "friend_declaration") (hnamed : m ∈ n.namedChildren)
  | typedefClass (hkind : n.kind = "type_definition") (htype : n.child? "type" = some m)

theorem isOneOf_iff {n : Node} {kinds : List String} : n.isOneOf kinds = true ↔ n.kind ∈ kinds :=
  List.contains_iff_mem

theorem enters_of_mem_declarationNext {n m : Node} (h : m ∈ n.declarationNext) : n.Enters m := by
  unfold declarationNext at h
  split at h
  · next hkind => exact .plain (hkind ▸ List.mem_cons_self) h
  split at h
  · next hkind =>
    -- conditional branches hold something besides declarations, the other kinds do not
    have hcases : n.kind ∈ ["ERROR", "translation_unit", "declaration_list", "preproc_else",
        "field_declaration_list"] ∨ n.kind ∈ ["preproc_if", "preproc_elif"] ∨
        n.kind ∈ ["preproc_ifdef", "preproc_elifdef"] := by
      have hmem := isOneOf_iff.1 hkind
      simp only [transparentKinds, List.mem_cons, List.not_mem_nil, or_false] at hmem ⊢
      tauto
    rcases hcases with hkind | hkind | hkind
    · exact .plain hkind h
    · exact .condition hkind h
    · exact .macroCondition hkind h
  split at h
  · next hkind => exact .body (hkind ▸ List.mem_cons_self) (Option.mem_toList.1 h)
  split at h
  · next hkind => exact .linkage hkind (Option.mem_toList.1 h)
  split at h
  · next hkind =>
    obtain ⟨hnamed, hm⟩ := List.mem_filter.1 h
    refine .template hkind hnamed fun hparameters => ?_
    simp [isOneOf, hparameters] at hm
  split at h
  · next hkind =>
    exact .body (List.mem_cons_of_mem _ (isOneOf_iff.1 hkind)) (Option.mem_toList.1 h)
  split at h
  · cases h
  split at h
  · next hkind =>
    obtain ⟨htype, hclass⟩ := Option.filter_eq_some_iff.1 (Option.mem_toList.1 h)
    exact .classType (isOneOf_iff.1 hkind) htype (isOneOf_iff.1 hclass)
  split at h
  · next hkind => exact .friendFunction hkind (List.mem_filter.1 h).1
  split at h
  · next hkind =>
    exact .typedefClass hkind (Option.filter_eq_some_iff.1 (Option.mem_toList.1 h)).1
  · cases h

theorem Enters.mem_children {n m : Node} (h : n.Enters m) : m ∈ n.children := by
  cases h with
  | plain _ hnamed => exact mem_children_of_mem_namedChildren hnamed
  | condition _ hnamed => exact mem_children_of_mem_namedChildren hnamed
  | macroCondition _ hnamed => exact mem_children_of_mem_namedChildren hnamed
  | linkage _ hbody => exact mem_children_of_child? hbody
  | body _ hbody => exact mem_children_of_child? hbody
  | template _ hnamed _ => exact mem_children_of_mem_namedChildren hnamed
  | classType _ htype _ => exact mem_children_of_child? htype
  | friendFunction _ hnamed => exact mem_children_of_mem_namedChildren hnamed
  | typedefClass _ htype => exact mem_children_of_child? htype

theorem sizeOf_lt_of_mem_declarationNext {n m : Node} (h : m ∈ n.declarationNext) :
    sizeOf m < sizeOf n :=
  sizeOf_lt_of_mem_children (enters_of_mem_declarationNext h).mem_children

/-- The declarator of a function that a function definition names. -/
def namedDeclarator? (n : Node) : Option Node :=
  ((n.child? "declarator").bind definedDeclarator?).filter fun d =>
    (d.declaratorParts?.bind fun parts => parts.nameNode.functionName?).isSome

/-- Whether the node defines a function that has a name and a body. -/
def definesBody (n : Node) : Bool :=
  n.kind == "function_definition" && n.namedDeclarator?.isSome && (n.child? "body").isSome

/-- The trails from a node to the definitions of functions with a body. -/
def bodyTrails (n : Node) : List (List Node) :=
  if n.definesBody then [[n]]
  else n.declarationNext.attach.flatMap fun m => m.1.bodyTrails.map (n :: ·)
termination_by sizeOf n
decreasing_by exact sizeOf_lt_of_mem_declarationNext m.2

theorem bodyTrails_of_definesBody {n : Node} (h : n.definesBody = true) : n.bodyTrails = [[n]] := by
  rw [bodyTrails, if_pos h]

theorem bodyTrails_of_not_definesBody {n : Node} (h : n.definesBody = false) :
    n.bodyTrails = n.declarationNext.flatMap fun m => m.bodyTrails.map (n :: ·) := by
  rw [bodyTrails, h, if_neg Bool.false_ne_true]
  rw [List.flatMap_subtype (g := fun m => m.bodyTrails.map (n :: ·)) fun _ _ => rfl,
    List.unattach_attach]

theorem declarationNext_of_function {n : Node} (h : n.kind = "function_definition") :
    n.declarationNext = [] := by
  simp [declarationNext, isOneOf, h, transparentKinds, classKinds]

theorem bodyTrails_of_function {n : Node} (h : n.kind = "function_definition") :
    n.bodyTrails = if n.definesBody then [[n]] else [] := by
  rcases hbody : n.definesBody
  · rw [bodyTrails_of_not_definesBody hbody, declarationNext_of_function h]
    rfl
  · exact bodyTrails_of_definesBody hbody

end Node

/-- The context that the nodes entered from a node are read in. -/
def Context.inside (ctx : Context) (r : Registry) (file : String) (n : Node) : Context :=
  if n.kind = "ERROR" then ctx
  else if n.isOneOf transparentKinds then ctx.plain
  else if n.kind = "namespace_definition" then ctx.enterNamespace n
  else if n.kind = "linkage_specification" then
    ctx.enterLinkage (Text.dropAround '"' (Node.textOf (n.child? "value")) == "C")
  else if n.kind = "template_declaration" then ctx.enterTemplate n.templateParameterCount
  else if n.isOneOf classKinds then
    let c := ctx.classType r file n
    ctx.enterClass c.segments (r.declare c).1
  else if n.kind = "friend_declaration" then ctx.ofFriend
  else ctx.plain

/-- A function site that was read off a function definition.  Pragmas may have made it weak
afterwards. -/
def FunctionSite.IsReadOff (s : FunctionSite) (file : String) (n : Node) : Prop :=
  ∃ (ctx : Context) (r : Registry) (d : Node) (isWeak : Bool), n.namedDeclarator? = some d ∧
    (ctx.site? r file n d true).map (fun t => { t with isWeak := isWeak }) = some s

namespace Survey

/-- Between two surveys the functions with a body at the ends of some trails were added, in their
order. -/
def Extends (file : String) (s s' : Survey) (trails : List (List Node)) : Prop :=
  ∃ added, s'.contents.functions = s.contents.functions ++ added ∧
    List.Forall₂ (fun f trail => ∃ n ∈ List.getLast? trail, FunctionSite.IsReadOff f file n)
      (added.filter FunctionSite.body) trails

variable {file : String} {s s' s'' : Survey} {trails trails' : List (List Node)}

theorem Extends.of_functions_eq (h : s'.contents.functions = s.contents.functions) :
    Extends file s s' [] :=
  ⟨[], by rw [h, List.append_nil], .nil⟩

theorem Extends.trans (h : Extends file s s' trails) (h' : Extends file s' s'' trails') :
    Extends file s s'' (trails ++ trails') := by
  obtain ⟨added, hadded, hread⟩ := h
  obtain ⟨added', hadded', hread'⟩ := h'
  refine ⟨added ++ added', by rw [hadded', hadded, List.append_assoc], ?_⟩
  rw [List.filter_append]
  exact List.rel_append hread hread'

/-- What counts of a trail is its end. -/
theorem Extends.cons (h : Extends file s s' trails) (n : Node) :
    Extends file s s' (trails.map (n :: ·)) := by
  obtain ⟨added, hadded, hread⟩ := h
  refine ⟨added, hadded, List.forall₂_map_right_iff.2 (hread.imp ?_)⟩
  rintro f trail ⟨m, hm, hf⟩
  refine ⟨m, ?_, hf⟩
  rw [Option.mem_def] at hm
  rw [Option.mem_def, List.getLast?_cons, hm]
  rfl

/-- Several nodes one after the other. -/
theorem Extends.foldl {f : Survey → Node → Survey} {trailsOf : Node → List (List Node)}
    (nodes : List Node) (h : ∀ n ∈ nodes, ∀ s, Extends file s (f s n) (trailsOf n)) (s : Survey) :
    Extends file s (nodes.foldl f s) (nodes.flatMap trailsOf) := by
  induction nodes generalizing s with
  | nil => exact .of_functions_eq rfl
  | cons n nodes ih =>
    obtain ⟨hn, hnodes⟩ := List.forall_mem_cons.1 h
    rw [List.foldl_cons, List.flatMap_cons]
    exact (hn s).trans (ih hnodes (f s n))

/-! ### What one node adds -/

/-- A declaration adds no function with a body. -/
theorem extends_addDeclared (file : String) (ctx : Context) (n d : Node) (s : Survey) :
    Extends file s (addDeclared file ctx n d false s) [] := by
  unfold addDeclared
  rcases e : ctx.site? s.registry file n d false with - | f
  · exact .of_functions_eq rfl
  · have hbody : f.body = false := by
      obtain ⟨parts, -, hname⟩ := Option.bind_eq_some_iff.1 e
      obtain ⟨name, -, rfl⟩ := Option.map_eq_some_iff.1 hname
      rfl
    refine ⟨[f], rfl, ?_⟩
    rw [List.filter_cons_of_neg (by rw [hbody]; exact Bool.false_ne_true)]
    exact .nil

theorem extends_addDeclarator (file : String) (ctx : Context) (n : Node) (s : Survey) (d : Node) :
    Extends file s (addDeclarator file ctx n s d) [] := by
  unfold addDeclarator
  split
  · exact extends_addDeclared file ctx n _ s
  split
  · split
    · exact .of_functions_eq rfl
    split
    · split
      · exact .of_functions_eq rfl
      · exact .of_functions_eq rfl
    · exact .of_functions_eq rfl
  · exact .of_functions_eq rfl

theorem extends_addDeclarators (file : String) (ctx : Context) (n : Node) (s : Survey) :
    Extends file s (addDeclarators file ctx n s) [] := by
  have h := Extends.foldl (n.childrenIn "declarator")
    (fun d _ s => extends_addDeclarator file ctx n s d) s
  rw [List.flatMap_eq_nil_iff.2 fun _ _ => rfl] at h
  exact h

/-- Whether a declarator gives a site does not depend on the context. -/
theorem isSome_site? (ctx : Context) (r : Registry) (file : String) (n d : Node) (b : Bool) :
    (ctx.site? r file n d b).isSome =
      (d.declaratorParts?.bind fun parts => parts.nameNode.functionName?).isSome := by
  unfold Context.site?
  rcases d.declaratorParts? with - | parts
  · rfl
  · exact Option.isSome_map

/-- A function definition adds its function. -/
theorem extends_addDefinition {n : Node} (h : n.kind = "function_definition") (file : String)
    (ctx : Context) (s : Survey) : Extends file s (addDefinition file ctx n s) n.bodyTrails := by
  -- without a named declarator there is neither a site nor a trail
  have hnone : n.namedDeclarator? = none → n.bodyTrails = [] := by
    intro hnone
    rw [Node.bodyTrails_of_function h, Node.definesBody, hnone]
    simp
  unfold addDefinition
  rcases hchild : n.child? "declarator" with - | declarator
  · rw [hnone (by rw [Node.namedDeclarator?, hchild]; rfl)]
    exact .of_functions_eq rfl
  simp only
  rcases hdefined : declarator.definedDeclarator? with - | d
  · rw [hnone (by rw [Node.namedDeclarator?, hchild, Option.bind_some, hdefined]; rfl)]
    exact .of_functions_eq rfl
  have hnamed : n.namedDeclarator? =
      (some d).filter fun d => (ctx.site? s.registry file n d true).isSome := by
    simp only [Node.namedDeclarator?, isSome_site?, hchild, Option.bind_some, hdefined]
  simp only [addDeclared]
  rcases hsite : ctx.site? s.registry file n d true with - | f
  · rw [hnone (by rw [hnamed, Option.filter_some, hsite]; rfl)]
    exact .of_functions_eq rfl
  rw [Option.filter_some, hsite, Option.isSome_some, if_pos rfl] at hnamed
  -- now there is a site, and it has a body just if the node does
  have hbody : f.body = n.definesBody := by
    obtain ⟨parts, -, hname⟩ := Option.bind_eq_some_iff.1 hsite
    obtain ⟨name, -, rfl⟩ := Option.map_eq_some_iff.1 hname
    rw [Node.definesBody, h, hnamed]
    rfl
  refine ⟨[f], rfl, ?_⟩
  rw [List.filter_singleton, hbody, Node.bodyTrails_of_function h]
  rcases n.definesBody
  · exact .nil
  · refine .cons ⟨n, rfl, ctx, s.registry, d, f.isWeak, hnamed, ?_⟩ .nil
    rw [hsite]
    rfl

/-! ### What a tree adds -/

theorem walkAll_eq_foldl (file : String) (ctx : Context) (nodes : List Node) (s : Survey) :
    walkAll file ctx nodes s = nodes.foldl (fun s n => walk file ctx n s) s := by
  induction nodes generalizing s with
  | nil => rw [walkAll, List.foldl_nil]
  | cons n nodes ih => rw [walkAll, List.foldl_cons, ih]

theorem walk_of_function {n : Node} (h : n.kind = "function_definition") (file : String)
    (ctx : Context) (s : Survey) : walk file ctx n s = addDefinition file ctx n s := by
  rw [walk]
  simp [Node.isOneOf, h, transparentKinds, classKinds]

theorem walk_of_class {n : Node} (h : n.isOneOf classKinds = true) (file : String) (ctx : Context)
    (s : Survey) : walk file ctx n s = walkClass file ctx n s := by
  have hkinds : n.kind = "class_specifier" ∨ n.kind = "struct_specifier" ∨
      n.kind = "union_specifier" := by
    simpa [Node.isOneOf, classKinds] using h
  rw [walk]
  rcases hkinds with hkind | hkind | hkind
  · simp [Node.isOneOf, hkind, transparentKinds, classKinds]
  · simp [Node.isOneOf, hkind, transparentKinds, classKinds]
  · simp [Node.isOneOf, hkind, transparentKinds, classKinds]

/-- Read the nodes of a list in one context. -/
def readAll (file : String) (ctx : Context) (nodes : List Node) (s : Survey) : Survey :=
  nodes.foldl (fun s n => walk file ctx n s) s

theorem readAll_toList (file : String) (ctx : Context) (n : Option Node) (s : Survey) :
    readAll file ctx n.toList s = n.elim s fun m => walk file ctx m s := by
  rcases n with - | m
  · rfl
  · rfl

/-- The class that a declaration specifies is read, and nothing else of its type. -/
theorem readAll_type (file : String) (ctx : Context) (type : Option Node) (s : Survey) :
    readAll file ctx (type.filter fun t => t.isOneOf classKinds).toList s =
      type.elim s fun t => if t.isOneOf classKinds then walkClass file ctx t s else s := by
  rw [readAll_toList]
  rcases type with - | t
  · rfl
  rw [Option.filter_some]
  by_cases ht : t.isOneOf classKinds
  · rw [if_pos ht, Option.elim_some, Option.elim_some, if_pos ht, walk_of_class ht]
  · rw [if_neg ht, Option.elim_some, if_neg ht]
    rfl

theorem addFriends_eq (file : String) (ctx : Context) (n : Node) (s : Survey) :
    addFriends file ctx n s = readAll file ctx.ofFriend
      (n.namedChildren.filter fun c => c.kind == "function_definition") s := by
  refine List.foldl_ext _ _ s fun s c hc => ?_
  have hfunction := beq_iff_eq.1 (List.mem_filter.1 hc).2
  exact (walk_of_function hfunction file ctx.ofFriend s).symm

/-- What is known when the nodes entered from a node are read: a class with a body is taken up
before. -/
def enter (file : String) (ctx : Context) (n : Node) (s : Survey) : Survey :=
  if n.isOneOf classKinds && (n.child? "body").isSome then (addClass file ctx n s).2 else s

/-- Add what a node declares by itself, after the nodes entered from it. -/
def addOwn (file : String) (ctx : Context) (n : Node) (s : Survey) : Survey :=
  if n.kind = "function_definition" then addDefinition file ctx n s
  else if n.isOneOf ["declaration", "field_declaration"] then addDeclarators file ctx n s
  else if n.kind = "preproc_call" then addWeakPragma n s
  else if n.isOneOf ["preproc_def", "preproc_function_def"] then addMacro n s
  else s

theorem enter_of_not_class {n : Node} (h : ¬n.isOneOf classKinds = true) (file : String)
    (ctx : Context) (s : Survey) : enter file ctx n s = s := by
  simp [enter, h]

/-- Only some kinds of node declare something by themselves. -/
theorem addOwn_eq_self {n : Node} (h : n.kind ∉ ["function_definition", "declaration",
    "field_declaration", "preproc_call", "preproc_def", "preproc_function_def"]) (file : String)
    (ctx : Context) (s : Survey) : addOwn file ctx n s = s := by
  simp only [List.mem_cons, List.not_mem_nil, or_false, not_or] at h
  simp [addOwn, Node.isOneOf, h]

theorem walkClass_eq {n : Node} (h : n.isOneOf classKinds = true) (file : String) (ctx : Context)
    (s : Survey) :
    walkClass file ctx n s =
      readAll file (addClass file ctx n s).1 (n.child? "body").toList (enter file ctx n s) := by
  rw [walkClass, enter, h]
  split
  · next body hchild =>
    rw [hchild]
    rfl
  · next hchild =>
    rw [hchild]
    rfl

/-- Reading a node is taking it up, reading the nodes entered from it in the context inside it, and
adding what it declares by itself. -/
theorem walk_eq (file : String) (ctx : Context) (n : Node) (s : Survey) :
    walk file ctx n s = addOwn file ctx n
      (readAll file (ctx.inside s.registry file n) n.declarationNext (enter file ctx n s)) := by
  rw [walk, Node.declarationNext, Context.inside]
  -- both sides ask for the kinds of node in one order
  by_cases herror : n.kind = "ERROR"
  · simp only [if_pos herror]
    rw [addOwn_eq_self (by simp [herror]),
      enter_of_not_class (by simp [Node.isOneOf, herror, classKinds]), walkAll_eq_foldl]
    rfl
  simp only [if_neg herror]
  by_cases htransparent : n.isOneOf transparentKinds
  · simp only [if_pos htransparent]
    have hmem := Node.isOneOf_iff.1 htransparent
    have hdisjoint : ∀ k ∈ transparentKinds, k ∉ ["function_definition", "declaration",
        "field_declaration", "preproc_call", "preproc_def", "preproc_function_def"] ∧
        k ∉ classKinds := by decide
    rw [addOwn_eq_self (hdisjoint _ hmem).1, enter_of_not_class fun hclass =>
      (hdisjoint _ hmem).2 (Node.isOneOf_iff.1 hclass), walkAll_eq_foldl]
    rfl
  simp only [if_neg htransparent]
  by_cases hnamespace : n.kind = "namespace_definition"
  · simp only [if_pos hnamespace]
    rw [addOwn_eq_self (by simp [hnamespace]),
      enter_of_not_class (by simp [Node.isOneOf, hnamespace, classKinds]), readAll_toList]
    split
    · next body hchild => rw [hchild]; rfl
    · next hchild => rw [hchild]; rfl
  simp only [if_neg hnamespace]
  by_cases hlinkage : n.kind = "linkage_specification"
  · simp only [if_pos hlinkage]
    rw [addOwn_eq_self (by simp [hlinkage]),
      enter_of_not_class (by simp [Node.isOneOf, hlinkage, classKinds]), readAll_toList]
    split
    · next body hchild => rw [hchild]; rfl
    · next hchild => rw [hchild]; rfl
  simp only [if_neg hlinkage]
  by_cases htemplate : n.kind = "template_declaration"
  · simp only [if_pos htemplate]
    rw [addOwn_eq_self (by simp [htemplate]),
      enter_of_not_class (by simp [Node.isOneOf, htemplate, classKinds]), walkAll_eq_foldl]
    rfl
  simp only [if_neg htemplate]
  by_cases hclass : n.isOneOf classKinds
  · simp only [if_pos hclass]
    have hdisjoint : ∀ k ∈ classKinds, k ∉ ["function_definition", "declaration",
        "field_declaration", "preproc_call", "preproc_def", "preproc_function_def"] := by decide
    rw [addOwn_eq_self (hdisjoint _ (Node.isOneOf_iff.1 hclass)), walkClass_eq hclass]
    rfl
  simp only [if_neg hclass]
  rw [enter_of_not_class hclass]
  by_cases hfunction : n.kind = "function_definition"
  · simp only [if_pos hfunction]
    rw [addOwn, if_pos hfunction]
    rfl
  simp only [if_neg hfunction]
  by_cases hdeclaration : n.isOneOf ["declaration", "field_declaration"]
  · have hfriend : n.kind ≠ "friend_declaration" := by
      intro hkind
      simp [Node.isOneOf, hkind] at hdeclaration
    simp only [if_pos hdeclaration, if_neg hfriend]
    rw [addOwn, if_neg hfunction, if_pos hdeclaration, readAll_type]
    split
    · next type hchild => rw [hchild]; rfl
    · next hchild => rw [hchild]; rfl
  simp only [if_neg hdeclaration]
  by_cases hfriend : n.kind = "friend_declaration"
  · simp only [if_pos hfriend]
    rw [addOwn_eq_self (by simp [hfriend]), addFriends_eq]
  simp only [if_neg hfriend]
  by_cases htypedef : n.kind = "type_definition"
  · simp only [if_pos htypedef]
    rw [addOwn_eq_self (by simp [htypedef]), readAll_type]
    split
    · next type hchild => rw [hchild]; rfl
    · next hchild => rw [hchild]; rfl
  simp only [if_neg htypedef]
  rw [addOwn, if_neg hfunction, if_neg hdeclaration]
  rfl

theorem functions_addWeakPragma (n : Node) (s : Survey) :
    (addWeakPragma n s).contents.functions = s.contents.functions := by
  unfold addWeakPragma
  rcases n.weakPragmaName? with - | name
  · rfl
  · rfl

theorem functions_enter (file : String) (ctx : Context) (n : Node) (s : Survey) :
    (enter file ctx n s).contents.functions = s.contents.functions := by
  unfold enter
  split
  · rfl
  · rfl

/-- Only function definitions add functions with a body. -/
theorem extends_addOwn {n : Node} (hfunction : n.kind ≠ "function_definition") (file : String)
    (ctx : Context) (s : Survey) : Extends file s (addOwn file ctx n s) [] := by
  rw [addOwn, if_neg hfunction]
  split
  · exact extends_addDeclarators file ctx n s
  split
  · exact .of_functions_eq (functions_addWeakPragma n s)
  split
  · exact .of_functions_eq rfl
  · exact .of_functions_eq rfl

/-- The functions with a body that reading a tree adds are those at the ends of its trails. -/
theorem extends_walk (file : String) (n : Node) (ctx : Context) (s : Survey) :
    Extends file s (walk file ctx n s) n.bodyTrails := by
  -- on the size, as a class is reached over the declaration it stands in
  induction hsize : sizeOf n using Nat.strongRecOn generalizing n ctx s with
  | _ size ih =>
  subst hsize
  by_cases hfunction : n.kind = "function_definition"
  · rw [walk_of_function hfunction]
    exact extends_addDefinition hfunction file ctx s
  have hdefines : n.definesBody = false := by
    simp [Node.definesBody, hfunction]
  rw [Node.bodyTrails_of_not_definesBody hdefines, ← List.map_flatMap]
  have hbefore : Extends file s (enter file ctx n s) [] :=
    .of_functions_eq (functions_enter file ctx n s)
  have hnext : Extends file (enter file ctx n s)
      (readAll file (ctx.inside s.registry file n) n.declarationNext (enter file ctx n s))
      (n.declarationNext.flatMap Node.bodyTrails) := by
    refine Extends.foldl n.declarationNext (fun m hm s' => ?_) (enter file ctx n s)
    exact ih (sizeOf m) (Node.sizeOf_lt_of_mem_declarationNext hm) m _ s' rfl
  have hwhole := (hbefore.trans hnext).trans (extends_addOwn hfunction file ctx _)
  rw [List.nil_append, List.append_nil, ← walk_eq] at hwhole
  exact hwhole.cons n

end Survey

/-! ### The bodies of a translation unit -/

/-- A place in a translation unit: a file and a trail through its tree. -/
structure TreePlace where
  path : String
  trail : List Node

/-- The function site was read off the function definition at a place. -/
def FunctionSite.IsReadAt (s : FunctionSite) (p : TreePlace) : Prop :=
  ∃ n ∈ p.trail.getLast?, s.IsReadOff p.path n

theorem FunctionSite.IsReadOff.withPragmas {s : FunctionSite} {file : String} {n : Node}
    (h : s.IsReadOff file n) (contents : List FileContents) :
    (TranslationUnit.withPragmas contents s).IsReadOff file n := by
  unfold TranslationUnit.withPragmas
  split
  · obtain ⟨ctx, r, d, isWeak, hd, hs⟩ := h
    obtain ⟨t, ht, rfl⟩ := Option.map_eq_some_iff.1 hs
    exact ⟨ctx, r, d, true, hd, by rw [ht]; rfl⟩
  · exact h

namespace IncludeGraph

/-- The places of the functions with a body in a file. -/
def bodiesIn (graph : IncludeGraph) (path : String) : List TreePlace :=
  match graph.files.get? path with
  | some root => root.bodyTrails.map (⟨path, ·⟩)
  | none => []

/-- The places of the functions with a body, in include order. -/
def bodies (graph : IncludeGraph) : List TreePlace :=
  graph.order.flatMap graph.bodiesIn

end IncludeGraph

namespace TranslationUnit

/-- Reading a file adds what it contains, with the functions with a body from their places. -/
theorem readFile_contents (language : Language) (graph : IncludeGraph) (r : Reading)
    (path : String) :
    ∃ added, (readFile language graph r path).contents = r.contents ++ added ∧
      List.Forall₂ FunctionSite.IsReadAt
        ((added.flatMap FileContents.functions).filter FunctionSite.body) (graph.bodiesIn path) := by
  unfold readFile IncludeGraph.bodiesIn
  rcases graph.files.get? path with - | root
  · exact ⟨[], (List.append_nil _).symm, .nil⟩
  obtain ⟨added, hadded, hread⟩ :=
    Survey.extends_walk path root { cLinkage := language = .c } { registry := r.registry }
  refine ⟨[(FileContents.read language r.registry path root).contents], rfl, ?_⟩
  have hfunctions : (FileContents.read language r.registry path root).contents.functions = added :=
    hadded
  rw [List.flatMap_singleton, hfunctions]
  exact List.forall₂_map_right_iff.2 hread

/-- The files of a unit add the functions with a body from the places of all of them. -/
theorem readFiles_contents (language : Language) (graph : IncludeGraph) :
    List.Forall₂ FunctionSite.IsReadAt
      (((readFiles language graph).contents.flatMap FileContents.functions).filter
        FunctionSite.body) graph.bodies := by
  have hrun : ∀ (paths : List String) (r : Reading), ∃ added,
      (paths.foldl (readFile language graph) r).contents = r.contents ++ added ∧
        List.Forall₂ FunctionSite.IsReadAt
          ((added.flatMap FileContents.functions).filter FunctionSite.body)
          (paths.flatMap graph.bodiesIn) := by
    intro paths
    induction paths with
    | nil => exact fun r => ⟨[], (List.append_nil _).symm, .nil⟩
    | cons path paths ih =>
      intro r
      obtain ⟨added, hadded, hread⟩ := readFile_contents language graph r path
      obtain ⟨later, hlater, hrest⟩ := ih (readFile language graph r path)
      refine ⟨added ++ later, by rw [List.foldl_cons, hlater, hadded, List.append_assoc], ?_⟩
      rw [List.flatMap_append, List.filter_append, List.flatMap_cons]
      exact List.rel_append hread hrest
  obtain ⟨added, hadded, hread⟩ := hrun graph.order {}
  have hcontents : (readFiles language graph).contents = added := hadded
  rw [hcontents]
  exact hread

/-- The functions of a unit that have a body were read off the places of its bodies, one off each
place and in order. -/
theorem readAt_bodies (main : String) (language : Language) (search : SearchPath)
    (graph : IncludeGraph) :
    List.Forall₂ FunctionSite.IsReadAt
      ((ofGraph main language search graph).functions.filter FunctionSite.body) graph.bodies := by
  -- pragmas make functions weak and take no body away
  have hbody : ∀ contents,
      FunctionSite.body ∘ withPragmas contents = FunctionSite.body := by
    intro contents
    funext s
    unfold withPragmas
    rw [Function.comp_apply]
    split
    · rfl
    · rfl
  show List.Forall₂ FunctionSite.IsReadAt ((sitesOf _).filter FunctionSite.body) graph.bodies
  rw [sitesOf, List.filter_map, hbody, List.forall₂_map_left_iff]
  refine (readFiles_contents language graph).imp ?_
  rintro s p ⟨n, hn, hs⟩
  exact ⟨n, hn, hs.withPragmas _⟩

end TranslationUnit

end Unreferenced
