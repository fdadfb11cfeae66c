/-
Unreferenced/Proofs/DeclaratorPlace.lean

The places of the functions that a file declares.

Every function of a file is read off a declarator that names it, and
`declaratorPlaces` lists these declarators with the nodes entered on the way to
them.  Like the way itself, the list does not depend on contexts and classes.
Reading a tree adds one function for each place, in the order of the list, and
never forgets a class (`declares_walk`).  What is read at a place is read in the
context that the nodes on the way lead to, one after the other
(`Context.Leads`).

`Visits` follows reading down to one node, with all that is known when it gets
there.
-/
import Unreferenced.Proofs.BodyTrail
import Unreferenced.Proofs.QualifiedScope

namespace Unreferenced

/-! ### Places -/

/-- A declarator of a function, and the way on which reading gets to it. -/
structure DeclaratorPlace where
  /-- The nodes entered on the way, outermost first. -/
  around : List Node
  /-- The declaration or definition. -/
  node : Node
  declarator : Node

namespace DeclaratorPlace

/-- The place seen from one node further up. -/
def under (n : Node) (p : DeclaratorPlace) : DeclaratorPlace :=
  { p with around := n :: p.around }

/-- Whether the function is defined there. -/
def isDefinition (p : DeclaratorPlace) : Bool :=
  p.node.kind == "function_definition"

end DeclaratorPlace

namespace Node

/-- The declarator of a function with a name inside a declarator. -/
def namedFunction? (declarator : Node) : Option Node :=
  declarator.definedDeclarator?.filter fun d => d.declaredFunction?.isSome

/-- The declarators of the functions that a node declares by itself. -/
def functionDeclarators (n : Node) : List Node :=
  if n.kind = "function_definition" then ((n.child? "declarator").bind namedFunction?).toList
  else if n.isOneOf ["declaration", "field_declaration"] then
    (n.childrenIn "declarator").filterMap namedFunction?
  else []

/-- The places of the functions declared in a tree, in the order in which they are read. -/
def declaratorPlaces (n : Node) : List DeclaratorPlace :=
  (n.declarationNext.attach.flatMap fun m => m.1.declaratorPlaces.map (.under n)) ++
    n.functionDeclarators.map (⟨[], n, ·⟩)
termination_by sizeOf n
decreasing_by exact sizeOf_lt_of_mem_declarationNext m.2

theorem declaratorPlaces_eq (n : Node) :
    n.declaratorPlaces =
      (n.declarationNext.flatMap declaratorPlaces).map (.under n) ++
        n.functionDeclarators.map (⟨[], n, ·⟩) := by
  rw [declaratorPlaces, List.map_flatMap,
    List.flatMap_subtype (g := fun m => m.declaratorPlaces.map (.under n)) fun _ _ => rfl,
    List.unattach_attach]

/-- A place is one of a node entered next, or one of the node itself. -/
theorem mem_declaratorPlaces {n : Node} {p : DeclaratorPlace} :
    p ∈ n.declaratorPlaces ↔
      (∃ m ∈ n.declarationNext, ∃ q ∈ m.declaratorPlaces, q.under n = p) ∨
        ∃ d ∈ n.functionDeclarators, ⟨[], n, d⟩ = p := by
  rw [declaratorPlaces_eq, List.mem_append, List.mem_map, List.mem_map]
  refine or_congr ?_ Iff.rfl
  constructor
  · rintro ⟨q, hq, hp⟩
    obtain ⟨m, hm, hq⟩ := List.mem_flatMap.1 hq
    exact ⟨m, hm, q, hq, hp⟩
  · rintro ⟨m, hm, q, hq, hp⟩
    exact ⟨q, List.mem_flatMap_of_mem hm hq, hp⟩

end Node

/-! ### Registries that grow -/

namespace Registry

/-- Every class of one registry is the class at its path in the other. -/
def Keeps (r r' : Registry) : Prop :=
  ∀ path c, r.get? path = some c → r'.get? path = some c

theorem Keeps.refl (r : Registry) : r.Keeps r := fun _ _ h => h

theorem Keeps.trans {r r' r'' : Registry} (h : r.Keeps r') (h' : r'.Keeps r'') : r.Keeps r'' :=
  fun path c hc => h' path c (h path c hc)

/-- Taking up a class changes no other one. -/
theorem keeps_declare (r : Registry) (c : ClassType) : r.Keeps (r.declare c).2 := by
  intro path d hd
  unfold declare
  split
  · exact hd
  · split
    · exact hd
    · next hnone =>
      show (r.classes.insert c.path c).get? path = some d
      rw [OrderedMap.get?_insert]
      split
      · next hpath =>
        rw [← hpath, hd] at hnone
        cases hnone
      · exact hd

end Registry

/-! ### Contexts along a way -/

namespace Context

/-- A context leads to another one over some nodes, entered one inside the other, while the registry
grows. -/
inductive Leads (file : String) : Registry → Context → List Node → Registry → Context → Prop where
  | nil {r r' : Registry} {ctx : Context} (h : r.Keeps r') : Leads file r ctx [] r' ctx
  | cons {r r' r'' : Registry} {ctx ctx' : Context} {n : Node} {nodes : List Node}
      (h : r.Keeps r') (hnext : Leads file r' (ctx.inside r' file n) nodes r'' ctx') :
      Leads file r ctx (n :: nodes) r'' ctx'

theorem Leads.of_keeps {file : String} {r₀ r r' : Registry} {ctx ctx' : Context} {nodes : List Node}
    (h : r₀.Keeps r) (hleads : Leads file r ctx nodes r' ctx') :
    Leads file r₀ ctx nodes r' ctx' := by
  cases hleads with
  | nil hr => exact .nil (h.trans hr)
  | cons hr hnext => exact .cons (h.trans hr) hnext

end Context

/-- What a declarator gives a site of: its parts and the name of a function. -/
theorem Context.site?_eq_some_iff {ctx : Context} {r : Registry} {file : String} {n d : Node}
    {isDefinition : Bool} {s : FunctionSite} :
    ctx.site? r file n d isDefinition = some s ↔
      ∃ parts name, d.declaratorParts? = some parts ∧ parts.nameNode.functionName? = some name ∧
        s = ctx.siteOf r file n isDefinition parts name := by
  rw [site?, Option.bind_eq_some_iff]
  constructor
  · rintro ⟨parts, hparts, hsite⟩
    obtain ⟨name, hname, rfl⟩ := Option.map_eq_some_iff.1 hsite
    exact ⟨parts, name, hparts, hname, rfl⟩
  · rintro ⟨parts, name, hparts, hname, rfl⟩
    exact ⟨parts, hparts, by rw [hname]; rfl⟩

/-- The site was read off the declarator at a place, on the way from a context. -/
def FunctionSite.IsReadFrom (s : FunctionSite) (file : String) (r : Registry) (ctx : Context)
    (p : DeclaratorPlace) : Prop :=
  ∃ r' ctx', ctx.Leads file r p.around r' ctx' ∧
    ctx'.site? r' file p.node p.declarator p.isDefinition = some s

namespace Survey

/-- Between two surveys the functions at some places were added, one for each and in their order, and
no class was forgotten. -/
structure Declares (file : String) (ctx : Context) (s s' : Survey) (places : List DeclaratorPlace) :
    Prop where
  keeps : s.registry.Keeps s'.registry
  functions : ∃ added, s'.contents.functions = s.contents.functions ++ added ∧
    List.Forall₂ (fun f p => FunctionSite.IsReadFrom f file s.registry ctx p) added places

variable {file : String} {ctx : Context} {s s' s'' : Survey} {places places' : List DeclaratorPlace}

theorem Declares.of_functions_eq (hr : s.registry.Keeps s'.registry)
    (h : s'.contents.functions = s.contents.functions) : Declares file ctx s s' [] :=
  ⟨hr, [], by rw [h, List.append_nil], .nil⟩

theorem Declares.trans (h : Declares file ctx s s' places)
    (h' : Declares file ctx s' s'' places') : Declares file ctx s s'' (places ++ places') := by
  obtain ⟨hkeeps, added, hadded, hread⟩ := h
  obtain ⟨hkeeps', added', hadded', hread'⟩ := h'
  refine ⟨hkeeps.trans hkeeps', added ++ added',
    by rw [hadded', hadded, List.append_assoc], List.rel_append hread (hread'.imp ?_)⟩
  rintro f p ⟨r', ctx', hleads, hsite⟩
  exact ⟨r', ctx', hleads.of_keeps hkeeps, hsite⟩

/-- What is read inside a node is read on the way over this node. -/
theorem Declares.under {n : Node} (hkeeps : s.registry.Keeps s'.registry)
    (hfunctions : s'.contents.functions = s.contents.functions)
    (h : Declares file (ctx.inside s.registry file n) s' s'' places) :
    Declares file ctx s s'' (places.map (.under n)) := by
  obtain ⟨hkeeps', added, hadded, hread⟩ := h
  refine ⟨hkeeps.trans hkeeps', added, by rw [hadded, hfunctions],
    List.forall₂_map_right_iff.2 (hread.imp ?_)⟩
  rintro f p ⟨r', ctx', hleads, hsite⟩
  exact ⟨r', ctx', .cons (.refl _) (hleads.of_keeps hkeeps), hsite⟩

/-- Several nodes one after the other. -/
theorem Declares.foldl {f : Survey → Node → Survey} {placesOf : Node → List DeclaratorPlace}
    (nodes : List Node) (h : ∀ n ∈ nodes, ∀ s, Declares file ctx s (f s n) (placesOf n))
    (s : Survey) : Declares file ctx s (nodes.foldl f s) (nodes.flatMap placesOf) := by
  induction nodes generalizing s with
  | nil => exact .of_functions_eq (.refl _) rfl
  | cons n nodes ih =>
    obtain ⟨hn, hnodes⟩ := List.forall_mem_cons.1 h
    rw [List.foldl_cons, List.flatMap_cons]
    exact (hn s).trans (ih hnodes (f s n))

/-! ### What one node declares -/

/-- A declarator adds its function if it names one. -/
theorem declares_addDeclared {n : Node} {isDefinition : Bool}
    (h : isDefinition = (n.kind == "function_definition")) (file : String) (ctx : Context) (d : Node)
    (s : Survey) :
    Declares file ctx s (addDeclared file ctx n d isDefinition s)
      (((some d).filter fun d => d.declaredFunction?.isSome).toList.map (⟨[], n, ·⟩)) := by
  have hsome : (ctx.site? s.registry file n d isDefinition).isSome = d.declaredFunction?.isSome :=
    isSome_site? ctx s.registry file n d isDefinition
  unfold addDeclared
  rw [Option.filter_some, ← hsome]
  rcases hsite : ctx.site? s.registry file n d isDefinition with - | f
  · exact .of_functions_eq (.refl _) rfl
  · rw [h] at hsite
    exact ⟨.refl _, [f], rfl, .cons ⟨s.registry, ctx, .nil (.refl _), hsite⟩ .nil⟩

theorem declares_addDefinition {n : Node} (h : n.kind = "function_definition") (file : String)
    (ctx : Context) (s : Survey) :
    Declares file ctx s (addDefinition file ctx n s)
      (n.functionDeclarators.map (⟨[], n, ·⟩)) := by
  unfold addDefinition Node.functionDeclarators
  rw [if_pos h]
  rcases n.child? "declarator" with - | declarator
  · exact .of_functions_eq (.refl _) rfl
  rw [Option.bind_some, Node.namedFunction?]
  simp only
  rcases declarator.definedDeclarator? with - | d
  · exact .of_functions_eq (.refl _) rfl
  · exact declares_addDeclared (by rw [h]; rfl) file ctx d s

theorem declares_addDeclarator {n : Node} (h : n.kind ≠ "function_definition") (file : String)
    (ctx : Context) (d : Node) (s : Survey) :
    Declares file ctx s (addDeclarator file ctx n s d)
      (d.namedFunction?.toList.map (⟨[], n, ·⟩)) := by
  unfold addDeclarator Node.namedFunction?
  rcases d.definedDeclarator? with - | f
  · -- members and variables are no functions
    show Declares file ctx s _ []
    dsimp only
    split
    · split
      · exact .of_functions_eq (.refl _) rfl
      split
      · split
        · exact .of_functions_eq (fun _ _ hc => hc) rfl
        · exact .of_functions_eq (.refl _) rfl
      · exact .of_functions_eq (.refl _) rfl
    · exact .of_functions_eq (.refl _) rfl
  · exact declares_addDeclared (beq_eq_false_iff_ne.2 h).symm file ctx f s

theorem declares_addDeclarators {n : Node} (h : n.isOneOf ["declaration", "field_declaration"] = true)
    (hfunction : n.kind ≠ "function_definition") (file : String) (ctx : Context) (s : Survey) :
    Declares file ctx s (addDeclarators file ctx n s)
      (n.functionDeclarators.map (⟨[], n, ·⟩)) := by
  have hfold := Declares.foldl (n.childrenIn "declarator")
    (fun d _ s => declares_addDeclarator hfunction file ctx d s) s
  rw [← List.map_flatMap, ← List.filterMap_eq_flatMap_toList] at hfold
  rw [Node.functionDeclarators, if_neg hfunction, if_pos h]
  exact hfold

theorem declares_addOwn (file : String) (ctx : Context) (n : Node) (s : Survey) :
    Declares file ctx s (addOwn file ctx n s) (n.functionDeclarators.map (⟨[], n, ·⟩)) := by
  unfold addOwn
  by_cases hfunction : n.kind = "function_definition"
  · rw [if_pos hfunction]
    exact declares_addDefinition hfunction file ctx s
  rw [if_neg hfunction]
  by_cases hdeclaration : n.isOneOf ["declaration", "field_declaration"]
  · rw [if_pos hdeclaration]
    exact declares_addDeclarators hdeclaration hfunction file ctx s
  rw [if_neg hdeclaration, Node.functionDeclarators, if_neg hfunction, if_neg hdeclaration]
  split
  · refine .of_functions_eq ?_ (functions_addWeakPragma n s)
    unfold addWeakPragma
    rcases n.weakPragmaName? with - | name
    · exact .refl _
    · exact .refl _
  split
  · exact .of_functions_eq (.refl _) rfl
  · exact .of_functions_eq (.refl _) rfl

theorem keeps_enter (file : String) (ctx : Context) (n : Node) (s : Survey) :
    s.registry.Keeps (enter file ctx n s).registry := by
  unfold enter
  split
  · exact s.registry.keeps_declare (ctx.classType s.registry file n)
  · exact .refl _

/-- Reading a tree adds one function for each of its places. -/
theorem declares_walk (file : String) (n : Node) (ctx : Context) (s : Survey) :
    Declares file ctx s (walk file ctx n s) n.declaratorPlaces := by
  -- on the size, as a class is reached over the declaration it stands in
  induction hsize : sizeOf n using Nat.strongRecOn generalizing n ctx s with
  | _ size ih =>
  subst hsize
  rw [walk_eq, Node.declaratorPlaces_eq]
  refine .trans ?_ (declares_addOwn file ctx n _)
  refine .under (keeps_enter file ctx n s) (functions_enter file ctx n s) ?_
  refine Declares.foldl n.declarationNext (fun m hm s' => ?_) (enter file ctx n s)
  exact ih (sizeOf m) (Node.sizeOf_lt_of_mem_declarationNext hm) m _ s' rfl

/-- The functions that reading a tree adds, each with its place. -/
def declared (file : String) (ctx : Context) (n : Node) (s : Survey) :
    List (DeclaratorPlace × FunctionSite) :=
  n.declaratorPlaces.zip ((walk file ctx n s).contents.functions.drop s.contents.functions.length)

theorem forall₂_declared (file : String) (ctx : Context) (n : Node) (s : Survey) :
    List.Forall₂ (fun p f => FunctionSite.IsReadFrom f file s.registry ctx p) n.declaratorPlaces
      ((walk file ctx n s).contents.functions.drop s.contents.functions.length) := by
  obtain ⟨-, added, hadded, hread⟩ := declares_walk file n ctx s
  rw [hadded, List.drop_left]
  exact hread.flip

theorem isReadFrom_of_mem_declared {file : String} {ctx : Context} {n : Node} {s : Survey}
    {p : DeclaratorPlace} {f : FunctionSite} (h : (p, f) ∈ declared file ctx n s) :
    f.IsReadFrom file s.registry ctx p :=
  List.forall₂_zip (forall₂_declared file ctx n s) h

/-- Every place has its function. -/
theorem exists_mem_declared {n : Node} {p : DeclaratorPlace} (hp : p ∈ n.declaratorPlaces)
    (file : String) (ctx : Context) (s : Survey) : ∃ f, (p, f) ∈ declared file ctx n s := by
  have hlength := (forall₂_declared file ctx n s).length_eq
  have hmem : p ∈ (declared file ctx n s).map Prod.fst := by
    rw [declared, List.map_fst_zip (Nat.le_of_eq hlength)]
    exact hp
  obtain ⟨⟨p, f⟩, hf, rfl⟩ := List.mem_map.1 hmem
  exact ⟨f, hf⟩

/-! ### Where reading gets to -/

/-- Reading a tree gets to a node over some nodes entered on the way: there the node is read in a
context of its own, from all that is known by then. -/
inductive Visits (file : String) :
    Context → Node → Survey → List Node → Context → Node → Survey → Prop where
  | here {ctx : Context} {n : Node} {s : Survey} : Visits file ctx n s [] ctx n s
  | inside {ctx ctx' : Context} {n m k : Node} {s s' : Survey} {front back nodes : List Node}
      (hnext : n.declarationNext = front ++ m :: back)
      (h : Visits file (ctx.inside s.registry file n) m
        (readAll file (ctx.inside s.registry file n) front (enter file ctx n s)) nodes ctx' k s') :
      Visits file ctx n s (n :: nodes) ctx' k s'

theorem readAll_append_cons (file : String) (ctx : Context) (front : List Node) (m : Node)
    (back : List Node) (s : Survey) :
    readAll file ctx (front ++ m :: back) s =
      readAll file ctx back (walk file ctx m (readAll file ctx front s)) := by
  rw [readAll, List.foldl_append, List.foldl_cons]
  rfl

theorem declares_readAll (file : String) (ctx : Context) (nodes : List Node) (s : Survey) :
    Declares file ctx s (readAll file ctx nodes s) (nodes.flatMap Node.declaratorPlaces) :=
  Declares.foldl nodes (fun n _ s => declares_walk file n ctx s) s

theorem Declares.isPrefix_functions (h : Declares file ctx s s' places) :
    s.contents.functions <+: s'.contents.functions := by
  obtain ⟨-, added, hadded, -⟩ := h
  rw [hadded]
  exact List.prefix_append _ _

/-- The contexts on the way follow from each other. -/
theorem Visits.leads {file : String} {ctx ctx' : Context} {n m : Node} {s s' : Survey}
    {nodes : List Node} (h : Visits file ctx n s nodes ctx' m s') :
    ctx.Leads file s.registry nodes s'.registry ctx' := by
  induction h with
  | here => exact .nil (.refl _)
  | @inside ctx _ n _ _ s _ front _ _ _ _ ih =>
    have hkeeps := (keeps_enter file ctx n s).trans
      (declares_readAll file (ctx.inside s.registry file n) front (enter file ctx n s)).keeps
    exact .cons (.refl _) (ih.of_keeps hkeeps)

/-- The functions that reading has added after a node are the first ones of the whole tree. -/
theorem Visits.isPrefix_functions {file : String} {ctx ctx' : Context} {n m : Node} {s s' : Survey}
    {nodes : List Node} (h : Visits file ctx n s nodes ctx' m s') :
    (walk file ctx' m s').contents.functions <+: (walk file ctx n s).contents.functions := by
  induction h with
  | here => exact List.prefix_refl _
  | @inside ctx _ n m _ s _ front back _ hnext _ ih =>
    -- what follows the node only adds functions
    rw [walk_eq file ctx n s, hnext, readAll_append_cons]
    have hback := declares_readAll file (ctx.inside s.registry file n) back
      (walk file (ctx.inside s.registry file n) m
        (readAll file (ctx.inside s.registry file n) front (enter file ctx n s)))
    exact ih.trans (hback.isPrefix_functions.trans (declares_addOwn file ctx n _).isPrefix_functions)

end Survey

end Unreferenced
