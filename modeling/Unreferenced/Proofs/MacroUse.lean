/-
Unreferenced/Proofs/MacroUse.lean

Which macros use functions.

The identifiers in the values of macros are gathered while declarations are read,
and the search for uses passes macros by.  So it is the reading of declarations
that decides which macros count: those that it gets to, over the nodes entered
one from the other (`mem_macroNames_walk`).  It enters no body of a function.

A function is used by a macro exactly if its name is among the identifiers of such
a macro in one of the files (`mem_macroUses_iff`).  What only a macro inside a
function names is not used by it.
-/
import Mathlib.Logic.Relation
import Unreferenced.Proofs.BodySearch
import Unreferenced.Proofs.NameLookup
import Unreferenced.Proofs.Observation
import Unreferenced.Proofs.Redeclaration

namespace Unreferenced

namespace Node

/-! ### Macros that are read -/

/-- A node is read under another one: the reading of declarations gets from this one to it. -/
def ReadUnder (m n : Node) : Prop :=
  Relation.ReflTransGen (fun a b => b ∈ a.declarationNext) n m

/-- The node defines a macro. -/
def definesMacro (n : Node) : Bool :=
  n.isOneOf ["preproc_def", "preproc_function_def"]

/-- A macro that is read under the node has the name in its value. -/
def HasMacroName (n : Node) (name : String) : Prop :=
  ∃ m : Node, m.ReadUnder n ∧ m.definesMacro = true ∧ name ∈ m.macroValueNames

variable {n m : Node} {name : String}

theorem hasMacroName_iff :
    n.HasMacroName name ↔ n.definesMacro = true ∧ name ∈ n.macroValueNames ∨
      ∃ m ∈ n.declarationNext, m.HasMacroName name := by
  constructor
  · rintro ⟨m, hread, hdirective, hname⟩
    rcases Relation.ReflTransGen.cases_head hread with rfl | ⟨next, hnext, hread⟩
    · exact .inl ⟨hdirective, hname⟩
    · exact .inr ⟨next, hnext, m, hread, hdirective, hname⟩
  · rintro (⟨hdirective, hname⟩ | ⟨next, hnext, m, hread, hdirective, hname⟩)
    · exact ⟨n, .refl, hdirective, hname⟩
    · exact ⟨m, .head hnext hread, hdirective, hname⟩

/-- Nothing inside a function definition is read. -/
theorem ReadUnder.eq_of_function (h : m.ReadUnder n) (hn : n.kind = "function_definition") :
    m = n := by
  rcases Relation.ReflTransGen.cases_head h with rfl | ⟨next, hnext, -⟩
  · rfl
  · rw [declarationNext_of_function hn] at hnext
    cases hnext

end Node

namespace Survey

variable {name : String}

/-! ### What reading adds -/

theorem macroNames_enter (file : String) (ctx : Context) (n : Node) (s : Survey) :
    (enter file ctx n s).contents.macroNames = s.contents.macroNames := by
  unfold enter
  split
  · rfl
  · rfl

theorem macroNames_addDeclared (file : String) (ctx : Context) (n d : Node) (b : Bool)
    (s : Survey) : (addDeclared file ctx n d b s).contents.macroNames = s.contents.macroNames := by
  unfold addDeclared
  split
  · rfl
  · rfl

theorem macroNames_addDefinition (file : String) (ctx : Context) (n : Node) (s : Survey) :
    (addDefinition file ctx n s).contents.macroNames = s.contents.macroNames := by
  unfold addDefinition
  split
  · rfl
  split
  · exact macroNames_addDeclared file ctx n _ true s
  · rfl

theorem macroNames_addDeclarators (file : String) (ctx : Context) (n : Node) (s : Survey) :
    (addDeclarators file ctx n s).contents.macroNames = s.contents.macroNames := by
  have hone : ∀ (s : Survey) (d : Node),
      (addDeclarator file ctx n s d).contents.macroNames = s.contents.macroNames := by
    intro s d
    unfold addDeclarator
    split
    · exact macroNames_addDeclared file ctx n _ false s
    split
    · split
      · rfl
      split
      · split
        · rfl
        · rfl
      · rfl
    · rfl
  unfold addDeclarators
  induction n.childrenIn "declarator" generalizing s with
  | nil => rfl
  | cons d rest ih => rw [List.foldl_cons, ih, hone]

theorem macroNames_addWeakPragma (n : Node) (s : Survey) :
    (addWeakPragma n s).contents.macroNames = s.contents.macroNames := by
  unfold addWeakPragma
  split
  · rfl
  · rfl

/-- By itself a node adds the identifiers in its value if it defines a macro. -/
theorem mem_macroNames_addOwn {file : String} {ctx : Context} {n : Node} {s : Survey} :
    name ∈ (addOwn file ctx n s).contents.macroNames ↔
      name ∈ s.contents.macroNames ∨ n.definesMacro = true ∧ name ∈ n.macroValueNames := by
  unfold addOwn
  -- the kinds of node that add something else define no macro
  split
  · next hkind =>
    have hdirective : n.definesMacro = false := by simp [Node.definesMacro, Node.isOneOf, hkind]
    simp [macroNames_addDefinition, hdirective]
  split
  · next hkind =>
    have hdirective : n.definesMacro = false := by
      have hkinds : n.kind = "declaration" ∨ n.kind = "field_declaration" := by
        simpa [Node.isOneOf] using hkind
      rcases hkinds with hkind | hkind
      · simp [Node.definesMacro, Node.isOneOf, hkind]
      · simp [Node.definesMacro, Node.isOneOf, hkind]
    simp [macroNames_addDeclarators, hdirective]
  split
  · next hkind =>
    have hdirective : n.definesMacro = false := by simp [Node.definesMacro, Node.isOneOf, hkind]
    simp [macroNames_addWeakPragma, hdirective]
  split
  · next hdirective =>
    have hdefines : n.definesMacro = true := hdirective
    rw [addMacro, OrderedSet.mem_foldl_insert, hdefines]
    simp
  · next hdirective =>
    have hdefines : ¬n.definesMacro = true := hdirective
    simp [hdefines]

/-- Reading a tree adds the identifiers of the macros that are read in it. -/
theorem mem_macroNames_walk {file : String} {ctx : Context} {n : Node} {s : Survey} :
    name ∈ (walk file ctx n s).contents.macroNames ↔
      name ∈ s.contents.macroNames ∨ n.HasMacroName name := by
  -- on the size, as in `extends_walk`
  induction hsize : sizeOf n using Nat.strongRecOn generalizing n ctx s with
  | _ size ih =>
  subst hsize
  have hall : ∀ (nodes : List Node), (∀ m ∈ nodes, m ∈ n.declarationNext) →
      ∀ (inner : Context) (s : Survey),
        name ∈ (readAll file inner nodes s).contents.macroNames ↔
          name ∈ s.contents.macroNames ∨ ∃ m ∈ nodes, m.HasMacroName name := by
    intro nodes
    induction nodes with
    | nil =>
      intro _ inner s
      simp [readAll]
    | cons m nodes ihnodes =>
      intro hnodes inner s
      obtain ⟨hm, hnodes⟩ := List.forall_mem_cons.1 hnodes
      have hrest := ihnodes hnodes inner (walk file inner m s)
      have hfirst : name ∈ (walk file inner m s).contents.macroNames ↔
          name ∈ s.contents.macroNames ∨ m.HasMacroName name :=
        ih (sizeOf m) (Node.sizeOf_lt_of_mem_declarationNext hm) rfl
      rw [readAll, List.foldl_cons]
      rw [readAll] at hrest
      rw [hrest, hfirst, or_assoc, List.exists_mem_cons_iff]
  rw [walk_eq, mem_macroNames_addOwn, hall _ (fun m hm => hm), macroNames_enter, or_assoc,
    Node.hasMacroName_iff, or_comm (a := _ ∧ _)]

end Survey

namespace Facts

variable {δ : Type} {view : View δ} {files : UnitFiles}

/-! ### What events use -/

/-- The event makes a function used. -/
def Sees (view : View δ) (files : UnitFiles) (e : Event δ) (f : δ) : Prop :=
  ∃ r ∈ reported view files e, ∃ d, sighted? view files r = some ⟨.uses, d⟩ ∧ view.canonical d = f

/-- A use of a declaration makes its function used unless it stands in a system header. -/
theorem sees_use_iff {kind : UseKind} {d f : δ} :
    Sees view files (.use kind (some d)) f ↔
      files.isSystem (view d).location.file = false ∧ view.canonical d = f := by
  unfold Sees
  simp only [reported, List.mem_singleton, exists_eq_left, sighted?]
  rcases files.isSystem (view d).location.file
  · simp
  · simp

variable [DecidableEq δ]

theorem mem_uses_observe (h : view.Coherent) {events : List (Event δ)} {f : δ} :
    f ∈ (observe view files .empty events).facts.uses ↔ ∃ e ∈ events, Sees view files e f := by
  unfold observe
  rw [(observeAll_spec files h _ _).2, mem_uses_foldl_record]
  have hempty : ¬f ∈ (empty : Facts δ).uses := OrderedSet.not_mem_empty f
  rw [or_iff_right hempty]
  constructor
  · rintro ⟨⟨role, d⟩, hs, rfl, hd⟩
    obtain ⟨r, hr, hsighted⟩ := List.mem_filterMap.1 hs
    obtain ⟨e, he, hre⟩ := List.mem_flatMap.1 hr
    exact ⟨e, he, r, hre, d, hsighted, hd⟩
  · rintro ⟨e, he, r, hre, d, hsighted, hd⟩
    exact ⟨⟨.uses, d⟩, List.mem_filterMap.2 ⟨r, List.mem_flatMap.2 ⟨e, he, hre⟩, hsighted⟩, rfl, hd⟩

end Facts

namespace TranslationUnit

/-! ### Macros in the files of a unit -/

theorem mem_macroNames_foldl {contents : List FileContents} {known : OrderedSet String}
    {name : String} :
    name ∈ contents.foldl (fun s c => c.macroNames.toList.foldl OrderedSet.insert s) known ↔
      name ∈ known ∨ ∃ c ∈ contents, name ∈ c.macroNames := by
  induction contents generalizing known with
  | nil => simp
  | cons c contents ih =>
    rw [List.foldl_cons, ih, OrderedSet.mem_foldl_insert, ← OrderedSet.mem_iff,
      List.exists_mem_cons_iff, or_assoc]

theorem exists_mem_readFiles_iff {language : Language} {graph : IncludeGraph} {name : String} :
    (∃ c ∈ (readFiles language graph).contents, name ∈ c.macroNames) ↔
      ∃ path ∈ graph.order, ∃ root ∈ graph.files.get? path, root.HasMacroName name := by
  -- file by file: what one of them adds does not depend on the classes known before
  have hone : ∀ (r : Reading) (path : String),
      (∃ c ∈ (readFile language graph r path).contents, name ∈ c.macroNames) ↔
        (∃ c ∈ r.contents, name ∈ c.macroNames) ∨
          ∃ root ∈ graph.files.get? path, root.HasMacroName name := by
    intro r path
    unfold readFile
    rcases graph.files.get? path with - | root
    · simp
    · have hread : name ∈ (FileContents.read language r.registry path root).contents.macroNames ↔
          name ∈ (OrderedSet.empty : OrderedSet String) ∨ root.HasMacroName name :=
        Survey.mem_macroNames_walk
      rw [or_iff_right (OrderedSet.not_mem_empty name)] at hread
      simp [or_and_right, exists_or, hread]
  have hrun : ∀ (paths : List String) (r : Reading),
      (∃ c ∈ (paths.foldl (readFile language graph) r).contents, name ∈ c.macroNames) ↔
        (∃ c ∈ r.contents, name ∈ c.macroNames) ∨
          ∃ path ∈ paths, ∃ root ∈ graph.files.get? path, root.HasMacroName name := by
    intro paths
    induction paths with
    | nil =>
      intro r
      simp
    | cons path paths ih =>
      intro r
      rw [List.foldl_cons, ih, hone, or_assoc, List.exists_mem_cons_iff]
  rw [readFiles, hrun]
  simp

variable {main : String} {language : Language} {search : SearchPath} {graph : IncludeGraph}

/-- The identifiers in macros are those of the macros that are read in the files. -/
theorem mem_macroNames_iff {name : String} :
    name ∈ (ofGraph main language search graph).macroNames ↔
      ∃ path ∈ graph.order, ∃ root ∈ graph.files.get? path, root.HasMacroName name := by
  show name ∈ (readFiles language graph).contents.foldl _ _ ↔ _
  rw [mem_macroNames_foldl, exists_mem_readFiles_iff]
  simp

theorem mem_lookupAny {u : TranslationUnit} {name : String} {c : Chain} :
    c ∈ u.lookupAny name ↔ c ∈ u.chains ∧ c.name = name := by
  rw [lookupAny, List.mem_append, mem_freeFunctions, mem_methodsNamed]
  tauto

/-- Macros use the functions that their identifiers name. -/
theorem mem_macroUses_iff {u : TranslationUnit} {e : Event Nat} :
    e ∈ u.macroUses ↔
      ∃ c ∈ u.chains, c.name ∈ u.macroNames ∧ e = .use .name (some c.canonical.index) := by
  unfold macroUses sortedMacroNames usesOf
  simp only [List.mem_flatMap, List.mem_mergeSort, ← OrderedSet.mem_iff, List.mem_map,
    mem_lookupAny]
  constructor
  · rintro ⟨name, hname, c, ⟨hc, rfl⟩, rfl⟩
    exact ⟨c, hc, hname, rfl⟩
  · rintro ⟨c, hc, hname, rfl⟩
    exact ⟨c.name, hname, c, ⟨hc, rfl⟩, rfl⟩

/-- Functions with one canonical declaration are one function. -/
theorem Chained.eq_of_index {u : TranslationUnit} (hu : u.Chained) {c d : Chain} (hc : c ∈ u.chains)
    (hd : d ∈ u.chains) (h : c.canonical.index = d.canonical.index) : c = d := by
  have hnumber := Member.getElem?_number_index (hu.mem_number hc List.mem_cons_self)
  have hnumber' := Member.getElem?_number_index (hu.mem_number hd List.mem_cons_self)
  rw [h, hnumber'] at hnumber
  have hmember : c.canonical ∈ d.members := by
    rw [← Option.some.inj hnumber]
    exact List.mem_cons_self
  exact hu.eq_of_mem_members hc hd List.mem_cons_self hmember

/-- The tree of a sample file.

    void g() {}
    void h() {}
    #define G g()
    void f() {
    #define H h()
    } -/
def macroTree : Node :=
  let node := Context.sampleNode
  let function (name : String) (statements : List Node) : Node :=
    node "function_definition" "" ""
      [node "primitive_type" "type" "void" [],
        Context.sampleDeclarator (name ++ "()") (node "identifier" "declarator" name []),
        node "compound_statement" "body" "" statements]
  let define (name value : String) : Node :=
    node "preproc_def" "" ""
      [node "identifier" "name" name [], node "preproc_arg" "value" value []]
  node "translation_unit" "" ""
    [function "g" [], function "h" [], define "G" "g()", function "f" [define "H" "h()"]]

/-- The include graph of the sample file. -/
def macroGraph : IncludeGraph where
  files := OrderedMap.empty.insert "/p/a.cpp" macroTree
  order := ["/p/a.cpp"]

/-- The unit of the sample file. -/
def macroUnit : TranslationUnit :=
  ofGraph "/p/a.cpp" .cpp ⟨[], [], []⟩ macroGraph

/-- **Which macros make a function used.**  A function that system headers do not declare is used if
it is without the macros, or if its name is an identifier in the value of a macro that the reading
of declarations gets to in one of the files, and in no other case.  Of what stands in a function
definition the reading gets to nothing. -/
theorem mem_uses_iff_readUnder {main : String} {language : Language} {search : SearchPath}
    {graph : IncludeGraph} {c : Chain} (hc : c ∈ (ofGraph main language search graph).chains)
    (hsystem : (ofGraph main language search graph).files.isSystem
      c.canonical.site.location.file = false) :
    let u := ofGraph main language search graph
    (c.canonical.index ∈ u.observation.facts.uses ↔
      c.canonical.index ∈ (Facts.observe u.view u.files .empty
          (u.definitionEvents ++ u.textUses)).facts.uses ∨
        ∃ path ∈ graph.order, ∃ root ∈ graph.files.get? path, ∃ m : Node, m.ReadUnder root ∧
          m.definesMacro = true ∧ c.name ∈ m.macroValueNames) ∧
      ∀ n m : Node, n.kind = "function_definition" → m.ReadUnder n → m = n := by
  intro u
  refine ⟨?_, fun n m hn h => h.eq_of_function hn⟩
  have hu : u.Chained := chained_ofGraph main language search graph
  have hdirective : (∃ e ∈ u.macroUses, Facts.Sees u.view u.files e c.canonical.index) ↔
      c.name ∈ u.macroNames := by
    constructor
    · rintro ⟨e, he, hsees⟩
      obtain ⟨d, hd, hname, rfl⟩ := mem_macroUses_iff.1 he
      have hindex := (Facts.sees_use_iff.1 hsees).2
      rw [hu.canonical_eq hd List.mem_cons_self] at hindex
      rwa [← hu.eq_of_index hd hc hindex]
    · intro hname
      refine ⟨_, mem_macroUses_iff.2 ⟨c, hc, hname, rfl⟩, Facts.sees_use_iff.2 ⟨?_, ?_⟩⟩
      · rw [hu.view_eq hc List.mem_cons_self]
        exact hsystem
      · exact hu.canonical_eq hc List.mem_cons_self
  rw [observation, events, Facts.mem_uses_observe hu.coherent_view,
    Facts.mem_uses_observe hu.coherent_view]
  simp only [List.mem_append, or_and_right, exists_or]
  rw [hdirective]
  exact or_congr_right mem_macroNames_iff

/-- In the sample file the macro `G` makes `g` used, and the macro `H`, which stands in a body, does
not make `h` used. -/
theorem mem_uses_iff_readUnder_sample :
    (∃ c ∈ macroUnit.chains, c.name = "g" ∧ c.canonical.index ∈ macroUnit.observation.facts.uses) ∧
      ∃ c ∈ macroUnit.chains, c.name = "h" ∧
        c.canonical.index ∉ macroUnit.observation.facts.uses := by
  have hfile : macroGraph.files.get? "/p/a.cpp" = some macroTree := rfl
  have hg : ∃ c ∈ macroUnit.chains, c.name = "g" ∧
      macroUnit.files.isSystem c.canonical.site.location.file = false := by
    decide +kernel
  have hh : ∃ c ∈ macroUnit.chains, c.name = "h" ∧
      macroUnit.files.isSystem c.canonical.site.location.file = false ∧
      c.canonical.index ∉ (Facts.observe macroUnit.view macroUnit.files .empty
        (macroUnit.definitionEvents ++ macroUnit.textUses)).facts.uses := by
    decide +kernel
  refine ⟨?_, ?_⟩
  · obtain ⟨c, hc, hname, hsystem⟩ := hg
    have hread : ∃ m ∈ macroTree.declarationNext,
        m.definesMacro = true ∧ "g" ∈ m.macroValueNames := by
      decide +kernel
    obtain ⟨m, hm, hdirective, hvalue⟩ := hread
    refine ⟨c, hc, hname, (mem_uses_iff_readUnder hc hsystem).1.2 (.inr ?_)⟩
    exact ⟨"/p/a.cpp", List.mem_cons_self, macroTree, hfile, m, .single hm, hdirective, hname ▸ hvalue⟩
  · obtain ⟨c, hc, hname, hsystem, hunused⟩ := hh
    refine ⟨c, hc, hname, fun hused => ?_⟩
    rcases (mem_uses_iff_readUnder hc hsystem).1.1 hused with
      hother | ⟨path, hpath, root, hroot, hdirective⟩
    · exact hunused hother
    -- the reading gets to the root and the nodes in it, and to nothing below
    have hnext : ∀ m ∈ macroTree.declarationNext, m.declarationNext.isEmpty = true ∧
        ¬(m.definesMacro = true ∧ "h" ∈ m.macroValueNames) := by
      decide +kernel
    rw [List.mem_singleton.1 hpath, hfile] at hroot
    have hnone : ¬macroTree.HasMacroName "h" := by
      rw [Node.hasMacroName_iff]
      rintro (⟨hdirective, -⟩ | ⟨m, hm, hbelow⟩)
      · revert hdirective
        decide +kernel
      · rcases Node.hasMacroName_iff.1 hbelow with hown | ⟨k, hk, -⟩
        · exact (hnext m hm).2 hown
        · rw [List.isEmpty_iff.1 (hnext m hm).1] at hk
          cases hk
    rw [hname] at hdirective
    cases hroot
    exact hnone hdirective

end TranslationUnit

end Unreferenced
