/-
Unreferenced/Proofs/FindingPlace.lean

Where a finding says that its function is defined.

A definition counts only if it is written in the main file, but what is entered
for it is the definition of its chain: the first declaration with a body, in
include order.  The main file comes last in that order (`build_of_ok`), so the
bodies of a chain that stand in headers come before those in the main file
(`pairwise_bodies`), and a finding is placed in the main file exactly if no
header has a body for its function (`CompileCommand.file_definition?`).

The search for uses reports no definitions (`isUse_textUses`), so what counts was
reported for a function definition of the text.
-/
import Unreferenced.Proofs.BodySearch
import Unreferenced.Proofs.Isolation
import Unreferenced.Proofs.Redeclaration

namespace Unreferenced

/-- Whether an event is a use. -/
def Event.isUse {δ : Type} : Event δ → Bool
  | .definition _ => false
  | .use _ _ => true

theorem all_isUse_usesOf (kind : UseKind) (chains : List Chain) :
    (usesOf kind chains).all Event.isUse = true := by
  unfold usesOf
  rw [List.all_map, List.all_eq_true]
  intro c _
  rfl

/-! ### The search reports uses only -/

namespace TranslationUnit

variable (u : TranslationUnit)

theorem all_isUse_makingUses (made : Option ClassType) (arity : Option Nat) :
    (u.makingUses made arity).all Event.isUse = true := by
  unfold makingUses
  split
  · exact all_isUse_usesOf _ _
  · rfl

theorem all_isUse_callUses (found : List Chain) (name : String) (scope : LocalScope)
    (arity : Option Nat) : (u.callUses found name scope arity).all Event.isUse = true := by
  unfold callUses
  split
  · exact u.all_isUse_makingUses _ _
  · exact all_isUse_usesOf _ _

theorem all_isUse_identifierCallUses (name : String) (scope : LocalScope)
    (arity : Option Nat) : (u.identifierCallUses name scope arity).all Event.isUse = true := by
  unfold identifierCallUses
  split
  · split
    · exact all_isUse_usesOf _ _
    · rfl
  · exact u.all_isUse_callUses _ _ _ _

theorem all_isUse_templateUses (n : Node) (scope : LocalScope) (arity : Option Nat) :
    (u.templateUses n scope arity).all Event.isUse = true := by
  unfold templateUses
  split
  · rfl
  · rw [List.all_append, all_isUse_usesOf, Bool.true_and]
    split
    · exact u.all_isUse_makingUses _ _
    · rfl

theorem all_isUse_operatorUses (name : String) (operand : Option Node)
    (scope : LocalScope) : (u.operatorUses name operand scope).all Event.isUse = true := by
  unfold operatorUses
  split
  · split
    · rfl
    · exact all_isUse_usesOf _ _
  · exact all_isUse_usesOf _ _

theorem all_isUse_expressionUses (n : Node) (scope : LocalScope) :
    (u.expressionUses n scope).all Event.isUse = true := by
  unfold expressionUses
  split
  · split
    · rfl
    · split
      · rfl
      · exact u.all_isUse_operatorUses _ _ _
  · split
    · exact u.all_isUse_operatorUses _ _ _
    · rfl

theorem all_isUse_identifierUses (n : Node) (scope : LocalScope) :
    (u.identifierUses n scope).all Event.isUse = true := by
  unfold identifierUses
  split
  · rfl
  · exact all_isUse_usesOf _ _

/-- A declarator adds uses only. -/
theorem all_isUse_stepDeclarator {n : Node} (typeName : String) (declaredClass : Option ClassType)
    (s : Step n) (d : n.Below) (hs : s.uses.all Event.isUse = true) :
    (u.stepDeclarator typeName declaredClass s d).uses.all Event.isUse = true := by
  unfold stepDeclarator
  split
  · split
    · exact hs
    · exact hs
  · dsimp only
    rw [List.all_append, hs, Bool.true_and]
    split
    · exact u.all_isUse_makingUses _ _
    · rfl

theorem all_isUse_stepDeclaration (n : Node) (scope : LocalScope) :
    (u.stepDeclaration n scope).uses.all Event.isUse = true := by
  have hfold : ∀ (typeName : String) (declaredClass : Option ClassType) (ds : List n.Below)
      (s : Step n), s.uses.all Event.isUse = true →
        (ds.foldl (u.stepDeclarator typeName declaredClass) s).uses.all Event.isUse = true := by
    intro typeName declaredClass ds
    induction ds with
    | nil => exact fun s hs => hs
    | cons d ds ih =>
      exact fun s hs => ih _ (u.all_isUse_stepDeclarator typeName declaredClass s d hs)
  exact hfold _ _ _ _ rfl

theorem all_isUse_stepCall (n : Node) (scope : LocalScope) :
    (u.stepCall n scope).uses.all Event.isUse = true := by
  unfold stepCall
  dsimp only
  split
  · rfl
  split
  · exact u.all_isUse_identifierCallUses _ _ _
  split
  · exact u.all_isUse_callUses _ _ _ _
  split
  · exact u.all_isUse_templateUses _ _ _
  split
  · dsimp only
    split
    · rfl
    · exact all_isUse_usesOf _ _
  · rfl

theorem all_isUse_stepQualified (n : Node) (scope : LocalScope) :
    (u.stepQualified n scope).uses.all Event.isUse = true := by
  unfold stepQualified
  split
  · rfl
  · dsimp only
    split
    · exact all_isUse_usesOf _ _
    · rfl

theorem all_isUse_stepConstruction (n : Node) (scope : LocalScope) :
    (u.stepConstruction n scope).uses.all Event.isUse = true :=
  u.all_isUse_makingUses _ _

theorem all_isUse_stepFieldInitializer (n : Node) (scope : LocalScope) :
    (u.stepFieldInitializer n scope).uses.all Event.isUse = true := by
  unfold stepFieldInitializer
  dsimp only
  split
  · exact all_isUse_usesOf _ _
  · rfl

theorem all_isUse_stepFunction (path : String) (n : Node) (scope : LocalScope) :
    (u.stepFunction path n scope).uses.all Event.isUse = true := by
  unfold stepFunction
  dsimp only
  split
  · rfl
  · rfl

theorem all_isUse_ite {n : Node} {p : Prop} [Decidable p] {s t : Step n}
    (hs : s.uses.all Event.isUse = true) (ht : t.uses.all Event.isUse = true) :
    (if p then s else t).uses.all Event.isUse = true := by
  split
  · exact hs
  · exact ht

/-- The events of a node are uses. -/
theorem all_isUse_step (path : String) (n : Node) (scope : LocalScope) :
    (u.step path n scope).uses.all Event.isUse = true := by
  unfold step
  -- skipped kinds, namespaces and classes
  refine all_isUse_ite rfl (all_isUse_ite rfl (all_isUse_ite rfl ?_))
  refine all_isUse_ite (u.all_isUse_stepFunction path n scope) ?_
  refine all_isUse_ite (u.all_isUse_stepDeclaration n scope) ?_
  -- templates, conditional branches and enumerators
  refine all_isUse_ite rfl (all_isUse_ite rfl (all_isUse_ite rfl (all_isUse_ite rfl ?_)))
  -- blocks, function objects and parameters
  refine all_isUse_ite rfl (all_isUse_ite rfl (all_isUse_ite rfl ?_))
  refine all_isUse_ite (u.all_isUse_stepCall n scope) ?_
  refine all_isUse_ite rfl ?_
  refine all_isUse_ite (u.all_isUse_identifierUses n scope) ?_
  refine all_isUse_ite (u.all_isUse_stepQualified n scope) ?_
  refine all_isUse_ite (u.all_isUse_templateUses n scope none) ?_
  refine all_isUse_ite (u.all_isUse_stepConstruction n scope) ?_
  refine all_isUse_ite (u.all_isUse_stepFieldInitializer n scope) ?_
  exact u.all_isUse_expressionUses n scope

/-- All that the search of the text reports are uses. -/
theorem isUse_textUses {e : Event Nat} (he : e ∈ u.textUses) : e.isUse = true := by
  rw [textUses_eq] at he
  obtain ⟨path, -, he⟩ := List.mem_flatMap.1 he
  obtain ⟨v, -, he⟩ := List.mem_flatMap.1 he
  unfold usesAt at he
  rcases hlast : v.trail.getLast? with - | n
  · rw [hlast] at he
    cases he
  · rw [hlast] at he
    exact List.all_eq_true.1 (u.all_isUse_step path n v.scope) e he

theorem isUse_macroUses {e : Event Nat} (he : e ∈ u.macroUses) : e.isUse = true := by
  obtain ⟨name, -, he⟩ := List.mem_flatMap.1 he
  exact List.all_eq_true.1 (all_isUse_usesOf _ _) e he

/-- A definition is reported for a function definition of the text. -/
theorem exists_member_of_definition_mem {d : Nat} (h : .definition d ∈ u.events) :
    ∃ m ∈ Member.number u.functions, m.site.isDefinition = true ∧ m.index = d := by
  rcases List.mem_append.1 h with h | h
  · rcases List.mem_append.1 h with h | h
    · obtain ⟨m, hm, he⟩ := List.mem_filterMap.1 h
      split at he
      · next hdefinition => exact ⟨m, hm, hdefinition, by cases he; rfl⟩
      · cases he
    · cases u.isUse_textUses h
  · cases u.isUse_macroUses h

end TranslationUnit

namespace Facts

/-! ### What a function seen to be defined was seen by -/

variable {δ : Type} {view : View δ} (files : UnitFiles)

theorem eq_definition_of_sighted? {e : Event δ} {d : δ}
    (hs : sighted? view files e = some ⟨.defines, d⟩) :
    e = .definition d ∧ counts view files d = true := by
  rcases e with c | ⟨k, - | c⟩
  · simp only [sighted?] at hs
    split at hs
    · cases hs
    · split at hs
      · next hcounts =>
        cases hs
        exact ⟨rfl, hcounts⟩
      · cases hs
  · cases hs
  · simp only [sighted?] at hs
    split at hs
    · cases hs
    · cases hs

/-- An event brings about no further definition. -/
theorem definition_mem_reported {e : Event δ} {d : δ} (h : .definition d ∈ reported view files e) :
    e = .definition d := by
  unfold reported at h
  split at h
  · split at h
    · split at h
      · simpa [eq_comm] using h
      · simpa [eq_comm] using h
    · simpa [eq_comm] using h
  · simpa [eq_comm] using h

/-- Every function seen to be defined was so through a definition that counts. -/
theorem exists_definition_of_mem_defs [DecidableEq δ] (h : view.Coherent) {events : List (Event δ)}
    {f : δ} (hf : f ∈ (observe view files .empty events).facts.defs) :
    ∃ d, .definition d ∈ events ∧ counts view files d = true ∧ view.canonical d = f := by
  unfold observe at hf
  rw [(observeAll_spec files h _ _).2] at hf
  rcases mem_defs_foldl_record.1 hf with hempty | ⟨⟨role, d⟩, hd, rfl, hcanonical⟩
  · exact absurd hempty (OrderedSet.not_mem_empty _)
  · obtain ⟨e, he, hs⟩ := List.mem_filterMap.1 hd
    obtain ⟨rfl, hcounts⟩ := eq_definition_of_sighted? files hs
    obtain ⟨e, hevents, he⟩ := List.mem_flatMap.1 he
    cases definition_mem_reported files he
    exact ⟨d, hevents, hcounts, hcanonical⟩

theorem file_of_counts {d : δ} (h : counts view files d = true) :
    (view d).location.file = files.main := by
  unfold counts at h
  simp only [Bool.and_eq_true, beq_iff_eq] at h
  exact h.1.1.2

end Facts

/-! ### The order of the bodies -/

theorem FunctionSite.IsReadOff.file_eq {s : FunctionSite} {file : String} {n : Node}
    (h : s.IsReadOff file n) : s.location.file = file := by
  obtain ⟨ctx, r, d, isWeak, -, hs⟩ := h
  obtain ⟨t, ht, rfl⟩ := Option.map_eq_some_iff.1 hs
  obtain ⟨parts, -, hname⟩ := Option.bind_eq_some_iff.1 ht
  obtain ⟨name, -, rfl⟩ := Option.map_eq_some_iff.1 hname
  rfl

namespace IncludeGraph

theorem path_of_mem_bodiesIn {graph : IncludeGraph} {path : String} {p : TreePlace}
    (h : p ∈ graph.bodiesIn path) : p.path = path := by
  unfold bodiesIn at h
  split at h
  · obtain ⟨trail, -, rfl⟩ := List.mem_map.1 h
    rfl
  · cases h

/-- No file is finished after the main file. -/
theorem pairwise_order (fs : FileSystem) (search : SearchPath) (language : Language)
    (main : String) :
    (build fs search language main).order.Pairwise fun p q => p = main → q = main := by
  rcases hread : fs.read main with e | f
  · rw [(build_of_error fs search language hread).1]
    exact .nil
  · obtain ⟨headers, horder, hmain, -⟩ := build_of_ok fs search language hread
    rw [horder, List.pairwise_append]
    refine ⟨?_, List.pairwise_singleton _ _, fun p _ q hq _ => List.mem_singleton.1 hq⟩
    rw [List.pairwise_iff_forall_sublist]
    intro p q hpq hp
    exact absurd (hp ▸ hpq.subset List.mem_cons_self) hmain

/-- Bodies come in the order of their files. -/
theorem pairwise_bodies_path {graph : IncludeGraph} {main : String}
    (h : graph.order.Pairwise fun p q => p = main → q = main) :
    (graph.bodies.map TreePlace.path).Pairwise fun p q => p = main → q = main := by
  rw [List.pairwise_map, bodies, List.pairwise_flatMap]
  constructor
  · intro path _
    rw [List.pairwise_iff_forall_sublist]
    intro p q hpq hp
    rw [path_of_mem_bodiesIn (hpq.subset (by simp))]
    rwa [path_of_mem_bodiesIn (hpq.subset (by simp))] at hp
  · refine h.imp ?_
    intro path path' hpath p hp q hq
    rw [path_of_mem_bodiesIn hp, path_of_mem_bodiesIn hq]
    exact hpath

end IncludeGraph

/-- The bodies in the main file of a unit come after those in its headers. -/
theorem TranslationUnit.pairwise_bodies (fs : FileSystem) (c : CompileCommand)
    (systemDirs : List String) :
    ((load fs c systemDirs).functions.filter FunctionSite.body).Pairwise fun s t =>
      s.location.file = c.file → t.location.file = c.file := by
  unfold load
  dsimp only
  generalize SearchPath.ofCommand fs.workingDirectory c systemDirs = search
  have hread := readAt_bodies c.file c.language search
    (IncludeGraph.build fs search c.language c.file)
  have horder := IncludeGraph.pairwise_order fs search c.language c.file
  generalize IncludeGraph.build fs search c.language c.file = graph at hread horder ⊢
  -- only the files count, and those are the paths of the places
  have hfiles : ((ofGraph c.file c.language search
      graph).functions.filter FunctionSite.body).map (fun s => s.location.file) =
        graph.bodies.map TreePlace.path := by
    rw [← List.forall₂_eq_eq_eq, List.forall₂_map_left_iff, List.forall₂_map_right_iff]
    refine hread.imp ?_
    rintro s p ⟨n, -, hs⟩
    exact hs.file_eq
  have hpaths := IncludeGraph.pairwise_bodies_path horder
  rw [← hfiles, List.pairwise_map] at hpaths
  exact hpaths

theorem Member.map_site_number (sites : List FunctionSite) : (number sites).map site = sites := by
  rw [number, List.map_map]
  exact List.zipIdx_map_fst 0 sites

theorem Chain.body_of_definition? {c : Chain} {d : Member} (h : c.definition? = some d) :
    d.site.body = true :=
  List.find?_some (p := fun m : Member => m.site.body) h

/-- A chain is defined in the main file exactly if none of its bodies is in another file. -/
theorem CompileCommand.file_definition? (fs : FileSystem) (systemDirs : List String)
    (command : CompileCommand) {c : Chain}
    (hc : c ∈ (TranslationUnit.load fs command systemDirs).chains) {d : Member}
    (hd : c.definition? = some d) :
    d.site.location.file = command.file ↔
      ∀ m ∈ c.members, m.site.body = true → m.site.location.file = command.file := by
  have hchained := TranslationUnit.chained_load fs command systemDirs
  constructor
  · intro hfile m hm hbody
    have hsub : ((c.members.filter fun m => m.site.body).map Member.site).Sublist
        ((TranslationUnit.load fs command systemDirs).functions.filter FunctionSite.body) := by
      have hsites := ((hchained.grouped.members_sublist c hc).map Member.site).filter
        FunctionSite.body
      rwa [Member.map_site_number, List.filter_map] at hsites
    have hpairs := (TranslationUnit.pairwise_bodies fs command systemDirs).sublist hsub
    rw [List.pairwise_map] at hpairs
    -- the definition is the first body of the chain, so all others come after it
    rw [Chain.definition?, ← List.head?_filter] at hd
    obtain ⟨rest, hrest⟩ := List.head?_eq_some_iff.1 hd
    rw [hrest, List.pairwise_cons] at hpairs
    have hmem : m ∈ d :: rest := hrest ▸ List.mem_filter.2 ⟨hm, hbody⟩
    rcases List.mem_cons.1 hmem with rfl | hmem
    · exact hfile
    · exact hpairs.1 m hmem hfile
  · intro h
    exact h d (List.mem_of_find?_eq_some hd) (c.body_of_definition? hd)

/-- The definition that the view finds is that of the chain. -/
theorem TranslationUnit.Chained.definition?_eq {u : TranslationUnit} (hu : u.Chained) {c : Chain}
    {m : Member} (hc : c ∈ u.chains) (hm : m ∈ c.members) :
    u.view.definition? m.index = c.definition?.map Member.index := by
  have hbody : ∀ n ∈ c.members, (u.view n.index).body = n.site.body := by
    intro n hn
    rw [hu.view_eq hc hn]
    rfl
  unfold View.definition? Chain.definition?
  rw [hu.view_eq hc hm]
  show (c.members.map Member.index).find? (fun e => (u.view e).body) = _
  rw [List.find?_map, ← List.head?_filter, ← List.head?_filter]
  exact congrArg (fun ms => (List.head? ms).map Member.index) (List.filter_congr hbody)

namespace UnitFacts

/-- What a unit enters as evidence for a symbol is its definition of an unused function. -/
theorem exists_unused_of_mem_evidenceOf {t : UnitFacts Nat} {symbol : Symbol}
    {evidence : Snapshot × List Location} (h : evidence ∈ evidenceOf symbol t.entries) :
    .defined symbol evidence.1 evidence.2 ∈ t.entries ∧
      ∃ f ∈ t.facts.defs, t.evidence? f = some evidence := by
  constructor
  · obtain ⟨entry, hentry, he⟩ := List.mem_filterMap.1 h
    rcases entry with ⟨s, definition, declarations⟩ | s
    · obtain ⟨rfl, hevidence⟩ := Option.ite_none_right_eq_some.1 he
      cases hevidence
      exact hentry
    · cases he
  · rw [evidenceOf_entries] at h
    obtain ⟨f, hf, he⟩ := List.mem_filterMap.1 h
    exact ⟨f, (OrderedSet.mem_diff.1 (List.mem_filter.1 hf).1).1, he⟩

/-- The last evidence for a symbol is from the last unit that has some. -/
theorem exists_last_unit {units : List (UnitFacts Nat)} {symbol : Symbol}
    {evidence : Snapshot × List Location}
    (h : (evidenceOf symbol (history units)).getLast? = some evidence) :
    ∃ before t after, units = before ++ t :: after ∧ evidence ∈ evidenceOf symbol t.entries ∧
      ∀ s ∈ after, evidenceOf symbol s.entries = [] := by
  rw [evidenceOf, history, List.filterMap_flatMap, List.getLast?_flatMap,
    List.findSome?_eq_some_iff] at h
  obtain ⟨after, t, before, hunits, hlast, hnone⟩ := h
  refine ⟨before.reverse, t, after.reverse, ?_, List.mem_of_getLast? hlast, ?_⟩
  · rw [← List.reverse_reverse units, hunits]
    simp
  · intro s hs
    exact List.getLast?_eq_none_iff.1 (hnone s (List.mem_reverse.1 hs))

end UnitFacts

/-- The evidence that a unit has for a function it defines: the place of the first body of a chain
that the main file has a definition for. -/
theorem TranslationUnit.Chained.exists_chain_of_evidence? {u : TranslationUnit} (hu : u.Chained)
    {f : Nat} (hf : f ∈ u.unitFacts.facts.defs) {evidence : Snapshot × List Location}
    (he : u.unitFacts.evidence? f = some evidence) :
    ∃ c ∈ u.chains, ∃ d, c.definition? = some d ∧
      evidence.1 = ⟨d.site.qualifiedName, d.site.location⟩ ∧
      ∃ m ∈ c.members, m.site.isDefinition = true ∧ m.site.location.file = u.main := by
  obtain ⟨i, hevent, hcounts, hcanonical⟩ :=
    Facts.exists_definition_of_mem_defs u.files hu.coherent_view hf
  obtain ⟨m, hm, hdefinition, rfl⟩ := u.exists_member_of_definition_mem hevent
  obtain ⟨c, hc, hmc⟩ := hu.exists_chain hm
  have hfile := Facts.file_of_counts u.files hcounts
  rw [hu.view_eq hc hmc] at hfile
  rw [hu.canonical_eq hc hmc] at hcanonical
  subst hcanonical
  have hdefined : u.view.definition? c.canonical.index = c.definition?.map Member.index :=
    hu.definition?_eq hc List.mem_cons_self
  obtain ⟨i, hi, rfl⟩ := Option.map_eq_some_iff.1 he
  obtain ⟨d, hd, rfl⟩ := Option.map_eq_some_iff.1 (hdefined.symm.trans hi)
  refine ⟨c, hc, d, hd, ?_, m, hmc, hdefinition, hfile⟩
  show Snapshot.mk (u.view d.index).qualifiedName (u.view d.index).location = _
  rw [hu.view_eq hc (List.mem_of_find?_eq_some hd)]
  rfl

namespace Sample

/-- The tree of `#ifdef FAST` or `#ifndef FAST` up to its `#endif`. -/
def ifFast (start name stop : Nat) (inside : Tree) : Tree :=
  branch "preproc_ifdef" "" start stop [branch "identifier" "name" name (name + 4) [], inside]

/-- A main file and a header that define `f` in turn, as a macro says. -/
def inTurnFiles : FileSystem where
  root := some [("p", .directory
    [("f.h", .file (file "#ifdef FAST\nvoid f() \x7b\x7d\n#endif\n"
        [ifFast 0 7 30 (function 12 23 [])])),
      ("main.cpp", .file (file "#include \"f.h\"\n#ifndef FAST\nvoid f() \x7b\x7d\n#endif\n"
        [branch "preproc_include" "" 0 15 [branch "string_literal" "path" 9 14 []],
          ifFast 15 23 46 (function 28 39 [])]))])]

/-- The command for the main file. -/
def inTurn : Database := .ofCommands none [command "main.cpp"]

end Sample

namespace Analysis

/-- **Where findings are placed.**  A finding shows what the last unit with a definition for its symbol
has entered.  Its place is that of the first body, in include order, among all declarations of the
function in this unit.  The main file of the unit has a definition of the function, but the place is
in the main file exactly if no header has a body for the function. -/
theorem place_of_mem_findings (host : Host) (fs : FileSystem) (systemDirs : List String)
    (workers : Nat) (db : Database) {f : Finding}
    (hf : f ∈ (ofDatabase host fs systemDirs workers db).findings) :
    ∃ before u after, db.units host fs systemDirs = before ++ u :: after ∧
      .defined f.symbol f.definition f.declarations ∈ u.unitFacts.entries ∧
      (∀ v ∈ after, evidenceOf f.symbol v.unitFacts.entries = []) ∧
      ∃ c ∈ u.chains, ∃ d, c.definition? = some d ∧ d.site.body = true ∧
        f.definition = ⟨d.site.qualifiedName, d.site.location⟩ ∧
        (∃ m ∈ c.members, m.site.isDefinition = true ∧ m.site.location.file = u.main) ∧
        (f.definition.location.file = u.main ↔
          ∀ m ∈ c.members, m.site.body = true → m.site.location.file = u.main) := by
  unfold findings at hf
  rw [ledger_ofDatabase, Ledger.findings_postAll] at hf
  obtain ⟨symbol, -, hfinding⟩ := List.mem_filterMap.1 hf
  obtain rfl := Ledger.symbol_of_findingOf? hfinding
  obtain ⟨before, t, after, hunits, hevidence, hafter⟩ :=
    UnitFacts.exists_last_unit (Ledger.evidence_of_findingOf? hfinding)
  obtain ⟨before, rest, hdb, rfl, hrest⟩ := List.map_eq_append_iff.1 hunits
  obtain ⟨u, after, rfl, rfl, rfl⟩ := List.map_eq_cons_iff.1 hrest
  obtain ⟨hentry, g, hg, he⟩ := UnitFacts.exists_unused_of_mem_evidenceOf hevidence
  have hu : u ∈ db.units host fs systemDirs := by rw [hdb]; simp
  obtain ⟨c, hc, d, hd, hplace, hmain⟩ :=
    (Database.chained_of_mem_units hu).exists_chain_of_evidence? hg he
  refine ⟨before, u, after, hdb, hentry, fun v hv => hafter _ (List.mem_map_of_mem hv), c, hc, d, hd,
    c.body_of_definition? hd, hplace, hmain, ?_⟩
  dsimp only at hplace
  rw [hplace]
  rw [Database.units_eq] at hu
  obtain ⟨command, -, rfl⟩ := List.mem_map.1 hu
  exact command.file_definition? fs systemDirs hc hd

/-- The place of the finding is in the header, although it is there for the definition in the main
file. -/
theorem place_of_mem_findings_sample :
    ∃ f ∈ (ofDatabase Sample.host Sample.inTurnFiles [] 1 Sample.inTurn).findings,
      f.definition = ⟨"f", ⟨"/p/f.h", 2⟩⟩ ∧
      ∃ u ∈ Sample.inTurn.units Sample.host Sample.inTurnFiles [], u.main = "/p/main.cpp" ∧
        .defined f.symbol f.definition f.declarations ∈ u.unitFacts.entries ∧
        ∃ c ∈ u.chains, ∃ m ∈ c.members, m.site.body = true ∧ m.site.location.file ≠ u.main := by
  have hdefinitions : (ofDatabase Sample.host Sample.inTurnFiles [] 1 Sample.inTurn).findings.map
      Finding.definition = [⟨"f", ⟨"/p/f.h", 2⟩⟩] := by decide +kernel
  have hmains : (Sample.inTurn.units Sample.host Sample.inTurnFiles []).map TranslationUnit.main =
      ["/p/main.cpp"] := by decide +kernel
  obtain ⟨f, rest, hfindings, hdefinition, -⟩ := List.map_eq_cons_iff.1 hdefinitions
  have hf : f ∈ (ofDatabase Sample.host Sample.inTurnFiles [] 1 Sample.inTurn).findings := by
    rw [hfindings]
    exact List.mem_cons_self
  obtain ⟨before, u, after, hunits, hentry, -, c, hc, d, -, -, -, -, hiff⟩ :=
    place_of_mem_findings Sample.host Sample.inTurnFiles [] 1 Sample.inTurn hf
  have hu : u ∈ Sample.inTurn.units Sample.host Sample.inTurnFiles [] := by rw [hunits]; simp
  have hmain : u.main = "/p/main.cpp" := by
    have hmem := List.mem_map_of_mem (f := TranslationUnit.main) hu
    rw [hmains] at hmem
    exact List.mem_singleton.1 hmem
  refine ⟨f, hf, hdefinition, u, hu, hmain, hentry, c, hc, ?_⟩
  by_contra hnone
  push Not at hnone
  have hfile := hiff.2 hnone
  rw [hdefinition, hmain] at hfile
  exact absurd hfile (by decide)

end Analysis

end Unreferenced
