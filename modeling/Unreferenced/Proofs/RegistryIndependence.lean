/-
Unreferenced/Proofs/RegistryIndependence.lean

What a file declares does not depend on the classes met before it, as long as no
qualifier asks for one.

The classes met before are consulted for two things: they say what qualifiers
mean, and the first class at a path stands for all later ones.  Contexts that
agree on everything but the second are alike (`Context.Alike`); a class that
replaces another has its path, so the functions in its body get the same owner.
Entering a node keeps contexts alike unless the node is a class with a qualified
name (`Alike.inside`), and a declarator without qualifiers has one and the same
site in contexts that are alike (`Alike.siteOf_eq`).
-/
import Unreferenced.Proofs.DeclaratorPlace

namespace Unreferenced

theorem ClassType.name_eq_of_path {c d : ClassType} (h : c.path = d.path) : c.name = d.name := by
  unfold path at h
  exact List.singleton_inj.1 (List.append_inj_right' h rfl)

/-- The class that a class is known as has its path. -/
theorem Registry.path_declare (r : Registry) (c : ClassType) : (r.declare c).1.path = c.path := by
  unfold declare
  split
  · rfl
  · split
    · next hfirst => exact r.path_eq hfirst
    · rfl

namespace Context

/-! ### Contexts that are alike -/

/-- Two contexts agree on everything but the class that stands for those at its path. -/
structure Alike (ctx ctx' : Context) : Prop where
  scope : ctx.scope = ctx'.scope
  cLinkage : ctx.cLinkage = ctx'.cLinkage
  owner : ctx.owner.map ClassType.path = ctx'.owner.map ClassType.path
  templates : ctx.templates = ctx'.templates

namespace Alike

variable {ctx ctx' : Context}

theorem refl (ctx : Context) : ctx.Alike ctx :=
  ⟨rfl, rfl, rfl, rfl⟩

theorem plain (h : ctx.Alike ctx') : ctx.plain.Alike ctx'.plain :=
  ⟨h.scope, h.cLinkage, h.owner, rfl⟩

theorem enter (h : ctx.Alike ctx') (segment : ScopeSegment) :
    (ctx.enter segment).Alike (ctx'.enter segment) :=
  ⟨congrArg (· ++ [segment]) h.scope, h.cLinkage, rfl, rfl⟩

theorem enterTemplate (h : ctx.Alike ctx') (arity : Nat) :
    (ctx.enterTemplate arity).Alike (ctx'.enterTemplate arity) :=
  ⟨h.scope, h.cLinkage, h.owner, congrArg (· ++ [arity]) h.templates⟩

theorem enterLinkage (h : ctx.Alike ctx') (isC : Bool) :
    (ctx.enterLinkage isC).Alike (ctx'.enterLinkage isC) :=
  ⟨h.scope, congrArg (isC || ·) h.cLinkage, h.owner, rfl⟩

theorem ofFriend (h : ctx.Alike ctx') : ctx.ofFriend.Alike ctx'.ofFriend :=
  ⟨congrArg (List.filter fun s : ScopeSegment => s.kind != .record) h.scope, h.cLinkage, rfl, rfl⟩

theorem enterNamespace (h : ctx.Alike ctx') (n : Node) :
    (ctx.enterNamespace n).Alike (ctx'.enterNamespace n) := by
  unfold Context.enterNamespace
  rcases n.child? "name" with - | name
  · exact h.enter _
  · show Alike (List.foldl _ ctx _) (List.foldl _ ctx' _)
    generalize (Text.splitColons name.text.toList).map Text.trim = pieces
    induction pieces generalizing ctx ctx' with
    | nil => exact h
    | cons piece pieces ih =>
      rw [List.foldl_cons, List.foldl_cons]
      apply ih
      split
      · exact h
      · exact h.enter _

/-- A class with an unqualified name is the same one in contexts that are alike. -/
theorem classType_eq (h : ctx.Alike ctx') (r r' : Registry) (file : String) {n : Node}
    (hname : n.className.1 = []) : ctx.classType r file n = ctx'.classType r' file n := by
  have hlast : ctx.lastTemplate? = ctx'.lastTemplate? := congrArg List.getLast? h.templates
  simp only [classType, hname, Registry.qualifierScopes, List.foldl_nil, List.append_nil, h.scope,
    hlast]

/-- Entering a node keeps contexts alike, whatever classes are known, unless the node is a class
with a qualified name. -/
theorem inside (h : ctx.Alike ctx') (r r' : Registry) (file : String) {n : Node}
    (hname : n.isOneOf classKinds = true → n.className.1 = []) :
    (ctx.inside r file n).Alike (ctx'.inside r' file n) := by
  unfold Context.inside
  split
  · exact h
  split
  · exact h.plain
  split
  · exact h.enterNamespace n
  split
  · exact h.enterLinkage _
  split
  · exact h.enterTemplate _
  split
  · next hclass =>
    -- the classes may differ, but not in their paths
    have hc := h.classType_eq r r' file (hname hclass)
    refine ⟨congrArg ClassType.segments hc, h.cLinkage, congrArg some ?_, rfl⟩
    rw [Registry.path_declare, Registry.path_declare, hc]
  split
  · exact h.ofFriend
  · exact h.plain

/-- So do several nodes. -/
theorem leads (h : ctx.Alike ctx') {file : String} {nodes : List Node} {r r₁ r' r₁' : Registry}
    {ctx₁ ctx₁' : Context} (hleads : ctx.Leads file r nodes r₁ ctx₁)
    (hleads' : ctx'.Leads file r' nodes r₁' ctx₁')
    (hnames : ∀ n ∈ nodes, n.isOneOf classKinds = true → n.className.1 = []) :
    ctx₁.Alike ctx₁' := by
  induction hleads generalizing ctx' r' with
  | nil _ =>
    cases hleads' with
    | nil _ => exact h
  | cons _ _ ih =>
    cases hleads' with
    | cons _ hnext' =>
      obtain ⟨hn, hnodes⟩ := List.forall_mem_cons.1 hnames
      exact ih (h.inside _ _ file hn) hnext' hnodes

/-! ### The sites of unqualified declarators -/

theorem ownerOf_path (h : ctx.Alike ctx') (r r' : Registry) (scope : List ScopeSegment) :
    (ctx.ownerOf r false scope).map ClassType.path =
      (ctx'.ownerOf r' false scope).map ClassType.path := by
  unfold ownerOf
  split
  · exact h.owner
  · rfl

theorem ownTemplateArity_eq (h : ctx.Alike ctx') (scope : List ScopeSegment) :
    ctx.ownTemplateArity scope = ctx'.ownTemplateArity scope := by
  have hnone : ctx.owner.isNone = ctx'.owner.isNone := by
    have howner := congrArg Option.isNone h.owner
    rwa [Option.isNone_map, Option.isNone_map] at howner
  unfold ownTemplateArity
  rw [hnone, h.templates]

end Alike

/-- The sort of a function asks for the name of its class only. -/
theorem kindOf_congr (name : FunctionName) {owner owner' : Option ClassType}
    (h : owner.map ClassType.path = owner'.map ClassType.path) :
    kindOf name owner = kindOf name owner' := by
  rcases owner with - | c
  · rcases owner' with - | d
    · rfl
    · cases h
  · rcases owner' with - | d
    · cases h
    · unfold kindOf
      rcases name.kind with - | - | - | - | -
      · dsimp only
        rw [ClassType.name_eq_of_path (Option.some.inj h)]
      all_goals rfl

/-- A declarator without qualifiers has one and the same site in contexts that are alike. -/
theorem Alike.siteOf_eq {ctx ctx' : Context} (h : ctx.Alike ctx') (r r' : Registry) (file : String)
    (n : Node) (isDefinition : Bool) (parts : DeclaratorParts) {name : FunctionName}
    (hname : name.qualifiers = []) :
    ctx.siteOf r file n isDefinition parts name = ctx'.siteOf r' file n isDefinition parts name := by
  have hscope : ctx.scope ++ r.qualifierScopes ctx.names name.qualifiers =
      ctx'.scope ++ r'.qualifierScopes ctx'.names name.qualifiers := by
    rw [hname]
    exact congrArg (· ++ []) h.scope
  have hlast : ctx.lastTemplate? = ctx'.lastTemplate? := congrArg List.getLast? h.templates
  have howner := h.ownerOf_path r r'
    (ctx'.scope ++ r'.qualifierScopes ctx'.names name.qualifiers)
  have hsome := congrArg Option.isSome howner
  rw [Option.isSome_map, Option.isSome_map] at hsome
  have hqualified : (!name.qualifiers.isEmpty) = false := by
    rw [hname]
    rfl
  simp only [siteOf, hscope, hqualified, h.ownTemplateArity_eq, hlast, howner, hsome,
    kindOf_congr name howner, linkageOf, h.cLinkage]

end Context

/-! ### Reading with two registries -/

namespace DeclaratorPlace

/-- No qualifier says where the function belongs: neither one of its own nor one of a class around
it. -/
def IsUnqualified (p : DeclaratorPlace) : Prop :=
  (∀ name ∈ p.declarator.declaredFunction?, name.qualifiers = []) ∧
    ∀ n ∈ p.around, n.isOneOf classKinds = true → n.className.1 = []

instance (p : DeclaratorPlace) : Decidable p.IsUnqualified :=
  inferInstanceAs (Decidable (_ ∧ _))

end DeclaratorPlace

/-- What is read at an unqualified place depends on the place and the context only. -/
theorem FunctionSite.IsReadFrom.unique {s s' : FunctionSite} {file : String} {r r' : Registry}
    {ctx : Context} {p : DeclaratorPlace} (hs : s.IsReadFrom file r ctx p)
    (hs' : s'.IsReadFrom file r' ctx p) (hp : p.IsUnqualified) : s = s' := by
  obtain ⟨r₁, ctx₁, hleads, hsite⟩ := hs
  obtain ⟨r₁', ctx₁', hleads', hsite'⟩ := hs'
  have halike := (Context.Alike.refl ctx).leads hleads hleads' hp.2
  obtain ⟨parts, name, hparts, hname, rfl⟩ := Context.site?_eq_some_iff.1 hsite
  obtain ⟨parts', name', hparts', hname', rfl⟩ := Context.site?_eq_some_iff.1 hsite'
  cases hparts.symm.trans hparts'
  cases hname.symm.trans hname'
  have hdeclared : p.declarator.declaredFunction? = some name := by
    rw [Node.declaredFunction?, hparts, Option.bind_some, hname]
  exact halike.siteOf_eq r₁ r₁' file p.node p.isDefinition parts (hp.1 name hdeclared)

/-- Elements at one index of related lists are related. -/
theorem forall₂_getElem? {α β : Type} {R : α → β → Prop} {l : List α} {l' : List β}
    (h : List.Forall₂ R l l') {i : Nat} {a : α} {b : β} (ha : l[i]? = some a)
    (hb : l'[i]? = some b) : R a b := by
  obtain ⟨hi, rfl⟩ := List.getElem?_eq_some_iff.1 ha
  obtain ⟨hi', rfl⟩ := List.getElem?_eq_some_iff.1 hb
  exact h.get hi hi'

namespace Sample

/-- The tree of a header with a class `N::C` that has a member `m`. -/
def header : Node :=
  let node := Context.sampleNode
  node "translation_unit" "" "" [node "namespace_definition" "" ""
    [node "namespace_identifier" "name" "N" [],
      node "declaration_list" "body" "" [node "class_specifier" "" ""
        [node "type_identifier" "name" "C" [],
          node "field_declaration_list" "body" "" [node "field_declaration" "" ""
            [node "primitive_type" "type" "void" [], Context.sampleInside]]]]]]

/-- Another class `N::C`, which is a template. -/
def otherClass : ClassType where
  key := .named ["N", "C"]
  name := "C"
  scope := namespaces ["N"]
  templateArity := 1
  location := ⟨"/p/other.h", 7⟩
  bases := ["B"]

end Sample

namespace FileContents

/-- The functions of a file were read at its places, one at each. -/
theorem forall₂_functions_read (language : Language) (r : Registry) (file : String) (root : Node) :
    List.Forall₂ (fun f p => FunctionSite.IsReadFrom f file r { cLinkage := language = .c } p)
      (read language r file root).contents.functions root.declaratorPlaces := by
  have hread := Survey.forall₂_declared file { cLinkage := language = .c } root { registry := r }
  exact hread.flip

/-- **Files are read alike after any others.**  Whatever classes are known when a file is read, it
declares one function at each of its places.  Where no qualifier says where the function belongs,
neither one of its own nor one of a class around it, its site is the same, so it has the same symbol
in all translation units. -/
theorem read_independent (language : Language) (file : String) (root : Node) (r r' : Registry) :
    (read language r file root).contents.functions.length = root.declaratorPlaces.length ∧
      (read language r' file root).contents.functions.length = root.declaratorPlaces.length ∧
      ∀ (i : Nat) (p : DeclaratorPlace) (s s' : FunctionSite),
        root.declaratorPlaces[i]? = some p →
        (read language r file root).contents.functions[i]? = some s →
        (read language r' file root).contents.functions[i]? = some s' →
          s.IsReadFrom file r { cLinkage := language = .c } p ∧
          s'.IsReadFrom file r' { cLinkage := language = .c } p ∧
          (p.IsUnqualified → s = s') := by
  have hread := forall₂_functions_read language r file root
  have hread' := forall₂_functions_read language r' file root
  refine ⟨hread.length_eq, hread'.length_eq, ?_⟩
  intro i p s s' hp hs hs'
  have hsp := forall₂_getElem? hread hs hp
  have hsp' := forall₂_getElem? hread' hs' hp
  exact ⟨hsp, hsp', hsp.unique hsp'⟩

/-- The member is the same one after a header that defines the class in another way. -/
theorem read_independent_sample :
    ∃ p s s', Sample.header.declaratorPlaces[0]? = some p ∧
      (read .cpp .empty "/p/c.h" Sample.header).contents.functions[0]? = some s ∧
      (read .cpp (Registry.empty.register Sample.otherClass) "/p/c.h"
        Sample.header).contents.functions[0]? = some s' ∧
      p.IsUnqualified ∧ s = s' ∧ s.symbol? = some "c:@N@N@S@C@F@m#" := by
  have hplace : Sample.header.declaratorPlaces[0]?.any (fun p => decide p.IsUnqualified) = true := by
    decide +kernel
  have hsymbol : (read .cpp .empty "/p/c.h" Sample.header).contents.functions[0]?.bind
      FunctionSite.symbol? = some "c:@N@N@S@C@F@m#" := by decide +kernel
  have hsome : (read .cpp (Registry.empty.register Sample.otherClass) "/p/c.h"
      Sample.header).contents.functions[0]?.isSome = true := by decide +kernel
  obtain ⟨p, hp, hunqualified⟩ := (Option.any_eq_true _ _).1 hplace
  obtain ⟨s, hs, hsymbol⟩ := Option.bind_eq_some_iff.1 hsymbol
  obtain ⟨s', hs'⟩ := Option.isSome_iff_exists.1 hsome
  obtain ⟨-, -, hread⟩ := read_independent .cpp "/p/c.h" Sample.header .empty
    (Registry.empty.register Sample.otherClass)
  obtain ⟨-, -, heq⟩ := hread 0 p s s' hp hs hs'
  have hunqualified := of_decide_eq_true hunqualified
  exact ⟨p, s, s', hp, hs, hs', hunqualified, heq hunqualified, hsymbol⟩

end FileContents

end Unreferenced
