/-
Unreferenced/Proofs/SiteConsistency.lean

What the parts of a function site have to do with each other.

The scope, the class, the sort, the linkage and the signature of a function are
read separately, in a context that keeps the scope and the class apart.  Still
they fit together on every tree, also on one that no grammar would produce
(`FunctionSite.IsConsistent`): a member stands in its class, only members are
methods and constructors, only members are static members and only other
functions have C linkage, and as many arguments are taken as there are
parameters.

Most of it can be seen where a site is read.  That the class of a member is known
at the end of the file is a matter of the whole walk: the class whose body is
entered has been taken up before (`Context.IsKnown`), no class is forgotten, and
so every function that was added keeps its class (`Survey.knowsOwners_walk`).
-/
import Unreferenced.Proofs.MemberScope

namespace Unreferenced

/-! ### Signatures -/

namespace Signature

/-- As many arguments are taken as there are parameters, if there is a greatest number of them, and
no more are needed. -/
structure IsBounded (s : Signature) : Prop where
  maxArgs : s.maxArgs = none ∨ s.maxArgs = some s.types.length
  minArgs : s.minArgs ≤ s.types.length

variable {s : Signature}

theorem IsBounded.pushVariadic (h : s.IsBounded) (type : String) :
    (s.pushVariadic type).IsBounded where
  maxArgs := .inl rfl
  minArgs := by
    have := h.minArgs
    simp only [Signature.pushVariadic, List.length_append]
    omega

theorem IsBounded.push (h : s.IsBounded) (type : String) (hasDefault : Bool) :
    (s.push type hasDefault).IsBounded where
  maxArgs := by
    rcases h.maxArgs with hnone | hsome
    · left
      simp [Signature.push, hnone]
    · right
      simp [Signature.push, hsome]
  minArgs := by
    have := h.minArgs
    simp only [Signature.push, List.length_append, List.length_singleton]
    split
    · omega
    · omega

theorem isBounded_empty : IsBounded {} :=
  ⟨.inr rfl, Nat.le_refl 0⟩

/-- Every parameter keeps the bounds. -/
theorem IsBounded.signatureFrom (h : s.IsBounded) (alone : Bool) (parameters : List Node) :
    (Node.signatureFrom alone s parameters).IsBounded := by
  induction parameters generalizing s with
  | nil => rwa [Node.signatureFrom]
  | cons p rest ih =>
    rw [Node.signatureFrom]
    split
    · exact ih h
    split
    · exact ih (h.pushVariadic _)
    split
    · exact ih (h.pushVariadic _)
    split
    · exact h
    · exact ih (h.push _ _)

theorem isBounded_signature (n : Node) : n.signature.IsBounded := by
  rw [Node.signature]
  exact isBounded_empty.signatureFrom _ _

end Signature

/-! ### Consistent sites -/

namespace Node

/-- Whether one of the specifiers of a declaration is `static`. -/
def isStatic (n : Node) : Bool :=
  n.children.any fun c =>
    c.isOneOf ["storage_class_specifier", "virtual", "virtual_function_specifier"] &&
      c.text == "static"

theorem isStatic_eq_contains (n : Node) :
    n.isStatic = ((n.children.filter fun c =>
      c.isOneOf ["storage_class_specifier", "virtual", "virtual_function_specifier"]).map
        Node.text).contains "static" := by
  rw [isStatic, List.contains_eq_any_beq, List.any_map, List.any_filter]
  refine congrArg n.children.any (funext fun c => ?_)
  rw [Function.comp_apply, BEq.comm]

/-- What sort a function has by its name alone: that it is a method is seen from its class. -/
theorem kind_ne_method_of_functionName? {n : Node} {name : FunctionName}
    (h : n.functionName? = some name) : name.kind ≠ .method := by
  have hplain : ∀ (last : Node) (plain : FunctionName), last.plainFunctionName? = some plain →
      plain.kind ≠ .method := by
    intro last plain hlast
    unfold plainFunctionName? at hlast
    repeat' split at hlast
    all_goals cases hlast
    all_goals exact FunctionKind.noConfusion
  unfold functionName? at h
  split at h
  · cases h
  · exact hplain _ name h
  · obtain ⟨plain, hlast, rfl⟩ := Option.map_eq_some_iff.1 h
    unfold FunctionName.qualified
    dsimp only
    split
    · exact FunctionKind.noConfusion
    · exact hplain _ plain hlast

end Node

/-- The class of a member is known, if it has a name. -/
def FunctionSite.OwnerIsKnown (f : FunctionSite) (r : Registry) : Prop :=
  ∀ path ∈ f.owner, path.getLast? ≠ some "" → (r.get? path).isSome = true

/-- The parts of a function site fit together, where `r` are the known classes and `n` is the
declaration or definition. -/
structure FunctionSite.IsConsistent (f : FunctionSite) (r : Registry) (n : Node) : Prop where
  /-- The innermost scope of a member is a class. -/
  inClass : f.owner.isSome = true → ∃ s, f.scope.getLast? = some s ∧ s.kind = .record
  /-- The path of its class are the names of its scopes. -/
  owner_eq : ∀ path ∈ f.owner, path = scopeNames f.scope
  ownerIsKnown : f.OwnerIsKnown r
  isSome_owner_of_kind : f.kind = .method ∨ f.kind = .constructor → f.owner.isSome = true
  owner_eq_none_of_kind : f.kind = .function → f.owner = none
  isSome_owner_of_static : f.isStaticMember = true → f.owner.isSome = true
  owner_eq_none_of_c : f.linkage = .c → f.owner = none
  static_excludes_c : ¬(f.isStaticMember = true ∧ f.linkage = .c)
  internal_iff : f.linkage = .internal ↔
    (∃ s ∈ f.scope, s.kind = .anonymous) ∨ n.isStatic = true ∧ f.owner = none
  bounded : f.signature.IsBounded

namespace Context

variable (ctx : Context)

theorem linkageOf_eq_internal_iff (scope : List ScopeSegment) (isStatic isMember : Bool) :
    ctx.linkageOf scope isStatic isMember = .internal ↔
      (∃ s ∈ scope, s.kind = .anonymous) ∨ isStatic = true ∧ isMember = false := by
  unfold linkageOf
  split
  · next h => simpa using h
  · next h =>
    have hnot : ¬((∃ s ∈ scope, s.kind = .anonymous) ∨ isStatic = true ∧ isMember = false) := by
      simpa using h
    refine iff_of_false ?_ hnot
    split
    · exact Linkage.noConfusion
    · exact Linkage.noConfusion

theorem isMember_of_linkageOf_eq_c {ctx : Context} {scope : List ScopeSegment}
    {isStatic isMember : Bool} (h : ctx.linkageOf scope isStatic isMember = .c) :
    isMember = false := by
  rcases isMember
  · rfl
  · rw [linkageOf_member] at h
    split at h
    · cases h
    · cases h

theorem isSome_of_kindOf {name : FunctionName} {owner : Option ClassType}
    (hname : name.kind ≠ .method)
    (h : kindOf name owner = .method ∨ kindOf name owner = .constructor) :
    owner.isSome = true := by
  rcases owner with - | c
  · unfold kindOf at h
    rcases hkind : name.kind
    all_goals simp_all
  · rfl

theorem owner_eq_none_of_kindOf {name : FunctionName} {owner : Option ClassType}
    (h : kindOf name owner = .function) : owner = none := by
  rcases owner with - | c
  · rfl
  · -- a plain name in a class is that of a method or of a constructor
    unfold kindOf at h
    split at h
    · split at h
      · cases h
      · cases h
    · assumption
    · next hfunction _ => exact absurd rfl (hfunction c h)

theorem getLast?_of_ownerOf {ctx : Context} {r : Registry} {qualified : Bool}
    {scope : List ScopeSegment} (h : (ctx.ownerOf r qualified scope).isSome = true) :
    ∃ s, scope.getLast? = some s ∧ s.kind = .record := by
  unfold ownerOf at h
  split at h
  · next hends =>
    unfold endsInClass at hends
    rcases hlast : scope.getLast? with - | s
    · rw [hlast] at hends
      cases hends
    · rw [hlast, Option.any_some, decide_eq_true_iff] at hends
      exact ⟨s, rfl, hends⟩
  · cases h

section Site

variable {ctx : Context} {r : Registry} {file : String} {n : Node} {isDefinition : Bool}
  {parts : DeclaratorParts} {name : FunctionName}

theorem getLast?_scope_siteOf
    (h : (ctx.siteOf r file n isDefinition parts name).owner.isSome = true) :
    ∃ s, (ctx.siteOf r file n isDefinition parts name).scope.getLast? = some s ∧
      s.kind = .record := by
  rw [owner_siteOf, Option.isSome_map] at h
  exact getLast?_of_ownerOf h

theorem isSome_owner_of_kind_siteOf (hname : name.kind ≠ .method)
    (h : (ctx.siteOf r file n isDefinition parts name).kind = .method ∨
      (ctx.siteOf r file n isDefinition parts name).kind = .constructor) :
    (ctx.siteOf r file n isDefinition parts name).owner.isSome = true := by
  rw [kind_siteOf] at h
  rw [owner_siteOf, Option.isSome_map]
  exact isSome_of_kindOf hname h

theorem owner_eq_none_of_kind_siteOf
    (h : (ctx.siteOf r file n isDefinition parts name).kind = .function) :
    (ctx.siteOf r file n isDefinition parts name).owner = none := by
  rw [kind_siteOf] at h
  rw [owner_siteOf, owner_eq_none_of_kindOf h]
  rfl

theorem isStaticMember_siteOf : (ctx.siteOf r file n isDefinition parts name).isStaticMember =
    (n.isStatic && (ctx.siteOf r file n isDefinition parts name).owner.isSome) := by
  rw [owner_siteOf, Option.isSome_map, Node.isStatic_eq_contains]
  rfl

theorem isSome_owner_of_isStaticMember_siteOf
    (h : (ctx.siteOf r file n isDefinition parts name).isStaticMember = true) :
    (ctx.siteOf r file n isDefinition parts name).owner.isSome = true := by
  rw [isStaticMember_siteOf] at h
  exact (Bool.and_eq_true_iff.1 h).2

theorem linkage_siteOf_eq : (ctx.siteOf r file n isDefinition parts name).linkage =
    ctx.linkageOf (ctx.siteOf r file n isDefinition parts name).scope n.isStatic
      (ctx.siteOf r file n isDefinition parts name).owner.isSome := by
  rw [owner_siteOf, Option.isSome_map, Node.isStatic_eq_contains]
  rfl

theorem owner_eq_none_of_linkage_siteOf
    (h : (ctx.siteOf r file n isDefinition parts name).linkage = .c) :
    (ctx.siteOf r file n isDefinition parts name).owner = none := by
  rw [linkage_siteOf_eq] at h
  have hmember := isMember_of_linkageOf_eq_c h
  exact Option.isNone_iff_eq_none.1 (Option.isSome_eq_false_iff.1 hmember)

theorem linkage_siteOf_eq_internal_iff :
    (ctx.siteOf r file n isDefinition parts name).linkage = .internal ↔
      (∃ s ∈ (ctx.siteOf r file n isDefinition parts name).scope, s.kind = .anonymous) ∨
        n.isStatic = true ∧ (ctx.siteOf r file n isDefinition parts name).owner = none := by
  rw [linkage_siteOf_eq, linkageOf_eq_internal_iff, Option.isSome_eq_false_iff,
    Option.isNone_iff_eq_none]

theorem isBounded_signature_siteOf :
    (ctx.siteOf r file n isDefinition parts name).signature.IsBounded := by
  show ((parts.parameters.map Node.signature).getD {}).IsBounded
  rcases parts.parameters with - | parameters
  · exact Signature.isBounded_empty
  · exact Signature.isBounded_signature parameters

end Site

end Context

/-- A function is read with parts that fit together, if its class is known. -/
theorem FunctionSite.IsReadFrom.isConsistent {f : FunctionSite} {file : String} {r r' : Registry}
    {ctx : Context} {p : DeclaratorPlace} (h : f.IsReadFrom file r ctx p) (hctx : ctx.OwnsScope)
    (hknown : f.OwnerIsKnown r') : f.IsConsistent r' p.node := by
  have howner : ∀ path ∈ f.owner, path = scopeNames f.scope :=
    fun path hpath => (h.scopePath_eq hctx hpath).symm
  obtain ⟨r₁, ctx₁, -, hsite⟩ := h
  obtain ⟨parts, name, -, hname, rfl⟩ := Context.site?_eq_some_iff.1 hsite
  have hmethod : name.kind ≠ .method := Node.kind_ne_method_of_functionName? hname
  exact
    { inClass := Context.getLast?_scope_siteOf
      owner_eq := howner
      ownerIsKnown := hknown
      isSome_owner_of_kind := Context.isSome_owner_of_kind_siteOf hmethod
      owner_eq_none_of_kind := Context.owner_eq_none_of_kind_siteOf
      isSome_owner_of_static := Context.isSome_owner_of_isStaticMember_siteOf
      owner_eq_none_of_c := Context.owner_eq_none_of_linkage_siteOf
      static_excludes_c := by
        rintro ⟨hstatic, hc⟩
        have hsome := Context.isSome_owner_of_isStaticMember_siteOf hstatic
        rw [Context.owner_eq_none_of_linkage_siteOf hc] at hsome
        cases hsome
      internal_iff := Context.linkage_siteOf_eq_internal_iff
      bounded := Context.isBounded_signature_siteOf }

/-! ### Classes are known to their members -/

/-- A class that was taken up is at its path, if it has a name. -/
theorem Registry.get?_declare {r : Registry} {c : ClassType} (h : (r.declare c).1.name ≠ "") :
    (r.declare c).2.get? (r.declare c).1.path = some (r.declare c).1 := by
  unfold declare at h ⊢
  split
  · next hname =>
    rw [if_pos hname] at h
    exact absurd hname h
  · split
    · next first hfirst =>
      rw [r.path_eq hfirst]
      exact hfirst
    · show (r.classes.insert c.path c).get? c.path = some c
      rw [OrderedMap.get?_insert, if_pos rfl]

/-- A class specifier from which a node is entered has a body. -/
theorem Node.isSome_body_of_mem_declarationNext {n m : Node} (hclass : n.isOneOf classKinds = true)
    (hm : m ∈ n.declarationNext) : (n.child? "body").isSome = true := by
  have hkinds : n.kind = "class_specifier" ∨ n.kind = "struct_specifier" ∨
      n.kind = "union_specifier" := by
    simpa [Node.isOneOf, classKinds] using hclass
  have hnext : n.declarationNext = (n.child? "body").toList := by
    rcases hkinds with hkind | hkind | hkind
    · simp [declarationNext, isOneOf, hkind, transparentKinds, classKinds]
    · simp [declarationNext, isOneOf, hkind, transparentKinds, classKinds]
    · simp [declarationNext, isOneOf, hkind, transparentKinds, classKinds]
  rw [hnext, Option.mem_toList] at hm
  rw [hm]
  rfl

namespace Context

variable {ctx : Context} {r r' : Registry}

/-- The class whose body the context is in is known, if it has a name. -/
def IsKnown (ctx : Context) (r : Registry) : Prop :=
  ∀ c ∈ ctx.owner, c.name ≠ "" → r.get? c.path = some c

theorem IsKnown.of_none (h : ctx.owner = none) : ctx.IsKnown r := by
  intro c hc
  rw [h] at hc
  cases hc

theorem IsKnown.mono (h : ctx.IsKnown r) (hkeeps : r.Keeps r') : ctx.IsKnown r' :=
  fun c hc hname => hkeeps c.path c (h c hc hname)

theorem mem_owner_of_enterNamespace {n : Node} {c : ClassType}
    (h : c ∈ (ctx.enterNamespace n).owner) : c ∈ ctx.owner := by
  unfold enterNamespace at h
  split at h
  · cases h
  · generalize (Text.splitColons _).map Text.trim = parts at h
    induction parts generalizing ctx with
    | nil => exact h
    | cons part parts ih =>
      rw [List.foldl_cons] at h
      have hc := ih h
      split at hc
      · exact hc
      · cases hc

theorem owner_enterLinkage (ctx : Context) (isC : Bool) : (ctx.enterLinkage isC).owner = ctx.owner :=
  rfl

/-- Only a class specifier leads into another class. -/
theorem mem_owner_of_inside {file : String} {n : Node} {c : ClassType}
    (h : c ∈ (ctx.inside r file n).owner) :
    c ∈ ctx.owner ∨ n.isOneOf classKinds = true ∧ c = (r.declare (ctx.classType r file n)).1 := by
  unfold inside at h
  split at h
  · exact .inl h
  split at h
  · exact .inl h
  split at h
  · exact .inl (mem_owner_of_enterNamespace h)
  split at h
  · rw [owner_enterLinkage] at h
    exact .inl h
  split at h
  · exact .inl h
  split at h
  · next hclass =>
    cases h
    exact .inr ⟨hclass, rfl⟩
  split at h
  · cases h
  · exact .inl h

/-- The class whose body is entered has been taken up. -/
theorem IsKnown.inside {s : Survey} (h : ctx.IsKnown s.registry) (file : String) {n m : Node}
    (hm : m ∈ n.declarationNext) :
    (ctx.inside s.registry file n).IsKnown (Survey.enter file ctx n s).registry := by
  intro c hc hname
  rcases mem_owner_of_inside hc with hc | ⟨hclass, rfl⟩
  · exact Survey.keeps_enter file ctx n s c.path c (h c hc hname)
  · have hbody := Node.isSome_body_of_mem_declarationNext hclass hm
    rw [Survey.enter, hclass, hbody]
    exact Registry.get?_declare hname

/-- In a context whose class is known functions are read with known classes. -/
theorem IsKnown.ownerIsKnown {file : String} {n d : Node} {isDefinition : Bool} {f : FunctionSite}
    (h : ctx.IsKnown r) (hsite : ctx.site? r file n d isDefinition = some f) :
    f.OwnerIsKnown r := by
  intro path hpath hlast
  obtain ⟨parts, name, -, -, rfl⟩ := site?_eq_some_iff.1 hsite
  rw [owner_siteOf] at hpath
  obtain ⟨c, hc, rfl⟩ := Option.map_eq_some_iff.1 hpath
  have hget : r.get? c.path = some c := by
    unfold ownerOf at hc
    split at hc
    · split at hc
      · -- behind qualifiers the class was looked up
        rw [r.path_eq hc]
        exact hc
      · refine h c hc fun hname => hlast ?_
        rw [ClassType.path, List.getLast?_concat, hname]
    · cases hc
  rw [hget]
  rfl

end Context

namespace Survey

variable {file : String} {ctx : Context} {s s' : Survey}

/-- The classes of the functions so far and that of the context are known. -/
structure KnowsOwners (ctx : Context) (s : Survey) : Prop where
  context : ctx.IsKnown s.registry
  functions : ∀ f ∈ s.contents.functions, f.OwnerIsKnown s.registry

theorem KnowsOwners.of_functions_eq (h : KnowsOwners ctx s) (hkeeps : s.registry.Keeps s'.registry)
    (hfunctions : s'.contents.functions = s.contents.functions) : KnowsOwners ctx s' where
  context := h.context.mono hkeeps
  functions := by
    intro f hf path hpath hlast
    rw [hfunctions] at hf
    obtain ⟨c, hc⟩ := Option.isSome_iff_exists.1 (h.functions f hf path hpath hlast)
    rw [hkeeps path c hc]
    rfl

/-- What declares no functions forgets no classes either. -/
theorem KnowsOwners.of_declares (h : KnowsOwners ctx s) (hdeclares : Declares file ctx s s' []) :
    KnowsOwners ctx s' := by
  obtain ⟨hkeeps, added, hadded, hread⟩ := hdeclares
  cases hread
  rw [List.append_nil] at hadded
  exact h.of_functions_eq hkeeps hadded

theorem KnowsOwners.addDeclared (h : KnowsOwners ctx s) (file : String) (n d : Node)
    (isDefinition : Bool) : KnowsOwners ctx (addDeclared file ctx n d isDefinition s) := by
  unfold Survey.addDeclared
  split
  · next f hsite =>
    refine ⟨h.context, fun g hg => ?_⟩
    rcases List.mem_append.1 hg with hg | hg
    · exact h.functions g hg
    · rw [List.mem_singleton.1 hg]
      exact h.context.ownerIsKnown hsite
  · exact h

theorem KnowsOwners.addDefinition (h : KnowsOwners ctx s) (file : String) (n : Node) :
    KnowsOwners ctx (addDefinition file ctx n s) := by
  unfold Survey.addDefinition
  split
  · exact h
  split
  · exact h.addDeclared file n _ true
  · exact h.of_functions_eq (.refl _) rfl

theorem KnowsOwners.addDeclarator (h : KnowsOwners ctx s) (file : String) {n : Node}
    (hkind : n.kind ≠ "function_definition") (d : Node) :
    KnowsOwners ctx (addDeclarator file ctx n s d) := by
  have hdeclares := declares_addDeclarator hkind file ctx d s
  rw [Node.namedFunction?] at hdeclares
  rcases hd : d.definedDeclarator? with - | f
  · rw [hd] at hdeclares
    exact h.of_declares hdeclares
  · unfold Survey.addDeclarator
    rw [hd]
    exact h.addDeclared file n f false

theorem KnowsOwners.addOwn (h : KnowsOwners ctx s) (file : String) (n : Node) :
    KnowsOwners ctx (addOwn file ctx n s) := by
  have hdeclares := declares_addOwn file ctx n s
  by_cases hfunction : n.kind = "function_definition"
  · rw [Survey.addOwn, if_pos hfunction]
    exact h.addDefinition file n
  by_cases hdeclaration : n.isOneOf ["declaration", "field_declaration"]
  · rw [Survey.addOwn, if_neg hfunction, if_pos hdeclaration]
    exact List.foldlRecOn _ _ h fun s hs d _ => hs.addDeclarator file hfunction d
  · rw [Node.functionDeclarators, if_neg hfunction, if_neg hdeclaration] at hdeclares
    exact h.of_declares hdeclares

/-- Reading a tree leaves no function whose class is unknown. -/
theorem knowsOwners_walk (file : String) (n : Node) (h : KnowsOwners ctx s) :
    KnowsOwners ctx (walk file ctx n s) := by
  induction hsize : sizeOf n using Nat.strongRecOn generalizing n ctx s with
  | _ size ih =>
  subst hsize
  rw [walk_eq]
  refine KnowsOwners.addOwn ⟨?_, ?_⟩ file n
  · exact h.context.mono ((keeps_enter file ctx n s).trans (declares_readAll file _ _ _).keeps)
  have henter := h.of_functions_eq (keeps_enter file ctx n s) (functions_enter file ctx n s)
  rcases hnext : n.declarationNext with - | ⟨m, rest⟩
  · exact henter.functions
  · -- the context inside is one to read in only if something is entered
    have hm : m ∈ n.declarationNext := hnext ▸ List.mem_cons_self
    have hinside : KnowsOwners (ctx.inside s.registry file n) (enter file ctx n s) :=
      ⟨h.context.inside file hm, henter.functions⟩
    rw [← hnext]
    refine KnowsOwners.functions (List.foldlRecOn _ _ hinside fun t ht k hk => ?_)
    exact ih (sizeOf k) (Node.sizeOf_lt_of_mem_declarationNext hk) k ht rfl

end Survey

/-- **Every function of a file is consistent.**  Reading a tree gives one function for each place of a
declarator, in the order of the places, and the parts of each function fit together, with the
declaration at its place and with the classes that are known at the end. -/
theorem FileContents.forall₂_isConsistent (language : Language) (r : Registry) (file : String)
    (root : Node) :
    List.Forall₂
      (fun f p => FunctionSite.IsConsistent f (read language r file root).registry p.node)
      (read language r file root).contents.functions root.declaratorPlaces := by
  have hread := (Survey.forall₂_declared file { cLinkage := language = .c } root
    { registry := r }).flip
  have hstart : Survey.KnowsOwners { cLinkage := language = .c } { registry := r } :=
    ⟨.of_none rfl, List.forall_mem_nil _⟩
  have hknown := (Survey.knowsOwners_walk file root hstart).functions
  refine ((List.forall₂_and_left _ _).2 ⟨hknown, hread⟩).imp ?_
  rintro f p ⟨hf, hp⟩
  exact FunctionSite.IsReadFrom.isConsistent hp (.of_none rfl) hf

end Unreferenced
