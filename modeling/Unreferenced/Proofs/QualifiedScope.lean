/-
Unreferenced/Proofs/QualifiedScope.lean

Where the definition of a member stands if it is written outside of its class.

The first qualifier is looked up from the enclosing namespaces outwards, and the
others below what it names.  So the qualifiers `rest` reach the path
`outer ++ rest`, where `outer` are the namespaces in which the first one is found
(`exists_reached`).  The scopes along that path, which start at the global scope,
are then put behind the namespaces the definition stands in.

Hence the definition has the scope of the class only if `outer` is empty and a
class at the global scope looks just like the rest of the path
(`sameMember_outside_iff`).  At file scope this is the class itself.  Inside a
namespace it can only be another class, and with a single qualifier the enclosing
namespaces are always there twice.
-/
import Mathlib.Data.List.Basic
import Mathlib.Data.List.TakeWhile
import Unreferenced.FunctionSite.Reading
import Unreferenced.Proofs.Symbol

namespace Unreferenced

open Text

/-! ### Names and scopes -/

/-- A name without blanks and template arguments. -/
def IsPlainName (s : String) : Prop :=
  s ≠ "" ∧ s.toList.all fun c => c != '<' && !isBlank c

instance (s : String) : Decidable (IsPlainName s) :=
  inferInstanceAs (Decidable (_ ∧ _))

theorem IsPlainName.of_mem {s : String} (h : IsPlainName s) {c : Char} (hc : c ∈ s.toList) :
    c ≠ '<' ∧ isBlank c = false := by
  simpa using List.all_eq_true.1 h.2 c hc

theorem IsPlainName.before_eq {s : String} (h : IsPlainName s) : before '<' s = s := by
  have hall : s.toList.takeWhile (· != '<') = s.toList := by
    rw [List.takeWhile_eq_self_iff]
    intro c hc
    simpa using (h.of_mem hc).1
  rw [before, hall, String.ofList_toList]

theorem trim_eq_self {s : List Char} (h : ∀ c ∈ s, isBlank c = false) : trim s = s := by
  have hskip : skipBlanks s = s := by
    unfold skipBlanks
    rcases s with - | ⟨c, s⟩
    · rfl
    · rw [List.dropWhile_cons, h c List.mem_cons_self]
      rfl
  rw [trim, hskip]
  clear hskip
  induction s with
  | nil => rfl
  | cons c s ih =>
    have hs := ih fun d hd => h d (List.mem_cons_of_mem c hd)
    rw [dropTrailingBlanks, hs]
    rcases s with - | ⟨d, s⟩
    · show (if isBlank c then [] else [c]) = [c]
      rw [h c List.mem_cons_self]
      rfl
    · rfl

/-- The qualifier of a plain name names just that. -/
theorem IsPlainName.trim_before {s : String} (h : IsPlainName s) :
    String.ofList (trim (before '<' s).toList) = s := by
  rw [h.before_eq, trim_eq_self fun c hc => (h.of_mem hc).2, String.ofList_toList]

/-- Namespaces inside one another. -/
def namespaces (names : List String) : List ScopeSegment :=
  names.map fun name => ⟨.nspace, name, 0⟩

theorem scopeNames_append (a b : List ScopeSegment) :
    scopeNames (a ++ b) = scopeNames a ++ scopeNames b := by
  rw [scopeNames, List.filter_append, List.map_append]
  rfl

theorem scopeNames_namespaces (names : List String) : scopeNames (namespaces names) = names := by
  induction names with
  | nil => rfl
  | cons name names ih =>
    show name :: scopeNames (namespaces names) = name :: names
    rw [ih]

theorem ClassType.scopeNames_segments (c : ClassType) : scopeNames c.segments = c.path :=
  scopeNames_append c.scope [⟨.record, c.name, c.templateArity⟩]

theorem endsInClass_append_singleton (scope : List ScopeSegment) (s : ScopeSegment) :
    endsInClass (scope ++ [s]) = decide (s.kind = .record) := by
  rw [endsInClass, List.getLast?_concat]
  rfl

theorem ClassType.endsInClass_segments (c : ClassType) : endsInClass c.segments = true :=
  endsInClass_append_singleton c.scope ⟨.record, c.name, c.templateArity⟩

/-- Whether a scope ends in a class is decided by its last part. -/
theorem endsInClass_append {a b : List ScopeSegment} (hb : b ≠ []) :
    endsInClass (a ++ b) = endsInClass b := by
  rw [endsInClass, endsInClass, List.getLast?_append_of_ne_nil a hb]

/-! ### Looking a class up from inside out -/

/-- A scope and the scopes around it, innermost first, without the global scope. -/
def outwardWithin (path : List String) : List (List String) :=
  (List.range path.length).reverse.map fun depth => path.take (depth + 1)

theorem outward_eq (path : List String) : outward path = outwardWithin path ++ [[]] := by
  unfold outward outwardWithin
  rw [List.range_succ_eq_map, List.reverse_cons, List.map_append, ← List.map_reverse, List.map_map]
  rfl

theorem mem_outwardWithin {path outer : List String} :
    outer ∈ outwardWithin path ↔ outer ≠ [] ∧ outer <+: path := by
  unfold outwardWithin
  rw [List.mem_map]
  constructor
  · rintro ⟨depth, hdepth, rfl⟩
    rw [List.mem_reverse, List.mem_range] at hdepth
    refine ⟨?_, List.take_prefix _ path⟩
    rw [← List.length_pos_iff, List.length_take]
    omega
  · rintro ⟨hne, h⟩
    have hlength := h.length_le
    have hpos := List.length_pos_iff.2 hne
    refine ⟨outer.length - 1, ?_, ?_⟩
    · rw [List.mem_reverse, List.mem_range]
      omega
    · rw [Nat.sub_add_cancel hpos]
      exact (List.prefix_iff_eq_take.1 h).symm

namespace Registry

variable (r : Registry)

/-- The class that a partial path names in one of the enclosing scopes, the global one left out. -/
def findWithin? (parts enclosing : List String) : Option ClassType :=
  (outwardWithin enclosing).findSome? fun outer => r.get? (outer ++ parts)

theorem find?_eq_or (parts enclosing : List String) :
    r.find? parts enclosing = (r.findWithin? parts enclosing).or (r.get? parts) := by
  unfold find? findWithin?
  rw [outward_eq, List.findSome?_append, List.findSome?_singleton]
  rfl

theorem findWithin?_eq_none_iff {parts enclosing : List String} :
    r.findWithin? parts enclosing = none ↔
      ∀ outer, outer ≠ [] → outer <+: enclosing → r.get? (outer ++ parts) = none := by
  unfold findWithin?
  rw [List.findSome?_eq_none_iff]
  constructor
  · intro h outer hne houter
    exact h outer (mem_outwardWithin.2 ⟨hne, houter⟩)
  · intro h outer houter
    obtain ⟨hne, houter⟩ := mem_outwardWithin.1 houter
    exact h outer hne houter

theorem exists_of_findWithin? {parts enclosing : List String} {c : ClassType}
    (h : r.findWithin? parts enclosing = some c) :
    ∃ outer, outer ≠ [] ∧ r.get? (outer ++ parts) = some c := by
  obtain ⟨outer, houter, hc⟩ := List.exists_of_findSome?_eq_some h
  exact ⟨outer, (mem_outwardWithin.1 houter).1, hc⟩

/-- A class in the innermost scope is found before all others. -/
theorem find?_of_get? {parts enclosing : List String} {c : ClassType}
    (h : r.get? (enclosing ++ parts) = some c) : r.find? parts enclosing = some c := by
  unfold find? outward
  rw [List.range_succ, List.reverse_append, List.map_append]
  show List.findSome? _ (enclosing.take enclosing.length :: _) = some c
  rw [List.take_length, List.findSome?_cons, h]

/-! ### What qualifiers reach -/

theorem qualifierStep_eq {q : String} (hq : IsPlainName q) (enclosing : List String)
    (reached : List ScopeSegment × List String) :
    r.qualifierStep enclosing reached q =
      match r.find? (reached.2 ++ [q]) (if reached.2.isEmpty then enclosing else []) with
      | some c => (c.segments, c.path)
      | none => (reached.1 ++ [⟨.nspace, q, 0⟩], reached.2 ++ [q]) := by
  unfold qualifierStep
  rw [hq.trim_before]
  exact if_neg hq.1

theorem qualifierStep_first {q : String} (hq : IsPlainName q) (enclosing : List String) :
    r.qualifierStep enclosing ([], []) q =
      match r.find? [q] enclosing with
      | some c => (c.segments, c.path)
      | none => (namespaces [q], [q]) :=
  qualifierStep_eq r hq enclosing ([], [])

/-- Some qualifiers have led to a path, and stand for the scopes along it: those of the class at the
path, or scopes that end in a namespace if there is no class. -/
structure Reached (path : List String) (reached : List ScopeSegment × List String) : Prop where
  path_eq : reached.2 = path
  names : scopeNames reached.1 = path
  segments : ∀ c, r.get? path = some c → reached.1 = c.segments
  noClass : r.get? path = none → endsInClass reached.1 = false

variable {r}

theorem reached_class {path : List String} {c : ClassType} (h : r.get? path = some c) :
    r.Reached path (c.segments, c.path) where
  path_eq := r.path_eq h
  names := c.scopeNames_segments.trans (r.path_eq h)
  segments := by
    intro d hd
    cases h.symm.trans hd
    rfl
  noClass := by
    intro hnone
    cases h.symm.trans hnone

theorem reached_namespace {segments : List ScopeSegment} {path : List String} {q : String}
    (hnames : scopeNames segments = path) (h : r.get? (path ++ [q]) = none) :
    r.Reached (path ++ [q]) (segments ++ [⟨.nspace, q, 0⟩], path ++ [q]) where
  path_eq := rfl
  names := by
    show scopeNames (segments ++ namespaces [q]) = path ++ [q]
    rw [scopeNames_append, scopeNames_namespaces, hnames]
  segments := by
    intro c hc
    cases h.symm.trans hc
  noClass := fun _ => endsInClass_append_singleton segments ⟨.nspace, q, 0⟩

/-- The first qualifier is looked up from the enclosing scopes outwards.  It is taken to stand at the
global scope exactly if none of the others has a class of that name. -/
theorem exists_reached_first {q : String} (hq : IsPlainName q) (enclosing : List String) :
    ∃ outer, r.Reached (outer ++ [q]) (r.qualifierStep enclosing ([], []) q) ∧
      (outer = [] ↔
        ∀ inner, inner ≠ [] → inner <+: enclosing → r.get? (inner ++ [q]) = none) := by
  rw [qualifierStep_first r hq, ← findWithin?_eq_none_iff, find?_eq_or]
  rcases hwithin : r.findWithin? [q] enclosing with - | c
  · -- what is left is the global scope
    refine ⟨[], ?_, Iff.intro (fun _ => rfl) fun _ => rfl⟩
    rw [Option.none_or]
    rcases hglobal : r.get? [q] with - | c
    · exact @reached_namespace r [] [] q rfl hglobal
    · exact reached_class hglobal
  · obtain ⟨outer, hne, hc⟩ := r.exists_of_findWithin? hwithin
    refine ⟨outer, reached_class hc, Iff.intro (fun h => absurd h hne) ?_⟩
    intro h
    cases h

/-- The qualifiers after the first one lead further along the path. -/
theorem Reached.step {path : List String} {reached : List ScopeSegment × List String}
    (h : r.Reached path reached) (hne : path ≠ []) {q : String} (hq : IsPlainName q)
    (enclosing : List String) :
    r.Reached (path ++ [q]) (r.qualifierStep enclosing reached q) := by
  have hempty : path.isEmpty = false := List.isEmpty_eq_false_iff.2 hne
  rw [qualifierStep_eq r hq, h.path_eq, hempty]
  show r.Reached (path ++ [q]) (match r.find? (path ++ [q]) [] with | some c => _ | none => _)
  rw [find?_eq_or]
  show r.Reached (path ++ [q]) (match r.get? (path ++ [q]) with | some c => _ | none => _)
  rcases hc : r.get? (path ++ [q]) with - | c
  · exact reached_namespace h.names hc
  · exact reached_class hc

theorem Reached.foldl {path : List String} {reached : List ScopeSegment × List String}
    (h : r.Reached path reached) (hne : path ≠ []) {qualifiers : List String}
    (hq : ∀ q ∈ qualifiers, IsPlainName q) (enclosing : List String) :
    r.Reached (path ++ qualifiers) (qualifiers.foldl (r.qualifierStep enclosing) reached) := by
  induction qualifiers generalizing path reached with
  | nil =>
    rw [List.append_nil]
    exact h
  | cons q qualifiers ih =>
    have hstep := h.step hne (hq q List.mem_cons_self) enclosing
    have hrest := ih hstep (List.append_ne_nil_of_right_ne_nil path (List.cons_ne_nil q []))
      fun p hp => hq p (List.mem_cons_of_mem q hp)
    rw [List.append_cons, List.foldl_cons]
    exact hrest

/-- Qualifiers reach the path that they spell below the scopes in which the first one is found. -/
theorem exists_reached {first : String} {rest : List String}
    (hplain : ∀ q ∈ first :: rest, IsPlainName q) (enclosing : List String) :
    ∃ outer, r.Reached (outer ++ first :: rest)
        ((first :: rest).foldl (r.qualifierStep enclosing) ([], [])) ∧
      (outer = [] ↔
        ∀ inner, inner ≠ [] → inner <+: enclosing → r.get? (inner ++ [first]) = none) := by
  obtain ⟨outer, hfirst, hiff⟩ :=
    exists_reached_first (r := r) (hplain first List.mem_cons_self) enclosing
  refine ⟨outer, ?_, hiff⟩
  rw [List.append_cons, List.foldl_cons]
  exact hfirst.foldl (List.append_ne_nil_of_right_ne_nil outer (List.cons_ne_nil first []))
    (fun q hq => hplain q (List.mem_cons_of_mem first hq)) enclosing

/-- The scope of a definition inside namespaces is that of the class at `spaces ++ first :: rest` only
by way of a class at the global scope that looks like the rest of the path. -/
theorem scope_outside_iff {spaces : List String} {first : String} {rest : List String}
    {c : ClassType} (hc : r.get? (spaces ++ first :: rest) = some c)
    (hplain : ∀ q ∈ first :: rest, IsPlainName q) :
    namespaces spaces ++ r.qualifierScopes spaces (first :: rest) = c.segments ↔
      (∀ outer, outer ≠ [] → outer <+: spaces → r.get? (outer ++ [first]) = none) ∧
        ∃ b, r.get? (first :: rest) = some b ∧ namespaces spaces ++ b.segments = c.segments := by
  obtain ⟨outer, hreached, hiff⟩ := exists_reached (r := r) hplain spaces
  rw [← hiff]
  unfold qualifierScopes
  constructor
  · intro hscope
    -- the names of both scopes are known, and only an empty `outer` makes them agree
    have hnames := congrArg scopeNames hscope
    rw [scopeNames_append, scopeNames_namespaces, hreached.names, c.scopeNames_segments,
      r.path_eq hc, List.append_cancel_left_eq] at hnames
    have houter : outer = [] := List.append_left_eq_self.1 hnames
    subst houter
    refine ⟨rfl, ?_⟩
    rcases hglobal : r.get? (first :: rest) with - | b
    · -- without a class the scope would end in a namespace
      have hne : ((first :: rest).foldl (r.qualifierStep spaces) ([], [])).1 ≠ [] := by
        intro hnil
        have hreachedNames := hreached.names
        rw [hnil] at hreachedNames
        cases hreachedNames
      have hends := c.endsInClass_segments
      rw [← hscope, endsInClass_append hne, hreached.noClass hglobal] at hends
      cases hends
    · refine ⟨b, rfl, ?_⟩
      rw [← hreached.segments b hglobal]
      exact hscope
  · rintro ⟨rfl, b, hb, hscope⟩
    rw [hreached.segments b hb]
    exact hscope

/-- A single qualifier is found in the innermost scope, and stands for all scopes of its class. -/
theorem qualifierScopes_singleton {spaces : List String} {q : String} {c : ClassType}
    (hc : r.get? (spaces ++ [q]) = some c) (hq : IsPlainName q) :
    r.qualifierScopes spaces [q] = c.segments := by
  unfold qualifierScopes
  rw [List.foldl_cons, List.foldl_nil, qualifierStep_first r hq, r.find?_of_get? hc]

end Registry

/-! ### The declaration of a member and its definition -/

namespace Context

/-- The context of a declaration in the body of a class. -/
def inBody (base : Context) (c : ClassType) : Context :=
  { base with scope := c.segments, owner := some c }

/-- The context of a declaration inside namespaces. -/
def inNamespaces (base : Context) (spaces : List String) : Context :=
  { base with scope := namespaces spaces, owner := none }

/-- Behind the name of its class, a member has the sort it has in the body of the class. -/
theorem kindOf_qualified (name : FunctionName) {qualifiers : List String} {c : ClassType}
    (h : before '<' (qualifiers.getLastD "") = before '<' c.name) :
    kindOf (name.qualified qualifiers) (some c) = kindOf name (some c) := by
  unfold FunctionName.qualified
  rw [h]
  by_cases hc : name.kind = .function ∧ name.name = before '<' c.name
  · -- a function named like its class is a constructor in both places
    rw [if_pos hc]
    unfold kindOf
    rw [hc.1]
    exact (if_pos hc.2).symm
  · rw [if_neg hc]
    rfl

/-- Whether a member has internal linkage depends on its scope only. -/
theorem linkageOf_member (ctx : Context) (scope : List ScopeSegment) (isStatic : Bool) :
    ctx.linkageOf scope isStatic true =
      if scope.any fun s => s.kind == .anonymous then .internal else .external := by
  unfold linkageOf
  rw [Bool.not_true, Bool.and_false, Bool.or_false, Bool.and_false]
  rfl

section Site

variable (ctx : Context) (r : Registry) (file : String) (n : Node) (isDefinition : Bool)
  (parts : DeclaratorParts) (name : FunctionName)

theorem scope_siteOf : (ctx.siteOf r file n isDefinition parts name).scope =
    ctx.scope ++ r.qualifierScopes ctx.names name.qualifiers :=
  rfl

theorem owner_siteOf : (ctx.siteOf r file n isDefinition parts name).owner =
    (ctx.ownerOf r (!name.qualifiers.isEmpty)
      (ctx.scope ++ r.qualifierScopes ctx.names name.qualifiers)).map ClassType.path :=
  rfl

theorem kind_siteOf : (ctx.siteOf r file n isDefinition parts name).kind =
    kindOf name (ctx.ownerOf r (!name.qualifiers.isEmpty)
      (ctx.scope ++ r.qualifierScopes ctx.names name.qualifiers)) :=
  rfl

variable {ctx r file n isDefinition parts name}

theorem linkage_siteOf (h : (ctx.siteOf r file n isDefinition parts name).owner.isSome = true) :
    (ctx.siteOf r file n isDefinition parts name).linkage =
      if (ctx.siteOf r file n isDefinition parts name).scope.any fun s => s.kind == .anonymous then
        .internal
      else .external := by
  rw [owner_siteOf, Option.isSome_map] at h
  rw [scope_siteOf, ← linkageOf_member, ← h]
  rfl

end Site

end Context

namespace FunctionSite

/-- Two sites declare one member: they have the same scopes, the same class and the same sort. -/
def SameMember (s t : FunctionSite) : Prop :=
  s.scope = t.scope ∧ s.owner = t.owner ∧ s.kind = t.kind

instance (s t : FunctionSite) : Decidable (s.SameMember t) :=
  inferInstanceAs (Decidable (_ ∧ _ ∧ _))

end FunctionSite

/-- The name of the function that a declarator declares. -/
def Node.declaredFunction? (declarator : Node) : Option FunctionName :=
  declarator.declaratorParts?.bind fun parts => parts.nameNode.functionName?

namespace Context

variable {r : Registry} {spaces : List String} {first : String} {rest : List String}
  {c : ClassType}

/-- A declarator that gives a name to a function has a site. -/
theorem exists_siteOf {declarator : Node} {name : FunctionName}
    (h : declarator.declaredFunction? = some name) (ctx : Context) (r : Registry) (file : String)
    (n : Node) (isDefinition : Bool) :
    ∃ parts, ctx.site? r file n declarator isDefinition =
      some (ctx.siteOf r file n isDefinition parts name) := by
  obtain ⟨parts, hparts, hname⟩ := Option.bind_eq_some_iff.1 h
  refine ⟨parts, ?_⟩
  unfold site?
  rw [hparts, Option.bind_some, hname]
  rfl

/-- A member declared in the body of its class. -/
theorem siteOf_inBody (base : Context) (c : ClassType) (r : Registry) (file : String) (n : Node)
    (isDefinition : Bool) (parts : DeclaratorParts) {name : FunctionName}
    (hname : name.qualifiers = []) :
    ((base.inBody c).siteOf r file n isDefinition parts name).scope = c.segments ∧
      ((base.inBody c).siteOf r file n isDefinition parts name).owner = some c.path ∧
      ((base.inBody c).siteOf r file n isDefinition parts name).kind = kindOf name (some c) := by
  have hscope : (base.inBody c).scope ++ r.qualifierScopes (base.inBody c).names name.qualifiers =
      c.segments := by
    rw [hname]
    exact List.append_nil c.segments
  have howner : (base.inBody c).ownerOf r (!name.qualifiers.isEmpty) c.segments = some c := by
    unfold ownerOf
    rw [if_pos c.endsInClass_segments, hname]
    rfl
  rw [scope_siteOf, owner_siteOf, kind_siteOf, hscope, howner]
  exact ⟨rfl, rfl, rfl⟩

theorem names_inNamespaces (base : Context) (spaces : List String) :
    (base.inNamespaces spaces).names = spaces :=
  scopeNames_namespaces spaces

section Outside

variable (base base' : Context) (r₀ : Registry) (file file' : String) (n n' : Node)
  (parts parts' : DeclaratorParts) (name : FunctionName)

variable (r spaces first rest) in
theorem scope_siteOf_inNamespaces :
    ((base'.inNamespaces spaces).siteOf r file' n' true parts'
        (name.qualified (first :: rest))).scope =
      namespaces spaces ++ r.qualifierScopes spaces (first :: rest) := by
  rw [scope_siteOf, names_inNamespaces]
  rfl

/-- A definition outside of the class that has its scope is one of a member of the class. -/
theorem siteOf_inNamespaces (hc : r.get? (spaces ++ first :: rest) = some c)
    (hscope : namespaces spaces ++ r.qualifierScopes spaces (first :: rest) = c.segments) :
    ((base'.inNamespaces spaces).siteOf r file' n' true parts'
        (name.qualified (first :: rest))).owner = some c.path ∧
      ((base'.inNamespaces spaces).siteOf r file' n' true parts'
        (name.qualified (first :: rest))).kind = kindOf name (some c) := by
  have howner : (base'.inNamespaces spaces).ownerOf r true c.segments = some c := by
    unfold ownerOf
    rw [if_pos c.endsInClass_segments, c.scopeNames_segments, r.path_eq hc]
    exact hc
  have hlast : (first :: rest).getLastD "" = c.name := by
    have hpath : (spaces ++ first :: rest).getLast? = some c.name := by
      rw [← r.path_eq hc]
      exact List.getLast?_concat
    rw [List.getLast?_append_cons] at hpath
    rw [List.getLastD_eq_getLast?, hpath]
    rfl
  have hscope' : (base'.inNamespaces spaces).scope ++ r.qualifierScopes
      (base'.inNamespaces spaces).names (name.qualified (first :: rest)).qualifiers = c.segments := by
    rw [names_inNamespaces]
    exact hscope
  rw [owner_siteOf, kind_siteOf, hscope']
  show (ownerOf _ r true c.segments).map _ = _ ∧ kindOf _ (ownerOf _ r true c.segments) = _
  rw [howner, kindOf_qualified name (congrArg (before '<') hlast)]
  exact ⟨rfl, rfl⟩

variable {name}

/-- The two sites of a member are taken for one exactly if their scopes are the same. -/
theorem sameMember_siteOf_iff (hc : r.get? (spaces ++ first :: rest) = some c)
    (hname : name.qualifiers = []) :
    ((base'.inNamespaces spaces).siteOf r file' n' true parts'
        (name.qualified (first :: rest))).SameMember
        ((base.inBody c).siteOf r₀ file n false parts name) ↔
      namespaces spaces ++ r.qualifierScopes spaces (first :: rest) = c.segments := by
  obtain ⟨hscope, howner, hkind⟩ := siteOf_inBody base c r₀ file n false parts hname
  rw [FunctionSite.SameMember, hscope, howner, hkind, scope_siteOf_inNamespaces]
  constructor
  · exact fun h => h.1
  · exact fun h => ⟨h, siteOf_inNamespaces base' file' n' parts' name hc h⟩

/-- The symbol of a member shows its scope: it is never one with C linkage. -/
theorem linkage_siteOf_inBody_ne (hname : name.qualifiers = []) :
    ((base.inBody c).siteOf r₀ file n false parts name).linkage ≠ .c := by
  obtain ⟨-, howner, -⟩ := siteOf_inBody base c r₀ file n false parts hname
  rw [linkage_siteOf (congrArg Option.isSome howner)]
  split
  · exact nofun
  · exact nofun

end Outside

/-! ### A member and its two sites -/

/-- The class of `namespace N { class C { void m(); }; void C::m() {} }`. -/
def sampleClass : ClassType where
  key := .named ["N", "C"]
  name := "C"
  scope := namespaces ["N"]
  templateArity := 0
  location := ⟨"/p/a.cpp", 1⟩
  bases := []

/-- A named node of a sample declarator. -/
def sampleNode (kind field text : String) (children : List Node) : Node :=
  ⟨kind, text, 0, 0, true, false, false, field, children⟩

/-- The declarator of a function without parameters. -/
def sampleDeclarator (text : String) (name : Node) : Node :=
  sampleNode "function_declarator" "declarator" text
    [name, sampleNode "parameter_list" "parameters" "()" []]

/-- The declarator `m()` in the body of the class. -/
def sampleInside : Node :=
  sampleDeclarator "m()" (sampleNode "field_identifier" "declarator" "m" [])

/-- The declarator `C::m()` behind the class. -/
def sampleOutside : Node :=
  sampleDeclarator "C::m()" (sampleNode "qualified_identifier" "declarator" "C::m"
    [sampleNode "namespace_identifier" "scope" "C" [], sampleNode "identifier" "name" "m" []])

/-- **A definition outside of its class.**  A member that is declared in the body of a class and
defined inside namespaces, behind the rest of the path of the class, has two sites.

They are taken for one member exactly if the first qualifier names no class in one of these
namespaces and a class at the global scope stands for the rest of the path.  At file scope this is
so.  If they are taken for one member, and are written alike, they have one symbol.  Behind a single
qualifier the definition stands in the namespaces twice over, and has another symbol. -/
theorem sameMember_outside_iff (hc : r.get? (spaces ++ first :: rest) = some c)
    (hplain : ∀ q ∈ first :: rest, IsPlainName q) {name : FunctionName}
    (hname : name.qualifiers = []) {d d' : Node} (hd : d.declaredFunction? = some name)
    (hd' : d'.declaredFunction? = some (name.qualified (first :: rest))) (r₀ : Registry)
    (base base' : Context) (file file' : String) (n n' : Node) :
    ∃ s s', (base.inBody c).site? r₀ file n d false = some s ∧
      (base'.inNamespaces spaces).site? r file' n' d' true = some s' ∧
      (s'.SameMember s ↔
        (∀ outer, outer ≠ [] → outer <+: spaces → r.get? (outer ++ [first]) = none) ∧
          ∃ b, r.get? (first :: rest) = some b ∧ namespaces spaces ++ b.segments = c.segments) ∧
      (spaces = [] → s'.SameMember s) ∧
      (s'.SameMember s → s'.WrittenAlike s → s'.symbol? = s.symbol?) ∧
      (rest = [] → s'.scope = namespaces spaces ++ s.scope ∧
        (spaces ≠ [] → s'.linkage = s.linkage → s'.WrittenAlike s → s.symbol?.isSome →
          s'.symbol? ≠ s.symbol?)) := by
  obtain ⟨parts, hs⟩ := exists_siteOf hd (base.inBody c) r₀ file n false
  obtain ⟨parts', hs'⟩ := exists_siteOf hd' (base'.inNamespaces spaces) r file' n' true
  obtain ⟨hscope, howner, -⟩ := siteOf_inBody base c r₀ file n false parts hname
  have hiff := (sameMember_siteOf_iff base base' r₀ file file' n n' parts parts' hc hname).trans
    (Registry.scope_outside_iff hc hplain)
  refine ⟨_, _, hs, hs', hiff, ?_, ?_, ?_⟩
  · rintro rfl
    refine hiff.2 ⟨?_, c, hc, rfl⟩
    intro outer hne houter
    exact absurd (List.prefix_nil.1 houter) hne
  · -- both are members, so their linkage follows from their scope
    rintro ⟨hscopes, howners, hkinds⟩ halike
    have hmember := congrArg Option.isSome howner
    have hmember' := (congrArg Option.isSome howners).trans hmember
    apply halike.symbol?_eq hkinds hscopes
    rw [linkage_siteOf hmember, linkage_siteOf hmember', hscopes]
  · rintro rfl
    have htwice := scope_siteOf_inNamespaces r spaces first [] base' file' n' parts' name
    rw [Registry.qualifierScopes_singleton hc (hplain first List.mem_cons_self), ← hscope] at htwice
    refine ⟨htwice, ?_⟩
    intro hne hlinkage halike hsome
    obtain ⟨space, more, rfl⟩ := List.exists_cons_of_ne_nil hne
    exact halike.symbol?_ne hlinkage (linkage_siteOf_inBody_ne base r₀ file n parts hname) htwice
      hsome

/-- Declaration and definition of the sample class's member are not taken for one member: the
definition stands in `N::N::C`. -/
theorem sameMember_outside_iff_sample :
    (Registry.empty.register sampleClass).get? (["N"] ++ ["C"]) = some sampleClass ∧
      sampleInside.declaredFunction? = some { name := "m" } ∧
      sampleOutside.declaredFunction? = some { qualifiers := ["C"], name := "m" } ∧
      ∃ s s', (inBody {} sampleClass).site? .empty "/p/a.cpp" default sampleInside false = some s ∧
        (inNamespaces {} ["N"]).site? (Registry.empty.register sampleClass) "/p/a.cpp" default
          sampleOutside true = some s' ∧
        ¬s'.SameMember s ∧ s'.scope = namespaces ["N"] ++ s.scope := by
  have hc : (Registry.empty.register sampleClass).get? (["N"] ++ ["C"]) = some sampleClass := by
    decide +kernel
  have hplain : ∀ q ∈ ["C"], IsPlainName q := by decide +kernel
  have hd : sampleInside.declaredFunction? = some { name := "m" } := by decide +kernel
  have hd' : sampleOutside.declaredFunction? =
      some (FunctionName.qualified { name := "m" } ["C"]) := by decide +kernel
  obtain ⟨s, s', hs, hs', hiff, -, -, hsingle⟩ := sameMember_outside_iff hc hplain rfl hd hd'
    .empty {} {} "/p/a.cpp" "/p/a.cpp" default default
  refine ⟨hc, hd, hd', s, s', hs, hs', ?_, (hsingle rfl).1⟩
  intro hsame
  -- the qualifier names the class in the namespace around the definition
  have hnone := (hiff.1 hsame).1 ["N"] (List.cons_ne_nil _ _) (List.prefix_refl _)
  cases hc.symm.trans hnone

end Context

end Unreferenced
