/-
Unreferenced/Proofs/MemberScope.lean

Where the members of classes stand.

A function that has an owner is a member of the class whose path are the names
of the scopes around it.  Two things give a function an owner: it is read in the
body of a class, or its qualifiers lead to one.  In the second case the class was
looked up under just these names.  In the first case they follow from the
context: whatever nodes reading enters, the class whose body it is in stays the
class of the scope it is in (`Context.Leads.ownsScope`).
-/
import Unreferenced.Proofs.Chain
import Unreferenced.Proofs.DeclaratorPlace
import Unreferenced.Proofs.RegistryIndependence

namespace Unreferenced

namespace Context

variable {ctx : Context}

/-- The class whose body the context is in has the names of the scopes for its path. -/
def OwnsScope (ctx : Context) : Prop :=
  ∀ c ∈ ctx.owner, c.path = ctx.names

theorem OwnsScope.of_none (h : ctx.owner = none) : ctx.OwnsScope := by
  intro c hc
  rw [h] at hc
  cases hc

/-- A context with the same scope and the same class. -/
theorem OwnsScope.congr {ctx' : Context} (h : ctx.OwnsScope) (howner : ctx'.owner = ctx.owner)
    (hscope : ctx'.scope = ctx.scope) : ctx'.OwnsScope := by
  intro c hc
  rw [howner] at hc
  rw [h c hc, names, names, hscope]

theorem ownsScope_enterNamespace (h : ctx.OwnsScope) (n : Node) :
    (ctx.enterNamespace n).OwnsScope := by
  unfold enterNamespace
  split
  · exact .of_none rfl
  · -- a name of blanks and colons alone enters nothing
    generalize (Text.splitColons _).map Text.trim = parts
    induction parts generalizing ctx with
    | nil => exact h
    | cons part parts ih =>
      rw [List.foldl_cons]
      apply ih
      split
      · exact h
      · exact .of_none rfl

theorem ownsScope_enterLinkage (h : ctx.OwnsScope) (isC : Bool) :
    (ctx.enterLinkage isC).OwnsScope :=
  h.congr rfl rfl

/-- Entering a node keeps to the class of the scope. -/
theorem OwnsScope.inside {ctx : Context} (h : ctx.OwnsScope) (r : Registry) (file : String)
    (n : Node) : (ctx.inside r file n).OwnsScope := by
  have hplain : ctx.plain.OwnsScope := h.congr rfl rfl
  unfold Context.inside
  split
  · exact h
  split
  · exact hplain
  split
  · exact ownsScope_enterNamespace h n
  split
  · exact ownsScope_enterLinkage h _
  split
  · exact h.congr rfl rfl
  split
  · -- the body of a class
    intro c hc
    cases hc
    rw [r.path_declare]
    exact (ClassType.scopeNames_segments _).symm
  split
  · exact .of_none rfl
  · exact hplain

theorem Leads.ownsScope {file : String} {r r' : Registry} {ctx ctx' : Context} {nodes : List Node}
    (hleads : ctx.Leads file r nodes r' ctx') (h : ctx.OwnsScope) : ctx'.OwnsScope := by
  induction hleads with
  | nil _ => exact h
  | cons _ _ ih => exact ih (h.inside _ file _)

end Context

/-- A function read in a context that keeps to the class of its scope has the names of its scopes
for the path of its class. -/
theorem FunctionSite.IsReadFrom.scopePath_eq {s : FunctionSite} {file : String} {r : Registry}
    {ctx : Context} {p : DeclaratorPlace} (h : s.IsReadFrom file r ctx p) (hctx : ctx.OwnsScope)
    {path : List String} (howner : s.owner = some path) : s.scopePath = path := by
  obtain ⟨r', ctx', hleads, hsite⟩ := h
  obtain ⟨parts, name, -, -, rfl⟩ := Context.site?_eq_some_iff.1 hsite
  rw [Context.owner_siteOf] at howner
  obtain ⟨c, hc, rfl⟩ := Option.map_eq_some_iff.1 howner
  unfold Context.ownerOf at hc
  split at hc
  · split at hc
    · exact (r'.path_eq hc).symm
    · next hqualifiers =>
      -- without qualifiers the scope is that of the context
      have hnil : name.qualifiers = [] := by simpa using hqualifiers
      have hscope : (ctx'.siteOf r' file p.node p.isDefinition parts name).scope = ctx'.scope := by
        rw [Context.scope_siteOf, hnil]
        exact List.append_nil _
      rw [hleads.ownsScope hctx c hc, FunctionSite.scopePath, hscope]
      rfl
  · cases hc

theorem FunctionSite.IsReadFrom.file_eq {s : FunctionSite} {file : String} {r : Registry}
    {ctx : Context} {p : DeclaratorPlace} (h : s.IsReadFrom file r ctx p) :
    s.location.file = file := by
  obtain ⟨r', ctx', -, hsite⟩ := h
  obtain ⟨parts, name, -, -, rfl⟩ := Context.site?_eq_some_iff.1 hsite
  rfl

/-- Every function of a file was read at one of its places. -/
theorem FileContents.exists_isReadFrom {language : Language} {r : Registry} {file : String}
    {root : Node} {s : FunctionSite} (h : s ∈ (read language r file root).contents.functions) :
    ∃ p, s.IsReadFrom file r { cLinkage := language = .c } p := by
  obtain ⟨-, added, hadded, hread⟩ :=
    Survey.declares_walk file root { cLinkage := language = .c } { registry := r }
  have hmem : s ∈ added := by
    have hfunctions : (read language r file root).contents.functions = [] ++ added := hadded
    rwa [hfunctions, List.nil_append] at h
  have hall : List.Forall₂ (fun f p => (∃ p, f.IsReadFrom file r { cLinkage := language = .c } p) ∧
      f.IsReadFrom file r { cLinkage := language = .c } p) added root.declaratorPlaces :=
    hread.imp fun f p hf => ⟨⟨p, hf⟩, hf⟩
  exact ((List.forall₂_and_left _ _).1 hall).1 s hmem

namespace TranslationUnit

/-- What holds of the contents of every file, whatever classes are known before, holds of all
contents of a unit. -/
theorem forall_mem_readFiles {P : FileContents → Prop} {language : Language} {graph : IncludeGraph}
    (h : ∀ r, ∀ path ∈ graph.order, ∀ root, P (FileContents.read language r path root).contents) :
    ∀ c ∈ (readFiles language graph).contents, P c := by
  have hrun : ∀ (paths : List String) (r : Reading), paths ⊆ graph.order →
      (∀ c ∈ r.contents, P c) → ∀ c ∈ (paths.foldl (readFile language graph) r).contents, P c := by
    intro paths
    induction paths with
    | nil => exact fun r _ hr => hr
    | cons path paths ih =>
      intro r hpaths hr
      obtain ⟨hpath, hpaths⟩ := List.cons_subset.1 hpaths
      apply ih _ hpaths
      unfold readFile
      split
      · next root _ =>
        intro c hc
        rcases List.mem_append.1 hc with hc | hc
        · exact hr c hc
        · rw [List.mem_singleton.1 hc]
          exact h r.registry path hpath root
      · exact hr
  exact hrun graph.order {} (List.Subset.refl _) (List.forall_mem_nil _)

/-- The functions of a unit stand in files of its include graph. -/
theorem file_mem_order {main : String} {language : Language} {search : SearchPath}
    {graph : IncludeGraph} {s : FunctionSite}
    (hs : s ∈ (ofGraph main language search graph).functions) :
    s.location.file ∈ graph.order := by
  have hread : ∀ c ∈ (readFiles language graph).contents, ∀ t ∈ c.functions,
      t.location.file ∈ graph.order := by
    refine forall_mem_readFiles fun r file hfile root t ht => ?_
    obtain ⟨p, hp⟩ := FileContents.exists_isReadFrom ht
    rwa [hp.file_eq]
  obtain ⟨t, ht, rfl⟩ := List.mem_map.1 (show s ∈ sitesOf _ from hs)
  obtain ⟨c, hc, htc⟩ := List.mem_flatMap.1 ht
  have hkeeps : ∀ contents, (withPragmas contents t).location = t.location := by
    intro contents
    unfold withPragmas
    split
    · rfl
    · rfl
  rw [hkeeps]
  exact hread c hc t htc

/-- The members of a unit stand in the scopes of their classes. -/
theorem scopePath_of_owner {main : String} {language : Language} {search : SearchPath}
    {graph : IncludeGraph} {s : FunctionSite}
    (hs : s ∈ (ofGraph main language search graph).functions) {path : List String}
    (howner : s.owner = some path) : s.scopePath = path := by
  have hread : ∀ c ∈ (readFiles language graph).contents, ∀ t ∈ c.functions, ∀ path,
      t.owner = some path → t.scopePath = path := by
    refine forall_mem_readFiles fun r file _ root t ht path howner => ?_
    obtain ⟨p, hp⟩ := FileContents.exists_isReadFrom ht
    exact hp.scopePath_eq (.of_none rfl) howner
  obtain ⟨t, ht, rfl⟩ := List.mem_map.1 (show s ∈ sitesOf _ from hs)
  obtain ⟨c, hc, htc⟩ := List.mem_flatMap.1 ht
  -- pragmas change neither the class nor the scopes
  have hkeeps : ∀ contents, (withPragmas contents t).owner = t.owner ∧
      (withPragmas contents t).scopePath = t.scopePath := by
    intro contents
    unfold withPragmas
    split
    · exact ⟨rfl, rfl⟩
    · exact ⟨rfl, rfl⟩
  rw [(hkeeps _).1] at howner
  rw [(hkeeps _).2, hread c hc t htc path howner]

/-- A member of a class stands in the scopes of the class. -/
theorem scopePath_canonical {main : String} {language : Language} {search : SearchPath}
    {graph : IncludeGraph} {e : Chain} (he : e ∈ (ofGraph main language search graph).chains)
    {path : List String} (howner : e.owner = some path) : e.canonical.site.scopePath = path := by
  have hnumber := (chained_ofGraph main language search graph).mem_number he List.mem_cons_self
  exact scopePath_of_owner (Member.site_mem_of_mem_number hnumber) howner

end TranslationUnit

end Unreferenced
