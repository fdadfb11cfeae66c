/-
Unreferenced/Proofs/NameLookup.lean

What a name is looked up to.

A name without qualifiers is looked for in the class it stands in and the
ancestors of that class, then in the scopes around it, innermost first, and then
anywhere; the name of a member is looked for in the class of the receiver and its
ancestors, and then in any class.  `Unqualified` and `MemberNamed` say so without
the searches that find it: they speak of the nearest class that has a method of
the name, and of the longest scope that has a function of the name.

Each search takes the first place of a list where there is something (`IsFirst`).
For the classes that is the nearest one, because ancestors are listed nearest
first (`exists_isNearestHolder`), and for the scopes the longest one
(`exists_isInnermost`).  What is found is never lost again to the number of the
arguments (`narrow_eq`).
-/
import Unreferenced.Proofs.Ancestry
import Unreferenced.Proofs.Chain
import Unreferenced.TranslationUnit.Lookup

namespace Unreferenced

/-! ### The number of arguments -/

/-- Narrowing keeps the functions that accept the arguments if there is a choice and one of them
does, and everything otherwise. -/
theorem narrow_eq (found : List Chain) (arity : Option Nat) :
    narrow found arity =
      if 1 < found.length ∧ ∃ e ∈ found, e.accepts arity = true then
        found.filter fun e => e.accepts arity
      else found := by
  rcases arity with - | n
  · -- an unknown number is accepted by all
    have hall : found.filter (fun e => e.accepts none) = found := List.filter_eq_self.2 fun _ _ => rfl
    rw [hall, ite_self]
    rfl
  · by_cases hlength : found.length ≤ 1
    · rw [if_neg fun h => Nat.not_lt.2 hlength h.1]
      exact if_pos (by simp [hlength])
    · have hnil : found.filter (fun e => e.accepts (some n)) = [] ↔
          ¬∃ e ∈ found, e.accepts (some n) = true := by
        rw [List.filter_eq_nil_iff]
        push Not
        rfl
      unfold narrow
      rw [if_neg (by simp [hlength])]
      split
      · next heq => rw [if_neg fun h => hnil.1 heq h.2]
      · next hne =>
        rw [if_pos ⟨Nat.not_le.1 hlength, not_not.1 fun h => hne (hnil.2 h)⟩]

theorem narrow_sublist (found : List Chain) (arity : Option Nat) :
    (narrow found arity).Sublist found := by
  rw [narrow_eq]
  split
  · exact List.filter_sublist
  · exact .refl found

/-- Narrowing never loses the last function. -/
theorem narrow_eq_nil {found : List Chain} {arity : Option Nat} :
    narrow found arity = [] ↔ found = [] := by
  constructor
  · rw [narrow_eq]
    split
    · next h =>
      obtain ⟨-, e, he, haccepts⟩ := h
      intro hnil
      exact absurd haccepts (List.filter_eq_nil_iff.1 hnil e he)
    · exact id
  · rintro rfl
    exact List.sublist_nil.1 (narrow_sublist [] arity)

/-- Of functions of one name, narrowing leaves such functions, and none twice. -/
theorem name_nodup_narrow {chains found : List Chain} {name : String} (hnodup : chains.Nodup)
    (hsublist : found.Sublist chains) (hname : ∀ e ∈ found, e.name = name) (arity : Option Nat) :
    (∀ e ∈ narrow found arity, e ∈ chains ∧ e.name = name) ∧ (narrow found arity).Nodup := by
  have hnarrow := narrow_sublist found arity
  refine ⟨fun e he => ?_, hnodup.sublist (hnarrow.trans hsublist)⟩
  exact ⟨hsublist.subset (hnarrow.subset he), hname e (hnarrow.subset he)⟩

/-! ### The first place where there is something -/

section First

variable {α β : Type} {f : α → List β} {places : List α} {x : α}

/-- The place is the first in a list where there is something. -/
def IsFirst (f : α → List β) (places : List α) (x : α) : Prop :=
  ∃ before after, places = before ++ x :: after ∧ f x ≠ [] ∧ ∀ a ∈ before, f a = []

theorem exists_isFirst (h : ∃ a ∈ places, f a ≠ []) : ∃ x, IsFirst f places x := by
  have hfind : (places.find? fun a => decide (f a ≠ [])).isSome = true := by
    simpa [List.find?_isSome] using h
  obtain ⟨x, hx⟩ := Option.isSome_iff_exists.1 hfind
  obtain ⟨hne, before, after, hplaces, hbefore⟩ := List.find?_eq_some_iff_append.1 hx
  exact ⟨x, before, after, hplaces, of_decide_eq_true hne, by simpa using hbefore⟩

theorem IsFirst.getD_find? (h : IsFirst f places x) (default : List β) :
    ((places.map f).find? fun l => !l.isEmpty).getD default = f x := by
  obtain ⟨before, after, rfl, hx, hbefore⟩ := h
  have hnone : (before.map f).find? (fun l => !l.isEmpty) = none := by
    simpa [List.find?_eq_none] using hbefore
  have hpos : (!(f x).isEmpty) = true := by simpa using hx
  rw [List.map_append, List.find?_append, hnone, List.map_cons, Option.none_or, List.find?_cons, hpos]
  rfl

theorem getD_find?_of_forall (h : ∀ a ∈ places, f a = []) (default : List β) :
    ((places.map f).find? fun l => !l.isEmpty).getD default = default := by
  have hnone : (places.map f).find? (fun l => !l.isEmpty) = none := by
    simpa [List.find?_eq_none] using h
  rw [hnone]
  rfl

/-- In a list in which everything has a relation to what comes later, the first place has it to every
other one. -/
theorem IsFirst.forall_rel {R : α → α → Prop} (h : IsFirst f places x) (hpairwise : places.Pairwise R)
    {a : α} (ha : a ∈ places) (hsome : f a ≠ []) : a = x ∨ R x a := by
  obtain ⟨before, after, rfl, -, hbefore⟩ := h
  rcases List.mem_append.1 ha with ha | ha
  · exact absurd (hbefore a ha) hsome
  · rcases List.mem_cons.1 ha with rfl | ha
    · exact .inl rfl
    · obtain ⟨-, hlater, -⟩ := List.pairwise_append.1 hpairwise
      exact .inr (List.rel_of_pairwise_cons hlater ha)

end First

/-! ### Scopes from inside out -/

theorem mem_outward {path scope : List String} : scope ∈ outward path ↔ scope <+: path := by
  unfold outward
  rw [List.mem_map]
  constructor
  · rintro ⟨depth, -, rfl⟩
    exact List.take_prefix depth path
  · intro h
    refine ⟨scope.length, ?_, (List.prefix_iff_eq_take.1 h).symm⟩
    rw [List.mem_reverse, List.mem_range]
    exact Nat.lt_succ_of_le h.length_le

theorem pairwise_outward (path : List String) :
    (outward path).Pairwise fun outer inner => inner.length < outer.length := by
  unfold outward
  rw [List.pairwise_map, List.pairwise_reverse]
  refine List.pairwise_lt_range.imp_of_mem fun {a b} ha hb hlt => ?_
  have hlength := List.mem_range.1 hb
  rw [List.length_take, List.length_take]
  omega

namespace Hierarchy

variable {h : Hierarchy} (hclosed : h.IsClosed)
include hclosed

theorem mem_lineage {b c : ClassType} :
    b ∈ h.lineage c ↔ b = c ∨ h.registry.get? b.path = some b ∧ b.path ≠ c.path ∧
      Relation.TransGen h.IsBase b.path c.path := by
  rw [lineage, List.mem_cons, mem_ancestors hclosed]

theorem pairwise_lineage (c : ClassType) :
    (h.lineage c).Pairwise fun a b => IsNearer h.basePaths c.path a.path b.path :=
  List.pairwise_cons.2 ⟨fun _ _ n _ => ⟨0, Nat.zero_le n, .refl⟩, pairwise_ancestors hclosed c⟩

end Hierarchy

namespace TranslationUnit

variable (u : TranslationUnit)

/-! ### What names mean -/

/-- The class is the nearest one with a method of a name, among a class and its ancestors. -/
structure IsNearestHolder (c : ClassType) (name : String) (b : ClassType) : Prop where
  first : IsFirst (fun a => u.methodsOfNamed a.path name) (u.hierarchy.lineage c) b
  nearest : ∀ a ∈ u.hierarchy.lineage c, u.methodsOfNamed a.path name ≠ [] →
    IsNearer u.hierarchy.basePaths c.path b.path a.path

/-- Neither a class nor one of its ancestors has a method of a name. -/
def LacksMember (c : ClassType) (name : String) : Prop :=
  ∀ b ∈ u.hierarchy.lineage c, u.methodsOfNamed b.path name = []

/-- The functions of a name in a scope that are no members. -/
def functionsIn (name : String) (scope : List String) : List Chain :=
  (u.freeFunctions name).filter fun e => e.canonical.site.scopePath == scope

/-- The scope is the longest one around a path with a function of a name. -/
structure IsInnermost (enclosing : List String) (name : String) (scope : List String) : Prop where
  isPrefix : scope <+: enclosing
  holds : u.functionsIn name scope ≠ []
  longest : ∀ inner, inner <+: enclosing → u.functionsIn name inner ≠ [] →
    inner.length ≤ scope.length

/-- The functions that a name without qualifiers may mean, whatever the arguments are. -/
inductive Unqualified (name : String) (enclosing : List String) :
    Option ClassType → List Chain → Prop
  | member {c b : ClassType} : u.IsNearestHolder c name b →
      Unqualified name enclosing (some c) (u.methodsOfNamed b.path name)
  | inScope {owner : Option ClassType} {scope : List String} : (∀ c ∈ owner, u.LacksMember c name) →
      u.IsInnermost enclosing name scope → Unqualified name enclosing owner (u.functionsIn name scope)
  | anywhere {owner : Option ClassType} : (∀ c ∈ owner, u.LacksMember c name) →
      (∀ scope, scope <+: enclosing → u.functionsIn name scope = []) →
      Unqualified name enclosing owner (u.freeFunctions name)

/-- The functions that the name of a member may mean, whatever the arguments are. -/
inductive MemberNamed (name : String) : Option ClassType → List Chain → Prop
  | member {c b : ClassType} : u.IsNearestHolder c name b →
      MemberNamed name (some c) (u.methodsOfNamed b.path name)
  | anywhere {receiver : Option ClassType} : (∀ c ∈ receiver, u.LacksMember c name) →
      MemberNamed name receiver (u.methodsNamed name)

variable {u}

/-! ### Members -/

section Members

variable {c b : ClassType} {name : String}

theorem IsNearestHolder.memberCandidates_eq (h : u.IsNearestHolder c name b) :
    u.memberCandidates c name = u.methodsOfNamed b.path name :=
  h.first.getD_find? []

theorem IsNearestHolder.ne_nil (h : u.IsNearestHolder c name b) :
    u.methodsOfNamed b.path name ≠ [] := by
  obtain ⟨-, -, -, hne, -⟩ := h.first
  exact hne

theorem IsNearestHolder.mem_lineage (h : u.IsNearestHolder c name b) :
    b ∈ u.hierarchy.lineage c := by
  obtain ⟨before, after, hlineage, -⟩ := h.first
  rw [hlineage]
  exact List.mem_append_right before List.mem_cons_self

theorem LacksMember.memberCandidates_eq (h : u.LacksMember c name) : u.memberCandidates c name = [] :=
  getD_find?_of_forall h []

theorem exists_isNearestHolder (hclosed : u.hierarchy.IsClosed) (h : ¬u.LacksMember c name) :
    ∃ b, u.IsNearestHolder c name b := by
  have hsome : ∃ a ∈ u.hierarchy.lineage c, u.methodsOfNamed a.path name ≠ [] := by
    unfold LacksMember at h
    push Not at h
    exact h
  obtain ⟨b, hfirst⟩ := exists_isFirst hsome
  refine ⟨b, hfirst, fun a ha hne => ?_⟩
  rcases hfirst.forall_rel (Hierarchy.pairwise_lineage hclosed c) ha hne with rfl | hnearer
  · exact fun n hn => ⟨n, Nat.le_refl n, hn⟩
  · exact hnearer

/-- Without a member of the name there is nothing to be found in a class, if there is one. -/
theorem map_memberCandidates_of_lacks {owner : Option ClassType}
    (h : ∀ c ∈ owner, u.LacksMember c name) :
    ∀ found ∈ owner.map fun c => u.memberCandidates c name, found = [] := by
  intro found hfound
  obtain ⟨c, hc, rfl⟩ := Option.map_eq_some_iff.1 hfound
  exact (h c hc).memberCandidates_eq

end Members

/-! ### Scopes -/

section Scopes

variable {enclosing scope : List String} {name : String}

theorem IsInnermost.isFirst (h : u.IsInnermost enclosing name scope) :
    IsFirst (u.functionsIn name) (outward enclosing) scope := by
  obtain ⟨before, after, houtward⟩ := List.mem_iff_append.1 (mem_outward.2 h.isPrefix)
  refine ⟨before, after, houtward, h.holds, fun inner hinner => ?_⟩
  have hpairwise := pairwise_outward enclosing
  rw [houtward] at hpairwise
  obtain ⟨-, -, hlonger⟩ := List.pairwise_append.1 hpairwise
  have hmem : inner ∈ outward enclosing := by
    rw [houtward]
    exact List.mem_append_left _ hinner
  by_contra hne
  exact Nat.not_lt.2 (h.longest inner (mem_outward.1 hmem) hne)
    (hlonger inner hinner scope List.mem_cons_self)

theorem IsInnermost.scopedFunctions_eq (h : u.IsInnermost enclosing name scope) :
    u.scopedFunctions name enclosing = u.functionsIn name scope :=
  h.isFirst.getD_find? (u.freeFunctions name)

theorem scopedFunctions_of_forall (h : ∀ scope, scope <+: enclosing → u.functionsIn name scope = []) :
    u.scopedFunctions name enclosing = u.freeFunctions name :=
  getD_find?_of_forall (fun scope hscope => h scope (mem_outward.1 hscope)) _

theorem exists_isInnermost (h : ∃ scope, scope <+: enclosing ∧ u.functionsIn name scope ≠ []) :
    ∃ scope, u.IsInnermost enclosing name scope := by
  obtain ⟨inner, hinner, hsome⟩ := h
  obtain ⟨scope, hfirst⟩ := exists_isFirst ⟨inner, mem_outward.2 hinner, hsome⟩
  have hlongest : ∀ inner, inner <+: enclosing → u.functionsIn name inner ≠ [] →
      inner.length ≤ scope.length := by
    intro inner hinner hsome
    rcases hfirst.forall_rel (pairwise_outward enclosing) (mem_outward.2 hinner) hsome with rfl | hlt
    · exact Nat.le_refl _
    · exact Nat.le_of_lt hlt
  obtain ⟨before, after, houtward, hne, -⟩ := hfirst
  refine ⟨scope, mem_outward.1 ?_, hne, hlongest⟩
  rw [houtward]
  exact List.mem_append_right before List.mem_cons_self

end Scopes

/-! ### Looking names up -/

section Lookup

variable {owner receiver : Option ClassType} {name : String} {enclosing : List String}
  {found : List Chain}

theorem exists_unqualified (hclosed : u.hierarchy.IsClosed) (name : String)
    (enclosing : List String) (owner : Option ClassType) :
    ∃ found, u.Unqualified name enclosing owner found := by
  by_cases hlacks : ∀ c ∈ owner, u.LacksMember c name
  · by_cases hscopes : ∃ scope, scope <+: enclosing ∧ u.functionsIn name scope ≠ []
    · obtain ⟨scope, hscope⟩ := exists_isInnermost hscopes
      exact ⟨_, .inScope hlacks hscope⟩
    · push Not at hscopes
      exact ⟨_, .anywhere hlacks hscopes⟩
  · push Not at hlacks
    obtain ⟨c, rfl, hc⟩ := hlacks
    obtain ⟨b, hb⟩ := exists_isNearestHolder hclosed hc
    exact ⟨_, .member hb⟩

theorem exists_memberNamed (hclosed : u.hierarchy.IsClosed) (name : String)
    (receiver : Option ClassType) : ∃ found, u.MemberNamed name receiver found := by
  by_cases hlacks : ∀ c ∈ receiver, u.LacksMember c name
  · exact ⟨_, .anywhere hlacks⟩
  · push Not at hlacks
    obtain ⟨c, rfl, hc⟩ := hlacks
    obtain ⟨b, hb⟩ := exists_isNearestHolder hclosed hc
    exact ⟨_, .member hb⟩

theorem Unqualified.lookup_eq (h : u.Unqualified name enclosing owner found) (arity : Option Nat) :
    u.lookupUnqualified name enclosing owner arity = narrow found arity := by
  have hscoped : (∀ c ∈ owner, u.LacksMember c name) →
      u.lookupUnqualified name enclosing owner arity =
        narrow (u.scopedFunctions name enclosing) arity := by
    intro hlacks
    unfold lookupUnqualified
    split
    · next hsome => exact absurd (map_memberCandidates_of_lacks hlacks _ hsome) (List.cons_ne_nil _ _)
    · rfl
  cases h with
  | @member c b hb =>
    obtain ⟨e, methods, hmethods⟩ := List.exists_cons_of_ne_nil hb.ne_nil
    have hcandidates := hb.memberCandidates_eq.trans hmethods
    rw [lookupUnqualified, Option.map_some, hcandidates, hmethods]
  | inScope hlacks hscope => rw [hscoped hlacks, hscope.scopedFunctions_eq]
  | anywhere hlacks hnone => rw [hscoped hlacks, scopedFunctions_of_forall hnone]

theorem MemberNamed.lookup_eq (h : u.MemberNamed name receiver found) (arity : Option Nat) :
    u.lookupMember name receiver arity = narrow found arity := by
  cases h with
  | @member c b hb =>
    obtain ⟨e, methods, hmethods⟩ := List.exists_cons_of_ne_nil hb.ne_nil
    have hcandidates := hb.memberCandidates_eq.trans hmethods
    rw [lookupMember, Option.map_some, hcandidates, hmethods]
  | anywhere hlacks =>
    unfold lookupMember
    split
    · next hsome => exact absurd (map_memberCandidates_of_lacks hlacks _ hsome) (List.cons_ne_nil _ _)
    · rfl

/-! ### What is found -/

theorem mem_methodsOfNamed {path : List String} {e : Chain} :
    e ∈ u.methodsOfNamed path name ↔ e ∈ u.chains ∧ e.owner = some path ∧ e.name = name := by
  simp [methodsOfNamed]

theorem mem_methodsNamed {e : Chain} :
    e ∈ u.methodsNamed name ↔ e ∈ u.chains ∧ e.owner ≠ none ∧ e.name = name := by
  simp [methodsNamed, Option.isSome_iff_ne_none]

theorem mem_freeFunctions {e : Chain} :
    e ∈ u.freeFunctions name ↔ e ∈ u.chains ∧ e.owner = none ∧ e.name = name := by
  simp [freeFunctions]

theorem functionsIn_sublist (u : TranslationUnit) (name : String) (scope : List String) :
    (u.functionsIn name scope).Sublist (u.freeFunctions name) :=
  List.filter_sublist

/-- The functions that a name may mean are functions of the unit, in its order. -/
theorem Unqualified.sublist (h : u.Unqualified name enclosing owner found) :
    found.Sublist u.chains := by
  cases h with
  | member _ => exact List.filter_sublist
  | inScope _ _ => exact (functionsIn_sublist u name _).trans List.filter_sublist
  | anywhere _ _ => exact List.filter_sublist

theorem MemberNamed.sublist (h : u.MemberNamed name receiver found) : found.Sublist u.chains := by
  cases h with
  | member _ => exact List.filter_sublist
  | anywhere _ => exact List.filter_sublist

theorem Unqualified.name_eq (h : u.Unqualified name enclosing owner found) :
    ∀ e ∈ found, e.name = name := by
  intro e he
  cases h with
  | member _ => exact (mem_methodsOfNamed.1 he).2.2
  | inScope _ _ => exact (mem_freeFunctions.1 ((functionsIn_sublist u name _).subset he)).2.2
  | anywhere _ _ => exact (mem_freeFunctions.1 he).2.2

theorem MemberNamed.name_eq (h : u.MemberNamed name receiver found) : ∀ e ∈ found, e.name = name := by
  intro e he
  cases h with
  | member _ => exact (mem_methodsOfNamed.1 he).2.2
  | anywhere _ => exact (mem_methodsNamed.1 he).2.2

theorem lacksMember_iff {c : ClassType} :
    u.LacksMember c name ↔
      ∀ e ∈ u.chains, e.name = name → ∀ b ∈ u.hierarchy.lineage c, e.owner ≠ some b.path := by
  simp only [LacksMember, List.eq_nil_iff_forall_not_mem, mem_methodsOfNamed, not_and]
  exact ⟨fun h e he hname b hb howner => h b hb e he howner hname,
    fun h b hb e he howner hname => h e he hname b hb howner⟩

/-- A name without qualifiers means nothing only if there is nothing that it could mean. -/
theorem Unqualified.eq_nil_iff (h : u.Unqualified name enclosing owner found) :
    found = [] ↔ ∀ e ∈ u.chains, e.name = name →
      e.owner ≠ none ∧ ∀ c ∈ owner, ∀ b ∈ u.hierarchy.lineage c, e.owner ≠ some b.path := by
  have hfree : u.freeFunctions name = [] ↔ ∀ e ∈ u.chains, e.name = name → e.owner ≠ none := by
    simp only [List.eq_nil_iff_forall_not_mem, mem_freeFunctions, not_and]
    exact ⟨fun h e he hname howner => h e he howner hname,
      fun h e he howner hname => h e he hname howner⟩
  cases h with
  | @member c b hb =>
    refine ⟨fun hnil => absurd hnil hb.ne_nil, fun hnone => absurd ?_ hb.ne_nil⟩
    exact lacksMember_iff.2 (fun e he hname => (hnone e he hname).2 c rfl) b hb.mem_lineage
  | @inScope _ scope hlacks hscope =>
    refine ⟨fun hnil => absurd hnil hscope.holds, fun hnone => absurd ?_ hscope.holds⟩
    have hnil := hfree.2 fun e he hname => (hnone e he hname).1
    exact List.sublist_nil.1 (hnil ▸ functionsIn_sublist u name scope)
  | anywhere hlacks _ =>
    rw [hfree]
    refine ⟨fun hnone e he hname => ⟨hnone e he hname, fun c hc => ?_⟩,
      fun hnone e he hname => (hnone e he hname).1⟩
    exact lacksMember_iff.1 (hlacks c hc) e he hname

/-- The name of a member means nothing only if no class has a member of the name. -/
theorem MemberNamed.eq_nil_iff (h : u.MemberNamed name receiver found) :
    found = [] ↔ ∀ e ∈ u.chains, e.name = name → e.owner = none := by
  have hmethods : u.methodsNamed name = [] ↔ ∀ e ∈ u.chains, e.name = name → e.owner = none := by
    simp only [List.eq_nil_iff_forall_not_mem, mem_methodsNamed, not_and]
    refine ⟨fun h e he hname => ?_, fun h e he howner hname => howner (h e he hname)⟩
    by_contra howner
    exact h e he howner hname
  cases h with
  | @member c b hb =>
    refine ⟨fun hnil => absurd hnil hb.ne_nil, fun hnone => absurd ?_ hb.ne_nil⟩
    refine List.eq_nil_iff_forall_not_mem.2 fun e he => ?_
    obtain ⟨he, howner, hname⟩ := mem_methodsOfNamed.1 he
    rw [hnone e he hname] at howner
    cases howner
  | anywhere _ => exact hmethods

end Lookup

theorem Chained.nodup_chains (hu : u.Chained) : u.chains.Nodup := by
  have hnodup := List.Nodup.of_map _ (Member.nodup_index_number u.functions)
  exact .of_map _ (hnodup.sublist hu.grouped.canonical_sublist)

/-- **Name lookup.**  Let `u` be the unit of an include graph.

Without qualifiers, a name means the methods of the nearest class that has any, among the class it
stands in and the ancestors of that class; if there are none, the functions in the longest scope
around it that has any; if there are none, all functions.  The name of a member means the methods of
the nearest class that has any, among the class of the receiver and its ancestors; if there are none,
the methods of all classes.

If there is a choice, and one of the functions accepts the arguments, it is narrowed to those that do.
All that is found has the name, and nothing is found twice.  Nothing is found only if there is nothing
that the name could mean. -/
theorem lookup_ofGraph (main : String) (language : Language) (search : SearchPath)
    (graph : IncludeGraph) :
    let u := ofGraph main language search graph
    (∀ c b, b ∈ u.hierarchy.lineage c ↔ b = c ∨ u.registry.get? b.path = some b ∧
        b.path ≠ c.path ∧ Relation.TransGen u.hierarchy.IsBase b.path c.path) ∧
      (∀ name enclosing owner, (∃ found, u.Unqualified name enclosing owner found) ∧
        ∀ arity, let result := u.lookupUnqualified name enclosing owner arity;
          (∀ found, u.Unqualified name enclosing owner found → result = narrow found arity) ∧
          (∀ e ∈ result, e ∈ u.chains ∧ e.name = name) ∧ result.Nodup ∧
          (result = [] ↔ ∀ e ∈ u.chains, e.name = name → e.owner ≠ none ∧
            ∀ c ∈ owner, ∀ b ∈ u.hierarchy.lineage c, e.owner ≠ some b.path)) ∧
      (∀ name receiver, (∃ found, u.MemberNamed name receiver found) ∧
        ∀ arity, let result := u.lookupMember name receiver arity;
          (∀ found, u.MemberNamed name receiver found → result = narrow found arity) ∧
          (∀ e ∈ result, e ∈ u.chains ∧ e.name = name) ∧ result.Nodup ∧
          (result = [] ↔ ∀ e ∈ u.chains, e.name = name → e.owner = none)) ∧
      ∀ found arity, narrow found arity =
        if 1 < found.length ∧ ∃ e ∈ found, e.accepts arity = true then
          found.filter fun e => e.accepts arity
        else found := by
  intro u
  have hclosed : u.hierarchy.IsClosed := Hierarchy.isClosed_ofRegistry _
  have hnodup : u.chains.Nodup := (chained_ofGraph main language search graph).nodup_chains
  refine ⟨fun c b => Hierarchy.mem_lineage hclosed, ?_, ?_, narrow_eq⟩
  · intro name enclosing owner
    obtain ⟨found, hfound⟩ := exists_unqualified hclosed name enclosing owner
    refine ⟨⟨found, hfound⟩, fun arity => ⟨fun _ h => h.lookup_eq arity, ?_⟩⟩
    obtain ⟨hname, hdistinct⟩ := name_nodup_narrow hnodup hfound.sublist hfound.name_eq arity
    rw [hfound.lookup_eq, narrow_eq_nil]
    exact ⟨hname, hdistinct, hfound.eq_nil_iff⟩
  · intro name receiver
    obtain ⟨found, hfound⟩ := exists_memberNamed hclosed name receiver
    refine ⟨⟨found, hfound⟩, fun arity => ⟨fun _ h => h.lookup_eq arity, ?_⟩⟩
    obtain ⟨hname, hdistinct⟩ := name_nodup_narrow hnodup hfound.sublist hfound.name_eq arity
    rw [hfound.lookup_eq, narrow_eq_nil]
    exact ⟨hname, hdistinct, hfound.eq_nil_iff⟩

end TranslationUnit

end Unreferenced
