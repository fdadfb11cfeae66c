/-
Unreferenced/Proofs/OverrideFixpoint.lean

Overrides are settled for good.

What a method overrides depends on which methods of its ancestors are virtual,
and that again on what those override.  The classes are settled one after the
other, in place, so what is read while a class is settled need not be what holds
at the end.  It is, if no class is its own base: a class is settled after all its
ancestors, and settling it changes its own methods only
(`overriddenIn_settleClass`).  So what has been settled stays settled
(`IsSettled.step`), and at the end the rule holds of all classes at once
(`isSettled_settleOverrides`).
-/
import Unreferenced.Proofs.Grouping
import Unreferenced.Proofs.QualifiedScope
import Unreferenced.Proofs.TopologicalOrder
import Unreferenced.TranslationUnit.Basic

namespace Unreferenced

namespace Chain

/-! ### The rule -/

/-- Two methods have the name, the parameter types and the qualifiers in common. -/
def IsNamesake (b c : Chain) : Prop :=
  b.name = c.name ∧ b.canonical.site.signature.types = c.canonical.site.signature.types ∧
    b.canonical.site.qualifiers = c.canonical.site.qualifiers

instance (b c : Chain) : Decidable (b.IsNamesake c) :=
  inferInstanceAs (Decidable (_ ∧ _ ∧ _))

/-- The virtual namesakes of a method in the class at a path. -/
def virtualNamesakes (chains : List Chain) (c : Chain) (path : List String) : List Chain :=
  chains.filter fun b => b.owner = some path ∧ b.IsNamesake c ∧ b.isVirtual = true

theorem isOverriddenBy_iff {b c : Chain} {path : List String} :
    b.isOverriddenBy c path = true ↔
      b.owner = some path ∧ b.IsNamesake c ∧ b.isVirtual = true := by
  simp only [isOverriddenBy, Bool.and_eq_true, beq_iff_eq, IsNamesake, and_assoc]
  rfl

theorem knownOverridden_eq (chains : List Chain) (ancestors : List ClassType) (c : Chain) :
    knownOverridden chains ancestors c = ancestors.flatMap fun base =>
      (virtualNamesakes chains c base.path).map fun b => .method b.canonical.index := by
  unfold knownOverridden virtualNamesakes
  simp only [← isOverriddenBy_iff, Bool.decide_eq_true]

theorem knownOverridden_eq_nil {chains : List Chain} {ancestors : List ClassType} {c : Chain} :
    knownOverridden chains ancestors c = [] ↔
      ∀ base ∈ ancestors, ∀ b ∈ chains,
        ¬(b.owner = some base.path ∧ b.IsNamesake c ∧ b.isVirtual = true) := by
  simp [knownOverridden_eq, virtualNamesakes]

theorem overriddenIn_eq (chains : List Chain) (ancestors : List ClassType) (c : Chain) :
    overriddenIn chains ancestors c =
      if knownOverridden chains ancestors c ≠ [] then knownOverridden chains ancestors c
      else if c.sites.any FunctionSite.saysOverride then [.unresolved c.name] else [] := by
  unfold overriddenIn
  rcases knownOverridden chains ancestors c with - | ⟨o, known⟩
  · rfl
  · rw [if_pos (List.cons_ne_nil o known)]

/-- A method is virtual if it is declared so, or if it overrides a known method.  One that overrides
an unknown method is declared so. -/
theorem isVirtual_iff {chains : List Chain} {ancestors : List ClassType} {c : Chain}
    (h : c.overridden = overriddenIn chains ancestors c) :
    c.isVirtual = true ↔ (∃ s ∈ c.sites, s.saysVirtual = true) ∨
      ∃ base ∈ ancestors, ∃ b ∈ chains,
        b.owner = some base.path ∧ b.IsNamesake c ∧ b.isVirtual = true := by
  have hknown : (∃ base ∈ ancestors, ∃ b ∈ chains,
      b.owner = some base.path ∧ b.IsNamesake c ∧ b.isVirtual = true) ↔
        knownOverridden chains ancestors c ≠ [] := by
    rw [Ne, knownOverridden_eq_nil]
    push Not
    rfl
  have hdeclared : c.sites.any FunctionSite.saysOverride = true →
      ∃ s ∈ c.sites, s.saysVirtual = true := by
    intro hany
    obtain ⟨s, hs, hsays⟩ := List.any_eq_true.1 hany
    refine ⟨s, hs, ?_⟩
    simp only [FunctionSite.saysOverride, FunctionSite.saysVirtual, Bool.or_eq_true,
      Bool.and_eq_true] at hsays ⊢
    tauto
  rw [isVirtual, Bool.or_eq_true, List.any_eq_true, hknown, h, overriddenIn_eq]
  split
  · next hne => simp [hne]
  · next hnil =>
    split
    · next hany => simp [hdeclared hany]
    · simpa using fun hne => absurd hne hnil

/-! ### Settling one class -/

variable {chains : List Chain} {ancestors : List ClassType}

/-- What a method overrides does not change with methods of other classes than its ancestors. -/
theorem overriddenIn_map {f : Chain → Chain} (hf : KeepsDeclarations f)
    (hfix : ∀ base ∈ ancestors, ∀ b ∈ chains, b.owner = some base.path → f b = b) (c : Chain) :
    overriddenIn (chains.map f) ancestors (f c) = overriddenIn chains ancestors c := by
  have hknown : knownOverridden (chains.map f) ancestors (f c) =
      knownOverridden chains ancestors c := by
    unfold knownOverridden
    refine List.flatMap_congr fun base hbase => ?_
    rw [List.filter_map, List.map_map]
    have hfilter : chains.filter ((fun b => b.isOverriddenBy (f c) base.path) ∘ f) =
        chains.filter fun b => b.isOverriddenBy c base.path := by
      refine List.filter_congr fun b hb => ?_
      rw [Function.comp_apply, Bool.eq_iff_iff, isOverriddenBy_iff, isOverriddenBy_iff]
      have howner : (f b).owner = b.owner := by rw [owner, hf.canonical_eq, owner]
      have hnamesake : (f b).IsNamesake (f c) ↔ b.IsNamesake c := by
        unfold IsNamesake name
        rw [hf.canonical_eq, hf.canonical_eq]
      rw [howner, hnamesake]
      refine and_congr_right fun hpath => ?_
      rw [hfix base hbase b hb hpath]
    rw [hfilter]
    refine List.map_congr_left fun b _ => ?_
    rw [Function.comp_apply, hf.canonical_eq]
  unfold overriddenIn
  rw [hknown]
  have hsites : (f c).sites = c.sites := by rw [sites, hf.members_eq, sites]
  have hname : (f c).name = c.name := by rw [name, hf.canonical_eq, name]
  rw [hsites, hname]

/-- The rule for overrides holds of all methods of a class. -/
def IsSettled (h : Hierarchy) (chains : List Chain) (k : ClassType) : Prop :=
  ∀ c ∈ chains, c.owner = some k.path → c.canOverride = true →
    c.overridden = overriddenIn chains (h.ancestors k) c

/-- What settling a class does to a chain. -/
def settled (h : Hierarchy) (chains : List Chain) (k : ClassType) (c : Chain) : Chain :=
  if c.owner = some k.path ∧ c.canOverride then
    { c with overridden := overriddenIn chains (h.ancestors k) c }
  else c

theorem settleClass_eq (h : Hierarchy) (chains : List Chain) (k : ClassType) :
    settleClass h chains k = chains.map (settled h chains k) :=
  rfl

theorem keepsDeclarations_settled (h : Hierarchy) (chains : List Chain) (k : ClassType) :
    KeepsDeclarations (settled h chains k) := by
  intro c
  unfold settled
  split
  · exact ⟨_, rfl⟩
  · exact ⟨c.overridden, rfl⟩

/-- Settling a class changes nothing for the classes of which it is no ancestor. -/
theorem overriddenIn_settleClass (h : Hierarchy) (chains : List Chain) {k : ClassType}
    (hk : k.path ∉ ancestors.map ClassType.path) (c : Chain) :
    overriddenIn (settleClass h chains k) ancestors (settled h chains k c) =
      overriddenIn chains ancestors c := by
  refine overriddenIn_map (keepsDeclarations_settled h chains k) (fun base hbase b _ howner => ?_) c
  refine if_neg fun hb => hk ?_
  rw [howner] at hb
  exact Option.some.inj hb.1 ▸ List.mem_map_of_mem hbase

/-- A class that is settled stays settled when another one is that is none of its ancestors, and the
other one is settled then. -/
theorem IsSettled.step {h : Hierarchy} {k l : ClassType} (hk : k = l ∨ IsSettled h chains k)
    (hl : l.path ∉ (h.ancestors k).map ClassType.path) : IsSettled h (settleClass h chains l) k := by
  intro c' hc' howner hcan
  obtain ⟨c, hc, rfl⟩ := List.mem_map.1 (settleClass_eq h chains l ▸ hc')
  have hcanonical := (keepsDeclarations_settled h chains l).canonical_eq c
  rw [owner, hcanonical] at howner
  rw [canOverride, hcanonical] at hcan
  rw [overriddenIn_settleClass h chains hl]
  by_cases hpath : c.owner = some l.path
  · -- the class that is settled now, or one with its path
    have hsame : h.ancestors l = h.ancestors k := by
      unfold Hierarchy.ancestors
      rw [Option.some.inj (hpath.symm.trans howner)]
    have hsettled : settled h chains l c =
        { c with overridden := overriddenIn chains (h.ancestors l) c } := if_pos ⟨hpath, hcan⟩
    rw [hsettled, hsame]
  · have hsettled : settled h chains l c = c := if_neg fun hc => hpath hc.1
    rw [hsettled]
    rcases hk with rfl | hk
    · exact absurd howner hpath
    · exact hk c hc howner hcan

/-! ### Settling all classes -/

/-- Ancestors of a class that is done are done. -/
theorem mem_of_transGen {h : Hierarchy} {paths : List (List String)}
    (horder : InOrder h.basePaths [] paths) {base derived : List String} (hderived : derived ∈ paths)
    (hbase : Relation.TransGen h.IsBase base derived) : base ∈ paths := by
  induction hbase using Relation.TransGen.head_induction_on with
  | single hb => exact horder.mem_of_previous hderived (Hierarchy.mem_basePaths.2 hb)
  | head hb _ ih => exact horder.mem_of_previous ih (Hierarchy.mem_basePaths.2 hb)

/-- Classes settled in an order that puts bases first stay settled. -/
theorem isSettled_foldl {h : Hierarchy} (hclosed : h.IsClosed) (done classes : List ClassType)
    (hbefore : InOrder h.basePaths [] (done.map ClassType.path))
    (horder : InOrder h.basePaths (done.map ClassType.path) (classes.map ClassType.path))
    (hnodup : ((done ++ classes).map ClassType.path).Nodup)
    (hdone : ∀ k ∈ done, IsSettled h chains k) :
    ∀ k ∈ done ++ classes, IsSettled h (classes.foldl (settleClass h) chains) k := by
  induction classes generalizing done chains with
  | nil =>
    rw [List.append_nil]
    exact hdone
  | cons l classes ih =>
    obtain ⟨hbases, hlater⟩ := horder
    have hmap : (done ++ [l]).map ClassType.path = done.map ClassType.path ++ [l.path] :=
      List.map_append
    have hnew : l.path ∉ done.map ClassType.path := by
      intro hmem
      rw [List.map_append, List.nodup_append] at hnodup
      exact hnodup.2.2 l.path hmem l.path List.mem_cons_self rfl
    rw [List.append_cons] at hnodup ⊢
    refine ih (done ++ [l]) (hmap ▸ hbefore.append ⟨hbases, trivial⟩) (hmap ▸ hlater) hnodup
      fun k hk => ?_
    rcases List.mem_append.1 hk with hk | hk
    · -- what is done has its ancestors among what is done
      refine IsSettled.step (.inr (hdone k hk)) fun hl => ?_
      obtain ⟨b, hb, hpath⟩ := List.mem_map.1 hl
      obtain ⟨-, -, hbase⟩ := (Hierarchy.mem_ancestors hclosed k).1 hb
      exact hnew (hpath ▸ mem_of_transGen hbefore (List.mem_map_of_mem hk) hbase)
    · rw [List.mem_singleton.1 hk]
      refine IsSettled.step (.inl rfl) fun hl => ?_
      obtain ⟨b, hb, hpath⟩ := List.mem_map.1 hl
      exact ((Hierarchy.mem_ancestors hclosed l).1 hb).2.1 hpath

/-- **Overrides are a fixpoint.**  In a hierarchy without cycles, when all overrides are settled, the
rule holds of every class. -/
theorem isSettled_settleOverrides {h : Hierarchy} (hclosed : h.IsClosed) (hacyclic : h.Acyclic)
    (chains : List Chain) {k : ClassType} (hk : h.registry.get? k.path = some k) :
    IsSettled h (settleOverrides h chains) k := by
  obtain ⟨horder, hnodup, hmem⟩ := Hierarchy.topologicalOrder_spec hclosed hacyclic
  exact isSettled_foldl hclosed [] h.topologicalOrder trivial horder hnodup (List.forall_mem_nil _) k
    ((hmem k).2 hk)

theorem map_canonical_settleOverrides (h : Hierarchy) (chains : List Chain) :
    (settleOverrides h chains).map canonical = chains.map canonical := by
  apply settleOverrides_induction (P := fun settled => settled.map canonical = chains.map canonical)
  · intro settled f hf heq
    simpa only [List.map_map, Function.comp_def, hf.canonical_eq] using heq
  · rfl

end Chain

/-- A hierarchy whose classes can be numbered so that bases come first has no cycle. -/
theorem Hierarchy.acyclic_of_rank {h : Hierarchy} (rank : List String → Nat)
    (hrank : ∀ e ∈ h.edges.toList, rank e.1 < rank e.2) : h.Acyclic := by
  have hlt : ∀ base derived, Relation.TransGen h.IsBase base derived → rank base < rank derived := by
    intro base derived hbase
    induction hbase with
    | single hb => exact hrank _ hb
    | tail _ hb ih => exact Nat.lt_trans ih (hrank _ hb)
  exact fun path hcycle => Nat.lt_irrefl _ (hlt path path hcycle)

/-! ### The overrides of a unit -/

namespace TranslationUnit

/-- **What the methods of a unit override.**  Suppose that no class of the unit is its own base.  Let
`k` be one of its classes, and `e` a method of `k` other than a constructor, a destructor or a static
member.  At the end, `e` overrides just the namesakes in the ancestors of `k` that are virtual at the
end, the nearest ancestor first.  If there are none, it overrides a method that is not known if one of
its declarations says so, and else nothing.

So a method is virtual if and only if it is declared so, or has a virtual namesake in some ancestor,
however far. -/
theorem overridden_ofGraph (main : String) (language : Language) (search : SearchPath)
    (graph : IncludeGraph) (hacyclic : (ofGraph main language search graph).hierarchy.Acyclic) :
    let u := ofGraph main language search graph
    ∀ k, u.registry.get? k.path = some k →
      ((u.hierarchy.ancestors k).Nodup ∧
        (u.hierarchy.ancestors k).Pairwise
          (fun a b => IsNearer u.hierarchy.basePaths k.path a.path b.path) ∧
        ∀ b, b ∈ u.hierarchy.ancestors k ↔ u.registry.get? b.path = some b ∧
          Relation.TransGen u.hierarchy.IsBase b.path k.path) ∧
      ∀ e ∈ u.chains, e.owner = some k.path → e.canOverride = true →
        (let known := (u.hierarchy.ancestors k).flatMap fun base =>
            (Chain.virtualNamesakes u.chains e base.path).map fun b =>
              Overridden.method b.canonical.index;
          e.overridden =
            if known ≠ [] then known
            else if e.sites.any FunctionSite.saysOverride then [.unresolved e.name] else []) ∧
        (e.isVirtual = true ↔ (∃ s ∈ e.sites, s.saysVirtual = true) ∨
          ∃ base, Relation.TransGen u.hierarchy.IsBase base k.path ∧
            ∃ b ∈ u.chains, b.owner = some base ∧ b.IsNamesake e ∧ b.isVirtual = true) := by
  intro u k hk
  have hclosed : u.hierarchy.IsClosed := Hierarchy.isClosed_ofRegistry _
  have hmem : ∀ b, b ∈ u.hierarchy.ancestors k ↔ u.registry.get? b.path = some b ∧
      Relation.TransGen u.hierarchy.IsBase b.path k.path := by
    intro b
    rw [Hierarchy.mem_ancestors hclosed]
    constructor
    · exact fun ⟨hb, _, hbase⟩ => ⟨hb, hbase⟩
    · exact fun ⟨hb, hbase⟩ => ⟨hb, fun heq => hacyclic k.path (heq ▸ hbase), hbase⟩
  refine ⟨⟨.of_map _ (Hierarchy.nodup_path_ancestors k),
      Hierarchy.pairwise_ancestors hclosed k, hmem⟩,
    fun e he howner hcan => ?_⟩
  have hsettled : e.overridden = Chain.overriddenIn u.chains (u.hierarchy.ancestors k) e :=
    Chain.isSettled_settleOverrides hclosed hacyclic _ hk e he howner hcan
  refine ⟨?_, ?_⟩
  · intro known
    have hknown : Chain.knownOverridden u.chains (u.hierarchy.ancestors k) e = known :=
      Chain.knownOverridden_eq u.chains _ e
    rw [hsettled, Chain.overriddenIn_eq, hknown]
  · rw [Chain.isVirtual_iff hsettled]
    refine or_congr_right ⟨?_, ?_⟩
    · rintro ⟨base, hbase, b, hb, hrule⟩
      exact ⟨base.path, ((hmem base).1 hbase).2, b, hb, hrule⟩
    · rintro ⟨base, hbase, b, hb, hrule⟩
      -- a base of a class is a known class itself
      obtain ⟨c, hc, hbc⟩ := Relation.TransGen.head'_iff.1 hbase
      obtain ⟨a, ha⟩ := Hierarchy.mem_paths.1 (hclosed _ _ hc).1
      have hpath : a.path = base := u.registry.path_eq ha
      subst hpath
      exact ⟨a, (hmem a).2 ⟨ha, hbase⟩, b, hb, hrule⟩

/-- The specifier of a class with a method `m()`.  `head` are the bases, and `specifiers` stand before
the method. -/
def overrideClass (name : String) (head specifiers : List Node) : Node :=
  let node := Context.sampleNode
  node "struct_specifier" "" ""
    (node "type_identifier" "name" name [] :: head ++
      [node "field_declaration_list" "body" ""
        [node "field_declaration" "" "" (specifiers ++
          [node "primitive_type" "type" "void" [], Context.sampleInside])]])

/-- The graph of a sample file.

    struct A { virtual void m(); };
    struct B : A { void m(); };
    struct C : B { void m(); }; -/
def overrideGraph : IncludeGraph where
  files :=
    let node := Context.sampleNode
    let base (name : String) :=
      node "base_class_clause" "" "" [node "type_identifier" "" name []]
    OrderedMap.empty.insert "/p/a.cpp" (node "translation_unit" "" ""
      [overrideClass "A" [] [node "virtual" "" "virtual" []], overrideClass "B" [base "A"] [],
        overrideClass "C" [base "B"] []])
  order := ["/p/a.cpp"]

/-- The unit of the sample file. -/
def overrideUnit : TranslationUnit :=
  ofGraph "/p/a.cpp" .cpp ⟨[], [], []⟩ overrideGraph

/-- The site is that of `m()` in a class of the sample file. -/
def IsSampleMethod (s : FunctionSite) (name : String) : Prop :=
  s.owner = some [name] ∧ s.kind = .method ∧ s.isStaticMember = false ∧ s.name = "m" ∧
    s.signature.types = [] ∧ s.qualifiers = 0 ∧ s.saysVirtual = decide (name = "A")

instance (s : FunctionSite) (name : String) : Decidable (IsSampleMethod s name) :=
  inferInstanceAs (Decidable (_ ∧ _ ∧ _ ∧ _ ∧ _ ∧ _ ∧ _))

/-- Every class of the sample file has its method. -/
theorem exists_sampleMethod (name : String) (hname : name ∈ ["A", "B", "C"]) :
    ∃ e ∈ overrideUnit.chains, IsSampleMethod e.canonical.site name := by
  have hall : ∀ name ∈ ["A", "B", "C"],
      ∃ m ∈ (Chain.group (Member.number overrideUnit.functions)).map Chain.canonical,
        IsSampleMethod m.site name := by
    decide +kernel
  have hchains : overrideUnit.chains.map Chain.canonical =
      (Chain.group (Member.number overrideUnit.functions)).map Chain.canonical :=
    Chain.map_canonical_settleOverrides _ _
  obtain ⟨m, hm, hsite⟩ := hall name hname
  rw [← hchains] at hm
  obtain ⟨e, he, rfl⟩ := List.mem_map.1 hm
  exact ⟨e, he, hsite⟩

/-- In the sample file `C::m` is virtual, although it is declared so neither in `C` nor in `B`. -/
theorem overridden_ofGraph_sample :
    overrideUnit.hierarchy.Acyclic ∧
      ∃ k, k.path = ["C"] ∧ overrideUnit.registry.get? k.path = some k ∧
        ∃ e ∈ overrideUnit.chains, e.owner = some k.path ∧ e.canOverride = true ∧
          e.canonical.site.saysVirtual = false ∧ e.isVirtual = true := by
  have hacyclic : overrideUnit.hierarchy.Acyclic :=
    Hierarchy.acyclic_of_rank (fun path => [["A"], ["B"], ["C"]].idxOf path) (by decide +kernel)
  have hcan : ∀ {e : Chain} {name : String}, IsSampleMethod e.canonical.site name →
      e.canOverride = true := by
    rintro e name ⟨-, hkind, hstatic, -⟩
    simp [Chain.canOverride, hkind, hstatic]
  have hnamesake : ∀ {b e : Chain} {base name : String}, IsSampleMethod b.canonical.site base →
      IsSampleMethod e.canonical.site name → b.IsNamesake e := by
    rintro b e base name ⟨-, -, -, hb, hbt, hbq, -⟩ ⟨-, -, -, he, het, heq, -⟩
    exact ⟨hb.trans he.symm, hbt.trans het.symm, hbq.trans heq.symm⟩
  -- what is virtual in a base is virtual in a class derived from it
  have hstep : ∀ {base name : String} {b e : Chain}, overrideUnit.hierarchy.IsBase [base] [name] →
      b ∈ overrideUnit.chains → IsSampleMethod b.canonical.site base → b.isVirtual = true →
      e ∈ overrideUnit.chains → IsSampleMethod e.canonical.site name →
      ∃ k, k.path = [name] ∧ overrideUnit.registry.get? k.path = some k ∧ e.isVirtual = true := by
    intro base name b e hbase hb hbm hvirtual he hem
    obtain ⟨k, hk⟩ := Hierarchy.mem_paths.1 (Hierarchy.isClosed_ofRegistry _ _ _ hbase).2
    have hpath : k.path = [name] := overrideUnit.registry.path_eq hk
    have hk' : overrideUnit.registry.get? k.path = some k := hpath.symm ▸ hk
    obtain ⟨-, hmethods⟩ :=
      overridden_ofGraph "/p/a.cpp" .cpp ⟨[], [], []⟩ overrideGraph hacyclic k hk'
    obtain ⟨-, hiff⟩ := hmethods e he (hem.1.trans (congrArg some hpath.symm)) (hcan hem)
    exact ⟨k, hpath, hk', hiff.2 (.inr ⟨[base], hpath.symm ▸ .single hbase, b, hb, hbm.1,
      hnamesake hbm hem, hvirtual⟩)⟩
  obtain ⟨a, ha, ham⟩ := exists_sampleMethod "A" (by decide)
  obtain ⟨b, hb, hbm⟩ := exists_sampleMethod "B" (by decide)
  obtain ⟨c, hc, hcm⟩ := exists_sampleMethod "C" (by decide)
  have hvirtual : a.isVirtual = true := by
    have hsays : a.canonical.site.saysVirtual = true := ham.2.2.2.2.2.2
    simp [Chain.isVirtual, Chain.sites, Chain.members, hsays]
  obtain ⟨-, -, -, hbv⟩ := hstep (by decide +kernel) ha ham hvirtual hb hbm
  obtain ⟨k, hpath, hk, hcv⟩ := hstep (by decide +kernel) hb hbm hbv hc hcm
  exact ⟨hacyclic, k, hpath, hk, c, hc, hcm.1.trans (congrArg some hpath.symm), hcan hcm,
    hcm.2.2.2.2.2.2, hcv⟩

end TranslationUnit

end Unreferenced
