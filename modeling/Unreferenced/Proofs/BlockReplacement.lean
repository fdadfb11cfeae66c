/-
Unreferenced/Proofs/BlockReplacement.lean

One step of the search around a block in the place of another one.

From a node around the place the search goes on to the same nodes, but for the one
that leads to the place (`follows_step`).  What the node does by itself depends on
what it reads: if that is the same in both trees, it uses and declares the same
and opens the same scope.
-/
import Unreferenced.Proofs.NodeExchange

namespace Unreferenced

/-! ### One step around the place -/

/-- From two steps the search goes on to the same nodes, but for `b` and `b'`.  If what they read is
the same, they use and declare the same, and open the same scope. -/
structure Step.Follows (b b' : Node) {n n' : Node} (reads reads' : List NodeReading) (s : Step n)
    (s' : Step n') : Prop where
  next : List.Forall₂ (Node.Exchanged b b') (s.next.map Subtype.val) (s'.next.map Subtype.val)
  uses : reads = reads' → s.uses = s'.uses
  scope : reads = reads' → s.scope = s'.scope
  inside : reads = reads' → s.inside = s'.inside

namespace Step.Follows

variable {b b' n n' : Node} {scope : LocalScope} {reads reads' : List NodeReading}
  {next : List n.Below} {next' : List n'.Below}

theorem plain {uses uses' : List (Event Nat)} (huses : reads = reads' → uses = uses')
    (hnext : List.Forall₂ (Node.Exchanged b b') (next.map Subtype.val) (next'.map Subtype.val)) :
    Follows b b' reads reads' (Step.mk uses scope next none) (Step.mk uses' scope next' none) :=
  ⟨hnext, huses, fun _ => rfl, fun _ => rfl⟩

theorem opens {inside inside' : LocalScope} (hinside : reads = reads' → inside = inside')
    (hnext : List.Forall₂ (Node.Exchanged b b') (next.map Subtype.val) (next'.map Subtype.val)) :
    Follows b b' reads reads' (Step.mk [] scope next (some inside))
      (Step.mk [] scope next' (some inside')) :=
  ⟨hnext, fun _ => rfl, fun _ => rfl, fun h => congrArg some (hinside h)⟩

/-- Two steps that go on to some more nodes. -/
theorem more {s : Step n} {s' : Step n'} (h : Follows b b' reads reads' s s')
    (hnext : List.Forall₂ (Node.Exchanged b b') (next.map Subtype.val) (next'.map Subtype.val)) :
    Follows b b' reads reads' { s with next := s.next ++ next }
      { s' with next := s'.next ++ next' } := by
  refine ⟨?_, h.uses, h.scope, h.inside⟩
  rw [List.map_append, List.map_append]
  exact List.rel_append h.next hnext

/-- Two steps that go into the same branch. -/
theorem ite {c c' : Prop} [Decidable c] [Decidable c'] (hc : c ↔ c')
    {more more' : List NodeReading} {s t : Step n} {s' t' : Step n'}
    (hpos : c → Follows b b' reads reads' s s') (hneg : ¬c → Follows b b' more more' t t') :
    Follows b b' (if c then reads else more) (if c' then reads' else more') (if c then s else t)
      (if c' then s' else t') := by
  by_cases h : c
  · rw [if_pos h, if_pos h, if_pos (hc.1 h), if_pos (hc.1 h)]
    exact hpos h
  · rw [if_neg h, if_neg h, if_neg fun h' => h (hc.2 h'), if_neg fun h' => h (hc.2 h')]
    exact hneg h

end Step.Follows

namespace TranslationUnit

open Node

variable {u : TranslationUnit} {path : String} {b b' n n' : Node} {scope : LocalScope}

theorem forall₂_namedBelow (h : Around b b' n n') :
    List.Forall₂ (Exchanged b b') (n.namedBelow.map Subtype.val)
      (n'.namedBelow.map Subtype.val) := by
  rw [map_val_namedBelow, map_val_namedBelow]
  exact h.namedChildren

theorem forall₂_namedBelowBut (h : Around b b' n n') (field : String) :
    List.Forall₂ (Exchanged b b') ((n.namedBelowBut field).map Subtype.val)
      ((n'.namedBelowBut field).map Subtype.val) := by
  rw [map_val_namedBelowBut, map_val_namedBelowBut]
  exact h.namedChildrenBut field

theorem forall₂_filter_namedBelow (h : Around b b' n n') {p : Node → Bool}
    (hp : ∀ {m m' : Node}, m.SameShape m' → p m = p m') :
    List.Forall₂ (Exchanged b b') ((n.namedBelow.filter fun c => p c.1).map Subtype.val)
      ((n'.namedBelow.filter fun c => p c.1).map Subtype.val) := by
  rw [map_val_filter_namedBelow, map_val_filter_namedBelow]
  exact h.namedChildrenOf hp

theorem forall₂_belowAt? (h : Around b b' n n') (field : String) :
    List.Forall₂ (Exchanged b b') ((n.belowAt? field).toList.map Subtype.val)
      ((n'.belowAt? field).toList.map Subtype.val) := by
  rw [map_val_toList_belowAt?, map_val_toList_belowAt?]
  exact forall₂_toList (h.child? field)

/-! ### Scopes of their own -/

theorem follows_stepNamespace (h : Around b b' n n') :
    Step.Follows b b' ((n.child? "name").map fun name => .word name.text).toList
      ((n'.child? "name").map fun name => .word name.text).toList (stepNamespace n scope)
      (stepNamespace n' scope) := by
  refine .opens (fun hreads => ?_) (forall₂_belowAt? h "body")
  have hname := h.child? "name"
  generalize n.child? "name" = name at hname hreads
  generalize n'.child? "name" = name' at hname hreads
  cases hname with
  | none => rfl
  | some _ =>
    dsimp only
    rw [NodeReading.word.inj (List.cons.inj hreads).1]

theorem follows_stepClass (h : Around b b' n n') :
    Step.Follows b b' ((n.child? "name").map fun name => .name (Spelling.scopeParts name.text)).toList
      ((n'.child? "name").map fun name => .name (Spelling.scopeParts name.text)).toList
      (u.stepClass n scope) (u.stepClass n' scope) := by
  refine .opens (fun hreads => ?_) (forall₂_belowAt? h "body")
  have hname := h.child? "name"
  generalize n.child? "name" = name at hname hreads
  generalize n'.child? "name" = name' at hname hreads
  cases hname with
  | none => rfl
  | some _ =>
    rw [Option.bind_some, Option.bind_some,
      u.findClass_congr (NodeReading.name.inj (List.cons.inj hreads).1)]

theorem follows_stepBlock (h : Around b b' n n') :
    Step.Follows b b' (if n.kind = "for_range_loop" then [n.variableReading] else [])
      (if n'.kind = "for_range_loop" then [n'.variableReading] else []) (stepBlock n scope)
      (stepBlock n' scope) := by
  refine .opens (fun hreads => ?_) (forall₂_namedBelow h)
  rw [h.shape.kind] at hreads ⊢
  split at hreads
  · next hkind =>
    rw [if_pos hkind, if_pos hkind, declareVariable_congr (List.cons.inj hreads).1]
  · next hkind => rw [if_neg hkind, if_neg hkind]

theorem follows_stepLambda (h : Around b b' n n') :
    Step.Follows b b' n.parameterReadings n'.parameterReadings (stepLambda n scope)
      (stepLambda n' scope) := by
  have hinside : ∀ m : Node, (stepLambda m scope).inside =
      some (((m.child? "declarator").bind parameters?).elim scope.inner fun p =>
        p.declareParameters scope.inner) := by
    intro m
    unfold stepLambda
    rcases (m.child? "declarator").bind parameters? with - | p
    · rfl
    · rfl
  refine ⟨forall₂_belowAt? h "body", fun _ => rfl, fun _ => rfl, fun hreads => ?_⟩
  rw [hinside, hinside, declareParameters_congr hreads]

/-- The parameter list of a function definition. -/
theorem map_val_parameters (n : Node) :
    ((n.belowAt? "declarator").bind fun d => d.1.parametersBelow?.map d.lift).map Subtype.val =
      (n.child? "declarator").bind parameters? := by
  rw [← n.map_val_belowAt? "declarator"]
  rcases n.belowAt? "declarator" with - | d
  · rfl
  rw [Option.bind_some, Option.map_some, Option.bind_some, parametersBelow?]
  split
  · next hp => exact hp.symm
  · next hp => exact hp.symm

/-- The body of a function starts with its parameters declared. -/
theorem inside_stepFunction (n : Node) (scope : LocalScope) :
    (u.stepFunction path n scope).inside =
      some (((n.child? "declarator").bind parameters?).elim (u.functionScope path n scope)
        fun p => p.declareParameters (u.functionScope path n scope)) := by
  rw [← map_val_parameters]
  unfold stepFunction
  split
  · next hp =>
    rw [hp]
    rfl
  · next hp =>
    rw [hp]
    rfl

/-- In a function definition the default values of the parameters are searched, then the bodies. -/
theorem map_val_next_stepFunction (n : Node) (scope : LocalScope) :
    (u.stepFunction path n scope).next.map Subtype.val =
      (((n.child? "declarator").bind parameters?).elim [] fun p =>
          p.defaultValues.map Subtype.val) ++
        n.namedChildren.filter fun c =>
          c.isOneOf ["field_initializer_list", "compound_statement", "try_statement"] := by
  have hbodies := n.map_val_filter_namedBelow fun c =>
    c.isOneOf ["field_initializer_list", "compound_statement", "try_statement"]
  rw [← map_val_parameters, ← hbodies]
  unfold stepFunction
  split
  · next hp =>
    rw [hp, List.map_append, List.map_map]
    rfl
  · next hp =>
    rw [hp]
    rfl

theorem follows_stepFunction (h : Reached b b' n n') :
    Step.Follows b b' n.parameterReadings n'.parameterReadings (u.stepFunction path n scope)
      (u.stepFunction path n' scope) := by
  have hplain : ∀ m : Node, (u.stepFunction path m scope).uses = [] ∧
      (u.stepFunction path m scope).scope = scope := by
    intro m
    unfold stepFunction
    split
    · exact ⟨rfl, rfl⟩
    · exact ⟨rfl, rfl⟩
  refine ⟨?_, fun _ => ?_, fun _ => ?_, fun hreads => ?_⟩
  · rw [map_val_next_stepFunction, map_val_next_stepFunction]
    refine List.rel_append ?_ (h.around.namedChildrenOf fun hm => hm.isOneOf _)
    have hparameters : Option.Rel (Reached b b') ((n.child? "declarator").bind parameters?)
        ((n'.child? "declarator").bind parameters?) :=
      rel_bind h.declarator? fun _ _ _ hd => hd.parameters?
    exact forall₂_elim hparameters fun _ _ hp => hp.around.defaultValues
  · rw [(hplain n).1, (hplain n').1]
  · rw [(hplain n).2, (hplain n').2]
  · have hstart : u.functionScope path n scope = u.functionScope path n' scope := by
      unfold functionScope
      rw [h.around.start]
    rw [inside_stepFunction, inside_stepFunction, hstart, declareParameters_congr hreads]

/-! ### Declarations -/

theorem map_val_initialValue? (d : n.Below) :
    (initialValue? d).map Subtype.val = d.1.initialValue? := by
  unfold initialValue? Node.initialValue?
  split
  · rw [Below.at?, Option.map_map]
    exact d.1.map_val_belowAt? "value"
  · rfl

/-- Where the search goes on below a declarator. -/
def declaratorNext (scope : LocalScope) (d : Node) : List Node :=
  if d.functionDeclarator?.isSome && !scope.isInner then
    (d.functionDeclarator?.bind fun f => f.child? "parameters").elim [] fun p =>
      p.defaultValues.map Subtype.val
  else d.initialValue?.toList

theorem map_val_next_stepDeclarator (typeName : String) (declaredClass : Option ClassType)
    (s : Step n) (d : n.Below) :
    (u.stepDeclarator typeName declaredClass s d).next.map Subtype.val =
      s.next.map Subtype.val ++ declaratorNext s.scope d.1 := by
  unfold stepDeclarator declaratorNext
  split
  · rw [← map_val_functionParametersBelow?]
    split
    · next hp =>
      rw [hp, List.map_append, List.map_map, List.map_map]
      rfl
    · next hp =>
      rw [hp]
      exact (List.append_nil _).symm
  · rw [← map_val_initialValue?, Option.toList_map]
    exact List.map_append

theorem rel_initialValue? {d d' : Node} (h : Exchanged b b' d d') :
    Option.Rel (Exchanged b b') d.initialValue? d'.initialValue? := by
  unfold Node.initialValue?
  rw [← h.sameShape.kind]
  split
  · next hkind => exact (h.around (by rw [hkind]; decide)).child? "value"
  · exact .none

theorem forall₂_declaratorNext {d d' : Node} (h : Exchanged b b' d d') {scope' : LocalScope}
    (hscope : scope.isInner = scope'.isInner) :
    List.Forall₂ (Exchanged b b') (declaratorNext scope d) (declaratorNext scope' d') := by
  unfold declaratorNext
  rw [isSome_eq_of_rel h.functionDeclarator?, hscope]
  split
  · exact forall₂_elim h.functionParameters? fun _ _ hp => hp.around.defaultValues
  · exact forall₂_toList (rel_initialValue? h)

theorem variableClass?_congr {typeName : String} {value value' : Option Node}
    (hsome : value.isSome = value'.isSome)
    (h : (if typeName = "auto" then operandReading value else .nothing) =
      if typeName = "auto" then operandReading value' else .nothing)
    (declaredClass : Option ClassType) :
    u.variableClass? typeName declaredClass scope value =
      u.variableClass? typeName declaredClass scope value' := by
  unfold variableClass?
  rcases value with - | v
  · rcases value' with - | v'
    · rfl
    · cases hsome
  rcases value' with - | v'
  · cases hsome
  dsimp only
  split
  · next hauto =>
    rw [if_pos hauto, if_pos hauto] at h
    rw [classOfExpression?_eq, classOfExpression?_eq]
    exact congrArg _ h
  · rfl

variable {reads reads' : List NodeReading} {s : Step n} {s' : Step n'} {d : n.Below}
  {d' : n'.Below} {typeName typeName' : String} {declaredClass declaredClass' : Option ClassType}

/-- One more declarator of a declaration. -/
theorem follows_stepDeclarator (hs : Step.Follows b b' reads reads' s s')
    (hinner : s.scope.isInner = s'.scope.isInner) (hkind : n.kind = n'.kind)
    (hd : Exchanged b b' d.1 d'.1)
    (hreads : reads = reads' → typeName = typeName' ∧ declaredClass = declaredClass' ∧
      n.declaratorReading typeName d.1 = n'.declaratorReading typeName' d'.1) :
    Step.Follows b b' reads reads' (u.stepDeclarator typeName declaredClass s d)
      (u.stepDeclarator typeName' declaredClass' s' d') := by
  have hfunction := isSome_eq_of_rel hd.functionDeclarator?
  have hvalue := isSome_eq_of_rel (rel_initialValue? hd)
  -- both declare a function outside of bodies, or neither does
  have hsame : reads = reads' →
      (u.stepDeclarator typeName declaredClass s d).uses =
          (u.stepDeclarator typeName' declaredClass' s' d').uses ∧
        (u.stepDeclarator typeName declaredClass s d).scope =
          (u.stepDeclarator typeName' declaredClass' s' d').scope ∧
        (u.stepDeclarator typeName declaredClass s d).inside =
          (u.stepDeclarator typeName' declaredClass' s' d').inside := by
    intro h
    obtain ⟨rfl, rfl, hreading⟩ := hreads h
    simp only [declaratorReading, NodeReading.variable.injEq] at hreading
    obtain ⟨hname, hclass, harity⟩ := hreading
    unfold stepDeclarator
    rw [hfunction, hinner]
    split
    · have hkept := And.intro (hs.uses h) (And.intro (hs.scope h) (hs.inside h))
      split
      · split
        · exact hkept
        · exact hkept
      · split
        · exact hkept
        · exact hkept
    · simp only [map_val_initialValue?, hkind, harity, hs.uses h, hs.scope h, hs.inside h,
        variableClass?_congr hvalue hclass, true_and, and_true]
      rw [← LocalScope.declareNamed_getD, hname, LocalScope.declareNamed_getD]
  refine ⟨?_, fun h => (hsame h).1, fun h => (hsame h).2.1, fun h => (hsame h).2.2⟩
  rw [map_val_next_stepDeclarator, map_val_next_stepDeclarator]
  exact List.rel_append hs.next (forall₂_declaratorNext hd hinner)

/-- The declarators of a declaration, one after the other. -/
theorem follows_foldl_stepDeclarator (hkind : n.kind = n'.kind) {ds : List n.Below}
    {ds' : List n'.Below}
    (hds : List.Forall₂ (fun d d' => Exchanged b b' d.1 d'.1) ds ds')
    (htype : reads = reads' → typeName = typeName' ∧ declaredClass = declaredClass')
    (hreads : reads = reads' → ds.map (fun d => n.declaratorReading typeName d.1) =
      ds'.map fun d => n'.declaratorReading typeName' d.1)
    (hs : Step.Follows b b' reads reads' s s') (hkeeps : s.Keeps scope) (hnone : s.inside = none)
    (hkeeps' : s'.Keeps scope) (hnone' : s'.inside = none) :
    Step.Follows b b' reads reads' (ds.foldl (u.stepDeclarator typeName declaredClass) s)
      (ds'.foldl (u.stepDeclarator typeName' declaredClass') s') := by
  induction hds generalizing s s' with
  | nil => exact hs
  | @cons d d' ds ds' hd hds ih =>
    have hinner : s.scope.isInner = s'.scope.isInner := by
      unfold LocalScope.isInner
      rw [hkeeps.around.outer, hkeeps'.around.outer]
    obtain ⟨hnext, hnone⟩ := u.keeps_stepDeclarator typeName declaredClass hkeeps hnone d
    obtain ⟨hnext', hnone'⟩ := u.keeps_stepDeclarator typeName' declaredClass' hkeeps' hnone' d'
    refine ih (fun h => (List.cons.inj (hreads h)).2) ?_ hnext hnone hnext' hnone'
    exact follows_stepDeclarator hs hinner hkind hd fun h =>
      ⟨(htype h).1, (htype h).2, (List.cons.inj (hreads h)).1⟩

theorem map_val_belowIn (n : Node) (field : String) :
    (n.belowIn field).map Subtype.val = n.childrenIn field :=
  n.map_val_childrenBelow _ _

theorem follows_stepDeclaration (h : Around b b' n n') :
    Step.Follows b b' n.declarationReadings n'.declarationReadings (u.stepDeclaration n scope)
      (u.stepDeclaration n' scope) := by
  have hreadings : ∀ (m : Node) (typeName : String),
      (m.belowIn "declarator").map (fun d => m.declaratorReading typeName d.1) =
        (m.childrenIn "declarator").map (m.declaratorReading typeName) := by
    intro m typeName
    rw [← map_val_belowIn, List.map_map]
    rfl
  have hds : List.Forall₂ (fun d d' => Exchanged b b' d.1 d'.1) (n.belowIn "declarator")
      (n'.belowIn "declarator") := by
    have hchildren := h.childrenIn "declarator"
    rw [← map_val_belowIn, ← map_val_belowIn, List.forall₂_map_left_iff,
      List.forall₂_map_right_iff] at hchildren
    exact hchildren
  have htype : n.declarationReadings = n'.declarationReadings →
      valueTypeOf (n.child? "type") = valueTypeOf (n'.child? "type") :=
    fun hreads => NodeReading.word.inj (List.cons.inj hreads).1
  have htypeNext : List.Forall₂ (Exchanged b b')
      (((n.belowAt? "type").filter fun t => t.1.isOneOf ("decltype" :: classKinds)).toList.map
        Subtype.val)
      (((n'.belowAt? "type").filter fun t => t.1.isOneOf ("decltype" :: classKinds)).toList.map
        Subtype.val) := by
    have hfilter : ∀ m : Node,
        ((m.belowAt? "type").filter fun t => t.1.isOneOf ("decltype" :: classKinds)).toList.map
          Subtype.val =
            (m.child? "type").toList.filter fun t => t.isOneOf ("decltype" :: classKinds) := by
      intro m
      rw [← map_val_toList_belowAt?, List.filter_map, Option.toList_filter]
      rfl
    rw [hfilter, hfilter]
    exact forall₂_filter_exchanged (fun hm => hm.isOneOf _) (forall₂_toList (h.child? "type"))
  unfold stepDeclaration
  dsimp only
  rw [map_val_belowAt?, map_val_belowAt?]
  refine .more ?_ (forall₂_belowAt? h "default_value")
  refine follows_foldl_stepDeclarator h.shape.kind hds (fun hreads => ?_) (fun hreads => ?_)
    (.plain (fun _ => rfl) htypeNext) (.plain _ _) rfl (.plain _ _) rfl
  · rw [htype hreads]
    exact ⟨rfl, rfl⟩
  · rw [hreadings, hreadings]
    exact (List.cons.inj hreads).2

theorem map_argumentCount_belowAt? (n : Node) (field : String) :
    ((n.belowAt? field).map fun a => a.1.argumentCount) = (n.child? field).map argumentCount := by
  rw [← map_val_belowAt?, Option.map_map]
  rfl

theorem follows_stepFieldInitializer (h : Around b b' n n') :
    Step.Follows b b' n.initializerReadings n'.initializerReadings
      (u.stepFieldInitializer n scope) (u.stepFieldInitializer n' scope) := by
  have hhead : ∀ m : Node,
      ((m.namedBelowOf ["argument_list", "initializer_list"]).head?).map Subtype.val =
        (m.namedChildren.filter fun c => c.isOneOf ["argument_list", "initializer_list"]).head? := by
    intro m
    rw [← m.map_val_filter_namedBelow fun c => c.isOneOf ["argument_list", "initializer_list"],
      List.head?_map]
    rfl
  refine .plain (fun hreads => ?_) ?_
  · have hcount : ∀ m : Node, ((m.namedBelowOf ["argument_list", "initializer_list"]).head?.map
        fun a => a.1.argumentCount) = (m.namedChildren.filter fun c =>
          c.isOneOf ["argument_list", "initializer_list"]).head?.map argumentCount := by
      intro m
      rw [← hhead, Option.map_map]
      rfl
    simp only [initializerReadings, List.cons.injEq, countReading,
      NodeReading.count.injEq] at hreads
    obtain ⟨harity, htext⟩ := hreads
    rw [hcount, hcount, harity]
    have htarget := rel_head? h.namedChildren
    generalize n.namedChildren.head? = target at htarget htext
    generalize n'.namedChildren.head? = target' at htarget htext
    cases htarget with
    | none => rfl
    | some hm =>
      have hword := NodeReading.word.inj (List.cons.inj htext).1
      rcases scope.owner with - | owner
      · rfl
      · dsimp only
        rw [hm.sameShape.kind, hword]
  · rw [← Option.toList_map, ← Option.toList_map, hhead, hhead]
    exact forall₂_toList (rel_head? (h.namedChildrenOf fun hm => hm.isOneOf _))

/-! ### Expressions -/

theorem follows_stepQualified (h : Exchanged b b' n n') :
    Step.Follows b b' [.name (Spelling.scopeParts n.text)] [.name (Spelling.scopeParts n'.text)]
      (u.stepQualified n scope) (u.stepQualified n' scope) := by
  have hname := h.innermostName?
  unfold stepQualified
  rcases hm : n.innermostName? with - | m
  · rw [hm] at hname
    rcases hm' : n'.innermostName? with - | m'
    · exact .plain (fun _ => rfl) .nil
    · rw [hm'] at hname
      cases hname
  rw [hm] at hname
  rcases hm' : n'.innermostName? with - | m'
  · rw [hm'] at hname
    cases hname
  rw [hm'] at hname
  cases hname with
  | some hmm =>
    refine .plain (fun hreads => ?_) h.innermostArguments
    rw [hmm.sameShape.isOneOf,
      u.lookupQualified_congr (NodeReading.name.inj (List.cons.inj hreads).1)]

theorem follows_stepConstruction (h : Around b b' n n') :
    Step.Follows b b' n.constructionReadings n'.constructionReadings (u.stepConstruction n scope)
      (u.stepConstruction n' scope) := by
  have hfield := isSome_eq_of_rel (h.child? "arguments")
  have hmade : ∀ m : Node, ((m.child? "type").bind fun t =>
      u.findClass t.valueType scope.enclosing) =
        u.findClass (valueTypeOf (m.child? "type")) scope.enclosing := by
    intro m
    rcases m.child? "type" with - | t
    · have hempty : Spelling.scopeParts "" = [""] := by decide +kernel
      rw [findClass, Registry.resolve?, valueTypeOf, hempty]
      rfl
    · rfl
  refine .plain (fun hreads => ?_) ?_
  · simp only [constructionReadings, List.cons.injEq, NodeReading.name.injEq, countReading,
      NodeReading.count.injEq, and_true] at hreads
    rw [hmade, hmade, map_argumentCount_belowAt?, map_argumentCount_belowAt?, hreads.2,
      u.findClass_congr hreads.1]
  · rw [List.map_append, List.map_append, hfield]
    refine List.rel_append ?_ (forall₂_belowAt? h _)
    have hfilter : ∀ (m : Node) (field : String),
        ((m.namedBelowBut field).filter fun c => c.1.kind == "argument_list").map Subtype.val =
          (m.namedChildrenBut field).filter fun c => c.kind == "argument_list" := by
      intro m field
      rw [← map_val_namedBelowBut, List.filter_map]
      rfl
    rw [hfilter, hfilter]
    exact forall₂_filter_exchanged (fun hm => by rw [hm.kind]) (h.namedChildrenBut _)

theorem map_val_at? (m : n.Below) (field : String) :
    (m.at? field).map Subtype.val = m.1.child? field := by
  rw [Below.at?, Option.map_map]
  exact m.1.map_val_belowAt? field

/-- The class of the receiver of a call. -/
theorem bind_at? (m : n.Below) (field : String) :
    ((m.at? field).bind fun r => u.classOfExpression? scope r.1) =
      u.classRead? scope (operandReading (m.1.child? field)) := by
  rw [← bind_classOfExpression?, ← map_val_at?, Option.bind_map]
  rfl

theorem follows_stepCall (h : Around b b' n n') :
    Step.Follows b b' n.callReadings n'.callReadings (u.stepCall n scope) (u.stepCall n' scope) := by
  have hfunction := h.child? "function"
  have harguments := forall₂_belowAt? h "arguments"
  unfold stepCall callReadings
  simp only [map_argumentCount_belowAt?]
  rw [← map_val_belowAt? n "function", ← map_val_belowAt? n' "function"] at hfunction ⊢
  generalize n.belowAt? "function" = f at hfunction ⊢
  generalize n'.belowAt? "function" = f' at hfunction ⊢
  rcases f with - | f
  · rcases f' with - | f'
    · exact .plain (fun _ => rfl) harguments
    · cases hfunction
  rcases f' with - | f'
  · cases hfunction
  have hf : Exchanged b b' f.1 f'.1 := by
    cases hfunction with
    | some hf => exact hf
  simp only [Option.map_some, Option.elim_some]
  rw [← hf.sameShape.kind]
  by_cases hname : f.1.kind = "identifier"
  · simp only [if_pos hname]
    refine .plain (fun hreads => ?_) harguments
    simp only [List.cons.injEq, countReading, NodeReading.count.injEq, NodeReading.word.injEq,
      and_true] at hreads
    rw [hreads.1, hreads.2]
  simp only [if_neg hname]
  by_cases hqualified : f.1.kind = "qualified_identifier"
  · simp only [if_pos hqualified]
    refine .plain (fun hreads => ?_) harguments
    simp only [List.cons.injEq, countReading, NodeReading.count.injEq, NodeReading.name.injEq,
      and_true] at hreads
    rw [hreads.1, u.lookupQualified_congr hreads.2, callUses_congr hreads.2]
  simp only [if_neg hqualified]
  by_cases htemplate : f.1.kind = "template_function"
  · simp only [if_pos htemplate]
    have haround := hf.around (by rw [htemplate]; decide)
    refine .plain (fun hreads => ?_) ?_
    · simp only [List.cons.injEq, countReading, NodeReading.count.injEq] at hreads
      rw [hreads.1, templateUses_congr hreads.2]
    · rw [List.map_append, List.map_append, List.map_map, List.map_map]
      exact List.rel_append harguments
        (forall₂_filter_namedBelow haround fun hm => hm.isOneOf ["template_argument_list"])
  simp only [if_neg htemplate]
  by_cases hmember : f.1.kind = "field_expression"
  · simp only [if_pos hmember]
    have haround := hf.around (by rw [hmember]; decide)
    refine .plain (fun hreads => ?_) ?_
    · simp only [List.cons.injEq, countReading, NodeReading.count.injEq, NodeReading.word.injEq,
        and_true] at hreads
      obtain ⟨harity, hfield, hobject⟩ := hreads
      rw [bind_at?, bind_at?, hfield, hobject, harity]
    · rw [List.map_append, List.map_append]
      refine List.rel_append ?_ harguments
      rw [← Option.toList_map, ← Option.toList_map, map_val_at?, map_val_at?]
      exact forall₂_toList (haround.child? "argument")
  · simp only [if_neg hmember]
    refine .plain (fun _ => rfl) ?_
    exact .cons hf harguments

/-! ### Every step -/

/-- From a node around the place the search goes on to the same nodes, but for the one that leads to
the place.  If the node reads the same, it uses and declares the same. -/
theorem follows_step (h : Around b b' n n') (hreplaced : Replaced b b' n n') :
    Step.Follows b b' n.reads n'.reads (u.step path n scope) (u.step path n' scope) := by
  have hfunction (hkind : n.kind = "function_definition") : Reached b b' n n' :=
    .inr ⟨hreplaced, by rw [hkind]; decide⟩
  have hkind : ∀ kind, n.kind = kind ↔ n'.kind = kind := fun kind => by rw [h.shape.kind]
  have hkinds : ∀ kinds, n.isOneOf kinds = true ↔ n'.isOneOf kinds = true := fun kinds => by
    rw [h.shape.isOneOf]
  unfold step Node.reads
  exact
    .ite (hkinds _) (fun _ => .plain (fun _ => rfl) .nil) fun _ =>
    .ite (hkind _) (fun _ => follows_stepNamespace h) fun _ =>
    .ite (hkinds _) (fun _ => follows_stepClass h) fun _ =>
    .ite (hkind _) (fun hn => follows_stepFunction (hfunction hn)) fun _ =>
    .ite (hkinds _) (fun _ => follows_stepDeclaration h) fun _ =>
    .ite (hkind _) (fun _ => .plain (fun _ => rfl) (forall₂_filter_namedBelow h
      (p := fun c => c.kind != "template_parameter_list") fun hm => by rw [hm.kind])) fun _ =>
    .ite (hkinds _) (fun _ => .plain (fun _ => rfl) (forall₂_namedBelowBut h _)) fun _ =>
    .ite (hkinds _) (fun _ => .plain (fun _ => rfl) (forall₂_namedBelowBut h _)) fun _ =>
    .ite (hkind _) (fun _ => .plain (fun _ => rfl) (forall₂_belowAt? h _)) fun _ =>
    .ite (hkinds _) (fun _ => follows_stepBlock h) fun _ =>
    .ite (hkind _) (fun _ => follows_stepLambda h) fun _ =>
    .ite (hkind _) (fun _ => .plain (fun _ => rfl) h.defaultValues) fun _ =>
    .ite (hkind _) (fun _ => follows_stepCall h) fun _ =>
    .ite (hkind _) (fun _ => .plain (fun _ => rfl) (forall₂_belowAt? h _)) fun _ =>
    .ite (hkind _) (fun _ => .plain identifierUses_congr .nil) fun _ =>
    .ite (hkind _) (fun _ => follows_stepQualified (.inr hreplaced)) fun _ =>
    .ite (hkind _) (fun _ => .plain (fun hreads => templateUses_congr hreads _)
      (forall₂_filter_namedBelow h fun hm => hm.isOneOf ["template_argument_list"])) fun _ =>
    .ite (hkinds _) (fun _ => follows_stepConstruction h) fun _ =>
    .ite (hkind _) (fun _ => follows_stepFieldInitializer h) fun _ =>
    .plain (fun hreads => expressionUses_congr h.shape.kind hreads) (forall₂_namedBelow h)

end TranslationUnit

end Unreferenced
