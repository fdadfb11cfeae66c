/-
Unreferenced/Proofs/NodeExchange.lean

A block in the place of another one, as far as trees go.

`Replaced b b' t t'` says that the trees `t` and `t'` are the same but for one
place, where `b` stands in one and `b'` in the other.  The nodes around the place
have other texts then, and nothing is known of these.

The functions that go down a tree from a node around the place go by the kinds and
the fields of nodes.  So they get to the same nodes in both trees, or to a node
around the place again, or to the place itself (`Exchanged`).
-/
import Mathlib.Data.List.Forall2
import Unreferenced.Proofs.BodySearch
import Unreferenced.Proofs.NodeReading

namespace Unreferenced

/-- The kinds of node that keep their variables to themselves: blocks and function objects. -/
def closedKinds : List String :=
  "lambda_expression" :: blockKinds

/-- The kinds of node that declare variables or open a scope. -/
def declaringKinds : List String :=
  ["namespace_definition", "function_definition", "declaration"] ++ classKinds ++ closedKinds

namespace Node

/-- Two nodes that a node above them cannot tell apart, other than by their text and what is below
them. -/
structure SameShape (n n' : Node) : Prop where
  kind : n.kind = n'.kind
  named : n.named = n'.named
  field : n.field = n'.field

/-- Where a node leads to on the way to a parameter list. -/
def leadsTo (n : Node) : List Node :=
  n.parametersStep?.toList ++ (n.child? "parameters").toList

/-- The second tree is the first one with `b'` in the place of the block or function object `b`.

The nodes around the place may have any text, as long as those that declare variables or open a scope
read the same.  The place is neither that of a declarator nor that of a parameter list. -/
inductive Replaced (b b' : Node) : Node → Node → Prop where
  | here (hkind : b.kind ∈ closedKinds) (hshape : b.SameShape b') : Replaced b b' b b'
  | around {n n' m m' : Node} (front back : List Node) (hshape : n.SameShape n')
      (hstart : n.start = n'.start) (hchildren : n.children = front ++ m :: back)
      (hchildren' : n'.children = front ++ m' :: back)
      (hleads : ∀ c ∈ n.leadsTo, c.kind ∉ closedKinds)
      (hreads : n.kind ∈ declaringKinds → n.reads = n'.reads) (hm : Replaced b b' m m') :
      Replaced b b' n n'

/-- The nodes are the same, or one is the other with `b'` in the place of `b`. -/
def Exchanged (b b' n n' : Node) : Prop :=
  n = n' ∨ Replaced b b' n n'

/-- Two nodes whose children are the same but for `b` and `b'`. -/
structure Around (b b' n n' : Node) : Prop where
  shape : n.SameShape n'
  start : n.start = n'.start
  children : List.Forall₂ (Exchanged b b') n.children n'.children

/-! ### Nodes of one shape -/

variable {b b' n n' : Node}

theorem SameShape.refl (n : Node) : n.SameShape n :=
  ⟨rfl, rfl, rfl⟩

theorem SameShape.isOneOf (h : n.SameShape n') (kinds : List String) :
    n.isOneOf kinds = n'.isOneOf kinds := by
  unfold Node.isOneOf
  rw [h.kind]

theorem Replaced.sameShape (h : Replaced b b' n n') : n.SameShape n' := by
  cases h with
  | here _ hshape => exact hshape
  | around _ _ hshape => exact hshape

theorem Exchanged.refl (n : Node) : Exchanged b b' n n :=
  .inl rfl

theorem Exchanged.sameShape (h : Exchanged b b' n n') : n.SameShape n' := by
  rcases h with rfl | h
  · exact .refl n
  · exact h.sameShape

theorem Around.refl (n : Node) : Around b b' n n :=
  ⟨.refl n, rfl, List.forall₂_same.2 fun m _ => .refl m⟩

theorem forall₂_exchanged {front back : List Node} {m m' : Node} (h : Replaced b b' m m') :
    List.Forall₂ (Exchanged b b') (front ++ m :: back) (front ++ m' :: back) :=
  List.rel_append (List.forall₂_same.2 fun k _ => .refl k)
    (.cons (.inr h) (List.forall₂_same.2 fun k _ => .refl k))

/-- Exchanged nodes have the same children but for `b` and `b'`, if they are not `b` and `b'`
themselves. -/
theorem Exchanged.around (h : Exchanged b b' n n') (hkind : n.kind ∉ closedKinds) :
    Around b b' n n' := by
  rcases h with rfl | h
  · exact .refl n
  cases h with
  | here hclosed => exact absurd hclosed hkind
  | around _ _ hshape hstart hchildren hchildren' _ _ hm =>
    refine ⟨hshape, hstart, ?_⟩
    rw [hchildren, hchildren']
    exact forall₂_exchanged hm

/-! ### Children -/

section Lists

variable {p : Node → Bool} (hp : ∀ {m m' : Node}, m.SameShape m' → p m = p m')
  {nodes nodes' : List Node} (h : List.Forall₂ (Exchanged b b') nodes nodes')
include hp h

theorem rel_find?_exchanged : Option.Rel (Exchanged b b') (nodes.find? p) (nodes'.find? p) := by
  induction h with
  | nil => exact .none
  | @cons m m' nodes nodes' hm _ ih =>
    rw [List.find?_cons, List.find?_cons, hp hm.sameShape]
    split
    · exact .some hm
    · exact ih

theorem forall₂_filter_exchanged :
    List.Forall₂ (Exchanged b b') (nodes.filter p) (nodes'.filter p) :=
  List.rel_filter (fun _ _ hm => iff_of_eq (congrArg (· = true) (hp hm.sameShape))) h

theorem forall₂_eraseP_exchanged :
    List.Forall₂ (Exchanged b b') (nodes.eraseP p) (nodes'.eraseP p) := by
  induction h with
  | nil => exact .nil
  | @cons m m' nodes nodes' hm hnodes ih =>
    rw [List.eraseP_cons, List.eraseP_cons, hp hm.sameShape]
    cases p m' with
    | true => exact hnodes
    | false => exact .cons hm ih

end Lists

theorem forall₂_toList {R : Node → Node → Prop} {o o' : Option Node} (h : Option.Rel R o o') :
    List.Forall₂ R o.toList o'.toList := by
  cases h with
  | none => exact .nil
  | some h => exact .cons h .nil

theorem isSome_eq_of_rel {R : Node → Node → Prop} {o o' : Option Node} (h : Option.Rel R o o') :
    o.isSome = o'.isSome := by
  cases h with
  | none => rfl
  | some => rfl

theorem rel_bind {R S : Node → Node → Prop} {o o' : Option Node} {f : Node → Option Node}
    (h : Option.Rel R o o')
    (hf : ∀ m m', o = some m → R m m' → Option.Rel S (f m) (f m')) :
    Option.Rel S (o.bind f) (o'.bind f) := by
  cases h with
  | none => exact .none
  | some h => exact hf _ _ rfl h

theorem forall₂_elim {R S : Node → Node → Prop} {o o' : Option Node} {f : Node → List Node}
    (h : Option.Rel R o o') (hf : ∀ m m', R m m' → List.Forall₂ S (f m) (f m')) :
    List.Forall₂ S (o.elim [] f) (o'.elim [] f) := by
  cases h with
  | none => exact .nil
  | some h => exact hf _ _ h

theorem rel_head? {R : Node → Node → Prop} {nodes nodes' : List Node}
    (h : List.Forall₂ R nodes nodes') : Option.Rel R nodes.head? nodes'.head? := by
  cases h with
  | nil => exact .none
  | cons h _ => exact .some h

namespace Around

variable (h : Around b b' n n')
include h

theorem child? (field : String) :
    Option.Rel (Exchanged b b') (n.child? field) (n'.child? field) :=
  rel_find?_exchanged (fun hm => by rw [hm.field]) h.children

theorem childrenIn (field : String) :
    List.Forall₂ (Exchanged b b') (n.childrenIn field) (n'.childrenIn field) :=
  forall₂_filter_exchanged (fun hm => by rw [hm.field]) h.children

theorem namedChildren : List.Forall₂ (Exchanged b b') n.namedChildren n'.namedChildren :=
  forall₂_filter_exchanged SameShape.named h.children

theorem namedChildrenBut (field : String) :
    List.Forall₂ (Exchanged b b') (n.namedChildrenBut field) (n'.namedChildrenBut field) :=
  forall₂_filter_exchanged SameShape.named
    (forall₂_eraseP_exchanged (fun hm => by rw [hm.field]) h.children)

theorem namedChild? {p : Node → Bool} (hp : ∀ {m m' : Node}, m.SameShape m' → p m = p m') :
    Option.Rel (Exchanged b b') (n.namedChild? p) (n'.namedChild? p) :=
  rel_find?_exchanged hp h.namedChildren

theorem namedChildrenOf {p : Node → Bool} (hp : ∀ {m m' : Node}, m.SameShape m' → p m = p m') :
    List.Forall₂ (Exchanged b b') (n.namedChildren.filter p) (n'.namedChildren.filter p) :=
  forall₂_filter_exchanged hp h.namedChildren

theorem unwrapped? : Option.Rel (Exchanged b b') n.unwrapped? n'.unwrapped? := by
  have hdeclarator := h.child? "declarator"
  unfold Node.unwrapped?
  generalize n.child? "declarator" = d at hdeclarator
  generalize n'.child? "declarator" = d' at hdeclarator
  cases hdeclarator with
  | some hd => exact .some hd
  | none => exact h.namedChild? fun hm => by rw [hm.isOneOf, hm.kind]

theorem parametersStep? : Option.Rel (Exchanged b b') n.parametersStep? n'.parametersStep? := by
  have hdeclarator := h.child? "declarator"
  unfold Node.parametersStep?
  generalize n.child? "declarator" = d at hdeclarator
  generalize n'.child? "declarator" = d' at hdeclarator
  cases hdeclarator with
  | some hd => exact .some hd
  | none =>
    dsimp only
    rw [h.shape.kind]
    split
    · exact h.child? "name"
    split
    · exact h.namedChild? fun _ => rfl
    · exact .none

end Around

/-! ### Declarators and parameter lists -/

theorem not_mem_closedKinds {kinds : List String} (h : n.isOneOf kinds = true)
    (hkinds : ∀ kind ∈ kinds, kind ∉ closedKinds) : n.kind ∉ closedKinds :=
  hkinds _ (isOneOf_iff.1 h)

theorem functionDeclarator?_eq (n : Node) : n.functionDeclarator? =
    if n.kind = "function_declarator" then
      if (n.child? "declarator").any fun c => c.isOneOf functionNameKinds then some n else none
    else if n.isOneOf wrapperKinds then n.unwrapped?.bind Node.functionDeclarator? else none := by
  rw [Node.functionDeclarator?]
  split
  · rcases n.child? "declarator" with - | c
    · rfl
    · rfl
  split
  · split
    · next hc => rw [hc]; rfl
    · next hc => rw [hc]; rfl
  · rfl

/-- The function that a declarator declares is found by the kinds of nodes. -/
theorem Exchanged.functionDeclarator? (h : Exchanged b b' n n') :
    Option.Rel (Exchanged b b') n.functionDeclarator? n'.functionDeclarator? := by
  induction hsize : sizeOf n using Nat.strongRecOn generalizing n n' with
  | _ size ih =>
  subst hsize
  rw [functionDeclarator?_eq, functionDeclarator?_eq n', ← h.sameShape.kind,
    ← h.sameShape.isOneOf]
  split
  · next hkind =>
    have hchild := (h.around (by rw [hkind]; decide)).child? "declarator"
    have hany : (n.child? "declarator").any (fun c => c.isOneOf functionNameKinds) =
        (n'.child? "declarator").any fun c => c.isOneOf functionNameKinds := by
      generalize n.child? "declarator" = d at hchild
      generalize n'.child? "declarator" = d' at hchild
      cases hchild with
      | none => rfl
      | some hd => exact hd.sameShape.isOneOf _
    rw [hany]
    split
    · exact .some h
    · exact .none
  split
  · next hkind =>
    have hopen := not_mem_closedKinds hkind (by decide)
    exact rel_bind (h.around hopen).unwrapped? fun c c' hc hchild =>
      ih (sizeOf c) (sizeOf_lt_of_unwrapped? hc) hchild rfl
  · exact .none

/-- Two parameter lists, or declarators that lead to them: the same, or no blocks. -/
def Reached (b b' n n' : Node) : Prop :=
  n = n' ∨ Replaced b b' n n' ∧ n.kind ∉ closedKinds

theorem Reached.around (h : Reached b b' n n') : Around b b' n n' := by
  rcases h with rfl | ⟨h, hkind⟩
  · exact .refl n
  · exact Exchanged.around (.inr h) hkind

/-- Where a node around the place leads to. -/
theorem Reached.leads {f : Node → Option Node} (h : Reached b b' n n')
    (hf : ∀ m, f n = some m → m ∈ n.leadsTo)
    (hrel : Option.Rel (Exchanged b b') (f n) (f n')) :
    Option.Rel (Reached b b') (f n) (f n') := by
  rcases h with rfl | ⟨h, hkind⟩
  · rcases f n with - | m
    · exact .none
    · exact .some (.inl rfl)
  cases h with
  | here hclosed => exact absurd hclosed hkind
  | around _ _ _ _ _ _ hleads _ _ =>
    generalize f n = m at hf hrel ⊢
    generalize f n' = m' at hrel ⊢
    cases hrel with
    | none => exact .none
    | some hm =>
      refine .some ?_
      rcases hm with rfl | hm
      · exact .inl rfl
      · exact .inr ⟨hm, hleads _ (hf _ rfl)⟩

theorem Reached.parametersStep? (h : Reached b b' n n') :
    Option.Rel (Reached b b') n.parametersStep? n'.parametersStep? :=
  h.leads (fun _ hm => List.mem_append_left _ (Option.mem_toList.2 hm)) h.around.parametersStep?

theorem Reached.parametersChild? (h : Reached b b' n n') :
    Option.Rel (Reached b b') (n.child? "parameters") (n'.child? "parameters") :=
  h.leads (f := (Node.child? · "parameters"))
    (fun _ hm => List.mem_append_right _ (Option.mem_toList.2 hm)) (h.around.child? "parameters")

theorem Reached.declarator? (h : Reached b b' n n') :
    Option.Rel (Reached b b') (n.child? "declarator") (n'.child? "declarator") := by
  refine h.leads (f := (Node.child? · "declarator")) (fun m hm => ?_) (h.around.child? "declarator")
  refine List.mem_append_left _ (Option.mem_toList.2 ?_)
  unfold Node.parametersStep?
  rw [hm]

/-- A parameter list is found by the kinds of nodes. -/
theorem Reached.parameters? (h : Reached b b' n n') :
    Option.Rel (Reached b b') n.parameters? n'.parameters? := by
  induction hsize : sizeOf n using Nat.strongRecOn generalizing n n' with
  | _ size ih =>
  subst hsize
  have hchild := h.parametersChild?
  have hstep := h.parametersStep?
  rw [Node.parameters?, Node.parameters?]
  generalize n.child? "parameters" = p at hchild
  generalize n'.child? "parameters" = p' at hchild
  cases hchild with
  | some hp => exact .some hp
  | none =>
    dsimp only
    split
    · next c hc =>
      rw [hc] at hstep
      split
      · next c' hc' =>
        rw [hc'] at hstep
        cases hstep with
        | some hcc => exact ih (sizeOf c) (sizeOf_lt_of_parametersStep? hc) hcc rfl
      · next hc' =>
        rw [hc'] at hstep
        cases hstep
    · next hc =>
      rw [hc] at hstep
      split
      · next hc' =>
        rw [hc'] at hstep
        cases hstep
      · exact .none

/-! ### Where the search goes on below -/

theorem map_val_defaultValues (n : Node) : n.defaultValues.map Subtype.val =
    n.namedChildren.filterMap fun p =>
      if p.kind = "optional_parameter_declaration" then p.child? "default_value" else none := by
  unfold defaultValues
  rw [List.map_filterMap, ← n.map_val_namedBelow, List.filterMap_map]
  refine List.filterMap_congr fun p _ => ?_
  dsimp only [Function.comp]
  split
  · rw [Below.at?, Option.map_map]
    exact p.1.map_val_belowAt? "default_value"
  · rfl

theorem Around.defaultValues (h : Around b b' n n') :
    List.Forall₂ (Exchanged b b') (n.defaultValues.map Subtype.val)
      (n'.defaultValues.map Subtype.val) := by
  rw [map_val_defaultValues, map_val_defaultValues]
  refine List.rel_filterMap (fun p p' hp => ?_) h.namedChildren
  rw [← hp.sameShape.kind]
  split
  · next hkind => exact (hp.around (by rw [hkind]; decide)).child? "default_value"
  · exact .none

theorem map_val_functionParametersBelow? (n : Node) :
    n.functionParametersBelow?.map Subtype.val =
      n.functionDeclarator?.bind fun f => f.child? "parameters" := by
  unfold functionParametersBelow?
  split
  · next f hf =>
    rw [Option.map_map]
    exact (f.map_val_belowAt? "parameters").trans (by rw [hf]; rfl)
  · next hf => rw [hf]; rfl

theorem kind_of_functionDeclarator? {f : Node} (h : n.functionDeclarator? = some f) :
    f.kind = "function_declarator" := by
  fun_induction Node.functionDeclarator? n with
  | case1 n hkind => cases h; exact hkind
  | case4 n _ _ c hc ih => exact ih h
  | case2 | case3 | case5 | case6 => cases h

/-- The parameter list of the function that a declarator declares. -/
theorem Exchanged.functionParameters? (h : Exchanged b b' n n') :
    Option.Rel (Reached b b') (n.functionDeclarator?.bind fun f => f.child? "parameters")
      (n'.functionDeclarator?.bind fun f => f.child? "parameters") := by
  refine rel_bind h.functionDeclarator? fun f f' hf hff => Reached.parametersChild? ?_
  have hkind := kind_of_functionDeclarator? hf
  rcases hff with rfl | hff
  · exact .inl rfl
  · exact .inr ⟨hff, by rw [hkind]; decide⟩

theorem innermostName?_eq (n : Node) : n.innermostName? =
    if n.kind = "qualified_identifier" then (n.child? "name").bind innermostName? else some n := by
  rw [innermostName?]
  split
  · split
    · next hc => rw [hc]; rfl
    · next hc => rw [hc]; rfl
  · rfl

theorem Exchanged.innermostName? (h : Exchanged b b' n n') :
    Option.Rel (Exchanged b b') n.innermostName? n'.innermostName? := by
  induction hsize : sizeOf n using Nat.strongRecOn generalizing n n' with
  | _ size ih =>
  subst hsize
  rw [innermostName?_eq, innermostName?_eq n', ← h.sameShape.kind]
  split
  · next hkind =>
    have haround := h.around (by rw [hkind]; decide)
    exact rel_bind (haround.child? "name") fun c c' hc hchild =>
      ih (sizeOf c) (sizeOf_lt_of_child? hc) hchild rfl
  · exact .some h

theorem map_val_innermostArguments (n : Node) : n.innermostArguments.map Subtype.val =
    n.innermostName?.elim [] fun m =>
      if m.kind = "template_function" then
        m.namedChildren.filter fun c => c.isOneOf ["template_argument_list"]
      else [] := by
  unfold innermostArguments
  split
  · next m hm =>
    have harguments := m.map_val_filter_namedBelow fun c => c.isOneOf ["template_argument_list"]
    split
    · next hkind =>
      rw [List.map_map]
      exact harguments.trans (by rw [hm, Option.elim_some, if_pos hkind])
    · next hkind => rw [hm, Option.elim_some, if_neg hkind]; rfl
  · next hm => rw [hm]; rfl

theorem Exchanged.innermostArguments (h : Exchanged b b' n n') :
    List.Forall₂ (Exchanged b b') (n.innermostArguments.map Subtype.val)
      (n'.innermostArguments.map Subtype.val) := by
  rw [map_val_innermostArguments, map_val_innermostArguments]
  refine forall₂_elim h.innermostName? fun m m' hm => ?_
  rw [← hm.sameShape.kind]
  split
  · next hkind =>
    exact (hm.around (by rw [hkind]; decide)).namedChildrenOf fun hc => hc.isOneOf _
  · exact .nil

end Node

end Unreferenced
