/-
Unreferenced/Proofs/ScopeStore.lean

The scopes of a search, shared in their store.

All that stands in a scope is searched in one cell of the store, and a cell that
was made for a block refers to the one around it.  A step declares variables in
the scope it is met in and in none around it (`keeps_step`), so what is written
back to the store changes one cell (`Scopes.update_eq`).  From there it follows,
by induction over the tree, that a search leaves every cell alone but the one it
starts in (`Scopes.Frame`, `traces_searchFrom`), and also this one if the root
opens a scope (`cells_searchFrom_of_opens`).

Two other forms of the search are compared with it.  In `searchTree` nothing is
shared: a tree is searched in a scope that is handed on from one node to the next.
A `Traversal` has a stack of nodes, each waiting with the place of its scope, and
takes one node from it at a time; it ends with what the recursion finds
(`Traversal.reaches_searchFrom`).
-/
import Mathlib.Computability.StateTransition
import Unreferenced.Usage.Search

namespace Unreferenced

/-! ### What a step does to the scope -/

/-- The scopes differ in the innermost block at most. -/
structure LocalScope.SameAround (s s' : LocalScope) : Prop where
  enclosing : s.enclosing = s'.enclosing
  owner : s.owner = s'.owner
  outer : s.outer = s'.outer

namespace LocalScope

theorem SameAround.refl (s : LocalScope) : s.SameAround s :=
  ⟨rfl, rfl, rfl⟩

theorem SameAround.trans {s s' s'' : LocalScope} (h : s.SameAround s') (h' : s'.SameAround s'') :
    s.SameAround s'' :=
  ⟨h.enclosing.trans h'.enclosing, h.owner.trans h'.owner, h.outer.trans h'.outer⟩

theorem SameAround.eq {s s' : LocalScope} (h : s.SameAround s') :
    { s' with block := s.block } = s := by
  obtain ⟨enclosing, owner, block, outer⟩ := s
  obtain ⟨rfl, rfl, rfl⟩ := h
  rfl

theorem sameAround_declareNamed (s : LocalScope) (name : Option String) (type : String) :
    (s.declareNamed name type).SameAround s := by
  unfold declareNamed
  split
  · split
    · exact .refl s
    · exact ⟨rfl, rfl, rfl⟩
  · exact .refl s

end LocalScope

/-- A step declares variables in the innermost block only.  If it opens a scope it declares none, and
that scope has nothing around it, or all that is around the step. -/
structure Step.Keeps {n : Node} (s : Step n) (scope : LocalScope) : Prop where
  around : s.scope.SameAround scope
  inside : ∀ inside, s.inside = some inside →
    s.scope = scope ∧ (inside.outer = [] ∨ inside.outer = scope.block :: scope.outer)

namespace Step.Keeps

variable {n : Node} {scope : LocalScope}

theorem plain (uses : List (Event Nat)) (next : List n.Below) :
    (Step.mk uses scope next none).Keeps scope :=
  ⟨.refl scope, fun _ h => nomatch h⟩

theorem opens (next : List n.Below) {inside : LocalScope}
    (h : inside.outer = [] ∨ inside.outer = scope.block :: scope.outer) :
    (Step.mk [] scope next (some inside)).Keeps scope := by
  refine ⟨.refl scope, fun other hother => ⟨rfl, ?_⟩⟩
  cases hother
  exact h

theorem ite {c : Prop} [Decidable c] {s s' : Step n} (hpos : s.Keeps scope)
    (hneg : s'.Keeps scope) : (if c then s else s').Keeps scope := by
  split
  · exact hpos
  · exact hneg

end Step.Keeps

theorem Node.outer_declareParameters (n : Node) (scope : LocalScope) :
    (n.declareParameters scope).outer = scope.outer := by
  unfold declareParameters
  generalize n.namedChildren = parameters
  induction parameters generalizing scope with
  | nil => rfl
  | cons p parameters ih =>
    rw [List.foldl_cons, ih]
    exact (scope.sameAround_declareNamed _ _).outer

namespace TranslationUnit

variable (u : TranslationUnit) (path : String) (n : Node) (scope : LocalScope)

theorem outer_functionScope :
    (u.functionScope path n scope).outer = [] ∨
      (u.functionScope path n scope).outer = scope.block :: scope.outer := by
  unfold functionScope
  split
  · exact .inl rfl
  · exact .inr rfl

theorem keeps_stepFunction : (u.stepFunction path n scope).Keeps scope := by
  unfold stepFunction
  dsimp only
  split
  · apply Step.Keeps.opens
    rw [Node.outer_declareParameters]
    exact u.outer_functionScope path n scope
  · exact .opens _ (u.outer_functionScope path n scope)

theorem keeps_stepLambda : (stepLambda n scope).Keeps scope := by
  apply Step.Keeps.opens
  split
  · rw [Node.outer_declareParameters]
    exact .inr rfl
  · exact .inr rfl

theorem keeps_stepBlock : (stepBlock n scope).Keeps scope := by
  apply Step.Keeps.opens
  split
  · exact .inr (LocalScope.sameAround_declareNamed _ _ _).outer
  · exact .inr rfl

theorem keeps_stepClass : (u.stepClass n scope).Keeps scope := by
  apply Step.Keeps.opens
  split
  · exact .inl rfl
  · exact .inl rfl

variable {n scope}

/-- A declarator opens no scope, and declares a variable in the innermost block at most. -/
theorem keeps_stepDeclarator (typeName : String) (declaredClass : Option ClassType) {s : Step n}
    (h : s.Keeps scope) (hinside : s.inside = none) (d : n.Below) :
    (u.stepDeclarator typeName declaredClass s d).Keeps scope ∧
      (u.stepDeclarator typeName declaredClass s d).inside = none := by
  have hkeeps : ∀ s' : Step n, s'.inside = none → s'.scope.SameAround s.scope →
      s'.Keeps scope ∧ s'.inside = none := by
    intro s' hnone hscope
    refine ⟨⟨hscope.trans h.around, fun inside hsome => ?_⟩, hnone⟩
    rw [hnone] at hsome
    cases hsome
  unfold stepDeclarator
  split
  · split
    · exact hkeeps _ hinside (.refl _)
    · exact hkeeps _ hinside (.refl _)
  · refine hkeeps _ hinside ?_
    dsimp only
    split
    · exact .refl _
    · exact s.scope.sameAround_declareNamed _ _

theorem keeps_stepDeclaration : (u.stepDeclaration n scope).Keeps scope := by
  have hfold : ∀ (typeName : String) (declaredClass : Option ClassType) (ds : List n.Below)
      (s : Step n), s.Keeps scope → s.inside = none →
      (ds.foldl (u.stepDeclarator typeName declaredClass) s).Keeps scope := by
    intro typeName declaredClass ds
    induction ds with
    | nil => exact fun s h _ => h
    | cons d ds ih =>
      intro s h hinside
      obtain ⟨hnext, hnone⟩ := u.keeps_stepDeclarator typeName declaredClass h hinside d
      exact ih _ hnext hnone
  unfold stepDeclaration
  dsimp only
  have h := hfold (Node.valueTypeOf ((n.belowAt? "type").map Subtype.val))
    (u.findClass (Node.valueTypeOf ((n.belowAt? "type").map Subtype.val)) scope.enclosing)
    (n.belowIn "declarator") _
    (.plain [] ((n.belowAt? "type").filter fun t => t.1.isOneOf ("decltype" :: classKinds)).toList)
    rfl
  exact ⟨h.around, h.inside⟩

theorem keeps_stepCall : (u.stepCall n scope).Keeps scope := by
  unfold stepCall
  dsimp only
  split
  · exact .plain _ _
  · exact .ite (.plain _ _) (.ite (.plain _ _) (.ite (.plain _ _) (.ite (.plain _ _) (.plain _ _))))

theorem keeps_stepQualified : (u.stepQualified n scope).Keeps scope := by
  unfold stepQualified
  split
  · exact .plain _ _
  · exact .plain _ _

/-- A step declares variables in the scope it is met in, and in none around it. -/
theorem keeps_step : (u.step path n scope).Keeps scope := by
  unfold step
  exact
    .ite (.plain _ _) <| .ite (.opens _ (.inl rfl)) <| .ite (u.keeps_stepClass n scope) <|
    .ite (u.keeps_stepFunction path n scope) <| .ite u.keeps_stepDeclaration <|
    .ite (.plain _ _) <| .ite (.plain _ _) <| .ite (.plain _ _) <| .ite (.plain _ _) <|
    .ite (keeps_stepBlock n scope) <| .ite (keeps_stepLambda n scope) <| .ite (.plain _ _) <|
    .ite u.keeps_stepCall <| .ite (.plain _ _) <| .ite (.plain _ _) <|
    .ite u.keeps_stepQualified <| .ite (.plain _ _) <| .ite (.plain _ _) <|
    .ite (.plain _ _) (.plain _ _)

end TranslationUnit

/-! ### Cells of the store -/

namespace Scopes

variable {s t : Scopes} {i : Nat}

theorem ext_cells (h : s.cells = t.cells) : s = t := by
  cases s
  cases t
  cases h
  rfl

theorem blocksAt_of_getElem? {c : StoredScope} (h : s.cells[i]? = some c) :
    s.blocksAt i = c.types :: c.parent.elim [] s.blocksAt := by
  rw [blocksAt]
  split
  · next hnone =>
    rw [h] at hnone
    cases hnone
  · next c' hc =>
    rw [h] at hc
    cases hc
    split
    · next hp => rw [hp]; rfl
    · next hp => rw [hp]; rfl

theorem getElem?_of_lt (h : i < s.size) : ∃ c, s.cells[i]? = some c :=
  ⟨_, Array.getElem?_eq_getElem h⟩

theorem getD_of_getElem? {c : StoredScope} (h : s.cells[i]? = some c) : s.cells.getD i {} = c := by
  rw [Array.getD_eq_getD_getElem?, h]
  rfl

theorem view_initial : initial.view 0 = {} := by
  have hcell : initial.cells[0]? = some ({} : StoredScope) := rfl
  unfold view
  rw [blocksAt_of_getElem? hcell, getD_of_getElem? hcell]
  rfl

/-- What is visible depends on the cells up to the place. -/
theorem blocksAt_congr (h : ∀ j ≤ i, t.cells[j]? = s.cells[j]?) : t.blocksAt i = s.blocksAt i := by
  induction i using Nat.strongRecOn with
  | _ i ih =>
    rcases hc : s.cells[i]? with - | c
    · rw [blocksAt, blocksAt]
      have ht := (h i (Nat.le_refl i)).trans hc
      split
      · split
        · rfl
        · next hs => rw [hc] at hs; cases hs
      · next hsome => rw [ht] at hsome; cases hsome
    · rw [blocksAt_of_getElem? hc, blocksAt_of_getElem? ((h i (Nat.le_refl i)).trans hc)]
      rcases hp : c.parent with - | p
      · rfl
      · have hlt := s.parent_lt hc hp
        exact congrArg _ (ih p hlt fun j hj => h j (by omega))

theorem view_congr (h : ∀ j ≤ i, t.cells[j]? = s.cells[j]?) : t.view i = s.view i := by
  unfold view
  rw [blocksAt_congr h, Array.getD_eq_getD_getElem?, Array.getD_eq_getD_getElem?,
    h i (Nat.le_refl i)]

theorem size_setTypes (s : Scopes) (i : Nat) (types : List (String × String)) :
    (s.setTypes i types).size = s.size :=
  Array.size_modify

theorem getElem?_setTypes (s : Scopes) (i : Nat) (types : List (String × String)) (j : Nat) :
    (s.setTypes i types).cells[j]? =
      if i = j then s.cells[j]?.map fun c => { c with types := types } else s.cells[j]? := by
  exact Array.getElem?_modify

theorem setTypes_self {c : StoredScope} (h : s.cells[i]? = some c) : s.setTypes i c.types = s := by
  apply ext_cells
  apply Array.ext_getElem?
  intro j
  rw [getElem?_setTypes]
  split
  · next hj => rw [← hj, h]; rfl
  · rfl

/-- Writing back what is there changes nothing. -/
theorem write_blocksAt (h : i < s.size) : s.write i (s.blocksAt i) = s := by
  induction i using Nat.strongRecOn with
  | _ i ih =>
    obtain ⟨c, hc⟩ := getElem?_of_lt h
    rw [blocksAt_of_getElem? hc, write, getD_of_getElem? hc, setTypes_self hc]
    rcases hp : c.parent with - | p
    · rfl
    · have hlt := s.parent_lt hc hp
      exact ih p hlt (Nat.lt_trans hlt h)

/-- If nothing changes around a scope, only its own cell is written. -/
theorem update_eq (h : i < s.size) {scope : LocalScope} (houter : scope.outer = (s.view i).outer) :
    s.update i scope = s.setTypes i scope.block := by
  obtain ⟨c, hc⟩ := getElem?_of_lt h
  have hview : (s.view i).outer = c.parent.elim [] s.blocksAt :=
    congrArg List.tail (blocksAt_of_getElem? hc)
  rw [update, houter, hview, write, getD_of_getElem? hc]
  rcases hp : c.parent with - | p
  · rfl
  · -- the scopes around come before this one, so they are the same in both stores
    have hlt := s.parent_lt hc hp
    have hblocks : s.blocksAt p = (s.setTypes i scope.block).blocksAt p := by
      symm
      apply blocksAt_congr
      intro j hj
      rw [getElem?_setTypes, if_neg (by omega)]
    show (s.setTypes i scope.block).write p (s.blocksAt p) = _
    rw [hblocks]
    apply write_blocksAt
    rw [size_setTypes]
    exact Nat.lt_trans hlt h

/-- What is visible from a cell with other variables. -/
theorem view_setTypes (h : i < s.size) (types : List (String × String)) :
    (s.setTypes i types).view i = { s.view i with block := types } := by
  obtain ⟨c, hc⟩ := getElem?_of_lt h
  have hset : (s.setTypes i types).cells[i]? = some { c with types := types } := by
    rw [getElem?_setTypes, if_pos rfl, hc]
    rfl
  have hblocks : (s.setTypes i types).blocksAt i = types :: c.parent.elim [] s.blocksAt := by
    rw [blocksAt_of_getElem? hset]
    rcases hp : c.parent with - | p
    · rfl
    · have hlt := s.parent_lt hc hp
      refine congrArg _ (blocksAt_congr fun j hj => ?_)
      rw [getElem?_setTypes, if_neg (by omega)]
  unfold view
  rw [hblocks, blocksAt_of_getElem? hc, getD_of_getElem? hc, getD_of_getElem? hset]
  rfl

/-! ### A scope is entered -/

/-- The cell of a scope that is entered from a place. -/
def entered (s : Scopes) (i : Nat) (scope : LocalScope) : StoredScope where
  enclosing := scope.enclosing
  owner := scope.owner
  parent := if scope.isInner && decide (i < s.cells.size) then some i else none
  types := scope.block

/-- The scope has nothing around it, or what is visible from a place. -/
def Around (s : Scopes) (i : Nat) (scope : LocalScope) : Prop :=
  scope.outer = [] ∨ i < s.size ∧ scope.outer = (s.view i).block :: (s.view i).outer

theorem blocksAt_eq_view (h : i < s.size) :
    s.blocksAt i = (s.view i).block :: (s.view i).outer := by
  obtain ⟨c, hc⟩ := getElem?_of_lt h
  unfold view
  rw [blocksAt_of_getElem? hc, getD_of_getElem? hc]
  rfl

theorem Around.elim_parent {scope : LocalScope} (h : s.Around i scope) :
    (s.entered i scope).parent.elim [] s.blocksAt = scope.outer := by
  unfold entered LocalScope.isInner
  rcases h with houter | ⟨hlt, houter⟩
  · rw [houter]
    rfl
  · have hinner : (!scope.outer.isEmpty && decide (i < s.cells.size)) = true := by
      rw [houter]
      exact decide_eq_true (show i < s.cells.size from hlt)
    simp only [hinner, if_pos, Option.elim_some]
    rw [blocksAt_eq_view hlt, houter]

theorem cells_enter {scope : LocalScope} (h : s.Around i scope) :
    (s.enter i scope).cells = s.cells.push (s.entered i scope) := by
  have hlast : (s.push i scope).cells[s.size]? = some { s.entered i scope with types := [] } :=
    Array.getElem?_push_size
  have hbefore : ∀ j < s.size, (s.push i scope).cells[j]? = s.cells[j]? := by
    intro j hj
    exact (Array.getElem?_push_lt hj).trans (Array.getElem?_eq_getElem hj).symm
  have hlt : s.size < (s.push i scope).size := by
    show s.cells.size < (s.cells.push _).size
    rw [Array.size_push]
    exact Nat.lt_succ_self _
  -- the new cell sees what it is to see, so only its own variables are written
  have houter : scope.outer = ((s.push i scope).view s.size).outer := by
    have hblocks : ((s.push i scope).view s.size).outer =
        (s.entered i scope).parent.elim [] (s.push i scope).blocksAt :=
      congrArg List.tail (blocksAt_of_getElem? hlast)
    rw [hblocks, ← h.elim_parent]
    rcases hp : (s.entered i scope).parent with - | p
    · rfl
    · have hp' := (s.push i scope).parent_lt hlast hp
      exact (blocksAt_congr fun j hj => hbefore j (by omega)).symm
  unfold enter
  rw [update_eq hlt houter]
  apply Array.ext_getElem?
  intro j
  rw [getElem?_setTypes]
  split
  · next hj =>
    rw [← hj, hlast]
    exact Array.getElem?_push_size.symm
  · next hj =>
    rcases Nat.lt_or_gt_of_ne (Ne.symm hj) with hj | hj
    · rw [hbefore j hj]
      exact (Array.getElem?_eq_getElem hj).trans (Array.getElem?_push_lt hj).symm
    · have hsize : ∀ c, (s.cells.push c)[j]? = none := by
        intro c
        rw [Array.getElem?_eq_none_iff, Array.size_push]
        exact hj
      rw [hsize]
      exact hsize _

theorem size_enter {scope : LocalScope} (h : s.Around i scope) :
    (s.enter i scope).size = s.size + 1 := by
  unfold size
  rw [cells_enter h, Array.size_push]

theorem getElem?_enter_of_lt {scope : LocalScope} (h : s.Around i scope) {j : Nat}
    (hj : j < s.size) : (s.enter i scope).cells[j]? = s.cells[j]? := by
  rw [cells_enter h]
  exact (Array.getElem?_push_lt hj).trans (Array.getElem?_eq_getElem hj).symm

/-- From the new cell the scope is visible that was entered. -/
theorem view_enter {scope : LocalScope} (h : s.Around i scope) :
    (s.enter i scope).view s.size = scope := by
  have hlast : (s.enter i scope).cells[s.size]? = some (s.entered i scope) := by
    rw [cells_enter h]
    exact Array.getElem?_push_size
  have hblocks : (s.enter i scope).blocksAt s.size = scope.block :: scope.outer := by
    rw [blocksAt_of_getElem? hlast, ← h.elim_parent]
    rcases hp : (s.entered i scope).parent with - | p
    · rfl
    · have hlt := (s.enter i scope).parent_lt hlast hp
      exact congrArg _ (blocksAt_congr fun j hj => getElem?_enter_of_lt h (by omega))
  unfold view
  rw [hblocks, getD_of_getElem? hlast]
  rfl

/-! ### Frames -/

/-- From one store to a later one, no cell changes but the one at a place, and there only the
variables do. -/
structure Frame (place : Nat) (s t : Scopes) : Prop where
  size_le : s.size ≤ t.size
  getElem?_eq : ∀ j < s.size, j ≠ place → t.cells[j]? = s.cells[j]?
  types : ∀ c, s.cells[place]? = some c → ∃ types, t.cells[place]? = some { c with types := types }

namespace Frame

variable {place : Nat} {r : Scopes}

theorem refl (place : Nat) (s : Scopes) : Frame place s s :=
  ⟨Nat.le_refl _, fun _ _ _ => rfl, fun c h => ⟨c.types, h⟩⟩

theorem trans (h : Frame place s t) (h' : Frame place t r) : Frame place s r := by
  refine ⟨Nat.le_trans h.size_le h'.size_le, ?_, ?_⟩
  · intro j hj hne
    exact (h'.getElem?_eq j (Nat.lt_of_lt_of_le hj h.size_le) hne).trans (h.getElem?_eq j hj hne)
  · intro c hc
    obtain ⟨types, ht⟩ := h.types c hc
    obtain ⟨types', hr⟩ := h'.types _ ht
    exact ⟨types', hr⟩

theorem setTypes (i : Nat) (types : List (String × String)) : Frame i s (s.setTypes i types) := by
  refine ⟨Nat.le_of_eq (s.size_setTypes i types).symm, ?_, ?_⟩
  · intro j _ hne
    rw [getElem?_setTypes, if_neg (Ne.symm hne)]
  · intro c hc
    refine ⟨types, ?_⟩
    rw [getElem?_setTypes, if_pos rfl, hc]
    rfl

/-- Whatever happens to a new cell, the old ones are as before. -/
theorem getElem?_of_enter {scope : LocalScope} (hscope : s.Around i scope)
    (h : Frame s.size (s.enter i scope) t) {j : Nat} (hj : j < s.size) :
    t.cells[j]? = s.cells[j]? := by
  have hlt : j < (s.enter i scope).size := by
    rw [size_enter hscope]
    omega
  exact (h.getElem?_eq j hlt (Nat.ne_of_lt hj)).trans (getElem?_enter_of_lt hscope hj)

end Frame

end Scopes

/-! ### What is taken from a step -/

namespace Search

variable {n : Node} {found : Search} {place : Nat} {s : Step n}

theorem scopes_update (h : place < found.scopes.size) (hs : s.Keeps (found.scopes.view place)) :
    found.scopes.update place s.scope = found.scopes.setTypes place s.scope.block :=
  Scopes.update_eq h hs.around.outer

/-- What is visible from a place after a step in its scope. -/
theorem view_update (h : place < found.scopes.size) (hs : s.Keeps (found.scopes.view place)) :
    (found.scopes.update place s.scope).view place = s.scope := by
  rw [scopes_update h hs, Scopes.view_setTypes h, hs.around.eq]

/-- A step that opens a scope leaves the store as it was before that. -/
theorem update_of_opens (h : place < found.scopes.size) (hs : s.Keeps (found.scopes.view place))
    {inside : LocalScope} (hinside : s.inside = some inside) :
    found.scopes.update place s.scope = found.scopes := by
  obtain ⟨c, hc⟩ := Scopes.getElem?_of_lt h
  have hblock : s.scope.block = c.types := by
    rw [(hs.inside inside hinside).1]
    show (found.scopes.cells.getD place {}).types = _
    rw [Scopes.getD_of_getElem? hc]
  rw [scopes_update h hs, hblock, Scopes.setTypes_self hc]

theorem around_inside (h : place < found.scopes.size) (hs : s.Keeps (found.scopes.view place))
    {inside : LocalScope} (hinside : s.inside = some inside) :
    found.scopes.Around place inside := by
  rcases (hs.inside inside hinside).2 with hnone | hall
  · exact .inl hnone
  · exact .inr ⟨h, hall⟩

theorem take_of_none (hinside : s.inside = none) :
    found.take place s = (⟨found.uses ++ s.uses, found.scopes.update place s.scope⟩, place) := by
  unfold take
  rw [hinside]

theorem take_of_some (h : place < found.scopes.size) (hs : s.Keeps (found.scopes.view place))
    {inside : LocalScope} (hinside : s.inside = some inside) :
    found.take place s =
      (⟨found.uses ++ s.uses, found.scopes.enter place inside⟩, found.scopes.size) := by
  unfold take
  rw [hinside]
  dsimp only
  rw [update_of_opens h hs hinside]

theorem uses_take : (found.take place s).1.uses = found.uses ++ s.uses := by
  unfold take
  split
  · rfl
  · rfl

section Take

variable (h : place < found.scopes.size) (hs : s.Keeps (found.scopes.view place))
include h hs

/-- The search goes on in a scope of the store. -/
theorem take_lt_size : (found.take place s).2 < (found.take place s).1.scopes.size := by
  rcases hinside : s.inside with - | inside
  · rw [take_of_none hinside, scopes_update h hs, Scopes.size_setTypes]
    exact h
  · rw [take_of_some h hs hinside, Scopes.size_enter (around_inside h hs hinside)]
    exact Nat.lt_succ_self _

theorem size_le_take : found.scopes.size ≤ (found.take place s).1.scopes.size := by
  rcases hinside : s.inside with - | inside
  · rw [take_of_none hinside, scopes_update h hs, Scopes.size_setTypes]
  · rw [take_of_some h hs hinside, Scopes.size_enter (around_inside h hs hinside)]
    exact Nat.le_succ _

/-- What is visible where the search goes on. -/
theorem view_take :
    (found.take place s).1.scopes.view (found.take place s).2 = s.inside.getD s.scope := by
  rcases hinside : s.inside with - | inside
  · rw [take_of_none hinside]
    exact view_update h hs
  · rw [take_of_some h hs hinside]
    exact Scopes.view_enter (around_inside h hs hinside)

variable {t : Scopes}
  (hframe : Scopes.Frame (found.take place s).2 (found.take place s).1.scopes t)
include hframe

/-- If the search below leaves all cells but the one it goes on in, then all old cells are left alone
but the one of the step. -/
theorem frame_of_take : Scopes.Frame place found.scopes t := by
  rcases hinside : s.inside with - | inside
  · rw [take_of_none hinside, scopes_update h hs] at hframe
    exact (Scopes.Frame.setTypes place s.scope.block).trans hframe
  · rw [take_of_some h hs hinside] at hframe
    have hsame := @Scopes.Frame.getElem?_of_enter _ _ _ _ (around_inside h hs hinside) hframe
    refine ⟨?_, fun j hj _ => hsame hj, fun c hc => ⟨c.types, (hsame h).trans hc⟩⟩
    have hsize := hframe.size_le
    rw [Scopes.size_enter (around_inside h hs hinside)] at hsize
    omega

/-- A step that opens a scope leaves all old cells alone. -/
theorem getElem?_of_take (hopens : s.inside.isSome = true) {j : Nat} (hj : j < found.scopes.size) :
    t.cells[j]? = found.scopes.cells[j]? := by
  obtain ⟨inside, hinside⟩ := Option.isSome_iff_exists.1 hopens
  rw [take_of_some h hs hinside] at hframe
  exact hframe.getElem?_of_enter (around_inside h hs hinside) hj

/-- What is visible from the place of the step after the search below. -/
theorem view_of_take :
    t.view place = if s.inside.isSome then s.scope else t.view (found.take place s).2 := by
  rcases hinside : s.inside with - | inside
  · rw [take_of_none hinside]
    rfl
  · have hopens : s.inside.isSome = true := by rw [hinside]; rfl
    show t.view place = s.scope
    rw [(hs.inside inside hinside).1]
    exact Scopes.view_congr fun j hj =>
      getElem?_of_take h hs hframe hopens (Nat.lt_of_le_of_lt hj h)

end Take

end Search

/-! ### The search without a store -/

/-- What searching a tree gives: the uses in it, and the scope after it. -/
structure Searched where
  uses : List (Event Nat) := []
  scope : LocalScope

/-- One search and then another one. -/
def Searched.append (found more : Searched) : Searched :=
  ⟨found.uses ++ more.uses, more.scope⟩

namespace TranslationUnit

variable (u : TranslationUnit) (path : String)

/-- Search a tree in a scope that is handed on from node to node. -/
def searchTree (n : Node) (scope : LocalScope) : Searched :=
  let s := u.step path n scope
  let below := s.next.foldl
    (fun (found : Searched) (m : n.Below) => found.append (searchTree m.1 found.scope))
    ⟨s.uses, s.inside.getD s.scope⟩
  ⟨below.uses, if s.inside.isSome then s.scope else below.scope⟩
termination_by sizeOf n
decreasing_by exact m.2

/-- A search in the store has found what a search without one finds, and has left alone every cell
but the one it started in. -/
structure Traces (place : Nat) (found found' : Search) (uses : List (Event Nat))
    (scope : LocalScope) : Prop where
  uses : found'.uses.toList = found.uses.toList ++ uses
  scope : found'.scopes.view place = scope
  frame : Scopes.Frame place found.scopes found'.scopes

/-- The search in the store is the search without one. -/
theorem traces_searchFrom (n : Node) {place : Nat} {found : Search}
    (h : place < found.scopes.size) :
    Traces place found (u.searchFrom path n place found)
      (u.searchTree path n (found.scopes.view place)).uses
      (u.searchTree path n (found.scopes.view place)).scope := by
  induction hsize : sizeOf n using Nat.strongRecOn generalizing n place found with
  | _ size ih =>
  subst hsize
  have hkeeps : (u.step path n (found.scopes.view place)).Keeps (found.scopes.view place) :=
    u.keeps_step path
  rw [searchFrom, searchTree]
  generalize u.step path n (found.scopes.view place) = s at hkeeps
  dsimp only
  have htake := Search.take_lt_size h hkeeps
  have hview := Search.view_take h hkeeps
  -- the trees below are searched one after the other in one cell
  have hfold : ∀ (nodes : List n.Below) (place : Nat) (found : Search) (searched : Searched),
      place < found.scopes.size → found.scopes.view place = searched.scope →
      ∃ uses,
        (nodes.foldl (fun found m => found.append (u.searchTree path m.1 found.scope))
          searched).uses = searched.uses ++ uses ∧
        Traces place found
          (nodes.foldl (fun found m => u.searchFrom path m.1 place found) found) uses
          (nodes.foldl (fun found m => found.append (u.searchTree path m.1 found.scope))
            searched).scope := by
    intro nodes
    induction nodes with
    | nil =>
      intro place found searched _ hscope
      exact ⟨[], (List.append_nil _).symm, (List.append_nil _).symm, hscope, .refl _ _⟩
    | cons m nodes ihnodes =>
      intro place found searched hlt hscope
      have hfirst := ih (sizeOf m.1) m.2 m.1 hlt rfl
      rw [hscope] at hfirst
      obtain ⟨uses, huses, hrest⟩ := ihnodes place (u.searchFrom path m.1 place found)
        (searched.append (u.searchTree path m.1 searched.scope))
        (Nat.lt_of_lt_of_le hlt hfirst.frame.size_le) hfirst.scope
      refine ⟨(u.searchTree path m.1 searched.scope).uses ++ uses, ?_, ?_, hrest.scope,
        hfirst.frame.trans hrest.frame⟩
      · rw [List.foldl_cons, huses, Searched.append, List.append_assoc]
      · rw [List.foldl_cons, hrest.uses, hfirst.uses, List.append_assoc]
  obtain ⟨uses, huses, hbelow⟩ := hfold s.next _ _ ⟨s.uses, s.inside.getD s.scope⟩ htake hview
  refine ⟨?_, ?_, Search.frame_of_take h hkeeps hbelow.frame⟩
  · rw [hbelow.uses, huses, Search.uses_take, Array.toList_appendList, List.append_assoc]
  · rw [Search.view_of_take h hkeeps hbelow.frame, hbelow.scope]

/-- The uses in a file are those that a search without a store finds. -/
theorem uses_searchFrom (root : Node) :
    (u.searchFrom path root 0 {}).uses.toList = (u.searchTree path root {}).uses := by
  have htraces := @traces_searchFrom u path root 0 {} Nat.zero_lt_one
  rw [htraces.uses, Scopes.view_initial]
  rfl

/-- If the root of a tree opens a scope, the search leaves every scope that was there before as it
was. -/
theorem cells_searchFrom_of_opens (n : Node) {place : Nat} {found : Search}
    (h : place < found.scopes.size)
    (hopens : (u.step path n (found.scopes.view place)).inside.isSome = true) {i : Nat}
    (hi : i < found.scopes.size) :
    (u.searchFrom path n place found).scopes.cells[i]? = found.scopes.cells[i]? := by
  have hkeeps : (u.step path n (found.scopes.view place)).Keeps (found.scopes.view place) :=
    u.keeps_step path
  rw [searchFrom]
  generalize u.step path n (found.scopes.view place) = s at hkeeps hopens
  -- below the root only the new cell is written
  have hframe : ∀ (nodes : List n.Below) (place : Nat) (found : Search),
      place < found.scopes.size → Scopes.Frame place found.scopes
        (nodes.foldl (fun found m => u.searchFrom path m.1 place found) found).scopes := by
    intro nodes
    induction nodes with
    | nil => exact fun place found _ => .refl place found.scopes
    | cons m nodes ih =>
      intro place found hlt
      have hfirst := (u.traces_searchFrom path m.1 hlt).frame
      exact hfirst.trans (ih place _ (Nat.lt_of_lt_of_le hlt hfirst.size_le))
  exact Search.getElem?_of_take h hkeeps (hframe s.next _ _ (Search.take_lt_size h hkeeps)) hopens hi

end TranslationUnit

/-! ### The search with a stack -/

/-- A search under way: the nodes that wait, each with the place of its scope, and what was found. -/
structure Traversal where
  pending : List (Node × Nat)
  found : Search

namespace Traversal

open StateTransition

variable (u : TranslationUnit) (path : String)

/-- The search of a file starts with its root, in the scope of the file. -/
def start (root : Node) : Traversal :=
  ⟨[(root, 0)], {}⟩

/-- Take the node on top of the stack, and put the nodes where the search goes on in its place. -/
def step : Traversal → Option Traversal
  | ⟨[], _⟩ => none
  | ⟨(n, place) :: rest, found⟩ =>
    let s := u.step path n (found.scopes.view place)
    let taken := found.take place s
    some ⟨s.next.map (fun m => (m.1, taken.2)) ++ rest, taken.1⟩

/-- When a tree is done, the search is where the recursion gets, whatever waits below. -/
theorem reaches_searchFrom (n : Node) (place : Nat) (rest : List (Node × Nat)) (found : Search) :
    Reaches (step u path) ⟨(n, place) :: rest, found⟩
      ⟨rest, u.searchFrom path n place found⟩ := by
  induction hsize : sizeOf n using Nat.strongRecOn generalizing n place rest found with
  | _ size ih =>
  subst hsize
  -- the trees below are done one after the other, with the others waiting
  have hnodes : ∀ (nodes : List n.Below) (place : Nat) (found : Search),
      Reaches (step u path) ⟨nodes.map (fun m => (m.1, place)) ++ rest, found⟩
        ⟨rest, nodes.foldl (fun found m => u.searchFrom path m.1 place found) found⟩ := by
    intro nodes place
    induction nodes with
    | nil => exact fun found => .refl
    | cons m nodes ihnodes =>
      intro found
      exact (ih (sizeOf m.1) m.2 m.1 place _ found rfl).trans (ihnodes _)
  rw [TranslationUnit.searchFrom]
  exact .head rfl (hnodes _ _ _)

/-- The search of a file ends with what the recursion finds. -/
theorem mem_eval_searchFrom (root : Node) :
    ⟨[], u.searchFrom path root 0 {}⟩ ∈ eval (step u path) (start root) :=
  mem_eval.2 ⟨reaches_searchFrom u path root 0 [] {}, rfl⟩

/-- Every waiting node has its scope in the store. -/
def Placed (t : Traversal) : Prop :=
  ∀ e ∈ t.pending, e.2 < t.found.scopes.size

variable {u path} {t t' : Traversal}

theorem Placed.step (h : t.Placed) (hstep : step u path t = some t') : t'.Placed := by
  obtain ⟨- | ⟨⟨n, place⟩, rest⟩, found⟩ := t
  · cases hstep
  · cases hstep
    have hplace : place < found.scopes.size := h _ List.mem_cons_self
    have hkeeps : (u.step path n (found.scopes.view place)).Keeps (found.scopes.view place) :=
      u.keeps_step path
    intro e he
    rcases List.mem_append.1 he with he | he
    · obtain ⟨m, -, rfl⟩ := List.mem_map.1 he
      exact Search.take_lt_size hplace hkeeps
    · exact Nat.lt_of_lt_of_le (h e (List.mem_cons_of_mem _ he))
        (Search.size_le_take hplace hkeeps)

theorem placed_of_reaches {root : Node} (h : Reaches (Traversal.step u path) (start root) t) :
    t.Placed := by
  induction h with
  | refl => exact List.forall_mem_singleton.2 Nat.zero_lt_one
  | tail _ hstep ih => exact ih.step hstep

end Traversal

end Unreferenced
