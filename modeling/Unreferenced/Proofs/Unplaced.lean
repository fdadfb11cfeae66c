/-
Unreferenced/Proofs/Unplaced.lean

Trees without their places.

Two pieces of text that are written alike have trees that differ only in where
they stand: `unplaced` forgets the offsets and lines of all nodes, and what is
written alike is the same without them.  The signature of a parameter list and
the qualifiers after it are read off kinds and texts only, so they do not depend
on places (`signature_unplaced`, `qualifierMask_congr`).
-/
import Unreferenced.FunctionSite.Reading

namespace Unreferenced

namespace Node

/-! ### Forgetting places -/

mutual

/-- The tree as if all of it stood at the start of the file. -/
def unplaced : Node → Node
  | ⟨kind, text, _, _, named, missing, hasError, field, children⟩ =>
    ⟨kind, text, 0, 0, named, missing, hasError, field, unplacedAll children⟩

/-- The trees as if all of them stood at the start of the file. -/
def unplacedAll : List Node → List Node
  | [] => []
  | n :: nodes => n.unplaced :: unplacedAll nodes

end

theorem unplacedAll_eq_map (nodes : List Node) : unplacedAll nodes = nodes.map unplaced := by
  induction nodes with
  | nil => rfl
  | cons n nodes ih => rw [unplacedAll, ih, List.map_cons]

variable (n : Node)

@[simp] theorem kind_unplaced : n.unplaced.kind = n.kind := by
  cases n
  rfl

@[simp] theorem text_unplaced : n.unplaced.text = n.text := by
  cases n
  rfl

@[simp] theorem named_unplaced : n.unplaced.named = n.named := by
  cases n
  rfl

@[simp] theorem field_unplaced : n.unplaced.field = n.field := by
  cases n
  rfl

@[simp] theorem children_unplaced : n.unplaced.children = n.children.map unplaced := by
  cases n
  exact unplacedAll_eq_map _

@[simp] theorem isOneOf_unplaced (kinds : List String) :
    n.unplaced.isOneOf kinds = n.isOneOf kinds := by
  rw [isOneOf, kind_unplaced, isOneOf]

@[simp] theorem child?_unplaced (field : String) :
    n.unplaced.child? field = (n.child? field).map unplaced := by
  rw [child?, children_unplaced, List.find?_map, child?]
  congr 2
  funext c
  exact congrArg (· == field) c.field_unplaced

@[simp] theorem namedChildren_unplaced :
    n.unplaced.namedChildren = n.namedChildren.map unplaced := by
  rw [namedChildren, children_unplaced, List.filter_map, namedChildren]
  congr 2
  funext c
  exact c.named_unplaced

@[simp] theorem namedChild?_unplaced :
    (n.unplaced.namedChild? fun _ => true) = (n.namedChild? fun _ => true).map unplaced := by
  rw [namedChild?, namedChildren_unplaced, List.find?_map, namedChild?]
  rfl

@[simp] theorem textOf_map_unplaced (c : Option Node) : textOf (c.map unplaced) = textOf c := by
  rcases c with - | c
  · rfl
  · exact c.text_unplaced

/-! ### The parts of a parameter -/

@[simp] theorem qualifierTexts_unplaced : n.unplaced.qualifierTexts = n.qualifierTexts := by
  have hkind : ((fun c : Node => c.kind == "type_qualifier") ∘ unplaced) =
      fun c => c.kind == "type_qualifier" := by
    funext c
    exact congrArg (· == "type_qualifier") c.kind_unplaced
  rw [qualifierTexts, children_unplaced, List.filter_map, List.map_map, hkind, qualifierTexts]
  exact List.map_congr_left fun c _ => c.text_unplaced

@[simp] theorem referenced?_unplaced : n.unplaced.referenced? = n.referenced?.map unplaced := by
  unfold referenced?
  rw [child?_unplaced, namedChild?_unplaced]
  rcases n.child? "declarator" with - | c
  · rfl
  · rfl

@[simp] theorem referenceSign_unplaced : n.unplaced.referenceSign = n.referenceSign := by
  rw [referenceSign, text_unplaced, referenceSign]

@[simp] theorem isParameter_unplaced : n.unplaced.isParameter = n.isParameter := by
  rw [isParameter, kind_unplaced, named_unplaced, isParameter]

@[simp] theorem isEllipsis_unplaced : n.unplaced.isEllipsis = n.isEllipsis := by
  rw [isEllipsis, kind_unplaced, text_unplaced, isEllipsis]

@[simp] theorem parameterSpelling_unplaced (shape : String) :
    n.unplaced.parameterSpelling shape = n.parameterSpelling shape := by
  rw [parameterSpelling, qualifierTexts_unplaced, child?_unplaced, textOf_map_unplaced,
    parameterSpelling]

/-! ### Signatures -/

/-- The shape of a declarator by its parts. -/
theorem shape_eq (outermost : Bool) (n : Node) :
    shape outermost n =
      if n.isOneOf ["pointer_declarator", "abstract_pointer_declarator"] then
        "*" ++ (if outermost then "" else "".intercalate (n.qualifierTexts.map (" " ++ ·))) ++
          (n.child? "declarator").elim "" (shape false)
      else if n.isOneOf ["reference_declarator", "abstract_reference_declarator"] then
        n.referenceSign ++ n.referenced?.elim "" (shape false)
      else if n.isOneOf ["array_declarator", "abstract_array_declarator"] then
        "*" ++ (n.child? "declarator").elim "" (shape false)
      else if n.isOneOf ["function_declarator", "abstract_function_declarator"] then
        "(" ++ (n.child? "declarator").elim "" (shape false) ++ ")(" ++
          ",".intercalate ((n.child? "parameters").elim [] fun c => c.signature.types) ++ ")"
      else if n.isOneOf ["parenthesized_declarator", "abstract_parenthesized_declarator"] then
        (n.namedChild? fun _ => true).elim "" (shape false)
      else "" := by
  rw [shape]
  by_cases hpointer : n.isOneOf ["pointer_declarator", "abstract_pointer_declarator"]
  · rw [if_pos hpointer, if_pos hpointer]
    dsimp only
    generalize (if outermost = true then "" else "".intercalate _) = qualifiers
    split
    · next hchild => rw [hchild]; rfl
    · next hchild => rw [hchild]; rfl
  rw [if_neg hpointer, if_neg hpointer]
  by_cases hreference : n.isOneOf ["reference_declarator", "abstract_reference_declarator"]
  · rw [if_pos hreference, if_pos hreference]
    split
    · next hchild => rw [hchild]; rfl
    · next hchild => rw [hchild]; rfl
  rw [if_neg hreference, if_neg hreference]
  by_cases harray : n.isOneOf ["array_declarator", "abstract_array_declarator"]
  · rw [if_pos harray, if_pos harray]
    split
    · next hchild => rw [hchild]; rfl
    · next hchild => rw [hchild]; rfl
  rw [if_neg harray, if_neg harray]
  by_cases hfunction : n.isOneOf ["function_declarator", "abstract_function_declarator"]
  · rw [if_pos hfunction, if_pos hfunction]
    split
    · next hchild =>
      rw [hchild]
      split
      · next hparameters => rw [hparameters]; rfl
      · next hparameters => rw [hparameters]; rfl
    · next hchild =>
      rw [hchild]
      split
      · next hparameters => rw [hparameters]; rfl
      · next hparameters => rw [hparameters]; rfl
  rw [if_neg hfunction, if_neg hfunction]
  by_cases hparens : n.isOneOf ["parenthesized_declarator", "abstract_parenthesized_declarator"]
  · rw [if_pos hparens, if_pos hparens]
    split
    · next hchild => rw [hchild]; rfl
    · next hchild => rw [hchild]; rfl
  · rw [if_neg hparens, if_neg hparens]

theorem parameterType_eq (n : Node) :
    n.parameterType = n.parameterSpelling ((n.child? "declarator").elim "" (shape true)) := by
  rw [parameterType]
  split
  · next hchild => rw [hchild]; rfl
  · next hchild => rw [hchild]; rfl

/-- What is the same for a node without its place is the same for the nodes found below it. -/
theorem elim_map_unplaced {β : Type} {c : Option Node} {d : β} {f : Node → β}
    (h : ∀ m, c = some m → f m.unplaced = f m) : (c.map unplaced).elim d f = c.elim d f := by
  rcases c with - | m
  · rfl
  · exact h m rfl

/-- A list of parameters without places has the same signature if the types are the same. -/
theorem signatureFrom_unplaced (alone : Bool) {parameters : List Node}
    (h : ∀ p ∈ parameters, p.unplaced.parameterType = p.parameterType) (s : Signature) :
    signatureFrom alone s (parameters.map unplaced) = signatureFrom alone s parameters := by
  induction parameters generalizing s with
  | nil => rfl
  | cons p parameters ih =>
    obtain ⟨hp, hparameters⟩ := List.forall_mem_cons.1 h
    rw [List.map_cons, signatureFrom, signatureFrom]
    simp only [isParameter_unplaced, isEllipsis_unplaced, kind_unplaced, hp, ih hparameters]

/-- Shapes, types and signatures do not depend on places. -/
theorem reads_unplaced (n : Node) :
    (∀ outermost, shape outermost n.unplaced = shape outermost n) ∧
      n.unplaced.parameterType = n.parameterType ∧ n.unplaced.signature = n.signature := by
  induction hsize : sizeOf n using Nat.strongRecOn generalizing n with
  | _ size ih =>
  subst hsize
  have hbelow : ∀ m ∈ n.children, (∀ outermost, shape outermost m.unplaced = shape outermost m) ∧
      m.unplaced.parameterType = m.parameterType ∧ m.unplaced.signature = m.signature :=
    fun m hm => ih (sizeOf m) (sizeOf_lt_of_mem_children hm) m rfl
  have hshape : ∀ outermost field, ((n.child? field).map unplaced).elim "" (shape outermost) =
      (n.child? field).elim "" (shape outermost) := fun outermost field =>
    elim_map_unplaced fun m hm => (hbelow m (mem_children_of_child? hm)).1 outermost
  refine ⟨fun outermost => ?_, ?_, ?_⟩
  · have hnamed : ((n.namedChild? fun _ => true).map unplaced).elim "" (shape false) =
        (n.namedChild? fun _ => true).elim "" (shape false) :=
      elim_map_unplaced fun m hm => (hbelow m (mem_children_of_namedChild? hm)).1 false
    have hreferenced : (n.referenced?.map unplaced).elim "" (shape false) =
        n.referenced?.elim "" (shape false) :=
      elim_map_unplaced fun m hm => (ih (sizeOf m) (sizeOf_lt_of_referenced? hm) m rfl).1 false
    have hparameters : ((n.child? "parameters").map unplaced).elim [] (fun c => c.signature.types) =
        (n.child? "parameters").elim [] fun c => c.signature.types :=
      elim_map_unplaced fun m hm =>
        congrArg Signature.types (hbelow m (mem_children_of_child? hm)).2.2
    rw [shape_eq, shape_eq]
    simp only [isOneOf_unplaced, qualifierTexts_unplaced, referenceSign_unplaced, child?_unplaced,
      referenced?_unplaced, namedChild?_unplaced, hshape, hnamed, hreferenced, hparameters]
  · rw [parameterType_eq, parameterType_eq, parameterSpelling_unplaced, child?_unplaced, hshape]
  · rw [signature, signature, namedChildren_unplaced, List.length_map, children_unplaced]
    exact signatureFrom_unplaced _ (fun p hp => (hbelow p hp).2.1) _

theorem signature_unplaced : n.unplaced.signature = n.signature :=
  (reads_unplaced n).2.2

/-- Parameter lists that are written alike have one signature. -/
theorem signature_congr {a b : Option Node} (h : a.map unplaced = b.map unplaced) :
    a.map signature = b.map signature := by
  have hmap : ∀ c : Option Node, (c.map unplaced).map signature = c.map signature := by
    intro c
    rcases c with - | c
    · rfl
    · exact congrArg some c.signature_unplaced
  rw [← hmap a, h, hmap b]

/-! ### Qualifiers after the parameters -/

/-- Whether a node qualifies the object that a member is called on. -/
def isTrailingQualifier (n : Node) : Bool :=
  n.isOneOf ["type_qualifier", "ref_qualifier"]

end Node

theorem qualifierWeight_unplaced (n : Node) : qualifierWeight n.unplaced = qualifierWeight n := by
  rw [qualifierWeight, Node.kind_unplaced, Node.text_unplaced, qualifierWeight]

theorem qualifierWeight_eq_zero {n : Node} (h : n.isTrailingQualifier = false) :
    qualifierWeight n = 0 := by
  simp only [Node.isTrailingQualifier, Node.isOneOf, List.contains_cons, List.contains_nil,
    Bool.or_false, Bool.or_eq_false_iff, beq_eq_false_iff_ne] at h
  rw [qualifierWeight, if_neg h.1, if_neg h.2]

/-- Only qualifiers have a weight. -/
theorem qualifierMask_filter (nodes : List Node) :
    qualifierMask (nodes.filter Node.isTrailingQualifier) = qualifierMask nodes := by
  unfold qualifierMask
  generalize 0 = mask
  induction nodes generalizing mask with
  | nil => rfl
  | cons n nodes ih =>
    rw [List.filter_cons]
    rcases hn : n.isTrailingQualifier
    · rw [if_neg Bool.false_ne_true, List.foldl_cons, qualifierWeight_eq_zero hn, Nat.or_zero]
      exact ih mask
    · rw [if_pos rfl, List.foldl_cons, List.foldl_cons]
      exact ih _

/-- Qualifiers that are written alike have one mask. -/
theorem qualifierMask_congr {a b : List Node}
    (h : (a.filter Node.isTrailingQualifier).map Node.unplaced =
      (b.filter Node.isTrailingQualifier).map Node.unplaced) :
    qualifierMask a = qualifierMask b := by
  have hmap : ∀ nodes : List Node, qualifierMask (nodes.map Node.unplaced) = qualifierMask nodes := by
    intro nodes
    unfold qualifierMask
    rw [List.foldl_map]
    simp only [qualifierWeight_unplaced]
  rw [← qualifierMask_filter a, ← hmap, h, hmap, qualifierMask_filter]

end Unreferenced
