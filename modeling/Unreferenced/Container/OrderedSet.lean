/-
Unreferenced/Container/OrderedSet.lean

Sets that remember the order in which their members were first inserted.  The
view of a set is the list of its members, in which none occurs twice.
-/

namespace Unreferenced

/-- A set whose members stay in the order of their first insertion. -/
structure OrderedSet (α : Type u) where
  /-- The members, first inserted first. -/
  toList : List α
  /-- No member occurs twice. -/
  nodup : toList.Nodup

namespace OrderedSet

variable {α : Type u}

/-- The set without members. -/
def empty : OrderedSet α := ⟨[], by simp⟩

instance : Inhabited (OrderedSet α) := ⟨empty⟩

instance : Membership α (OrderedSet α) := ⟨fun s a => a ∈ s.toList⟩

instance [DecidableEq α] (a : α) (s : OrderedSet α) : Decidable (a ∈ s) :=
  inferInstanceAs (Decidable (a ∈ s.toList))

/-- Add a member at the end unless it is there. -/
def insert [DecidableEq α] (s : OrderedSet α) (a : α) : OrderedSet α :=
  if h : a ∈ s.toList then s
  else ⟨s.toList ++ [a], by
    rw [List.nodup_append]
    refine ⟨s.nodup, by simp, ?_⟩
    intro x hx y hy
    simp at hy
    exact fun e => h (hy ▸ e ▸ hx)⟩

/-- The members with a property. -/
def filter (s : OrderedSet α) (p : α → Bool) : OrderedSet α :=
  ⟨s.toList.filter p, s.nodup.filter p⟩

/-- The members that are not in another set. -/
def diff [DecidableEq α] (s t : OrderedSet α) : OrderedSet α :=
  s.filter fun a => !decide (a ∈ t)

/-- The members of a list, in the order of their first occurrence. -/
def ofList [DecidableEq α] (l : List α) : OrderedSet α :=
  l.foldl insert empty

/-! ### What each operation does to the members -/

theorem mem_iff {a : α} {s : OrderedSet α} : a ∈ s ↔ a ∈ s.toList := Iff.rfl

@[simp] theorem toList_empty : (empty : OrderedSet α).toList = [] := rfl

@[simp] theorem not_mem_empty (a : α) : ¬a ∈ (empty : OrderedSet α) := by
  simp [mem_iff]

theorem toList_insert [DecidableEq α] (s : OrderedSet α) (a : α) :
    (s.insert a).toList = if a ∈ s then s.toList else s.toList ++ [a] := by
  unfold insert
  by_cases h : a ∈ s.toList
  · simp [h, mem_iff]
  · simp [h, mem_iff]

@[simp] theorem mem_insert [DecidableEq α] {s : OrderedSet α} {a b : α} :
    b ∈ s.insert a ↔ b ∈ s ∨ b = a := by
  rw [mem_iff, toList_insert]
  split
  · next h =>
    constructor
    · exact Or.inl
    · rintro (hb | rfl)
      · exact hb
      · exact h
  · simp [mem_iff]

theorem mem_foldl_insert [DecidableEq α] {l : List α} {s : OrderedSet α} {a : α} :
    a ∈ l.foldl insert s ↔ a ∈ s ∨ a ∈ l := by
  induction l generalizing s with
  | nil => simp
  | cons b l ih => rw [List.foldl_cons, ih, mem_insert, List.mem_cons, or_assoc]

@[simp] theorem mem_ofList [DecidableEq α] {l : List α} {a : α} : a ∈ ofList l ↔ a ∈ l := by
  rw [ofList, mem_foldl_insert]
  simp

@[simp] theorem toList_filter (s : OrderedSet α) (p : α → Bool) :
    (s.filter p).toList = s.toList.filter p := rfl

@[simp] theorem mem_filter {s : OrderedSet α} {p : α → Bool} {a : α} :
    a ∈ s.filter p ↔ a ∈ s ∧ p a = true := by
  simp [mem_iff]

@[simp] theorem mem_diff [DecidableEq α] {s t : OrderedSet α} {a : α} :
    a ∈ s.diff t ↔ a ∈ s ∧ ¬a ∈ t := by
  simp [diff]

end OrderedSet

end Unreferenced
