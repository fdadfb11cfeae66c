/-
Unreferenced/Container/OrderedMap.lean

Maps that remember the order in which their keys were first inserted.  Writing
to a key that is already there changes its value and not its place.

The view of a map is the list of its entries, in which no key occurs twice;
`get?` is looking a key up in that list.
-/

namespace Unreferenced

/-- A map whose keys stay in the order of their first insertion. -/
structure OrderedMap (α : Type u) (β : Type v) where
  /-- The entries, first inserted first. -/
  toList : List (α × β)
  /-- No key occurs twice. -/
  nodup : (toList.map Prod.fst).Nodup

namespace OrderedMap

variable {α : Type u} {β : Type v}

/-- The map without entries. -/
def empty : OrderedMap α β := ⟨[], by simp⟩

instance : Inhabited (OrderedMap α β) := ⟨empty⟩

@[simp] theorem toList_empty : (empty : OrderedMap α β).toList = [] := rfl

/-- The keys, first inserted first. -/
def keys (m : OrderedMap α β) : List α :=
  m.toList.map Prod.fst

/-- The values, in the order of their keys. -/
def values (m : OrderedMap α β) : List β :=
  m.toList.map Prod.snd

/-- The number of entries. -/
def size (m : OrderedMap α β) : Nat :=
  m.toList.length

section Keys

variable [DecidableEq α]

/-- The value of a key. -/
def get? (m : OrderedMap α β) (a : α) : Option β :=
  m.toList.lookup a

/-- Whether a key has a value. -/
def contains (m : OrderedMap α β) (a : α) : Bool :=
  (m.get? a).isSome

/-- The entries with the value of `a` replaced by its image, or with a new entry at the end. -/
def alterEntries (a : α) (f : Option β → β) : List (α × β) → List (α × β)
  | [] => [(a, f none)]
  | (k, b) :: r => if k = a then (k, f (some b)) :: r else (k, b) :: alterEntries a f r

theorem keys_alterEntries (a : α) (f : Option β → β) (l : List (α × β)) :
    (alterEntries a f l).map Prod.fst =
      if a ∈ l.map Prod.fst then l.map Prod.fst else l.map Prod.fst ++ [a] := by
  induction l with
  | nil => simp [alterEntries]
  | cons p r ih =>
    obtain ⟨k, b⟩ := p
    by_cases h : k = a
    · simp [alterEntries, h]
    · have h' : ¬a = k := fun e => h e.symm
      simp only [alterEntries, h, if_false, List.map_cons, ih, List.mem_cons, h', false_or]
      split <;> simp

/-- Replace the value of `a` by its image under `f`, which gets `none` if `a` has no value yet. -/
def alter (m : OrderedMap α β) (a : α) (f : Option β → β) : OrderedMap α β where
  toList := alterEntries a f m.toList
  nodup := by
    rw [keys_alterEntries]
    split
    · exact m.nodup
    · next h =>
      rw [List.nodup_append]
      refine ⟨m.nodup, by simp, ?_⟩
      intro x hx y hy
      simp at hy
      exact fun e => h (hy ▸ e ▸ hx)

/-- Write a value. -/
def insert (m : OrderedMap α β) (a : α) (b : β) : OrderedMap α β :=
  m.alter a fun _ => b

/-- Write a value unless there is one. -/
def insertIfNew (m : OrderedMap α β) (a : α) (b : β) : OrderedMap α β :=
  m.alter a fun old => old.getD b

/-- Change the value of a key that is there. -/
def modify (m : OrderedMap α β) (a : α) (f : β → β) : OrderedMap α β :=
  match m.get? a with
  | some b => m.insert a (f b)
  | none => m

/-- The map of a list of entries; of two entries with one key the later gives the value. -/
def ofList (l : List (α × β)) : OrderedMap α β :=
  l.foldl (fun m p => m.insert p.1 p.2) empty

/-- The map of a list of entries; of two entries with one key the earlier gives the value. -/
def ofListFirst (l : List (α × β)) : OrderedMap α β :=
  l.foldl (fun m p => m.insertIfNew p.1 p.2) empty

/-- Write all entries of another map. -/
def insertAll (m n : OrderedMap α β) : OrderedMap α β :=
  n.toList.foldl (fun m p => m.insert p.1 p.2) m

/-! ### What each operation does to the view -/

@[simp] theorem get?_empty (a : α) : (empty : OrderedMap α β).get? a = none := rfl

theorem keys_alter (m : OrderedMap α β) (a : α) (f : Option β → β) :
    (m.alter a f).keys = if a ∈ m.keys then m.keys else m.keys ++ [a] :=
  keys_alterEntries a f m.toList

theorem lookup_alterEntries (a k : α) (f : Option β → β) (l : List (α × β)) :
    (alterEntries a f l).lookup k = if k = a then some (f (l.lookup a)) else l.lookup k := by
  induction l with
  | nil =>
    by_cases h : k = a
    · simp [alterEntries, h]
    · simp [alterEntries, h]
  | cons p r ih =>
    obtain ⟨k', b⟩ := p
    by_cases h : k' = a
    · by_cases hk : k = a
      · simp [alterEntries, h, hk]
      · have hb : (k == a) = false := by simpa using hk
        simp [alterEntries, h, hk, List.lookup_cons, hb]
    · by_cases hk : k = a
      · have h' : (a == k') = false := by simpa using fun e => h e.symm
        subst hk
        simp [alterEntries, h, List.lookup_cons, h', ih]
      · simp [alterEntries, h, List.lookup_cons, ih, hk]

/-- Where no key occurs twice, looking up the key of an entry finds the entry's value. -/
theorem lookup_of_mem {l : List (α × β)} (nodup : (l.map Prod.fst).Nodup) {p : α × β}
    (hp : p ∈ l) : l.lookup p.1 = some p.2 := by
  induction l with
  | nil => cases hp
  | cons q r ih =>
    rw [List.map_cons, List.nodup_cons] at nodup
    rcases List.mem_cons.1 hp with rfl | hr
    · rw [List.lookup_cons, beq_self_eq_true]
    · have hne : ¬p.1 = q.1 := fun e => nodup.1 (e ▸ List.mem_map_of_mem hr)
      rw [List.lookup_cons, beq_false_of_ne hne]
      exact ih nodup.2 hr

/-- The entries are the keys with the values found under them. -/
theorem mem_toList {m : OrderedMap α β} {a : α} {b : β} : (a, b) ∈ m.toList ↔ m.get? a = some b := by
  refine ⟨fun h => lookup_of_mem m.nodup h, fun h => ?_⟩
  obtain ⟨l, r, hl, -⟩ := List.lookup_eq_some_iff.1 h
  rw [hl]
  simp

/-- Looking up after `alter`: the key gets its image, the others keep their values. -/
theorem get?_alter (m : OrderedMap α β) (a k : α) (f : Option β → β) :
    (m.alter a f).get? k = if k = a then some (f (m.get? a)) else m.get? k :=
  lookup_alterEntries a k f m.toList

theorem get?_insert (m : OrderedMap α β) (a k : α) (b : β) :
    (m.insert a b).get? k = if k = a then some b else m.get? k :=
  get?_alter m a k _

theorem get?_insertIfNew (m : OrderedMap α β) (a k : α) (b : β) :
    (m.insertIfNew a b).get? k = if k = a then some ((m.get? a).getD b) else m.get? k :=
  get?_alter m a k _

theorem contains_insert (m : OrderedMap α β) (a k : α) (b : β) :
    (m.insert a b).contains k = true ↔ k = a ∨ m.contains k = true := by
  rw [contains, get?_insert]
  by_cases h : k = a
  · simp [h]
  · simp [h, contains]

theorem alterEntries_of_not_mem {a : α} {l : List (α × β)} (h : a ∉ l.map Prod.fst)
    (f : Option β → β) : alterEntries a f l = l ++ [(a, f none)] := by
  induction l with
  | nil => rfl
  | cons p r ih =>
    rw [List.map_cons, List.mem_cons, not_or] at h
    rw [alterEntries, if_neg (Ne.symm h.1), ih h.2, List.cons_append]

/-- Entries with different keys stay as they are and in their order. -/
theorem toList_foldl_insertIfNew {l : List (α × β)} {m : OrderedMap α β}
    (h : (m.keys ++ l.map Prod.fst).Nodup) :
    (l.foldl (fun m p => m.insertIfNew p.1 p.2) m).toList = m.toList ++ l := by
  induction l generalizing m with
  | nil => simp
  | cons p r ih =>
    have hnew : p.1 ∉ m.keys := by
      rw [List.map_cons, List.nodup_append] at h
      intro hp
      exact h.2.2 p.1 hp p.1 List.mem_cons_self rfl
    have hentries : (m.insertIfNew p.1 p.2).toList = m.toList ++ [p] := alterEntries_of_not_mem hnew _
    have hkeys : (m.insertIfNew p.1 p.2).keys = m.keys ++ [p.1] := by simp [keys, hentries]
    rw [List.foldl_cons, ih (by simpa [hkeys] using h), hentries, List.append_assoc]
    rfl

theorem toList_ofListFirst {l : List (α × β)} (h : (l.map Prod.fst).Nodup) :
    (ofListFirst l).toList = l :=
  toList_foldl_insertIfNew h

/-- Writing an entry adds no other one. -/
theorem mem_insertIfNew {m : OrderedMap α β} {p q : α × β}
    (h : p ∈ (m.insertIfNew q.1 q.2).toList) : p ∈ m.toList ∨ p = q := by
  rw [mem_toList, get?_insertIfNew] at h
  split at h
  · next hkey =>
    rcases hvalue : m.get? q.1 with - | b
    · rw [hvalue] at h
      exact .inr (Prod.ext hkey (Option.some.inj h).symm)
    · rw [hvalue] at h
      refine .inl (mem_toList.2 ?_)
      rw [hkey, hvalue]
      exact h
  · exact .inl (mem_toList.2 h)

theorem mem_foldl_insertIfNew {l : List (α × β)} {m : OrderedMap α β} {p : α × β}
    (h : p ∈ (l.foldl (fun m p => m.insertIfNew p.1 p.2) m).toList) : p ∈ m.toList ∨ p ∈ l := by
  induction l generalizing m with
  | nil => exact .inl h
  | cons q r ih =>
    rcases ih h with hm | hr
    · rcases mem_insertIfNew hm with hm | rfl
      · exact .inl hm
      · exact .inr List.mem_cons_self
    · exact .inr (List.mem_cons_of_mem q hr)

/-- Every entry of a map is one of those it was made from. -/
theorem mem_of_mem_ofListFirst {l : List (α × β)} {p : α × β} (h : p ∈ (ofListFirst l).toList) :
    p ∈ l :=
  (mem_foldl_insertIfNew h).resolve_left List.not_mem_nil

/-- Looking up after `modify`: a key without a value stays without one. -/
theorem get?_modify (m : OrderedMap α β) (a k : α) (f : β → β) :
    (m.modify a f).get? k = if k = a then (m.get? a).map f else m.get? k := by
  unfold modify
  split
  · next b h => rw [get?_insert, h, Option.map_some]
  · next h =>
    rw [h]
    split
    · next hk => rw [hk, h]; rfl
    · rfl

end Keys

end OrderedMap

end Unreferenced
