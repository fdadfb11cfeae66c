/-
Unreferenced/Proofs/Narrowing.lean

How many arguments a function takes, and what the number of arguments leaves of
several functions.

The declarations of a function need not agree: one gives default values, another
ends in an ellipsis.  A function takes a number of arguments if one declaration
needs no more of them and one, maybe another, allows as many
(`Chain.accepts_some_iff`).  So all that matters is which declarations there are,
and more of them never take anything away (`Chain.accepts_mono`): a function takes
what any of its declarations takes.

Main statement: the choice among functions by the number of arguments keeps every
function that has a declaration for it (`narrow_callable`).
-/
import Unreferenced.Proofs.NameLookup

namespace Unreferenced

/-! ### Bounds of several declarations -/

/-- A number is within a limit; `none` is no limit. -/
def Within (limit : Option Nat) (n : Nat) : Prop :=
  ∀ most ∈ limit, n ≤ most

/-- The greater of two limits is kept by what keeps one of them. -/
theorem within_max {a b : Option Nat} {n : Nat} :
    Within (a.bind fun x => b.map fun y => max x y) n ↔ Within a n ∨ Within b n := by
  rcases a with - | x
  · simp [Within]
  · rcases b with - | y
    · simp [Within]
    · simp only [Within, Option.bind_some, Option.map_some, Option.mem_some_iff, forall_eq']
      omega

/-- If each step of a fold adds a reason why something holds, then it holds in the end for one of
the reasons. -/
theorem foldl_iff_exists {α β : Type} {op : α → β → α} {P : α → Prop} {Q : β → Prop}
    (hstep : ∀ a b, P (op a b) ↔ P a ∨ Q b) (l : List β) (a : α) :
    P (l.foldl op a) ↔ P a ∨ ∃ b ∈ l, Q b := by
  induction l generalizing a with
  | nil => simp
  | cons b l ih =>
    rw [List.foldl_cons, ih, hstep, or_assoc, List.exists_mem_cons_iff]

theorem Signature.accepts_some_iff {s : Signature} {n : Nat} :
    s.accepts (some n) = true ↔ s.minArgs ≤ n ∧ Within s.maxArgs n := by
  simp [accepts, Within, Option.all_eq_true]

namespace Chain

variable {c d : Chain} {arity : Option Nat} {n : Nat}

theorem exists_mem_sites {P : FunctionSite → Prop} :
    (∃ s ∈ c.sites, P s) ↔ P c.canonical.site ∨ ∃ m ∈ c.later, P m.site := by
  simp [sites, members]

theorem minArgs_le_iff : c.minArgs ≤ n ↔ ∃ s ∈ c.sites, s.signature.minArgs ≤ n := by
  rw [exists_mem_sites]
  exact foldl_iff_exists (P := (· ≤ n)) (fun _ _ => by omega) c.later _

theorem within_maxArgs_iff : Within c.maxArgs n ↔ ∃ s ∈ c.sites, Within s.signature.maxArgs n := by
  rw [exists_mem_sites]
  exact foldl_iff_exists (P := (Within · n)) (Q := fun m => Within m.site.signature.maxArgs n)
    (fun _ _ => within_max) c.later _

/-! ### The arguments that a function takes -/

/-- One declaration sets the least number and one, maybe another, the greatest. -/
theorem accepts_some_iff :
    c.accepts (some n) = true ↔
      (∃ s ∈ c.sites, s.signature.minArgs ≤ n) ∧ ∃ s ∈ c.sites, Within s.signature.maxArgs n := by
  rw [← minArgs_le_iff, ← within_maxArgs_iff]
  simp [accepts, Within, Option.all_eq_true]

/-- More declarations take no number of arguments away. -/
theorem accepts_mono (hsites : c.sites ⊆ d.sites) (h : c.accepts arity = true) :
    d.accepts arity = true := by
  cases arity with
  | none => rfl
  | some n =>
    obtain ⟨⟨s, hs, hleast⟩, t, ht, hmost⟩ := accepts_some_iff.1 h
    exact accepts_some_iff.2 ⟨⟨s, hsites hs, hleast⟩, t, hsites ht, hmost⟩

theorem sites_push (c : Chain) (m : Member) : (c.push m).sites = c.sites ++ [m.site] := by
  rw [sites, members_push, List.map_append]
  rfl

/-- Whether one of the declarations by itself takes so many arguments. -/
def isDeclaredFor (c : Chain) (arity : Option Nat) : Bool :=
  c.sites.any fun s => s.signature.accepts arity

theorem accepts_of_isDeclaredFor (h : c.isDeclaredFor arity = true) : c.accepts arity = true := by
  cases arity with
  | none => rfl
  | some n =>
    obtain ⟨s, hs, haccepts⟩ := List.any_eq_true.1 h
    obtain ⟨hleast, hmost⟩ := Signature.accepts_some_iff.1 haccepts
    exact accepts_some_iff.2 ⟨⟨s, hs, hleast⟩, s, hs, hmost⟩

/-- A function that is declared once takes nothing beyond its declaration. -/
theorem accepts_eq_isDeclaredFor (h : c.later = []) : c.accepts arity = c.isDeclaredFor arity := by
  have hsites : c.sites = [c.canonical.site] := by rw [sites, members, h, List.map_singleton]
  cases arity with
  | none =>
    rw [isDeclaredFor, hsites]
    rfl
  | some n =>
    rw [Bool.eq_iff_iff, accepts_some_iff, isDeclaredFor, hsites, List.any_cons, List.any_nil,
      Bool.or_false, Signature.accepts_some_iff]
    simp

end Chain

/-! ### The choice among functions -/

/-- The functions that have a declaration for the number of arguments are among those that are left,
in their order and as often as before. -/
theorem filter_isDeclaredFor_sublist (found : List Chain) (arity : Option Nat) :
    (found.filter fun c => c.isDeclaredFor arity).Sublist (narrow found arity) := by
  rw [narrow_eq]
  split
  · exact List.monotone_filter_right found fun c => Chain.accepts_of_isDeclaredFor
  · exact List.filter_sublist

/-- **Narrowing never drops a function that can be called.**  A function takes a number of arguments
if some declaration of it needs no more and some declaration allows as many, in particular if one of
its declarations takes them.  Declared once, it takes just what the declaration takes, and a further
declaration never makes it refuse what it took before.

So of every list of functions narrowing leaves a part, in the same order.  Nothing is left only if
there was nothing, and every function with a declaration for the number of arguments is kept.  If
there is a choice and one of the functions takes the arguments, then only such functions are left. -/
theorem narrow_callable :
    (∀ (c : Chain) (n : Nat), c.accepts (some n) = true ↔
        (∃ s ∈ c.sites, s.signature.minArgs ≤ n) ∧ ∃ s ∈ c.sites, Within s.signature.maxArgs n) ∧
      (∀ (c : Chain) (arity : Option Nat),
        c.isDeclaredFor arity = true → c.accepts arity = true) ∧
      (∀ (c : Chain) (arity : Option Nat),
        c.later = [] → c.accepts arity = c.isDeclaredFor arity) ∧
      (∀ (c : Chain) (m : Member) (arity : Option Nat),
        c.accepts arity = true → (c.push m).accepts arity = true) ∧
      ∀ (found : List Chain) (arity : Option Nat),
        (narrow found arity).Sublist found ∧
          (narrow found arity = [] → found = []) ∧
          (found.filter fun c => c.isDeclaredFor arity).Sublist (narrow found arity) ∧
          (1 < found.length → (∃ c ∈ found, c.accepts arity = true) →
            ∀ c ∈ narrow found arity, c.accepts arity = true) := by
  refine ⟨fun c n => Chain.accepts_some_iff, fun c arity => Chain.accepts_of_isDeclaredFor,
    fun c arity => Chain.accepts_eq_isDeclaredFor, ?_,
    fun found arity => ⟨narrow_sublist found arity, narrow_eq_nil.1,
      filter_isDeclaredFor_sublist found arity, ?_⟩⟩
  · intro c m arity haccepts
    refine Chain.accepts_mono ?_ haccepts
    rw [Chain.sites_push]
    exact List.subset_append_left c.sites [m.site]
  · intro hlength haccepts c hc
    rw [narrow_eq, if_pos ⟨hlength, haccepts⟩] at hc
    exact (List.mem_filter.1 hc).2

/-! ### Overloads -/

/-- A declaration of a function `f` of the global scope. -/
def overload (signature : Signature) : FunctionSite :=
  { (default : FunctionSite) with name := "f", qualifiedName := "f", signature := signature }

/-- Three functions of one name.  The first is declared twice, and only the second declaration gives
its last parameter a default value; the last one ends in an ellipsis. -/
def overloads : List Chain :=
  Chain.group (Member.number
    [overload ⟨["int", "int"], 2, some 2⟩, overload ⟨[], 0, some 0⟩,
      overload ⟨["int", "int"], 1, some 2⟩, overload ⟨["char*", "..."], 1, none⟩])

/-- One argument is too little for the first declaration of the first function and too much for the
second function.  The first function and the one with the ellipsis are kept. -/
theorem narrow_callable_overloads :
    overloads.map Chain.indexes = [[0, 2], [1], [3]] ∧
      (overloads.filter fun c => c.isDeclaredFor (some 1)).map Chain.indexes = [[0, 2], [3]] ∧
      (overloads.filter fun c => c.isDeclaredFor (some 1)).Sublist (narrow overloads (some 1)) ∧
      (narrow overloads (some 1)).Sublist overloads ∧
      ∀ c ∈ narrow overloads (some 1), c.accepts (some 1) = true := by
  have hcallable : ∃ c ∈ overloads, c.accepts (some 1) = true := by decide +kernel
  obtain ⟨-, -, -, -, hnarrow⟩ := narrow_callable
  obtain ⟨hsublist, -, hkept, honly⟩ := hnarrow overloads (some 1)
  exact ⟨by decide +kernel, by decide +kernel, hkept, hsublist, honly (by decide +kernel) hcallable⟩

end Unreferenced
