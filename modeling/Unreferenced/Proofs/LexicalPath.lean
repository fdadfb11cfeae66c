/-
Unreferenced/Proofs/LexicalPath.lean

What a spelling stands for.  Reading a spelling piece by piece leads from one
directory to the next: an empty piece and a single dot stay, two dots go back
to the directory above (the root is above itself), and any other piece goes one
directory deeper.  `destination path base` is where this ends, for a relative
spelling after the base has been followed.

Normalising a spelling is writing down its destination
(`normal_under_eq_destination`).  The destination has one spelling, so two
spellings are normalised to the same text exactly if they lead to the same
place, and the text of a place leads to that place from wherever it is followed
(`normalizeIn_canonical`).
-/
import Unreferenced.Proofs.NormalPath

namespace Unreferenced.Path

open Text

/-! ### Following a spelling -/

/-- Where one piece of a spelling leads to from the directory with the components `here`. -/
def enter (here : List String) (piece : String) : List String :=
  if piece = "" ∨ piece = "." then here
  else if piece = ".." then here.dropLast
  else here ++ [piece]

/-- Where a spelling leads to from a directory. -/
def follow (here : List String) (path : String) : List String :=
  (pieces '/' path).foldl enter here

/-- The root that a spelling starts at.  Exactly two slashes are kept apart, any other number of
slashes stands for one. -/
def rootOf (path : String) : Anchor :=
  if beginsWith "//" path && !beginsWith "///" path then .doubleRoot else .root

/-- Where a spelling leads to: from its own root if it starts at one, else from where the base
leads to. -/
def destination (path base : String) : Path :=
  if beginsWith "/" path then ⟨rootOf path, follow [] path⟩
  else ⟨rootOf base, follow (follow [] base) path⟩

/-- Reading a path drops only pieces that lead nowhere. -/
theorem foldl_enter_parse (here : List String) (path : String) :
    (parse path).parts.foldl enter here = follow here path := by
  show ((pieces '/' path).filter fun piece => piece != "" && piece != ".").foldl enter here =
    (pieces '/' path).foldl enter here
  induction pieces '/' path generalizing here with
  | nil => rfl
  | cons piece rest ih =>
    by_cases hpiece : piece = "" ∨ piece = "."
    · have hstay : enter here piece = here := if_pos hpiece
      rw [List.filter_cons_of_neg (by simpa [Classical.or_iff_not_imp_left] using hpiece),
        List.foldl_cons, hstay]
      exact ih here
    · rw [List.filter_cons_of_pos (by simpa using hpiece), List.foldl_cons, List.foldl_cons]
      exact ih (enter here piece)

/-- Taking `..` away from the root on follows the components.  `done` is kept with its last
component first. -/
theorem climb_root_eq_foldl {done parts : List String} (hdone : ".." ∉ done)
    (hparts : ∀ part ∈ parts, IsComponent part) :
    climb true done parts = parts.foldl enter done.reverse := by
  induction parts generalizing done with
  | nil => rfl
  | cons part parts ih =>
    obtain ⟨hpart, hrest⟩ := List.forall_mem_cons.1 hparts
    have hnamed : ¬(part = "" ∨ part = ".") := not_or.2 ⟨hpart.ne_empty, hpart.ne_dot⟩
    rw [List.foldl_cons]
    unfold climb
    by_cases hdots : part = ".."
    · have henter : enter done.reverse part = done.tail.reverse := by
        rw [enter, if_neg hnamed, if_pos hdots, List.dropLast_reverse]
      rw [if_pos hdots, henter]
      rcases done with - | ⟨last, rest⟩
      · exact ih hdone hrest
      · obtain ⟨hlast, hdone⟩ := List.ne_and_not_mem_of_not_mem_cons hdone
        dsimp only
        rw [if_neg (Ne.symm hlast)]
        exact ih hdone hrest
    · have henter : enter done.reverse part = (part :: done).reverse := by
        rw [enter, if_neg hnamed, if_neg hdots, List.reverse_cons]
      rw [if_neg hdots, henter]
      exact ih (List.not_mem_cons_of_ne_of_not_mem (Ne.symm hdots) hdone) hrest

/-! ### The root of a spelling -/

theorem isAbsolute_iff_beginsWith {s : String} : IsAbsolute s ↔ beginsWith "/" s = true := by
  constructor
  · intro h
    obtain ⟨rest, hrest⟩ := h.exists_cons
    simp [beginsWith, hrest]
  · intro h
    obtain ⟨rest, hrest⟩ := List.isPrefixOf_iff_prefix.1 h
    exact anchor_parse_ne_of_cons hrest.symm

/-- The anchor that is read off the number of slashes is the root the spelling starts at. -/
theorem anchor_parse {s : String} (h : IsAbsolute s) : (parse s).anchor = rootOf s := by
  obtain ⟨rest, hrest⟩ := h.exists_cons
  show Anchor.ofSlashes _ = _
  unfold rootOf beginsWith
  rw [hrest]
  -- one slash, two slashes, or more
  rcases rest with - | ⟨c, rest⟩
  · rfl
  · by_cases hc : c = '/'
    · subst hc
      rcases rest with - | ⟨d, rest⟩
      · rfl
      · by_cases hd : d = '/'
        · subst hd
          simp [Anchor.ofSlashes]
        · simp [Anchor.ofSlashes, hd, Ne.symm hd]
    · simp [Anchor.ofSlashes, hc, Ne.symm hc]

/-! ### Normalising is following -/

/-- The normal path is the place that the spelling leads to. -/
theorem normal_under_eq_destination {base : String} (hbase : IsAbsolute base) (path : String) :
    normal (under (parse base) (parse path)) = destination path base := by
  have hanchor := anchor_under_ne hbase (parse path)
  have hclimb : normal (under (parse base) (parse path)) =
      ⟨(under (parse base) (parse path)).anchor,
        (under (parse base) (parse path)).parts.foldl enter []⟩ := by
    unfold normal
    rw [bne_iff_ne.2 hanchor, climb_root_eq_foldl List.not_mem_nil]
    · rfl
    · exact isComponent_of_mem_under (fun _ => isComponent_of_mem_parse)
        fun _ => isComponent_of_mem_parse
  rw [hclimb]
  by_cases hpath : IsAbsolute path
  · -- the base plays no part
    have hunder : under (parse base) (parse path) = parse path := under_of_anchor_ne hpath
    rw [hunder, foldl_enter_parse, anchor_parse hpath, destination,
      if_pos (isAbsolute_iff_beginsWith.1 hpath)]
  · -- the base is followed first
    have hunder : under (parse base) (parse path) =
        ⟨(parse base).anchor, (parse base).parts ++ (parse path).parts⟩ := by
      rw [under, not_not.1 hpath]
    rw [hunder]
    dsimp only
    rw [List.foldl_append, foldl_enter_parse, foldl_enter_parse, anchor_parse hbase, destination,
      if_neg (mt isAbsolute_iff_beginsWith.2 hpath)]

theorem isNormal_destination {base : String} (hbase : IsAbsolute base) (path : String) :
    (destination path base).IsNormal := by
  rw [← normal_under_eq_destination hbase]
  apply isNormal_normal
  · exact anchor_under_ne hbase (parse path)
  · exact isComponent_of_mem_under (fun _ => isComponent_of_mem_parse)
      fun _ => isComponent_of_mem_parse

theorem normalizeIn_eq_render {base : String} (hbase : IsAbsolute base) (path : String) :
    normalizeIn path base = render (destination path base) :=
  congrArg render (normal_under_eq_destination hbase path)

/-- The normal spellings are those that normalising leaves alone. -/
theorem isNormalSpelling_iff {s : String} : IsNormalSpelling s ↔ normalizeIn s "/" = s := by
  constructor
  · intro h
    exact h.normalizeIn_eq "/"
  · intro h
    rw [← h]
    exact isNormalSpelling_normalizeIn (by decide) s

instance (s : String) : Decidable (IsNormalSpelling s) :=
  decidable_of_iff _ isNormalSpelling_iff.symm

/-- What a spelling leads to can be read off its normal form. -/
theorem parse_normalizeIn {base : String} (hbase : IsAbsolute base) (path : String) :
    parse (normalizeIn path base) = destination path base := by
  rw [normalizeIn_eq_render hbase, parse_render (isNormal_destination hbase path)]

/-- A normal spelling leads to the path it spells. -/
theorem IsNormalSpelling.destination_eq {s : String} (h : IsNormalSpelling s) (base : String) :
    destination s base = parse s := by
  have hbegins := isAbsolute_iff_beginsWith.1 h.isAbsolute
  calc destination s base = destination s s := by
        rw [destination, destination, if_pos hbegins, if_pos hbegins]
    _ = parse (normalizeIn s s) := (parse_normalizeIn h.isAbsolute s).symm
    _ = parse s := by rw [h.normalizeIn_eq]

/-- It makes no difference to a relative spelling whether its base is normalised before. -/
theorem destination_normalizeIn {base : String} (hbase : IsAbsolute base) {path : String}
    (hpath : beginsWith "/" path = false) :
    destination path (normalizeIn base base) = destination path base := by
  have hnormal := isNormalSpelling_normalizeIn hbase base
  have hsame : (⟨rootOf (normalizeIn base base), follow [] (normalizeIn base base)⟩ : Path) =
      ⟨rootOf base, follow [] base⟩ := by
    have hread := (hnormal.destination_eq base).trans (parse_normalizeIn hbase base)
    rwa [destination, if_pos (isAbsolute_iff_beginsWith.1 hnormal.isAbsolute), destination,
      if_pos (isAbsolute_iff_beginsWith.1 hbase)] at hread
  obtain ⟨hroot, hfollow⟩ := Path.mk.injEq .. ▸ hsame
  simp only [destination, hpath, Bool.false_eq_true, if_false]
  rw [hroot, hfollow]

/-! ### The spelling of a place -/

/-- With components there is one slash before each of them, and the slashes of the root before
these are one fewer. -/
theorem toList_render_slashed {p : Path} (h : p.anchor ≠ .relative) (hparts : p.parts ≠ []) :
    (render p).toList = List.replicate (p.anchor.slashes - 1) '/' ++ slashed p.parts := by
  obtain ⟨part, parts, hcons⟩ := List.exists_cons_of_ne_nil hparts
  have hslashes : p.anchor.slashes = p.anchor.slashes - 1 + 1 :=
    (Nat.sub_add_cancel (Anchor.slashes_pos h)).symm
  rw [toList_render h, hcons, toList_intercalate, hslashes, List.replicate_succ']
  simp [slashed]

/-- The spelling of a place: its root, one slash or two, and its components with single slashes
between them. -/
structure IsCanonical (s : String) (p : Path) : Prop where
  starts : beginsWith "/" s = true
  slashes : beginsWith "///" s = false
  spelled : s = p.anchor.text ++ "/".intercalate p.parts
  named : ∀ part ∈ p.parts, part ≠ "" ∧ part ≠ "." ∧ part ≠ ".." ∧ '/' ∉ part.toList
  ends : endsWith "/" s = true → p.parts = []

theorem IsNormal.named {p : Path} (h : p.IsNormal) :
    ∀ part ∈ p.parts, part ≠ "" ∧ part ≠ "." ∧ part ≠ ".." ∧ '/' ∉ part.toList := by
  intro part hpart
  have hcomponent := h.isComponent part hpart
  exact ⟨hcomponent.ne_empty, hcomponent.ne_dot, fun hdots => h.ne_dots (hdots ▸ hpart),
    hcomponent.no_slash⟩

/-- The last character of a normal spelling with components belongs to a component. -/
theorem IsNormal.parts_eq_nil_of_endsWith {p : Path} (h : p.IsNormal)
    (hends : endsWith "/" (render p) = true) : p.parts = [] := by
  by_contra hparts
  obtain ⟨front, last, hlast⟩ := (List.eq_nil_or_concat' p.parts).resolve_left hparts
  have hcomponent := h.isComponent last (by simp [hlast])
  obtain ⟨chars, c, hchars⟩ :=
    (List.eq_nil_or_concat' last.toList).resolve_left hcomponent.toList_ne_nil
  obtain ⟨text, htext⟩ := List.isSuffixOf_iff_suffix.1 hends
  rw [toList_render_slashed h.anchored hparts, hlast] at htext
  simp only [slashed, List.flatMap_append, List.flatMap_singleton, hchars] at htext
  rw [← List.cons_append, ← List.append_assoc, ← List.append_assoc] at htext
  have hc : "/".toList = [c] := List.append_inj_right' htext rfl
  apply hcomponent.no_slash
  rw [hchars, ← hc]
  exact List.mem_append_right chars List.mem_cons_self

theorem IsNormal.isCanonical {p : Path} (h : p.IsNormal) : IsCanonical (render p) p where
  starts := isAbsolute_iff_beginsWith.1 (IsNormalSpelling.isAbsolute ⟨p, h, rfl⟩)
  slashes := by
    have hhead := head?_intercalate_ne h.isComponent
    unfold beginsWith
    rw [toList_render h.anchored]
    generalize ("/".intercalate p.parts).toList = rest at hhead
    rcases rest with - | ⟨c, rest⟩
    · cases p.anchor <;> rfl
    · have hc : '/' ≠ c := fun hc => hhead (congrArg some hc.symm)
      cases p.anchor <;> simp [Anchor.slashes, List.isPrefixOf, hc]
  spelled := by
    apply String.toList_inj.1
    rw [toList_render h.anchored, String.toList_append, Anchor.toList_text]
  named := h.named
  ends := h.parts_eq_nil_of_endsWith

/-! ### One spelling for each place -/

/-- Normalising a spelling gives the one spelling of the place it leads to.  That spelling stays as
it is when it is normalised again, from wherever; a base may be normalised before a relative
spelling is taken from it; and spellings with the same normal form are those that lead to the same
place. -/
theorem normalizeIn_canonical (path : String) {base : String}
    (hbase : beginsWith "/" base = true) :
    IsCanonical (normalizeIn path base) (destination path base) ∧
      (∀ base', normalizeIn (normalizeIn path base) base' = normalizeIn path base) ∧
      (beginsWith "/" path = false →
        normalizeIn path (normalizeIn base base) = normalizeIn path base) ∧
      ∀ path' base', beginsWith "/" base' = true →
        (normalizeIn path' base' = normalizeIn path base ↔
          destination path' base' = destination path base) := by
  have habsolute := isAbsolute_iff_beginsWith.2 hbase
  refine ⟨?_, ?_, ?_, ?_⟩
  · rw [normalizeIn_eq_render habsolute]
    exact (isNormal_destination habsolute path).isCanonical
  · exact (isNormalSpelling_normalizeIn habsolute path).normalizeIn_eq
  · intro hpath
    have hnormal := isNormalSpelling_normalizeIn habsolute base
    rw [normalizeIn_eq_render hnormal.isAbsolute, destination_normalizeIn habsolute hpath,
      normalizeIn_eq_render habsolute]
  · intro path' base' hbase'
    have habsolute' := isAbsolute_iff_beginsWith.2 hbase'
    constructor
    · intro hsame
      rw [← parse_normalizeIn habsolute', hsame, parse_normalizeIn habsolute]
    · intro hsame
      rw [normalizeIn_eq_render habsolute', hsame, normalizeIn_eq_render habsolute]

/-- From `//a/b/../c`, which starts with the double root, `../inc/./x/` leads to `//a/inc/x`. -/
theorem normalizeIn_canonical_doubleRoot :
    normalizeIn "../inc/./x/" "//a/b/../c" = "//a/inc/x" ∧
      IsCanonical "//a/inc/x" ⟨.doubleRoot, ["a", "inc", "x"]⟩ ∧
      normalizeIn "//a/inc/x" "/elsewhere" = "//a/inc/x" ∧
      normalizeIn "../inc/./x/" "//a/c" = "//a/inc/x" ∧
      normalizeIn "inc/x" "//a" = "//a/inc/x" ∧ normalizeIn "inc/x" "/a" ≠ "//a/inc/x" := by
  have hn : normalizeIn "../inc/./x/" "//a/b/../c" = "//a/inc/x" := by decide +kernel
  have hbase : normalizeIn "//a/b/../c" "//a/b/../c" = "//a/c" := by decide +kernel
  obtain ⟨hcanonical, hagain, hrelative, hplaces⟩ :=
    normalizeIn_canonical "../inc/./x/" (by decide : beginsWith "/" "//a/b/../c" = true)
  rw [hn] at hcanonical hagain hrelative hplaces
  rw [hbase] at hrelative
  refine ⟨hn, ?_, hagain "/elsewhere", hrelative (by decide), ?_, ?_⟩
  · exact (by decide +kernel : destination "../inc/./x/" "//a/b/../c" =
      ⟨.doubleRoot, ["a", "inc", "x"]⟩) ▸ hcanonical
  · exact (hplaces "inc/x" "//a" (by decide)).2 (by decide +kernel)
  · exact mt (hplaces "inc/x" "/a" (by decide)).1 (by decide +kernel)

end Unreferenced.Path
