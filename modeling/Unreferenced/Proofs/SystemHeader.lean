/-
Unreferenced/Proofs/SystemHeader.lean

Which headers belong to the system.  The search path compares texts: a path lies
in a directory if it begins with the directory's spelling and a slash, and of two
directories the one with the longer spelling counts as the deeper one.

For normal spellings this is the same as comparing components.  A directory
contains a path if its components are the first ones of the path
(`isWithin_iff_contains`), and of two directories that contain one path the
deeper one has the longer spelling (`length_lt_length_iff`), since its components
begin with those of the other.  So a header belongs to the system exactly if the
deepest directory that contains it is a system directory and no user directory
(`isSystem_iff_deepest`).
-/
import Unreferenced.Proofs.LexicalPath
import Unreferenced.Proofs.SymbolDecoding

namespace Unreferenced

open Text

namespace Path

/-! ### Directories and what they contain -/

/-- A normal spelling that starts with a single slash. -/
structure IsRooted (s : String) : Prop where
  isNormalSpelling : IsNormalSpelling s
  anchor : (parse s).anchor = .root

theorem isRooted_iff {s : String} :
    IsRooted s ↔ IsNormalSpelling s ∧ (parse s).anchor = .root :=
  ⟨fun h => ⟨h.isNormalSpelling, h.anchor⟩, fun h => ⟨h.1, h.2⟩⟩

instance (s : String) : Decidable (IsRooted s) :=
  decidable_of_iff _ isRooted_iff.symm

/-- The components of the directory are the first components of the path.  Where the path starts at
another root than the directory, only a directory without components contains it. -/
def Contains (dir path : Path) : Prop :=
  dir.parts <+: path.parts ∧ (dir.parts = [] ∨ dir.anchor = path.anchor)

instance (dir path : Path) : Decidable (Contains dir path) :=
  inferInstanceAs (Decidable (_ ∧ _))

/-- The number of components of a spelled path. -/
def depth (s : String) : Nat :=
  (parse s).parts.length

/-! ### Components in a spelling -/

theorem slashed_cons_append (part : String) (parts : List String) (rest : List Char) :
    slashed (part :: parts) ++ rest = '/' :: (part.toList ++ (slashed parts ++ rest)) := by
  simp [slashed]

/-- Before a slash, components with a slash before each of them start with a slash. -/
theorem exists_slashed_append (parts : List String) (rest : List Char) :
    ∃ rest', slashed parts ++ '/' :: rest = '/' :: rest' := by
  rcases parts with - | ⟨part, parts⟩
  · exact ⟨rest, rfl⟩
  · exact ⟨_, slashed_cons_append part parts ('/' :: rest)⟩

theorem IsComponent.ne_slash {part : String} (h : IsComponent part) :
    ∀ c ∈ part.toList, (c == '/') = false := by
  intro c hc
  rw [beq_eq_false_iff_ne]
  rintro rfl
  exact h.no_slash hc

/-- Components can be read off a text up to each slash, so a text that begins with the spelling of
some components begins with these components. -/
theorem slashed_isPrefix_iff {dir path : List String} (hdir : ∀ part ∈ dir, IsComponent part)
    (hpath : ∀ part ∈ path, IsComponent part) :
    slashed dir ++ ['/'] <+: slashed path ++ ['/'] ↔ dir <+: path := by
  constructor
  · rintro ⟨rest, hrest⟩
    rw [List.append_assoc, List.singleton_append] at hrest
    induction dir generalizing path with
    | nil => exact List.nil_prefix
    | cons part dir ih =>
      obtain ⟨hpart, hdir⟩ := List.forall_mem_cons.1 hdir
      obtain ⟨after, hafter⟩ := exists_slashed_append dir rest
      rw [slashed_cons_append, hafter] at hrest
      rcases path with - | ⟨part', path⟩
      · -- nothing stands behind the only slash of the path
        have hnil := (List.cons.inj hrest).2
        simp at hnil
      · obtain ⟨hpart', hpath⟩ := List.forall_mem_cons.1 hpath
        obtain ⟨after', hafter'⟩ := exists_slashed_append path []
        rw [slashed_cons_append, hafter'] at hrest
        -- both first components end at the first slash behind them
        obtain ⟨hsame, hbehind⟩ := cut_unique (p := (· == '/')) hpart.ne_slash hpart'.ne_slash
          rfl rfl (List.cons.inj hrest).2
        rw [String.toList_inj.1 hsame, List.cons_prefix_cons]
        refine ⟨rfl, ih hdir hpath ?_⟩
        rw [hafter, hafter', hbehind]
  · rintro ⟨deeper, rfl⟩
    rcases deeper with - | ⟨part, deeper⟩
    · rewrite [List.append_nil]
      exact List.prefix_rfl
    · refine ⟨part.toList ++ slashed deeper ++ ['/'], ?_⟩
      simp [slashed]

/-- A path lies in a directory if what stands before the directory's last slashes, with a slash
behind it, begins the path, and it may lack that slash at its end. -/
theorem isWithin_iff_isPrefix {path dir : String} :
    isWithin path dir = true ↔
      path.toList = (dropTrailing '/' dir).toList ∨
        (dropTrailing '/' dir).toList ++ ['/'] <+: path.toList := by
  unfold isWithin beginsWith
  rw [Bool.or_eq_true, beq_iff_eq, List.isPrefixOf_iff_prefix, String.toList_append,
    String.toList_inj]
  rfl

/-- A text that does not end in a slash keeps all its characters. -/
theorem dropTrailing_of_not_endsWith {s : String} (h : ¬endsWith "/" s = true) :
    dropTrailing '/' s = s := by
  apply String.toList_inj.1
  unfold dropTrailing
  rw [String.toList_ofList]
  rcases List.eq_nil_or_concat' s.toList with hnil | ⟨front, c, hconcat⟩
  · rw [hnil]
    rfl
  · have hc : ¬(c == '/') = true := by
      intro hc
      apply h
      rw [endsWith, List.isSuffixOf_iff_suffix]
      exact ⟨front, by rw [hconcat, eq_of_beq hc]; rfl⟩
    rw [hconcat, List.reverse_append, List.reverse_singleton, List.singleton_append,
      List.dropWhile_cons_of_neg (p := (· == '/')) hc, List.reverse_cons, List.reverse_reverse]

section Rooted

variable {dir path : String}

/-- The root is spelled with its slash, any other directory by its components. -/
theorem IsRooted.toList_eq (h : IsRooted dir) :
    dir.toList = if (parse dir).parts = [] then ['/'] else slashed (parse dir).parts := by
  have hanchored := h.isNormalSpelling.isNormal_parse.anchored
  have hrender := h.isNormalSpelling.render_parse
  by_cases hparts : (parse dir).parts = []
  · have htext := toList_render hanchored
    rw [hrender, h.anchor, hparts] at htext
    rw [if_pos hparts, htext]
    rfl
  · have htext := toList_render_slashed hanchored hparts
    rw [hrender, h.anchor] at htext
    rw [if_neg hparts, htext]
    rfl

/-- Without its last slashes a directory is its components with a slash before each of them. -/
theorem IsRooted.toList_dropTrailing (h : IsRooted dir) :
    (dropTrailing '/' dir).toList = slashed (parse dir).parts := by
  by_cases hparts : (parse dir).parts = []
  · have hroot := h.toList_eq
    rw [if_pos hparts] at hroot
    unfold dropTrailing
    rw [hroot, hparts]
    rfl
  · have hends : ¬endsWith "/" dir = true := by
      intro hends
      rw [← h.isNormalSpelling.render_parse] at hends
      exact hparts (h.isNormalSpelling.isNormal_parse.parts_eq_nil_of_endsWith hends)
    rw [dropTrailing_of_not_endsWith hends, h.toList_eq, if_neg hparts]

/-- In the tree of the single root the comparison of texts is one of components. -/
theorem isWithin_iff_of_rooted (hdir : IsRooted dir) (hpath : IsRooted path) :
    isWithin path dir = true ↔ (parse dir).parts <+: (parse path).parts := by
  have hdirParts := hdir.isNormalSpelling.isNormal_parse.isComponent
  have hpathParts := hpath.isNormalSpelling.isNormal_parse.isComponent
  rw [isWithin_iff_isPrefix, hdir.toList_dropTrailing, ← slashed_isPrefix_iff hdirParts hpathParts,
    hpath.toList_eq]
  by_cases hparts : (parse path).parts = []
  · -- the path is the root, which is spelled with the slash that other paths lack
    rw [if_pos hparts, hparts]
    constructor
    · rintro (hsame | hbegins)
      · rcases hdirs : (parse dir).parts with - | ⟨part, parts⟩
        · exact List.prefix_rfl
        · have hpart := hdirParts part (by simp [hdirs])
          rw [hdirs] at hsame
          simp [slashed, hpart.ne_empty] at hsame
      · exact hbegins
    · exact Or.inr
  · rw [if_neg hparts, List.prefix_concat_iff, List.append_left_inj, eq_comm]

/-- A path from the double root lies in the root and in no other directory. -/
theorem isWithin_iff_of_doubleRoot (hdir : IsRooted dir) (hpath : IsNormalSpelling path)
    (hanchor : (parse path).anchor = .doubleRoot) :
    isWithin path dir = true ↔ (parse dir).parts = [] := by
  obtain ⟨rest, hrest⟩ : ∃ rest, path.toList = '/' :: '/' :: rest := by
    have htext := toList_render hpath.isNormal_parse.anchored
    rw [hpath.render_parse, hanchor] at htext
    exact ⟨_, htext⟩
  rw [isWithin_iff_isPrefix, hdir.toList_dropTrailing, hrest]
  rcases hparts : (parse dir).parts with - | ⟨part, parts⟩
  · simp [slashed]
  · have hpart := hdir.isNormalSpelling.isNormal_parse.isComponent part (by simp [hparts])
    obtain ⟨c, chars, hcons⟩ := List.exists_cons_of_ne_nil hpart.toList_ne_nil
    have hc : c ≠ '/' := fun hc => hpart.no_slash (by simp [hcons, hc])
    simp [slashed, hcons, hc, Ne.symm hc]

theorem isWithin_iff_contains (hdir : IsRooted dir) (hpath : IsNormalSpelling path) :
    isWithin path dir = true ↔ Contains (parse dir) (parse path) := by
  unfold Contains
  rw [hdir.anchor]
  rcases hanchor : (parse path).anchor with - | - | -
  · exact absurd hanchor hpath.isNormal_parse.anchored
  · rw [isWithin_iff_of_rooted hdir ⟨hpath, hanchor⟩]
    simp
  · rw [isWithin_iff_of_doubleRoot hdir hpath hanchor]
    constructor
    · intro hparts
      exact ⟨hparts ▸ List.nil_prefix, .inl hparts⟩
    · rintro ⟨-, hparts | hroots⟩
      · exact hparts
      · cases hroots

/-! ### Depth and length -/

variable {dir' : String}

/-- Of two directories that begin with the same components, the deeper one has the longer
spelling. -/
theorem length_lt_of_isPrefix (hdir : IsRooted dir) (hdir' : IsRooted dir')
    (hbegins : (parse dir).parts <+: (parse dir').parts) (hdeeper : depth dir < depth dir') :
    dir.length < dir'.length := by
  obtain ⟨deeper, hparts⟩ := hbegins
  unfold depth at hdeeper
  rcases deeper with - | ⟨part, deeper⟩
  · rw [← hparts, List.append_nil] at hdeeper
    exact absurd hdeeper (Nat.lt_irrefl _)
  · have hpart := hdir'.isNormalSpelling.isNormal_parse.isComponent part (by simp [← hparts])
    have hlength : 0 < part.toList.length := List.length_pos_iff.2 hpart.toList_ne_nil
    have htext' : dir'.toList = slashed (parse dir).parts ++ slashed (part :: deeper) := by
      rw [hdir'.toList_eq, ← hparts, if_neg (by simp)]
      simp [slashed]
    have hlength' : dir'.toList.length = (slashed (parse dir).parts).length +
        (1 + part.toList.length + (slashed deeper).length) := by
      rw [htext']
      simp [slashed]
      omega
    rw [← String.length_toList, ← String.length_toList, hlength', hdir.toList_eq]
    -- the slash that only the root ends in is made up for by a component
    split
    · simp only [List.length_singleton]
      omega
    · omega

/-- Directories that contain one path lie in each other, so the deeper one is the longer one. -/
theorem length_lt_length_iff (hdir : IsRooted dir) (hdir' : IsRooted dir') {p : Path}
    (hcontains : Contains (parse dir) p) (hcontains' : Contains (parse dir') p) :
    dir.length < dir'.length ↔ depth dir < depth dir' := by
  constructor
  · intro hlength
    by_contra hdepth
    have hbegins : (parse dir').parts <+: (parse dir).parts :=
      List.prefix_of_prefix_length_le hcontains'.1 hcontains.1 (Nat.not_lt.1 hdepth)
    rcases Nat.lt_or_eq_of_le (Nat.not_lt.1 hdepth) with hdeeper | hsame
    · exact absurd (length_lt_of_isPrefix hdir' hdir hbegins hdeeper) (Nat.lt_asymm hlength)
    · have hparts := hbegins.eq_of_length hsame
      have htext : dir' = dir := by
        apply String.toList_inj.1
        rw [hdir'.toList_eq, hdir.toList_eq, hparts]
      rw [htext] at hlength
      exact Nat.lt_irrefl _ hlength
  · intro hdepth
    exact length_lt_of_isPrefix hdir hdir'
      (List.prefix_of_prefix_length_le hcontains.1 hcontains'.1 (Nat.le_of_lt hdepth)) hdepth

end Rooted

/-- A path that goes on without a slash where the directory ends does not lie in it. -/
theorem isWithin_sibling {dir : String} (hdir : IsRooted dir) (hroot : dir ≠ "/") {c : Char}
    (hc : c ≠ '/') (rest : List Char) :
    isWithin (dir ++ String.ofList (c :: rest)) dir = false := by
  have hparts : (parse dir).parts ≠ [] := by
    intro hparts
    apply hroot
    apply String.toList_inj.1
    rw [hdir.toList_eq, if_pos hparts]
    rfl
  have hbase : (dropTrailing '/' dir).toList = dir.toList := by
    rw [hdir.toList_dropTrailing, hdir.toList_eq, if_neg hparts]
  rw [Bool.eq_false_iff, Ne, isWithin_iff_isPrefix, hbase, String.toList_append,
    String.toList_ofList, List.prefix_append_right_inj]
  simp [Ne.symm hc]

end Path

/-! ### The deepest directory -/

namespace SearchPath

open Unreferenced.Path

variable {dirs : List String} {path : String}

theorem longest?_eq_some_iff {n : Nat} :
    longest? dirs path = some n ↔
      (∃ dir ∈ dirs, isWithin path dir = true ∧ dir.length = n) ∧
        ∀ dir ∈ dirs, isWithin path dir = true → dir.length ≤ n := by
  unfold longest?
  rw [List.max?_eq_some_iff]
  apply and_congr
  · simp [and_assoc]
  · simp only [List.forall_mem_map, List.mem_filter, and_imp]

theorem longest?_eq_none_iff :
    longest? dirs path = none ↔ ∀ dir ∈ dirs, ¬isWithin path dir = true := by
  unfold longest?
  rw [List.max?_eq_none_iff, List.map_eq_nil_iff, List.filter_eq_nil_iff]

/-- A file belongs to the system if it lies in a system directory that is longer than every user
directory it lies in. -/
theorem isSystem_iff_longest (p : SearchPath) (path : String) :
    p.isSystem path = true ↔
      ∃ system ∈ p.systemDirs, isWithin path system = true ∧
        ∀ user ∈ p.quoteDirs ++ p.includeDirs, isWithin path user = true →
          user.length < system.length := by
  rcases hsystem : longest? p.systemDirs path with - | n
  · have hnone := longest?_eq_none_iff.1 hsystem
    rw [isSystem, hsystem]
    constructor
    · intro h
      cases h
    · rintro ⟨system, hmem, hwithin, -⟩
      exact absurd hwithin (hnone system hmem)
  · obtain ⟨⟨system, hmem, hwithin, rfl⟩, hlongest⟩ := longest?_eq_some_iff.1 hsystem
    rcases huser : longest? (p.quoteDirs ++ p.includeDirs) path with - | m
    · have hnone := longest?_eq_none_iff.1 huser
      rw [isSystem, hsystem, huser]
      refine iff_of_true rfl ⟨system, hmem, hwithin, ?_⟩
      intro user huser hinside
      exact absurd hinside (hnone user huser)
    · obtain ⟨⟨user, hmemUser, hinside, rfl⟩, hlongestUser⟩ := longest?_eq_some_iff.1 huser
      rw [isSystem, hsystem, huser]
      simp only [decide_eq_true_eq]
      constructor
      · intro hlonger
        refine ⟨system, hmem, hwithin, ?_⟩
        intro user' huser' hinside'
        exact Nat.lt_of_le_of_lt (hlongestUser user' huser' hinside') hlonger
      · rintro ⟨system', hmem', hwithin', hlonger⟩
        exact Nat.lt_of_lt_of_le (hlonger user hmemUser hinside) (hlongest system' hmem' hwithin')

/-- All directories are rooted and normally spelled. -/
structure IsRooted (p : SearchPath) : Prop where
  quoteDirs : ∀ dir ∈ p.quoteDirs, Path.IsRooted dir
  includeDirs : ∀ dir ∈ p.includeDirs, Path.IsRooted dir
  systemDirs : ∀ dir ∈ p.systemDirs, Path.IsRooted dir

/-- A file belongs to the system exactly if some system directory contains it and is deeper than
every user directory that contains it, so that of two directories of one depth the user's counts.
To lie in a directory is to have its components first; everything lies in the root, and what goes
on without a slash where another directory ends does not lie in that directory. -/
theorem isSystem_iff_deepest {p : SearchPath} (hp : p.IsRooted) {path : String}
    (hpath : IsNormalSpelling path) :
    (p.isSystem path = true ↔
        ∃ system ∈ p.systemDirs, Contains (parse system) (parse path) ∧
          ∀ user ∈ p.quoteDirs ++ p.includeDirs, Contains (parse user) (parse path) →
            depth user < depth system) ∧
      (∀ dir, Path.IsRooted dir → (isWithin path dir = true ↔ Contains (parse dir) (parse path))) ∧
      isWithin path "/" = true ∧
      ∀ dir, Path.IsRooted dir → dir ≠ "/" → ∀ c, c ≠ '/' → ∀ rest,
        isWithin (dir ++ String.ofList (c :: rest)) dir = false := by
  have huser : ∀ user ∈ p.quoteDirs ++ p.includeDirs, Path.IsRooted user :=
    List.forall_mem_append.2 ⟨hp.quoteDirs, hp.includeDirs⟩
  refine ⟨?_, fun dir hdir => isWithin_iff_contains hdir hpath, ?_,
    fun dir hdir hroot c hc rest => isWithin_sibling hdir hroot hc rest⟩
  · rw [isSystem_iff_longest]
    constructor
    · rintro ⟨system, hmem, hwithin, hlonger⟩
      have hsystem := hp.systemDirs system hmem
      have hcontains := (isWithin_iff_contains hsystem hpath).1 hwithin
      refine ⟨system, hmem, hcontains, ?_⟩
      intro user hmemUser hcontainsUser
      have hrooted := huser user hmemUser
      exact (length_lt_length_iff hrooted hsystem hcontainsUser hcontains).1
        (hlonger user hmemUser ((isWithin_iff_contains hrooted hpath).2 hcontainsUser))
    · rintro ⟨system, hmem, hcontains, hdeeper⟩
      have hsystem := hp.systemDirs system hmem
      refine ⟨system, hmem, (isWithin_iff_contains hsystem hpath).2 hcontains, ?_⟩
      intro user hmemUser hwithinUser
      have hrooted := huser user hmemUser
      have hcontainsUser := (isWithin_iff_contains hrooted hpath).1 hwithinUser
      exact (length_lt_length_iff hrooted hsystem hcontainsUser hcontains).2
        (hdeeper user hmemUser hcontainsUser)
  · exact (isWithin_iff_contains (by decide) hpath).2 ⟨List.nil_prefix, .inl rfl⟩

/-- A user directory inside a system directory, one that is a system directory as well, and the
root. -/
def nested : SearchPath where
  quoteDirs := ["/usr/include"]
  includeDirs := ["/", "/usr/include/gtk"]
  systemDirs := ["/usr/include", "/usr/include/gtk/sys"]

/-- Below the deepest of the nested directories a header belongs to the system, beside it and at the
tie it does not. -/
theorem isSystem_iff_deepest_nested :
    nested.IsRooted ∧ nested.isSystem "/usr/include/gtk/sys/a.h" = true ∧
      nested.isSystem "/usr/include/gtk/sys2/a.h" = false ∧
      nested.isSystem "/usr/include/a.h" = false ∧
      nested.isSystem "//usr/include/gtk/sys/a.h" = false := by
  have hrooted : nested.IsRooted := ⟨by decide +kernel, by decide +kernel, by decide +kernel⟩
  refine ⟨hrooted, ?_, ?_, ?_, ?_⟩
  · exact (isSystem_iff_deepest hrooted (by decide +kernel)).1.2 (by decide +kernel)
  · exact Bool.eq_false_iff.2
      (mt (isSystem_iff_deepest hrooted (by decide +kernel)).1.1 (by decide +kernel))
  · exact Bool.eq_false_iff.2
      (mt (isSystem_iff_deepest hrooted (by decide +kernel)).1.1 (by decide +kernel))
  · exact Bool.eq_false_iff.2
      (mt (isSystem_iff_deepest hrooted (by decide +kernel)).1.1 (by decide +kernel))

end SearchPath

end Unreferenced
