/-
Unreferenced/Proofs/SourceDiscovery.lean

Which sources are discovered below a directory, and in which order.

The sources below a directory are given by their components.  `Precedes` is the
order in which they come: files of a directory by their names, and after them what
lies in its subdirectories, by the names of these.  A list of texts enumerates
paths if it spells exactly these, each once and in that order; lists that enumerate
the same paths are equal (`Enumerates.unique`).

Discovery enumerates the sources of a tree (`enumerates_sourcesBelow`, by
induction on the tree), and only what is found in the tree decides which these
are, not how its directories list their entries.
-/
import Mathlib.Data.List.Nodup
import Unreferenced.Compile.Discovery
import Unreferenced.Proofs.DirectoryTree
import Unreferenced.Proofs.ExtraArguments

namespace Unreferenced.Database

open Text

/-! ### The order of sources -/

/-- The order of sources below a directory: its files by their names, then what lies in its
subdirectories, by the names of these and inside one of them in the same order again. -/
inductive Precedes : List String → List String → Prop
  | files {file file' : String} : file < file' → Precedes [file] [file']
  | fileFirst (file dir : String) {path : List String} : path ≠ [] → Precedes [file] (dir :: path)
  | dirs {dir dir' : String} {path path' : List String} : dir < dir' → path ≠ [] → path' ≠ [] →
      Precedes (dir :: path) (dir' :: path')
  | inside (dir : String) {path path' : List String} : Precedes path path' →
      Precedes (dir :: path) (dir :: path')

namespace Precedes

variable {path path' : List String}

theorem ne_nil (h : Precedes path path') : path ≠ [] ∧ path' ≠ [] := by
  cases h with
  | files _ => exact ⟨List.cons_ne_nil _ _, List.cons_ne_nil _ _⟩
  | fileFirst _ _ _ => exact ⟨List.cons_ne_nil _ _, List.cons_ne_nil _ _⟩
  | dirs _ _ _ => exact ⟨List.cons_ne_nil _ _, List.cons_ne_nil _ _⟩
  | inside _ _ => exact ⟨List.cons_ne_nil _ _, List.cons_ne_nil _ _⟩

theorem asymm (h : Precedes path path') : ¬Precedes path' path := by
  induction h with
  | files hlt =>
    intro h
    cases h with
    | files hlt' => exact String.lt_asymm hlt hlt'
    | fileFirst _ _ hne => exact hne rfl
    | dirs _ hne _ => exact hne rfl
    | inside _ h => exact h.ne_nil.1 rfl
  | fileFirst file dir hpath =>
    intro h
    cases h with
    | files _ => exact hpath rfl
    | fileFirst _ _ hne => exact hne rfl
    | dirs _ _ hne => exact hne rfl
    | inside _ h => exact h.ne_nil.2 rfl
  | dirs hlt hpath hpath' =>
    intro h
    cases h with
    | files _ => exact hpath rfl
    | fileFirst _ _ _ => exact hpath' rfl
    | dirs hlt' _ _ => exact String.lt_asymm hlt hlt'
    | inside _ _ => exact String.lt_irrefl _ hlt
  | inside dir hinside ih =>
    intro h
    cases h with
    | files _ => exact hinside.ne_nil.1 rfl
    | fileFirst _ _ _ => exact hinside.ne_nil.2 rfl
    | dirs hlt _ _ => exact String.lt_irrefl _ hlt
    | inside _ h => exact ih h

end Precedes

/-! ### Enumerating paths -/

/-- The spelling of a path below a directory. -/
def spell (directory : String) (path : List String) : String :=
  path.foldl entryPath directory

/-- The texts spell, from a directory on, exactly the paths with a property, each once and in
order. -/
def Enumerates (directory : String) (p : List String → Prop) (texts : List String) : Prop :=
  ∃ paths : List (List String), texts = paths.map (spell directory) ∧ paths.Pairwise Precedes ∧
    ∀ path, path ∈ paths ↔ p path

theorem nodup_of_pairwise_precedes {paths : List (List String)} (h : paths.Pairwise Precedes) :
    paths.Nodup :=
  h.imp fun hab heq => (heq ▸ hab).asymm (heq ▸ hab)

namespace Enumerates

variable {directory name : String} {p q : List String → Prop} {texts texts' : List String}

theorem congr (h : Enumerates directory p texts) (hpq : ∀ path, p path ↔ q path) :
    Enumerates directory q texts := by
  obtain ⟨paths, htexts, hsorted, hmem⟩ := h
  exact ⟨paths, htexts, hsorted, fun path => (hmem path).trans (hpq path)⟩

/-- In a given order there is only one list of the paths with a property. -/
theorem unique (h : Enumerates directory p texts) (h' : Enumerates directory p texts') :
    texts = texts' := by
  obtain ⟨paths, rfl, hsorted, hmem⟩ := h
  obtain ⟨paths', rfl, hsorted', hmem'⟩ := h'
  have hperm : paths.Perm paths' := by
    rw [List.perm_ext_iff_of_nodup (nodup_of_pairwise_precedes hsorted)
      (nodup_of_pairwise_precedes hsorted')]
    exact fun path => (hmem path).trans (hmem' path).symm
  rw [hperm.eq_of_pairwise (fun _ _ _ _ hab hba => absurd hba hab.asymm) hsorted hsorted']

theorem nil (h : ∀ path, ¬p path) : Enumerates directory p [] :=
  ⟨[], rfl, List.Pairwise.nil, fun path => iff_of_false List.not_mem_nil (h path)⟩

theorem append (h : Enumerates directory p texts) (h' : Enumerates directory q texts')
    (hbefore : ∀ path path', p path → q path' → Precedes path path') :
    Enumerates directory (fun path => p path ∨ q path) (texts ++ texts') := by
  obtain ⟨paths, rfl, hsorted, hmem⟩ := h
  obtain ⟨paths', rfl, hsorted', hmem'⟩ := h'
  refine ⟨paths ++ paths', List.map_append.symm, ?_, ?_⟩
  · rw [List.pairwise_append]
    refine ⟨hsorted, hsorted', ?_⟩
    intro path hpath path' hpath'
    exact hbefore path path' ((hmem path).1 hpath) ((hmem' path').1 hpath')
  · intro path
    rw [List.mem_append, hmem, hmem']

/-- What is enumerated in a subdirectory is so from the directory above it. -/
theorem above (h : Enumerates (entryPath directory name) p texts) :
    Enumerates directory (fun path => ∃ rest, path = name :: rest ∧ p rest) texts := by
  obtain ⟨paths, rfl, hsorted, hmem⟩ := h
  refine ⟨paths.map (name :: ·), ?_, ?_, ?_⟩
  · rw [List.map_map]
    rfl
  · rw [List.pairwise_map]
    exact hsorted.imp (Precedes.inside name)
  · intro path
    simp only [List.mem_map, hmem]
    exact exists_congr fun rest => and_comm.trans (and_congr_left' eq_comm)

/-- Sorted names enumerate the files of these names. -/
theorem names {names : List String} (h : names.Pairwise (· < ·)) :
    Enumerates directory (fun path => ∃ name ∈ names, path = [name])
      (names.map (entryPath directory)) := by
  refine ⟨names.map ([·]), ?_, ?_, ?_⟩
  · rw [List.map_map]
    rfl
  · rw [List.pairwise_map]
    exact h.imp Precedes.files
  · intro path
    simp only [List.mem_map]
    exact exists_congr fun name => and_congr_right' eq_comm

/-- Subdirectories whose names are sorted enumerate what each of them enumerates. -/
theorem flatMap {inside : String → List String → Prop} {subs : List (String × List String)}
    (hsorted : subs.Pairwise fun a b => a.1 < b.1)
    (hsubs : ∀ sub ∈ subs, Enumerates (entryPath directory sub.1) (inside sub.1) sub.2)
    (hne : ∀ name path, inside name path → path ≠ []) :
    Enumerates directory
      (fun path => ∃ sub ∈ subs, ∃ rest, path = sub.1 :: rest ∧ inside sub.1 rest)
      (subs.flatMap Prod.snd) := by
  induction subs with
  | nil => exact nil (by simp)
  | cons sub subs ih =>
    obtain ⟨hbefore, hsorted⟩ := List.pairwise_cons.1 hsorted
    obtain ⟨hsub, hsubs⟩ := List.forall_mem_cons.1 hsubs
    refine (hsub.above.append (ih hsorted hsubs) ?_).congr ?_
    · rintro _ _ ⟨rest, rfl, hrest⟩ ⟨sub', hsub', rest', rfl, hrest'⟩
      exact .dirs (hbefore sub' hsub') (hne _ _ hrest) (hne _ _ hrest')
    · intro path
      rw [List.exists_mem_cons_iff]

end Enumerates

/-! ### The sources of a tree -/

/-- A source at a path below an item: a file with the extension of a source, in directories none of
which is left out. -/
def IsSourceAt (extra : List String) (item : Item) (path : List String) : Prop :=
  ∃ dirs name, path = dirs ++ [name] ∧ (∃ f, item.find? path = some (.file f)) ∧
    Language.isSourceExtension (Path.parse name).suffix = true ∧
    ∀ dir ∈ dirs, dir ∉ excludedNames ∧ dir ∉ extra ∧ beginsWith "." dir = false

/-- A source at a path below the subdirectory of a name, which is not left out. -/
def IsSourceInside (extra : List String) (items : List (String × Item)) (name : String)
    (path : List String) : Prop :=
  ∃ inner, (name, .directory inner) ∈ items ∧ isExcluded extra name = false ∧
    IsSourceAt extra (.directory inner) path

variable {extra : List String} {items : List (String × Item)} {name : String} {path : List String}

theorem isExcluded_eq_false_iff :
    isExcluded extra name = false ↔
      name ∉ excludedNames ∧ name ∉ extra ∧ beginsWith "." name = false := by
  simp [isExcluded, and_assoc]

theorem IsSourceAt.ne_nil {item : Item} (h : IsSourceAt extra item path) : path ≠ [] := by
  obtain ⟨dirs, name, rfl, -⟩ := h
  exact List.append_ne_nil_of_right_ne_nil dirs (List.cons_ne_nil name [])

/-- The first of several components is a directory that is not left out. -/
theorem IsSourceAt.first {item : Item} {dir next : String} {rest : List String}
    (h : IsSourceAt extra item (dir :: next :: rest)) :
    dir ∉ excludedNames ∧ dir ∉ extra ∧ beginsWith "." dir = false := by
  obtain ⟨dirs, name, hpath, -, -, hdirs⟩ := h
  rcases dirs with - | ⟨dir', dirs⟩
  · cases hpath
  · rw [(List.cons.inj hpath).1]
    exact hdirs dir' List.mem_cons_self

theorem not_isSourceAt_file (f : StoredFile) : ¬IsSourceAt extra (.file f) path := by
  intro h
  obtain ⟨next, rest, rfl⟩ := List.exists_cons_of_ne_nil h.ne_nil
  obtain ⟨-, -, -, ⟨f', hfind⟩, -⟩ := h
  cases hfind

/-- A source below a directory is one of its files, or lies in a subdirectory that is not left
out. -/
theorem isSourceAt_directory_iff (h : (Item.directory items).IsTree) :
    IsSourceAt extra (.directory items) path ↔
      (∃ name f, (name, .file f) ∈ items ∧ isSourceName name = true ∧ path = [name]) ∨
        ∃ name rest, path = name :: rest ∧ IsSourceInside extra items name rest := by
  constructor
  · rintro ⟨dirs, name, rfl, ⟨f, hfind⟩, hname, hdirs⟩
    rcases dirs with - | ⟨dir, dirs⟩
    · rw [List.nil_append, Item.find?_cons_directory] at hfind
      obtain ⟨item, hlookup, hitem⟩ := Option.bind_eq_some_iff.1 hfind
      cases hitem
      exact .inl ⟨name, f, h.lookup_eq_some_iff.1 hlookup, hname, rfl⟩
    · rw [List.cons_append, Item.find?_cons_directory] at hfind
      obtain ⟨item, hlookup, hitem⟩ := Option.bind_eq_some_iff.1 hfind
      obtain ⟨hdir, hdirs⟩ := List.forall_mem_cons.1 hdirs
      cases item with
      | file g => exact absurd ⟨dirs, name, rfl, ⟨f, hitem⟩, hname, hdirs⟩ (not_isSourceAt_file g)
      | directory inner =>
        exact .inr ⟨dir, _, rfl, inner, h.lookup_eq_some_iff.1 hlookup,
          isExcluded_eq_false_iff.2 hdir, dirs, name, rfl, ⟨f, hitem⟩, hname, hdirs⟩
  · rintro (⟨name, f, hmem, hname, rfl⟩ | ⟨dir, rest, rfl, inner, hmem, hdir, hrest⟩)
    · refine ⟨[], name, rfl, ⟨f, ?_⟩, hname, List.forall_mem_nil _⟩
      rw [Item.find?_cons_directory, h.lookup_eq_some_iff.2 hmem]
      rfl
    · obtain ⟨dirs, name, rfl, ⟨f, hfind⟩, hname, hdirs⟩ := hrest
      refine ⟨dir :: dirs, name, rfl, ⟨f, ?_⟩, hname, ?_⟩
      · rw [Item.find?_cons_directory, h.lookup_eq_some_iff.2 hmem]
        exact hfind
      · exact List.forall_mem_cons.2 ⟨isExcluded_eq_false_iff.1 hdir, hdirs⟩

/-! ### Sorting by name -/

/-- What is sorted by different names has its names in strictly rising order. -/
theorem pairwise_lt_mergeSort {α : Type} (key : α → String) {l : List α} (h : (l.map key).Nodup) :
    (l.mergeSort fun a b => decide (key a ≤ key b)).Pairwise fun a b => key a < key b := by
  have hsorted := @List.pairwise_mergeSort α (fun a b => decide (key a ≤ key b))
    (fun a b c hab hbc => decide_eq_true
      (String.le_trans (of_decide_eq_true hab) (of_decide_eq_true hbc)))
    (fun a b => by
      rw [Bool.or_eq_true, decide_eq_true_eq, decide_eq_true_eq]
      exact String.le_total (key a) (key b)) l
  have hnodup : ((l.mergeSort fun a b => decide (key a ≤ key b)).map key).Nodup :=
    ((List.mergeSort_perm l _).map key).nodup_iff.2 h
  refine hsorted.imp₂ (fun a b hle hne => ?_) (List.pairwise_map.1 hnodup)
  apply String.not_le.1
  exact fun hge => hne (String.le_antisymm (of_decide_eq_true hle) hge)

theorem mem_sourceNames :
    name ∈ sourceNames items ↔ ∃ f, (name, .file f) ∈ items ∧ isSourceName name = true := by
  unfold sourceNames
  rw [List.mem_mergeSort, List.mem_filterMap]
  constructor
  · rintro ⟨⟨name', f | inner⟩, hmem, hsome⟩
    · dsimp only at hsome
      split at hsome
      · next hname =>
        cases hsome
        exact ⟨f, hmem, hname⟩
      · cases hsome
    · cases hsome
  · rintro ⟨f, hmem, hname⟩
    exact ⟨(name, .file f), hmem, if_pos hname⟩

theorem pairwise_sourceNames (h : (items.map Prod.fst).Nodup) :
    (sourceNames items).Pairwise (· < ·) := by
  apply pairwise_lt_mergeSort id
  rw [List.map_id]
  refine (List.pairwise_map.1 h).filterMap _ ?_
  rintro ⟨name, f | inner⟩ ⟨name', f' | inner'⟩ hne n hn n' hn'
  · obtain ⟨-, hn⟩ := Option.ite_none_right_eq_some.1 hn
    obtain ⟨-, hn'⟩ := Option.ite_none_right_eq_some.1 hn'
    cases hn
    cases hn'
    exact hne
  · cases hn'
  · cases hn
  · cases hn

section Inside

variable (extra : List String) (directory : String)

theorem sourcesInside_file (name : String) (f : StoredFile) (items : List (String × Item)) :
    sourcesInside extra directory ((name, .file f) :: items) =
      sourcesInside extra directory items := by
  rw [sourcesInside]

theorem sourcesInside_directory (name : String) (inner items : List (String × Item)) :
    sourcesInside extra directory ((name, .directory inner) :: items) =
      if isExcluded extra name then sourcesInside extra directory items
      else (name, sourcesBelow extra (entryPath directory name) (.directory inner)) ::
        sourcesInside extra directory items := by
  rw [sourcesInside]

theorem mem_sourcesInside {sub : String × List String} :
    sub ∈ sourcesInside extra directory items ↔
      ∃ inner, (sub.1, .directory inner) ∈ items ∧ isExcluded extra sub.1 = false ∧
        sub.2 = sourcesBelow extra (entryPath directory sub.1) (.directory inner) := by
  induction items with
  | nil => simp [sourcesInside]
  | cons entry items ih =>
    obtain ⟨name, f | inner⟩ := entry
    · rw [sourcesInside_file, ih]
      simp
    · rw [sourcesInside_directory]
      split
      · next hexcluded =>
        -- an entry of the excluded name is none of those on the right
        rw [ih]
        refine exists_congr fun inner' => ⟨?_, ?_⟩
        · rintro ⟨hmem, hrest⟩
          exact ⟨List.mem_cons_of_mem _ hmem, hrest⟩
        · rintro ⟨hmem, hkept, htexts⟩
          rcases List.mem_cons.1 hmem with heq | hmem
          · obtain ⟨rfl, -⟩ := Prod.mk.inj heq
            rw [hexcluded] at hkept
            cases hkept
          · exact ⟨hmem, hkept, htexts⟩
      · next hentered =>
        rw [List.mem_cons, ih]
        constructor
        · rintro (rfl | ⟨inner', hmem, hrest⟩)
          · exact ⟨inner, List.mem_cons_self, Bool.eq_false_iff.2 hentered, rfl⟩
          · exact ⟨inner', List.mem_cons_of_mem _ hmem, hrest⟩
        · rintro ⟨inner', hmem, hkept, htexts⟩
          rcases List.mem_cons.1 hmem with heq | hmem
          · obtain ⟨rfl, hinner⟩ := Prod.mk.inj heq
            cases hinner
            exact .inl (Prod.ext rfl htexts)
          · exact .inr ⟨inner', hmem, hkept, htexts⟩

theorem nodup_sourcesInside (h : (items.map Prod.fst).Nodup) :
    ((sourcesInside extra directory items).map Prod.fst).Nodup := by
  induction items with
  | nil => simp [sourcesInside]
  | cons entry items ih =>
    obtain ⟨hnew, hrest⟩ := List.nodup_cons.1 h
    obtain ⟨name, f | inner⟩ := entry
    · rw [sourcesInside_file]
      exact ih hrest
    · rw [sourcesInside_directory]
      split
      · exact ih hrest
      · refine List.nodup_cons.2 ⟨?_, ih hrest⟩
        intro hmem
        obtain ⟨sub, hsub, hname⟩ := List.mem_map.1 hmem
        obtain ⟨inner', hmem', -⟩ := (mem_sourcesInside extra directory).1 hsub
        exact hnew (List.mem_map.2 ⟨_, hmem', hname⟩)

/-- The names of the sources are those of the files with the extension of a source. -/
theorem exists_mem_sourceNames_iff :
    (∃ name ∈ sourceNames items, path = [name]) ↔
      ∃ name f, (name, .file f) ∈ items ∧ isSourceName name = true ∧ path = [name] := by
  constructor
  · rintro ⟨name, hname, rfl⟩
    obtain ⟨f, hmem, hsource⟩ := mem_sourceNames.1 hname
    exact ⟨name, f, hmem, hsource, rfl⟩
  · rintro ⟨name, f, hmem, hsource, rfl⟩
    exact ⟨name, mem_sourceNames.2 ⟨f, hmem, hsource⟩, rfl⟩

/-- The subdirectories that are entered are all those that have sources and are not left out. -/
theorem exists_mem_sourcesInside_iff :
    (∃ sub ∈ sourcesInside extra directory items, ∃ rest,
        path = sub.1 :: rest ∧ IsSourceInside extra items sub.1 rest) ↔
      ∃ name rest, path = name :: rest ∧ IsSourceInside extra items name rest := by
  constructor
  · rintro ⟨sub, -, rest, rfl, hrest⟩
    exact ⟨sub.1, rest, rfl, hrest⟩
  · rintro ⟨name, rest, rfl, inner, hmem, hkept, hrest⟩
    refine ⟨(name, sourcesBelow extra (entryPath directory name) (.directory inner)), ?_, rest,
      rfl, inner, hmem, hkept, hrest⟩
    rw [mem_sourcesInside]
    exact ⟨inner, hmem, hkept, rfl⟩

/-- Discovery goes through the sources of a tree in order. -/
theorem enumerates_sourcesBelow {item : Item} (h : item.IsTree) :
    Enumerates directory (IsSourceAt extra item) (sourcesBelow extra directory item) := by
  induction h generalizing directory with
  | file f =>
    rw [sourcesBelow]
    exact Enumerates.nil fun path => not_isSourceAt_file f
  | @directory items hnodup hnames htrees ih =>
    have htree := Item.IsTree.directory hnodup hnames htrees
    have hsubs : ∀ sub ∈ sourcesInside extra directory items,
        Enumerates (entryPath directory sub.1) (IsSourceInside extra items sub.1) sub.2 := by
      intro sub hsub
      obtain ⟨inner, hmem, hkept, htexts⟩ := (mem_sourcesInside extra directory).1 hsub
      rw [htexts]
      refine (ih _ hmem (entryPath directory sub.1)).congr fun path => ⟨?_, ?_⟩
      · exact fun hpath => ⟨inner, hmem, hkept, hpath⟩
      · -- there is only one entry of that name
        rintro ⟨inner', hmem', -, hpath⟩
        have hlookup := htree.lookup_eq_some_iff.2 hmem'
        rw [htree.lookup_eq_some_iff.2 hmem] at hlookup
        cases hlookup
        exact hpath
    have hfiles : Enumerates directory _ _ := Enumerates.names (pairwise_sourceNames hnodup)
    have hinside := Enumerates.flatMap
      (pairwise_lt_mergeSort Prod.fst (nodup_sourcesInside extra directory hnodup))
      (fun sub hsub => hsubs sub (List.mem_mergeSort.1 hsub))
      (fun name path ⟨_, _, _, hpath⟩ => hpath.ne_nil)
    rw [sourcesBelow]
    refine (hfiles.append hinside ?_).congr fun path => ?_
    · -- what lies in a subdirectory has at least two components
      rintro _ _ ⟨file, -, rfl⟩ ⟨sub, -, rest, rfl, inner, -, -, hrest⟩
      exact .fileFirst file sub.1 hrest.ne_nil
    · rw [isSourceAt_directory_iff htree, exists_mem_sourceNames_iff]
      simp only [List.mem_mergeSort]
      rw [exists_mem_sourcesInside_iff]

end Inside

/-! ### Spelling sources -/

/-- An entry of a directory is spelled with one more component. -/
theorem entryPath_render {p : Path} (h : p.IsNormal) (name : String) :
    entryPath (Path.render p) name = p.below [name] := by
  apply String.toList_inj.1
  by_cases hparts : p.parts = []
  · -- the spelling of the root ends in the slash that other directories get
    have htext : (Path.render p).toList = List.replicate p.anchor.slashes '/' := by
      rw [Path.toList_render h.anchored, hparts]
      exact List.append_nil _
    have hends : endsWith "/" (Path.render p) = true := by
      rw [endsWith, htext, List.isSuffixOf_iff_suffix]
      have hslashes := Nat.sub_add_cancel (Anchor.slashes_pos h.anchored)
      exact ⟨List.replicate (p.anchor.slashes - 1) '/', by
        rw [← hslashes, List.replicate_succ', Nat.add_sub_cancel]; rfl⟩
    rw [entryPath, if_pos hends, String.toList_append, htext, Path.below,
      @Path.toList_render ⟨p.anchor, p.parts ++ [name]⟩ h.anchored, hparts]
    simp
  · have hends : ¬endsWith "/" (Path.render p) = true := mt h.parts_eq_nil_of_endsWith hparts
    rw [entryPath, if_neg hends, Path.below, @Path.toList_render_slashed
      ⟨p.anchor, p.parts ++ [name]⟩ h.anchored (by simp)]
    simp [Path.toList_render_slashed h.anchored hparts, Path.slashed]

theorem spell_render {p : Path} (h : p.IsNormal) {path : List String}
    (hpath : ∀ part ∈ path, Path.IsName part) : spell (Path.render p) path = p.below path := by
  induction path generalizing p with
  | nil => exact (Path.below_nil p).symm
  | cons name rest ih =>
    obtain ⟨hname, hrest⟩ := List.forall_mem_cons.1 hpath
    have hentry := h.append (List.forall_mem_singleton.2 hname)
    show spell (entryPath (Path.render p) name) rest = _
    rw [entryPath_render h, Path.below, ih hentry hrest, Path.below, Path.below, List.append_assoc]
    rfl

/-! ### The commands of sources -/

section Arguments

open CompileCommand

variable {dir : String}

/-- A directory may be attached to the switch for include directories. -/
theorem searchSwitch?_include (h : Path.IsAbsolute dir) :
    searchSwitch? ("-I" ++ dir) = some (.include, some dir) := by
  obtain ⟨rest, hrest⟩ := h.exists_cons
  have htext : ("-I" ++ dir).toList = '-' :: 'I' :: '/' :: rest := by
    rw [String.toList_append, hrest]
    rfl
  have hswitch : "-I" ++ dir ≠ "-I" := by
    intro heq
    rw [heq] at htext
    cases htext
  have hequals : attached? "-I=" ("-I" ++ dir) = none := by
    rw [attached?, htext]
    rfl
  have hvalue : attached? "-I" ("-I" ++ dir) = some dir := by
    rw [attached?, after?_eq_some_iff.2 String.toList_append, Option.map_some, String.ofList_toList]
  rw [searchSwitch?, searchSwitches, List.findSome?_cons]
  dsimp only
  rw [if_neg hswitch, show "-I" ++ "=" = "-I=" from rfl, hequals]
  dsimp only
  rw [if_pos rfl, hvalue]
  rfl

theorem attached?_of_isAbsolute {start path : String} (hstart : start.toList.head? = some '-')
    (hpath : Path.IsAbsolute path) : attached? start path = none := by
  obtain ⟨rest, hrest⟩ := hpath.exists_cons
  obtain ⟨tail, htail⟩ := List.head?_eq_some_iff.1 hstart
  rw [attached?, hrest, htail]
  rfl

/-- A path from the root is no switch. -/
theorem searchSwitch?_of_isAbsolute {path : String} (h : Path.IsAbsolute path) :
    searchSwitch? path = none := by
  have hdash : ∀ entry ∈ searchSwitches, entry.1.toList.head? = some '-' := by decide
  rw [searchSwitch?, List.findSome?_eq_none_iff]
  rintro ⟨switch, list, mayAttach⟩ hmem
  have hswitch : switch.toList.head? = some '-' := hdash _ hmem
  have hequals : (switch ++ "=").toList.head? = some '-' := by
    rw [String.toList_append, List.head?_append, hswitch]
    rfl
  have hne : path ≠ switch := by
    rintro rfl
    obtain ⟨rest, hrest⟩ := h.exists_cons
    rw [hrest] at hswitch
    cases hswitch
  dsimp only
  rw [if_neg hne, attached?_of_isAbsolute hequals h, attached?_of_isAbsolute hswitch h]
  rcases mayAttach with - | -
  · rfl
  · rfl

/-- An include directory that is attached to its switch is added. -/
theorem readArguments_include (c : CompileCommand) (h : Path.IsAbsolute dir) (rest : List String) :
    readArguments c (("-I" ++ dir) :: rest) = readArguments (c.addDirectory .include dir) rest := by
  have htext : ("-I" ++ dir).toList = '-' :: 'I' :: dir.toList := String.toList_append
  apply readArguments_attachedDirectory c rest _ _ (searchSwitch?_include h)
  · intro heq
    rw [heq] at htext
    cases htext
  · rw [attached?, htext]
    rfl

/-- The switch for compiling and the source change nothing. -/
theorem readArguments_compile (c : CompileCommand) {source : String} (h : Path.IsAbsolute source) :
    readArguments c ["-c", source] = c := by
  have hne : source ≠ "-x" := by
    rintro rfl
    exact absurd h (by decide)
  calc readArguments c ["-c", source] = readArguments c [source] :=
        readArguments_skip c [source] (by decide) (by decide) (by decide)
    _ = readArguments c [] := readArguments_skip c [] hne (attached?_of_isAbsolute rfl h)
        (searchSwitch?_of_isAbsolute h)
    _ = c := rfl

/-- Include directories are added in their order. -/
theorem readArguments_includes (c : CompileCommand) {dirs : List String}
    (h : ∀ dir ∈ dirs, Path.IsNormalSpelling dir) (rest : List String) :
    readArguments c (dirs.map ("-I" ++ ·) ++ rest) =
      readArguments { c with includeDirs := c.includeDirs ++ dirs } rest := by
  induction dirs generalizing c with
  | nil => rw [List.append_nil]; rfl
  | cons dir dirs ih =>
    obtain ⟨hdir, hdirs⟩ := List.forall_mem_cons.1 h
    rw [List.map_cons, List.cons_append, readArguments_include c hdir.isAbsolute, ih _ hdirs,
      addDirectory, hdir.normalizeIn_eq]
    simp only [List.append_assoc, List.singleton_append]

/-- The command of a source has the given include directories and no others. -/
theorem discoveredCommand_eq (wd : WorkingDirectory) {root source : String} {dirs : List String}
    (hroot : Path.IsNormalSpelling root) (hsource : Path.IsNormalSpelling source)
    (hdirs : ∀ dir ∈ dirs, Path.IsNormalSpelling dir) :
    let c := discoveredCommand wd root (dirs.map ("-I" ++ ·)) source
    c.file = source ∧ c.directory = root ∧ c.includeDirs = dirs := by
  have habsolute : Path.absolute wd root = root := hroot.normalizeIn_eq wd.path
  refine ⟨?_, ?_, ?_⟩
  · rw [discoveredCommand, file_ofArguments, hsource.normalizeIn_eq]
  · rw [discoveredCommand, directory_ofArguments, habsolute]
  · unfold discoveredCommand
    generalize (if Language.ofFile? source = some .c then "cc" else "c++") = compiler
    have htail : ([compiler] ++ dirs.map ("-I" ++ ·) ++ ["-c", source]).tail =
        dirs.map ("-I" ++ ·) ++ ["-c", source] := rfl
    dsimp only
    rw [ofArguments_eq, htail, readArguments_includes _ hdirs,
      readArguments_compile _ hsource.isAbsolute]
    exact List.nil_append dirs

end Arguments

/-! ### Discovery -/

/-- The sources below a directory of a file system. -/
def sourcesAt (fs : FileSystem) (extra : List String) (root : String) : List String :=
  match fs.item? root with
  | some item => sourcesBelow extra root item
  | none => []

/-- A source at a path below a directory of a file system. -/
def IsSourceBelow (fs : FileSystem) (extra : List String) (root : String) (path : List String) :
    Prop :=
  ∃ item, fs.item? root = some item ∧ IsSourceAt extra item path

/-- The include directories of discovered sources: the root, and its directory for headers. -/
def includesAt (fs : FileSystem) (root : Path) : List String :=
  root.below [] :: if fs.isDirectory (root.below ["include"]) then [root.below ["include"]] else []

/-- The commands of the sources below a directory. -/
def discoveredCommands (fs : FileSystem) (extra : List String) (root : String) :
    List CompileCommand :=
  (sourcesAt fs extra root).map
    (discoveredCommand fs.workingDirectory root
      ((includesAt fs (Path.parse root)).map ("-I" ++ ·)))

theorem child_include (p : Path) : (p.child "include").render = p.below ["include"] := by
  have hparse : Path.parse "include" = ⟨.relative, ["include"]⟩ := by decide +kernel
  rw [Path.child, hparse]
  rfl

theorem discover_eq (fs : FileSystem) (projectRoot : String) (extra : List String) :
    discover fs projectRoot extra =
      ofCommands (some (Path.absolute fs.workingDirectory projectRoot))
        (discoveredCommands fs extra (Path.absolute fs.workingDirectory projectRoot)) := by
  have hroot : (Path.parse (Path.absolute fs.workingDirectory projectRoot)).below [] =
      Path.absolute fs.workingDirectory projectRoot :=
    (Path.below_nil _).trans
      (Path.isNormalSpelling_absolute fs.workingDirectory projectRoot).render_parse
  unfold discover discoveredCommands sourcesAt
  generalize Path.absolute fs.workingDirectory projectRoot = root at hroot ⊢
  dsimp only
  rw [child_include, includesAt, hroot, List.map_cons, apply_ite (List.map ("-I" ++ ·))]
  rfl

/-- Only what is found at its path makes something a source. -/
theorem isSourceBelow_iff {fs : FileSystem} {root : String} :
    IsSourceBelow fs extra root path ↔
      ∃ dirs name, path = dirs ++ [name] ∧
        (∃ f, ((fs.item? root).bind (Item.find? path)).map Item.content? = some (some f)) ∧
        Language.isSourceExtension (Path.parse name).suffix = true ∧
        ∀ dir ∈ dirs, dir ∉ excludedNames ∧ dir ∉ extra ∧ beginsWith "." dir = false := by
  constructor
  · rintro ⟨item, hitem, dirs, name, hpath, ⟨f, hfind⟩, hrest⟩
    refine ⟨dirs, name, hpath, ⟨f, ?_⟩, hrest⟩
    rw [hitem, Option.bind_some, hfind]
    rfl
  · rintro ⟨dirs, name, hpath, ⟨f, hcontent⟩, hrest⟩
    obtain ⟨found, hfound, hf⟩ := Option.map_eq_some_iff.1 hcontent
    obtain ⟨item, hitem, hfind⟩ := Option.bind_eq_some_iff.1 hfound
    rw [Item.content?_eq_some_iff.1 hf] at hfind
    exact ⟨item, hitem, dirs, name, hpath, ⟨f, hfind⟩, hrest⟩

section Discovered

variable {fs : FileSystem} (hfs : fs.IsTree) {root : String}
include hfs

theorem enumerates_sourcesAt :
    Enumerates root (IsSourceBelow fs extra root) (sourcesAt fs extra root) := by
  unfold sourcesAt IsSourceBelow
  rcases hitem : fs.item? root with - | item
  · exact Enumerates.nil (by simp)
  · exact (enumerates_sourcesBelow extra root (hfs.item? hitem)).congr (by simp)

theorem isName_of_isSourceBelow (h : IsSourceBelow fs extra root path) :
    ∀ part ∈ path, Path.IsName part := by
  obtain ⟨item, hitem, -, -, -, ⟨f, hfind⟩, -⟩ := h
  exact ((hfs.item? hitem).find? hfind).2

/-- The sources below a normal directory are spelled normally. -/
theorem exists_paths_sourcesAt (extra : List String) (hroot : Path.IsNormalSpelling root) :
    ∃ paths : List (List String), sourcesAt fs extra root = paths.map (Path.parse root).below ∧
      paths.Pairwise Precedes ∧ ∀ path, path ∈ paths ↔ IsSourceBelow fs extra root path := by
  have henumerates : Enumerates root (IsSourceBelow fs extra root) _ := enumerates_sourcesAt hfs
  obtain ⟨paths, htexts, hsorted, hmem⟩ := henumerates
  refine ⟨paths, ?_, hsorted, hmem⟩
  rw [htexts]
  refine List.map_congr_left fun path hpath => ?_
  have hnames := isName_of_isSourceBelow hfs ((hmem path).1 hpath)
  rw [← spell_render hroot.isNormal_parse hnames, hroot.render_parse]

theorem isNormalSpelling_of_mem_sourcesAt (hroot : Path.IsNormalSpelling root) {source : String}
    (hsource : source ∈ sourcesAt fs extra root) : Path.IsNormalSpelling source := by
  obtain ⟨paths, htexts, -, hmem⟩ := exists_paths_sourcesAt hfs extra hroot
  rw [htexts] at hsource
  obtain ⟨path, hpath, rfl⟩ := List.mem_map.1 hsource
  apply hroot.isNormal_parse.isNormalSpelling_below
  exact isName_of_isSourceBelow hfs ((hmem path).1 hpath)

theorem nodup_sourcesAt (hroot : Path.IsNormalSpelling root) : (sourcesAt fs extra root).Nodup := by
  obtain ⟨paths, htexts, hsorted, hmem⟩ := exists_paths_sourcesAt hfs extra hroot
  rw [htexts]
  refine (nodup_of_pairwise_precedes hsorted).map_on ?_
  -- a spelling is read back as the path it was made from
  intro path hpath path' hpath' hsame
  have hnormal := hroot.isNormal_parse.append (isName_of_isSourceBelow hfs ((hmem path).1 hpath))
  have hnormal' := hroot.isNormal_parse.append (isName_of_isSourceBelow hfs ((hmem path').1 hpath'))
  have hparse := congrArg Path.parse hsame
  rw [Path.below, Path.below, Path.parse_render hnormal, Path.parse_render hnormal'] at hparse
  exact List.append_cancel_left (congrArg Path.parts hparse)

omit hfs in
theorem isNormalSpelling_of_mem_includesAt (hroot : Path.IsNormalSpelling root) :
    ∀ dir ∈ includesAt fs (Path.parse root), Path.IsNormalSpelling dir := by
  have hheader : Path.IsName "include" := ⟨⟨by decide, by decide, by decide⟩, by decide⟩
  intro dir hdir
  rcases List.mem_cons.1 hdir with rfl | hdir
  · exact hroot.isNormal_parse.isNormalSpelling_below (List.forall_mem_nil _)
  · split at hdir
    · rw [List.mem_singleton.1 hdir]
      exact hroot.isNormal_parse.isNormalSpelling_below (List.forall_mem_singleton.2 hheader)
    · cases hdir

/-- The commands are for the sources, and look for headers in the include directories. -/
theorem discoveredCommands_spec (extra : List String) (hroot : Path.IsNormalSpelling root) :
    (discoveredCommands fs extra root).map CompileCommand.file = sourcesAt fs extra root ∧
      ∀ c ∈ discoveredCommands fs extra root, c.includeDirs = includesAt fs (Path.parse root) := by
  have hincludes := @isNormalSpelling_of_mem_includesAt fs root hroot
  constructor
  · rw [discoveredCommands, List.map_map]
    refine (List.map_congr_left fun source hsource => ?_).trans (List.map_id _)
    exact (discoveredCommand_eq fs.workingDirectory hroot
      (isNormalSpelling_of_mem_sourcesAt hfs hroot hsource) hincludes).1
  · intro c hc
    obtain ⟨source, hsource, rfl⟩ := List.mem_map.1 hc
    exact (discoveredCommand_eq fs.workingDirectory hroot
      (isNormalSpelling_of_mem_sourcesAt hfs hroot hsource) hincludes).2.2

/-- No source is lost when the commands are put under their files. -/
theorem commands_discover (projectRoot : String) (extra : List String) :
    (discover fs projectRoot extra).commands =
      discoveredCommands fs extra (Path.absolute fs.workingDirectory projectRoot) := by
  have hroot := Path.isNormalSpelling_absolute fs.workingDirectory projectRoot
  rw [discover_eq]
  apply commands_ofCommands
  rw [(discoveredCommands_spec hfs extra hroot).1]
  exact nodup_sourcesAt hfs hroot

/-- The order of entries plays no part in what is discovered. -/
theorem discover_eq_of_relists {fs' : FileSystem} (h : fs.Relists fs') (projectRoot : String)
    (extra : List String) : discover fs' projectRoot extra = discover fs projectRoot extra := by
  have hsources : sourcesAt fs' extra (Path.absolute fs.workingDirectory projectRoot) =
      sourcesAt fs extra (Path.absolute fs.workingDirectory projectRoot) := by
    apply (enumerates_sourcesAt (h.isTree hfs)).unique
    refine (enumerates_sourcesAt hfs).congr fun path => ?_
    rw [isSourceBelow_iff, isSourceBelow_iff, h.content_find? hfs]
  rw [discover_eq, discover_eq, discoveredCommands, discoveredCommands, h.workingDirectory_eq,
    hsources, includesAt, includesAt, h.isDirectory_eq hfs]

end Discovered

/-- Discovery below a root gives, each once, exactly the sources there: the files with the extension
of a source none of whose directories below the root is left out.  They come in the order of
`Precedes`, all with the root and its `include` directory, if there is one, as include directories,
and however the directories of the file system list their entries. -/
theorem discover_exact {fs : FileSystem} (hfs : fs.IsTree) (projectRoot : String)
    (extra : List String) :
    let root := Path.parse (Path.absolute fs.workingDirectory projectRoot)
    let db := discover fs projectRoot extra
    (∃ paths : List (List String), db.commands.map CompileCommand.file = paths.map root.below ∧
        paths.Pairwise Precedes ∧
        ∀ path, path ∈ paths ↔
          ∃ item, fs.item? (Path.absolute fs.workingDirectory projectRoot) = some item ∧
            IsSourceAt extra item path) ∧
      (db.commands.map CompileCommand.file).Nodup ∧
      (∀ c ∈ db.commands, c.includeDirs =
        root.below [] ::
          if fs.isDirectory (root.below ["include"]) then [root.below ["include"]] else []) ∧
      ∀ fs', fs.Relists fs' → discover fs' projectRoot extra = db := by
  intro root db
  have hroot := Path.isNormalSpelling_absolute fs.workingDirectory projectRoot
  obtain ⟨hfiles, hincludes⟩ := discoveredCommands_spec hfs extra hroot
  have hcommands : db.commands = _ := commands_discover hfs projectRoot extra
  rw [hcommands, hfiles]
  exact ⟨exists_paths_sourcesAt hfs extra hroot, nodup_sourcesAt hfs hroot, hincludes,
    fun fs' h => discover_eq_of_relists hfs h projectRoot extra⟩

/-- A directory with sources, with a directory for headers, and with two that are left out. -/
def sourceItems : List (String × Item) :=
  [("z.c", .file {}), ("sub", .directory [("b.cpp", .file {}), ("a.cc", .file {})]),
   (".git", .directory [("h.c", .file {})]), ("gen", .directory [("g.c", .file {})]),
   ("include", .directory [("x.h", .file {})])]

/-- The file system that has this directory below its root. -/
def sourceTree : FileSystem :=
  .ofFiles [("/p/z.c", {}), ("/p/sub/b.cpp", {}), ("/p/sub/a.cc", {}), ("/p/.git/h.c", {}),
    ("/p/gen/g.c", {}), ("/p/include/x.h", {})] []

/-- In the sample, sources are found at the top and in `sub`, and none in the hidden directory or in
the one that is excluded.  Listed the other way round, the directory gives the same commands. -/
theorem discover_exact_sample :
    sourceTree.IsTree ∧
      (∃ paths : List (List String),
        (discover sourceTree "../p" ["gen"]).commands.map CompileCommand.file =
          paths.map (Path.below ⟨.root, ["p"]⟩) ∧
        paths.Pairwise Precedes ∧ ["z.c"] ∈ paths ∧ ["sub", "b.cpp"] ∈ paths ∧
        [".git", "h.c"] ∉ paths ∧ ["gen", "g.c"] ∉ paths) ∧
      (∀ c ∈ (discover sourceTree "../p" ["gen"]).commands,
        c.includeDirs = ["/p", "/p/include"]) ∧
      discover { root := some [("p", .directory sourceItems.reverse)] } "../p" ["gen"] =
        discover sourceTree "../p" ["gen"] := by
  have htree : sourceTree.IsTree :=
    FileSystem.isTree_ofFiles (by decide +kernel) (by decide +kernel)
  have habsolute : Path.absolute sourceTree.workingDirectory "../p" = "/p" := by decide +kernel
  have hparse : Path.parse "/p" = ⟨.root, ["p"]⟩ := by decide +kernel
  have hitem : sourceTree.item? "/p" = some (.directory sourceItems) := rfl
  have hheader : sourceTree.isDirectory (Path.below ⟨.root, ["p"]⟩ ["include"]) = true := by
    decide +kernel
  obtain ⟨⟨paths, hfiles, hsorted, hmem⟩, -, hincludes, hrelists⟩ :=
    discover_exact htree "../p" ["gen"]
  rw [habsolute] at hmem
  rw [habsolute, hparse] at hfiles hincludes
  rw [if_pos hheader] at hincludes
  refine ⟨htree, ⟨paths, hfiles, hsorted, ?_, ?_, ?_, ?_⟩, ?_, ?_⟩
  · exact (hmem _).2 ⟨_, hitem, [], "z.c", rfl, ⟨{}, rfl⟩, by decide +kernel, List.forall_mem_nil _⟩
  · exact (hmem _).2 ⟨_, hitem, ["sub"], "b.cpp", rfl, ⟨{}, rfl⟩, by decide +kernel, by decide⟩
  · intro hgit
    obtain ⟨_, _, hsource⟩ := (hmem _).1 hgit
    exact absurd hsource.first (by decide)
  · intro hgen
    obtain ⟨_, _, hsource⟩ := (hmem _).1 hgen
    exact absurd hsource.first (by decide)
  · intro c hc
    exact (hincludes c hc).trans (by decide +kernel)
  · exact hrelists _ (.present (.inside [] [] "p" (.perm (List.reverse_perm sourceItems).symm)))

end Unreferenced.Database
