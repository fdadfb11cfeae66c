/-
Unreferenced/Proofs/DirectoryTree.lean

File systems as directory trees.  In a tree the entries of a directory have
different names, and the names are such as a path can have as components.  So an
entry is the one that is found under its name, and every path at which something
is found is a normal one (`IsTree.find?`).  A file system that is made
from files with normal paths is a tree (`FileSystem.isTree_ofFiles`).

The order in which a directory lists its entries is no part of the tree.  Two trees
that differ in nothing else have the same at every path (`Relists.content_find?`).
-/
import Unreferenced.Container.OrderedMap
import Unreferenced.Proofs.NormalPath

namespace Unreferenced

/-- A name that an entry of a directory can have. -/
structure Path.IsName (name : String) : Prop extends Path.IsComponent name where
  ne_dots : name ≠ ".."

theorem Path.IsNormal.isName {p : Path} (h : p.IsNormal) : ∀ part ∈ p.parts, Path.IsName part := by
  intro part hpart
  exact ⟨h.isComponent part hpart, fun hdots => h.ne_dots (hdots ▸ hpart)⟩

/-- The spelling of a path below a directory. -/
def Path.below (p : Path) (path : List String) : String :=
  Path.render ⟨p.anchor, p.parts ++ path⟩

theorem Path.below_nil (p : Path) : p.below [] = p.render := by
  rw [Path.below, List.append_nil]

theorem Path.IsNormal.append {p : Path} (h : p.IsNormal) {path : List String}
    (hpath : ∀ part ∈ path, Path.IsName part) :
    Path.IsNormal ⟨p.anchor, p.parts ++ path⟩ where
  anchored := h.anchored
  isComponent := List.forall_mem_append.2 ⟨h.isComponent, fun part hpart =>
    (hpath part hpart).toIsComponent⟩
  ne_dots := by
    rw [List.mem_append, not_or]
    exact ⟨h.ne_dots, fun hdots => (hpath _ hdots).ne_dots rfl⟩

theorem Path.IsNormal.isNormalSpelling_below {p : Path} (h : p.IsNormal) {path : List String}
    (hpath : ∀ part ∈ path, Path.IsName part) : Path.IsNormalSpelling (p.below path) :=
  ⟨_, h.append hpath, rfl⟩

namespace Item

/-- In every directory the entries have names, and different ones. -/
inductive IsTree : Item → Prop
  | file (f : StoredFile) : IsTree (.file f)
  | directory {items : List (String × Item)} : (items.map Prod.fst).Nodup →
      (∀ entry ∈ items, Path.IsName entry.1) → (∀ entry ∈ items, IsTree entry.2) →
      IsTree (.directory items)

/-- What stands in a file; a directory has nothing of the kind. -/
def content? : Item → Option StoredFile
  | .file f => some f
  | .directory _ => none

variable {item item' : Item} {items items' : List (String × Item)} {name : String}

theorem content?_eq_some_iff {f : StoredFile} : item.content? = some f ↔ item = .file f := by
  cases item with
  | file g => simp [content?]
  | directory items => simp [content?]

namespace IsTree

theorem nodup (h : (Item.directory items).IsTree) : (items.map Prod.fst).Nodup := by
  cases h with
  | directory hnodup _ _ => exact hnodup

theorem isName (h : (Item.directory items).IsTree) {entry : String × Item}
    (hentry : entry ∈ items) : Path.IsName entry.1 := by
  cases h with
  | directory _ hnames _ => exact hnames entry hentry

theorem entry (h : (Item.directory items).IsTree) {entry : String × Item}
    (hentry : entry ∈ items) : entry.2.IsTree := by
  cases h with
  | directory _ _ htrees => exact htrees entry hentry

/-- An entry is what is found under its name. -/
theorem lookup_eq_some_iff (h : (Item.directory items).IsTree) :
    items.lookup name = some item ↔ (name, item) ∈ items := by
  constructor
  · intro hlookup
    obtain ⟨front, back, rfl, -⟩ := List.lookup_eq_some_iff.1 hlookup
    exact List.mem_append_right front List.mem_cons_self
  · exact OrderedMap.lookup_of_mem h.nodup

/-- A tree may be put in the place of an entry. -/
theorem replace {front back : List (String × Item)}
    (h : (Item.directory (front ++ (name, item) :: back)).IsTree) (hitem' : item'.IsTree) :
    (Item.directory (front ++ (name, item') :: back)).IsTree := by
  have hentry : ∀ entry ∈ front ++ (name, item') :: back,
      entry = (name, item') ∨ entry ∈ front ++ (name, item) :: back := by
    intro entry hentry
    rcases List.mem_append.1 hentry with hfront | hback
    · exact .inr (List.mem_append_left _ hfront)
    · exact (List.mem_cons.1 hback).imp_right fun hback =>
        List.mem_append_right front (List.mem_cons_of_mem _ hback)
  apply IsTree.directory
  · have hnodup := h.nodup
    rw [List.map_append, List.map_cons] at hnodup ⊢
    exact hnodup
  · intro entry hmem
    rcases hentry entry hmem with rfl | hmem
    · have hname := h.isName (List.mem_append_right front List.mem_cons_self)
      exact hname
    · exact h.isName hmem
  · intro entry hmem
    rcases hentry entry hmem with rfl | hmem
    · exact hitem'
    · exact h.entry hmem

end IsTree

/-! ### Looking up a path -/

theorem find?_cons_directory (name : String) (rest : List String) (items : List (String × Item)) :
    find? (name :: rest) (.directory items) = (items.lookup name).bind (find? rest) := by
  rw [find?]
  rcases items.lookup name with - | item
  · rfl
  · rfl

theorem find?_append (front back : List String) (item : Item) :
    find? (front ++ back) item = (find? front item).bind (find? back) := by
  induction front generalizing item with
  | nil => rfl
  | cons name front ih =>
    cases item with
    | file f => rfl
    | directory items =>
      rw [List.cons_append, find?_cons_directory, find?_cons_directory]
      rcases items.lookup name with - | item
      · rfl
      · exact ih item

/-- What is found in a tree is a tree, and the path to it consists of names. -/
theorem IsTree.find? {path : List String} (h : item.IsTree) (hfind : item.find? path = some item') :
    item'.IsTree ∧ ∀ part ∈ path, Path.IsName part := by
  induction path generalizing item with
  | nil =>
    cases hfind
    exact ⟨h, List.forall_mem_nil _⟩
  | cons name rest ih =>
    cases item with
    | file f => cases hfind
    | directory items =>
      rw [find?_cons_directory] at hfind
      obtain ⟨inner, hlookup, hrest⟩ := Option.bind_eq_some_iff.1 hfind
      have hentry := h.lookup_eq_some_iff.1 hlookup
      obtain ⟨htree, hnames⟩ := ih (h.entry hentry) hrest
      exact ⟨htree, List.forall_mem_cons.2 ⟨h.isName hentry, hnames⟩⟩

/-! ### The order of entries -/

/-- The trees differ only in the order in which directories list their entries. -/
inductive Relists : Item → Item → Prop
  | refl (item : Item) : Relists item item
  | trans {item item' item'' : Item} : Relists item item' → Relists item' item'' →
      Relists item item''
  | perm {items items' : List (String × Item)} : items.Perm items' →
      Relists (.directory items) (.directory items')
  | inside {item item' : Item} (front back : List (String × Item)) (name : String) :
      Relists item item' →
      Relists (.directory (front ++ (name, item) :: back))
        (.directory (front ++ (name, item') :: back))

/-- Relisting keeps a tree a tree, and at every path the same file or a directory. -/
theorem Relists.content_find? (h : Relists item item') (htree : item.IsTree) :
    item'.IsTree ∧ ∀ path, (item.find? path).map content? = (item'.find? path).map content? := by
  induction h with
  | refl item => exact ⟨htree, fun _ => rfl⟩
  | trans _ _ ih ih' =>
    obtain ⟨htree', hsame⟩ := ih htree
    obtain ⟨htree'', hsame'⟩ := ih' htree'
    exact ⟨htree'', fun path => (hsame path).trans (hsame' path)⟩
  | @perm items items' hperm =>
    have htree' : (directory items').IsTree :=
      .directory ((hperm.map Prod.fst).nodup_iff.1 htree.nodup)
        (fun entry hentry => htree.isName (hperm.mem_iff.2 hentry))
        (fun entry hentry => htree.entry (hperm.mem_iff.2 hentry))
    refine ⟨htree', ?_⟩
    rintro (- | ⟨name, rest⟩)
    · rfl
    · have hlookup : items.lookup name = items'.lookup name := by
        ext item
        rw [htree.lookup_eq_some_iff, htree'.lookup_eq_some_iff, hperm.mem_iff]
      rw [find?_cons_directory, find?_cons_directory, hlookup]
  | @inside item item' front back name _ ih =>
    obtain ⟨hitem', hsame⟩ := ih (htree.entry (List.mem_append_right front List.mem_cons_self))
    refine ⟨htree.replace hitem', ?_⟩
    rintro (- | ⟨part, rest⟩)
    · rfl
    · rw [find?_cons_directory, find?_cons_directory, List.lookup_append, List.lookup_append,
        List.lookup_cons, List.lookup_cons]
      -- an entry in front, the one that was relisted, or one behind it
      rcases front.lookup part with - | found
      · rcases part == name with - | -
        · rfl
        · exact hsame rest
      · rfl

/-! ### Adding an item -/

theorem mem_set {entry : String × Item} (h : entry ∈ set name item items) :
    entry = (name, item) ∨ entry ∈ items := by
  induction items with
  | nil => exact .inl (List.mem_singleton.1 h)
  | cons first rest ih =>
    obtain ⟨n, i⟩ := first
    rw [set] at h
    split at h
    · next hname =>
      subst hname
      exact (List.mem_cons.1 h).imp_right (List.mem_cons_of_mem _)
    · rcases List.mem_cons.1 h with rfl | h
      · exact .inr List.mem_cons_self
      · exact (ih h).imp_right (List.mem_cons_of_mem _)

theorem nodup_set (h : (items.map Prod.fst).Nodup) :
    ((set name item items).map Prod.fst).Nodup := by
  induction items with
  | nil => exact List.pairwise_singleton _ name
  | cons first rest ih =>
    obtain ⟨n, i⟩ := first
    obtain ⟨hnew, hrest⟩ := List.nodup_cons.1 h
    rw [set]
    split
    · exact h
    · next hname =>
      refine List.nodup_cons.2 ⟨?_, ih hrest⟩
      intro hn
      obtain ⟨entry, hentry, hfst⟩ := List.mem_map.1 hn
      rcases mem_set hentry with rfl | hentry
      · exact hname hfst.symm
      · exact hnew (List.mem_map.2 ⟨entry, hentry, hfst⟩)

theorem IsTree.set (h : (Item.directory items).IsTree) (hname : Path.IsName name)
    (hitem : item.IsTree) : (Item.directory (set name item items)).IsTree := by
  apply IsTree.directory (nodup_set h.nodup)
  · intro entry hentry
    rcases mem_set hentry with rfl | hentry
    · exact hname
    · exact h.isName hentry
  · intro entry hentry
    rcases mem_set hentry with rfl | hentry
    · exact hitem
    · exact h.entry hentry

theorem isTree_empty : (directory []).IsTree :=
  .directory List.nodup_nil (List.forall_mem_nil _) (List.forall_mem_nil _)

theorem IsTree.add {path : List String} (h : (Item.directory items).IsTree)
    (hpath : ∀ part ∈ path, Path.IsName part) (hitem : item.IsTree) :
    (Item.directory (add item path items)).IsTree := by
  fun_induction Item.add item path items with
  | case1 items => exact h
  | case2 name items found _ _ => exact h
  | case3 name items _ => exact h.set (hpath name List.mem_cons_self) hitem
  | case4 name rest items _ inner hlookup ih =>
    obtain ⟨hname, hrest⟩ := List.forall_mem_cons.1 hpath
    have hinner := h.entry (h.lookup_eq_some_iff.1 hlookup)
    exact h.set hname (ih hinner hrest)
  | case5 name rest items _ _ ih =>
    obtain ⟨hname, hrest⟩ := List.forall_mem_cons.1 hpath
    exact h.set hname (ih isTree_empty hrest)

/-- Adding one item after the other keeps a tree a tree. -/
theorem IsTree.foldl_add {β : Type} {l : List β} {itemOf : β → Item} {pathOf : β → List String}
    (h : (Item.directory items).IsTree) (hitem : ∀ b ∈ l, (itemOf b).IsTree)
    (hpath : ∀ b ∈ l, ∀ part ∈ pathOf b, Path.IsName part) :
    (Item.directory
      (l.foldl (fun items b => Item.add (itemOf b) (pathOf b) items) items)).IsTree := by
  induction l generalizing items with
  | nil => exact h
  | cons b l ih =>
    obtain ⟨hb, hl⟩ := List.forall_mem_cons.1 hitem
    obtain ⟨hpathb, hpathl⟩ := List.forall_mem_cons.1 hpath
    exact ih (h.add hpathb hb) hl hpathl

/-- Where components lead depends on which of the items on the way are directories. -/
theorem walk?_congr {item item' : Item}
    (h : ∀ path, (item.find? path).map content? = (item'.find? path).map content?)
    (place parts : List String) : item.walk? place parts = item'.walk? place parts := by
  induction parts generalizing place with
  | nil => rfl
  | cons name rest ih =>
    rw [walk?, walk?, ih, ih]
    have hplace := h place
    generalize item.find? place = found at hplace ⊢
    generalize item'.find? place = found' at hplace ⊢
    rcases found with - | f | items
    · rw [Option.map_eq_none_iff.1 hplace.symm]
    · obtain ⟨item, rfl, hitem⟩ := Option.map_eq_some_iff.1 hplace.symm
      rw [content?_eq_some_iff.1 hitem]
    · obtain ⟨item, rfl, hitem⟩ := Option.map_eq_some_iff.1 hplace.symm
      rcases item with f' | items'
      · cases hitem
      · rfl

end Item

/-! ### File systems -/

namespace FileSystem

/-- What the root directory holds is a tree. -/
def IsTree (fs : FileSystem) : Prop :=
  ∀ items, fs.root = some items → (Item.directory items).IsTree

/-- The file systems differ only in the order in which directories list their entries. -/
inductive Relists : FileSystem → FileSystem → Prop
  | absent {lookup : PathLookup} {wd : WorkingDirectory} :
      Relists ⟨none, lookup, wd⟩ ⟨none, lookup, wd⟩
  | present {items items' : List (String × Item)} {lookup : PathLookup} {wd : WorkingDirectory} :
      Item.Relists (.directory items) (.directory items') →
        Relists ⟨some items, lookup, wd⟩ ⟨some items', lookup, wd⟩

/-- Files and directories with normal paths make a tree. -/
theorem isTree_ofFiles {files : List (String × StoredFile)} {directories : List String}
    (hfiles : ∀ f ∈ files, Path.IsNormalSpelling f.1)
    (hdirectories : ∀ d ∈ directories, Path.IsNormalSpelling d) :
    (ofFiles files directories).IsTree := by
  intro items hitems
  unfold ofFiles at hitems
  dsimp only at hitems
  split at hitems
  · cases hitems
  · cases hitems
    apply Item.IsTree.foldl_add
    · apply Item.isTree_empty.foldl_add
      · exact fun f _ => .file f.2
      · exact fun f hf => (hfiles f hf).isNormal_parse.isName
    · exact fun _ _ => Item.isTree_empty
    · exact fun d hd => (hdirectories d hd).isNormal_parse.isName

variable {fs fs' : FileSystem}

/-- What is found in a tree is a tree. -/
theorem IsTree.item? (h : fs.IsTree) {path : String} {item : Item}
    (hitem : fs.item? path = some item) : item.IsTree := by
  unfold FileSystem.item? at hitem
  split at hitem
  · next items hroot =>
    obtain ⟨place, -, hfind⟩ := Option.bind_eq_some_iff.1 hitem
    exact ((h items hroot).find? hfind).1
  · cases hitem

theorem Relists.workingDirectory_eq (h : fs.Relists fs') :
    fs'.workingDirectory = fs.workingDirectory := by
  cases h <;> rfl

theorem Relists.isTree (h : fs.Relists fs') (htree : fs.IsTree) : fs'.IsTree := by
  cases h with
  | absent => exact htree
  | @present items items' lookup wd h =>
    intro items'' hitems
    cases hitems
    exact (h.content_find? (htree items rfl)).1

/-- Relisting leaves the same file or a directory at every path. -/
theorem Relists.content_find? (h : fs.Relists fs') (htree : fs.IsTree) (path : String)
    (below : List String) :
    ((fs.item? path).bind (Item.find? below)).map Item.content? =
      ((fs'.item? path).bind (Item.find? below)).map Item.content? := by
  cases h with
  | absent => rfl
  | @present items items' lookup wd h =>
    have hcontent := (h.content_find? (htree items rfl)).2
    have hplace : place? ⟨some items, lookup, wd⟩ items path =
        place? ⟨some items', lookup, wd⟩ items' path := by
      cases lookup with
      | spelled => rfl
      | walked =>
        unfold place?
        dsimp only
        rw [Item.walk?_congr hcontent]
        rfl
    unfold item?
    dsimp only
    rw [hplace]
    rcases place? ⟨some items', lookup, wd⟩ items' path with - | place
    · rfl
    · rw [Option.bind_some, Option.bind_some, ← Item.find?_append, ← Item.find?_append]
      exact hcontent _

theorem isDirectory_iff {path : String} :
    fs.isDirectory path = true ↔ (fs.item? path).map Item.content? = some none := by
  unfold isDirectory
  rcases fs.item? path with - | (f | items)
  · simp
  · simp [Item.content?]
  · simp [Item.content?]

theorem Relists.isDirectory_eq (h : fs.Relists fs') (htree : fs.IsTree) (path : String) :
    fs.isDirectory path = fs'.isDirectory path := by
  have hsame := h.content_find? htree path []
  have hbind : ∀ o : Option Item, o.bind (Item.find? []) = o := by
    rintro (- | item)
    · rfl
    · rfl
  rw [hbind, hbind] at hsame
  rw [Bool.eq_iff_iff, isDirectory_iff, isDirectory_iff, hsame]

end FileSystem

end Unreferenced
