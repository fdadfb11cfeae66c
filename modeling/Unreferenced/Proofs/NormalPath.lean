/-
Unreferenced/Proofs/NormalPath.lean

Normal paths, and the files that can be found at them.

A normal path starts at the root and has no component that is empty, `.` or `..`.
Its spelling is read back as the path itself (`parse_render`), so a normal
spelling is its own normal form (`IsNormalSpelling.normalizeIn_eq`), and what is
normalised from an absolute directory is spelled normally
(`isNormalSpelling_normalizeIn`).

A file has two normal spellings, with one slash in front and with two, so a file
system has at most twice as many normal spellings of files as it has files.  They
are listed by `FileSystem.spellings` (`mem_spellings`, `length_spellings`).
-/
import Mathlib.Data.List.Basic
import Mathlib.Data.List.Flatten
import Unreferenced.Include.SearchPath

namespace Unreferenced

open Text

/-! ### Cutting a text at slashes -/

namespace Text

theorem splitAt_of_not_mem {sep : Char} {s : List Char} (h : sep ∉ s) : splitAt sep s = [s] := by
  induction s with
  | nil => rfl
  | cons c s ih =>
    obtain ⟨hc, hs⟩ := List.ne_and_not_mem_of_not_mem_cons h
    rw [splitAt, if_neg (Ne.symm hc), ih hs]

theorem splitAt_append {sep : Char} {piece : List Char} (h : sep ∉ piece) (rest : List Char) :
    splitAt sep (piece ++ sep :: rest) = piece :: splitAt sep rest := by
  induction piece with
  | nil => simp [splitAt]
  | cons c piece ih =>
    obtain ⟨hc, hpiece⟩ := List.ne_and_not_mem_of_not_mem_cons h
    rw [List.cons_append, splitAt, if_neg (Ne.symm hc), ih hpiece]

theorem not_mem_of_mem_splitAt {sep : Char} {s piece : List Char} (h : piece ∈ splitAt sep s) :
    sep ∉ piece := by
  induction s generalizing piece with
  | nil =>
    rw [List.mem_singleton.1 h]
    exact List.not_mem_nil
  | cons c s ih =>
    rw [splitAt] at h
    split at h
    · rcases List.mem_cons.1 h with rfl | h
      · exact List.not_mem_nil
      · exact ih h
    · next hc =>
      split at h
      · next hnil => exact absurd hnil (splitAt_ne_nil sep s)
      · next first pieces hcons =>
        rw [hcons] at ih
        rcases List.mem_cons.1 h with rfl | h
        · rw [List.mem_cons, not_or]
          exact ⟨Ne.symm hc, ih List.mem_cons_self⟩
        · exact ih (List.mem_cons_of_mem first h)

end Text

/-- The number of slashes that an anchor is written with. -/
def Anchor.slashes : Anchor → Nat
  | .relative => 0
  | .root => 1
  | .doubleRoot => 2

theorem Anchor.toList_text (a : Anchor) : a.text.toList = List.replicate a.slashes '/' := by
  cases a with
  | relative => rfl
  | root => rfl
  | doubleRoot => rfl

theorem Anchor.ofSlashes_slashes (a : Anchor) : ofSlashes a.slashes = a := by
  cases a with
  | relative => rfl
  | root => rfl
  | doubleRoot => rfl

theorem Anchor.slashes_pos {a : Anchor} (h : a ≠ .relative) : 0 < a.slashes := by
  cases a with
  | relative => exact absurd rfl h
  | root => exact Nat.one_pos
  | doubleRoot => exact Nat.two_pos

theorem Anchor.ofSlashes_ne_relative {n : Nat} (h : 0 < n) : ofSlashes n ≠ .relative := by
  unfold ofSlashes
  split
  · exact absurd h (Nat.lt_irrefl 0)
  · nofun
  · nofun

namespace Path

/-! ### Components -/

/-- What reading a path keeps: a component that is neither empty nor a single dot. -/
structure IsComponent (part : String) : Prop where
  ne_empty : part ≠ ""
  ne_dot : part ≠ "."
  no_slash : '/' ∉ part.toList

theorem IsComponent.toList_ne_nil {part : String} (h : IsComponent part) : part.toList ≠ [] :=
  fun hnil => h.ne_empty (String.toList_inj.1 hnil)

/-- A path that starts at the root and has no `..`. -/
structure IsNormal (p : Path) : Prop where
  anchored : p.anchor ≠ .relative
  isComponent : ∀ part ∈ p.parts, IsComponent part
  ne_dots : ".." ∉ p.parts

theorem isComponent_of_mem_parse {s part : String} (h : part ∈ (parse s).parts) :
    IsComponent part := by
  obtain ⟨hpiece, hkept⟩ := List.mem_filter.1 h
  simp only [Bool.and_eq_true, bne_iff_ne] at hkept
  obtain ⟨piece, hmem, rfl⟩ := List.mem_map.1 hpiece
  refine ⟨hkept.1, hkept.2, ?_⟩
  rw [String.toList_ofList]
  exact not_mem_of_mem_splitAt hmem

theorem isComponent_of_mem_under {base p : Path} (hbase : ∀ part ∈ base.parts, IsComponent part)
    (hp : ∀ part ∈ p.parts, IsComponent part) : ∀ part ∈ (under base p).parts, IsComponent part := by
  intro part hpart
  unfold under at hpart
  split at hpart
  · rcases List.mem_append.1 hpart with hpart | hpart
    · exact hbase part hpart
    · exact hp part hpart
  · exact hp part hpart

/-- A path with an anchor is seen from everywhere the same. -/
theorem under_of_anchor_ne {base p : Path} (h : p.anchor ≠ .relative) : under base p = p := by
  unfold under
  split
  · next hrelative => exact absurd hrelative h
  · rfl

theorem anchor_under_ne {base : Path} (hbase : base.anchor ≠ .relative) (p : Path) :
    (under base p).anchor ≠ .relative := by
  unfold under
  split
  · exact hbase
  · next hne => exact hne

/-! ### Taking `..` away -/

/-- From the root, nothing is kept but components that were there, and no `..`. -/
theorem mem_climb_root {done parts : List String} (hdone : ".." ∉ done) :
    (∀ part ∈ climb true done parts, part ∈ done ∨ part ∈ parts) ∧ ".." ∉ climb true done parts := by
  induction parts generalizing done with
  | nil =>
    rw [climb]
    exact ⟨fun part hpart => .inl (List.mem_reverse.1 hpart), fun h => hdone (List.mem_reverse.1 h)⟩
  | cons next parts ih =>
    unfold climb
    split
    · -- `..` takes the last component away, and stays at the root if there is none
      rcases done with - | ⟨last, rest⟩
      · obtain ⟨hmem, hdots⟩ := @ih [] List.not_mem_nil
        exact ⟨fun part hpart => (hmem part hpart).imp id (List.mem_cons_of_mem next), hdots⟩
      · obtain ⟨hlast, hrest⟩ := List.ne_and_not_mem_of_not_mem_cons hdone
        obtain ⟨hmem, hdots⟩ := ih hrest
        dsimp only
        rw [if_neg (Ne.symm hlast)]
        exact ⟨fun part hpart =>
          (hmem part hpart).imp (List.mem_cons_of_mem last) (List.mem_cons_of_mem next), hdots⟩
    · next hne =>
      obtain ⟨hmem, hdots⟩ := ih (List.not_mem_cons_of_ne_of_not_mem (Ne.symm hne) hdone)
      refine ⟨fun part hpart => ?_, hdots⟩
      rcases hmem part hpart with hpart | hpart
      · rcases List.mem_cons.1 hpart with rfl | hpart
        · exact .inr List.mem_cons_self
        · exact .inl hpart
      · exact .inr (List.mem_cons_of_mem next hpart)

theorem climb_of_not_mem (isAbsolute : Bool) {done parts : List String} (h : ".." ∉ parts) :
    climb isAbsolute done parts = done.reverse ++ parts := by
  induction parts generalizing done with
  | nil => rw [climb, List.append_nil]
  | cons next parts ih =>
    obtain ⟨hnext, hparts⟩ := List.ne_and_not_mem_of_not_mem_cons h
    unfold climb
    rw [if_neg (Ne.symm hnext), ih hparts, List.reverse_cons, List.append_assoc]
    rfl

theorem isNormal_normal {p : Path} (hanchor : p.anchor ≠ .relative)
    (hparts : ∀ part ∈ p.parts, IsComponent part) : p.normal.IsNormal := by
  have habsolute : (p.anchor != .relative) = true := bne_iff_ne.2 hanchor
  unfold normal
  rw [habsolute]
  obtain ⟨hmem, hdots⟩ := @mem_climb_root [] p.parts List.not_mem_nil
  exact ⟨hanchor, fun part hpart => hparts part ((hmem part hpart).resolve_left List.not_mem_nil),
    hdots⟩

theorem IsNormal.normal_eq {p : Path} (h : p.IsNormal) : p.normal = p := by
  unfold normal
  rw [climb_of_not_mem _ h.ne_dots, List.reverse_nil, List.nil_append]

/-! ### Spelling a path and reading it -/

/-- Components, with a slash before each of them. -/
def slashed (parts : List String) : List Char :=
  parts.flatMap fun part => '/' :: part.toList

theorem toList_intercalate (part : String) (parts : List String) :
    ("/".intercalate (part :: parts)).toList = part.toList ++ slashed parts := by
  induction parts generalizing part with
  | nil => simp [slashed]
  | cons next parts ih =>
    rw [String.intercalate_cons_cons, String.toList_append, String.toList_append, ih]
    simp [slashed]

theorem splitAt_slashed {part : String} {parts : List String}
    (h : ∀ part' ∈ part :: parts, '/' ∉ part'.toList) :
    splitAt '/' (part.toList ++ slashed parts) = (part :: parts).map String.toList := by
  induction parts generalizing part with
  | nil =>
    rw [slashed, List.flatMap_nil, List.append_nil]
    exact splitAt_of_not_mem (h part List.mem_cons_self)
  | cons next parts ih =>
    obtain ⟨hpart, hrest⟩ := List.forall_mem_cons.1 h
    show splitAt '/' (part.toList ++ '/' :: (next.toList ++ slashed parts)) = _
    rw [splitAt_append hpart, ih hrest]
    rfl

theorem splitAt_replicate (n : Nat) (s : List Char) :
    splitAt '/' (List.replicate n '/' ++ s) = List.replicate n [] ++ splitAt '/' s := by
  induction n with
  | zero => rfl
  | succ n ih =>
    rw [List.replicate_succ, List.cons_append, splitAt, if_pos rfl, ih]
    rfl

/-- A spelling that starts with some slashes has its components after them. -/
theorem parse_ofSlashes {s : String} {n : Nat} {rest : List Char}
    (hs : s.toList = List.replicate n '/' ++ rest) (hrest : rest.head? ≠ some '/') :
    parse s = ⟨.ofSlashes n,
      ((splitAt '/' rest).map String.ofList).filter fun part => part != "" && part != "."⟩ := by
  have hcount : ((List.replicate n '/' ++ rest).takeWhile (· == '/')).length = n := by
    rw [List.takeWhile_append_of_pos fun c hc => by simp [List.eq_of_mem_replicate hc]]
    rcases rest with - | ⟨c, rest⟩
    · simp
    · have hc : ¬(c == '/') = true := fun hc => hrest (congrArg some (beq_iff_eq.1 hc))
      rw [List.takeWhile_cons, if_neg hc, List.append_nil, List.length_replicate]
  have hempty : ((List.replicate n ([] : List Char)).map String.ofList).filter
      (fun part => part != "" && part != ".") = [] := by
    rw [List.filter_eq_nil_iff]
    intro part hpart
    rw [List.map_replicate] at hpart
    rw [List.eq_of_mem_replicate hpart]
    decide
  unfold parse pieces
  rw [hs, hcount, splitAt_replicate, List.map_append, List.filter_append, hempty, List.nil_append]

/-- A path with an anchor is spelled with the slashes of its anchor first. -/
theorem toList_render {p : Path} (h : p.anchor ≠ .relative) :
    (render p).toList =
      List.replicate p.anchor.slashes '/' ++ ("/".intercalate p.parts).toList := by
  have hslashes : 0 < p.anchor.slashes := Anchor.slashes_pos h
  have hne : (p.anchor.text ++ "/".intercalate p.parts == "") = false := by
    rw [beq_eq_false_iff_ne]
    intro hempty
    have hlength := congrArg (List.length ∘ String.toList) hempty
    simp [Anchor.toList_text] at hlength
    omega
  unfold render
  dsimp only
  rw [hne, if_neg Bool.false_ne_true, String.toList_append, Anchor.toList_text]

/-- Components do not start with a slash. -/
theorem head?_intercalate_ne {parts : List String} (h : ∀ part ∈ parts, IsComponent part) :
    ("/".intercalate parts).toList.head? ≠ some '/' := by
  rcases parts with - | ⟨part, parts⟩
  · simp
  · have hpart := h part List.mem_cons_self
    obtain ⟨c, chars, hcons⟩ := List.exists_cons_of_ne_nil hpart.toList_ne_nil
    rw [toList_intercalate, hcons]
    intro hc
    apply hpart.no_slash
    rw [hcons, Option.some.inj hc]
    exact List.mem_cons_self

/-- A normal path is read back from its spelling. -/
theorem parse_render {p : Path} (h : p.IsNormal) : parse (render p) = p := by
  have htext := toList_render h.anchored
  obtain ⟨anchor, parts⟩ := p
  have hhead := head?_intercalate_ne h.isComponent
  rcases parts with - | ⟨part, parts⟩
  · have hnone : ((splitAt '/' ("/".intercalate []).toList).map String.ofList).filter
        (fun part => part != "" && part != ".") = [] := by
      decide
    rw [parse_ofSlashes htext hhead, Anchor.ofSlashes_slashes, hnone]
  · have hslash : ∀ part' ∈ part :: parts, '/' ∉ part'.toList := fun part' hpart' =>
      (h.isComponent part' hpart').no_slash
    rw [toList_intercalate] at htext hhead
    rw [parse_ofSlashes htext hhead, Anchor.ofSlashes_slashes, splitAt_slashed hslash, List.map_map]
    have hparts : (part :: parts).map (String.ofList ∘ String.toList) = part :: parts := by
      simp [Function.comp_def]
    have hkept : (part :: parts).filter (fun part => part != "" && part != ".") = part :: parts := by
      rw [List.filter_eq_self]
      intro part' hpart'
      have hcomponent := h.isComponent part' hpart'
      simp [hcomponent.ne_empty, hcomponent.ne_dot]
    rw [hparts, hkept]

/-! ### Absolute and normal spellings -/

/-- The spelling is that of a normal path. -/
def IsNormalSpelling (s : String) : Prop :=
  ∃ p : Path, p.IsNormal ∧ render p = s

theorem IsNormalSpelling.isNormal_parse {s : String} (h : IsNormalSpelling s) :
    (parse s).IsNormal := by
  obtain ⟨p, hp, rfl⟩ := h
  rw [parse_render hp]
  exact hp

theorem IsNormalSpelling.render_parse {s : String} (h : IsNormalSpelling s) :
    render (parse s) = s := by
  obtain ⟨p, hp, rfl⟩ := h
  rw [parse_render hp]

theorem IsNormalSpelling.isAbsolute {s : String} (h : IsNormalSpelling s) : IsAbsolute s :=
  h.isNormal_parse.anchored

/-- What is taken relative to an absolute directory is spelled normally. -/
theorem isNormalSpelling_under {base : Path} (hanchor : base.anchor ≠ .relative)
    (hbase : ∀ part ∈ base.parts, IsComponent part) (path : String) :
    IsNormalSpelling (render (normal (under base (parse path)))) :=
  ⟨_, isNormal_normal (anchor_under_ne hanchor _)
    (isComponent_of_mem_under hbase fun _ => isComponent_of_mem_parse), rfl⟩

theorem isNormalSpelling_normalizeIn {base : String} (h : IsAbsolute base) (path : String) :
    IsNormalSpelling (normalizeIn path base) :=
  isNormalSpelling_under h (fun _ => isComponent_of_mem_parse) path

theorem isNormalSpelling_absolute (wd : WorkingDirectory) (path : String) :
    IsNormalSpelling (absolute wd path) :=
  isNormalSpelling_normalizeIn wd.isAbsolute path

/-- A normal spelling is its own normal form, wherever it is taken from. -/
theorem IsNormalSpelling.normalizeIn_eq {s : String} (h : IsNormalSpelling s) (base : String) :
    normalizeIn s base = s := by
  have hnormal := h.isNormal_parse
  rw [normalizeIn, under_of_anchor_ne hnormal.anchored, hnormal.normal_eq, h.render_parse]

theorem anchor_parse_ne_of_cons {s : String} {rest : List Char} (h : s.toList = '/' :: rest) :
    (parse s).anchor ≠ .relative := by
  apply Anchor.ofSlashes_ne_relative
  rw [h, List.takeWhile_cons_of_pos (by decide), List.length_cons]
  exact Nat.succ_pos _

/-- An absolute spelling starts with a slash. -/
theorem IsAbsolute.exists_cons {s : String} (h : IsAbsolute s) : ∃ rest, s.toList = '/' :: rest := by
  rcases hs : s.toList with - | ⟨c, rest⟩
  · refine absurd ?_ h
    unfold parse
    rw [hs]
    rfl
  · by_cases hc : c = '/'
    · exact ⟨rest, by rw [hc]⟩
    · refine absurd ?_ h
      unfold parse
      rw [hs, List.takeWhile_cons_of_neg (by simpa using hc)]
      rfl

/-- The directory of an absolute file is absolute. -/
theorem anchor_directoryOf_ne {file : String} (h : IsAbsolute file) :
    (directoryOf file).anchor ≠ .relative := by
  obtain ⟨rest, hrest⟩ := h.exists_cons
  unfold directoryOf
  -- the first slash is at the latest where dropping from behind ends
  obtain ⟨front, hfront⟩ : ∃ front, (file.toList.reverse.dropWhile (· != '/')) = front ++ ['/'] := by
    rw [hrest, List.reverse_cons, List.dropWhile_append]
    split
    · exact ⟨[], rfl⟩
    · exact ⟨_, rfl⟩
  refine @anchor_parse_ne_of_cons _ front.reverse ?_
  rw [String.toList_ofList, hfront, List.reverse_append]
  rfl

end Path

/-! ### The files of a file system -/

namespace FileSystem

mutual

/-- The paths of the files in an item. -/
def filePaths : Item → List (List String)
  | .file _ => [[]]
  | .directory items => filePathsAll items

/-- The paths of the files in the items of a directory. -/
def filePathsAll : List (String × Item) → List (List String)
  | [] => []
  | (name, item) :: rest => (filePaths item).map (name :: ·) ++ filePathsAll rest

end

theorem length_filePathsAll (items : List (String × Item)) :
    (filePathsAll items).length = fileCountAll items := by
  match items with
  | [] => rfl
  | (name, .file f) :: rest =>
    rw [filePathsAll, fileCountAll, List.length_append, List.length_map, length_filePathsAll rest]
    rfl
  | (name, .directory inner) :: rest =>
    rw [filePathsAll, fileCountAll, List.length_append, List.length_map, filePaths, fileCount,
      length_filePathsAll inner, length_filePathsAll rest]

theorem mem_filePathsAll {items : List (String × Item)} {name : String} {item : Item}
    {path : List String} (hitem : (name, item) ∈ items) (hpath : path ∈ filePaths item) :
    name :: path ∈ filePathsAll items := by
  induction items with
  | nil => cases hitem
  | cons entry rest ih =>
    obtain ⟨name', item'⟩ := entry
    rw [filePathsAll, List.mem_append]
    rcases List.mem_cons.1 hitem with heq | hitem
    · cases heq
      exact .inl (List.mem_map_of_mem hpath)
    · exact .inr (ih hitem)

/-- A file is found at one of the paths only. -/
theorem mem_filePaths {path : List String} {item : Item} {f : StoredFile}
    (h : item.find? path = some (.file f)) : path ∈ filePaths item := by
  induction path generalizing item with
  | nil =>
    rw [Item.find?] at h
    cases h
    rw [filePaths]
    exact List.mem_singleton_self []
  | cons name rest ih =>
    cases item with
    | file _ =>
      rw [Item.find?] at h
      cases h
    | directory items =>
      rw [Item.find?] at h
      split at h
      · next item hlookup =>
        obtain ⟨front, back, hitems, -⟩ := List.lookup_eq_some_iff.1 hlookup
        rw [filePaths]
        refine mem_filePathsAll ?_ (ih h)
        rw [hitems]
        exact List.mem_append_right front List.mem_cons_self
      · cases h

variable (fs : FileSystem)

/-- The normal spellings of all files: with one slash in front, and with two. -/
def spellings : List String :=
  match fs.root with
  | some items => (filePathsAll items).flatMap fun parts =>
      [Path.render ⟨.root, parts⟩, Path.render ⟨.doubleRoot, parts⟩]
  | none => []

theorem length_spellings : fs.spellings.length = 2 * fs.size := by
  unfold spellings size
  cases fs.root with
  | none => rfl
  | some items =>
    dsimp only
    rw [List.length_flatMap, ← length_filePathsAll]
    simp [Nat.mul_comm]

/-- Components without `..` lead straight on. -/
theorem walk?_eq_some (item : Item) (place : List String) {parts : List String}
    (h : ".." ∉ parts) : item.walk? place parts = some (place ++ parts) := by
  induction parts generalizing place with
  | nil => rw [Item.walk?, List.append_nil]
  | cons name rest ih =>
    have hname : name ≠ ".." := fun hname => h (hname ▸ List.mem_cons_self)
    have hrest : ".." ∉ rest := fun hrest => h (List.mem_cons_of_mem _ hrest)
    rw [Item.walk?, if_neg hname, ih _ hrest, List.append_assoc]
    rfl

/-- A path that is spelled normally leads where its components say, if it leads anywhere. -/
theorem eq_parts_of_place? {items : List (String × Item)} {path : String} {place : List String}
    (hpath : Path.IsNormalSpelling path) (h : fs.place? items path = some place) :
    place = (Path.parse path).parts := by
  have hnormal := hpath.isNormal_parse
  unfold place? at h
  split at h
  · rw [Path.absolute, hpath.normalizeIn_eq] at h
    dsimp only at h
    split at h
    · exact (Option.some.inj h).symm
    · cases h
  · split at h
    · cases h
    · dsimp only at h
      rw [Path.under_of_anchor_ne hnormal.anchored, walk?_eq_some _ _ hnormal.ne_dots] at h
      exact (Option.some.inj h).symm

/-- A file with a normal spelling is listed. -/
theorem mem_spellings {path : String} (hpath : Path.IsNormalSpelling path)
    (hfile : fs.isFile path = true) : path ∈ fs.spellings := by
  unfold isFile item? at hfile
  unfold spellings
  cases hroot : fs.root with
  | none =>
    rw [hroot] at hfile
    cases hfile
  | some items =>
    rw [hroot] at hfile
    dsimp only at hfile ⊢
    split at hfile
    · next f hitem =>
      obtain ⟨place, hplace, hfind⟩ := Option.bind_eq_some_iff.1 hitem
      rw [fs.eq_parts_of_place? hpath hplace] at hfind
      have hmem := mem_filePaths hfind
      rw [filePaths] at hmem
      refine List.mem_flatMap.2 ⟨(Path.parse path).parts, hmem, ?_⟩
      -- the anchor of a normal spelling is one slash or two
      have hrender := hpath.render_parse
      have hanchored := hpath.isNormal_parse.anchored
      rcases hp : Path.parse path with ⟨anchor, parts⟩
      rw [hp] at hrender hanchored
      cases anchor with
      | relative => exact absurd rfl hanchored
      | root => exact hrender ▸ List.mem_cons_self
      | doubleRoot => exact hrender ▸ List.mem_cons_of_mem _ List.mem_cons_self
    · cases hfile

theorem isFile_of_read {path : String} {f : StoredFile} (h : fs.read path = .ok f) :
    fs.isFile path = true := by
  unfold read at h
  unfold isFile
  split at h
  · cases h
  · split at h
    · cases h
    · cases h
    · next hitem => rw [hitem]

end FileSystem

/-! ### Search paths of commands -/

namespace SearchPath

/-- All directories are absolute. -/
structure IsAbsolute (p : SearchPath) : Prop where
  quoteDirs : ∀ dir ∈ p.quoteDirs, Path.IsAbsolute dir
  includeDirs : ∀ dir ∈ p.includeDirs, Path.IsAbsolute dir
  systemDirs : ∀ dir ∈ p.systemDirs, Path.IsAbsolute dir

/-- What an include directive stands for is a file, and spelled normally. -/
theorem IsAbsolute.isNormalSpelling_resolve? {p : SearchPath} (h : p.IsAbsolute) {fs : FileSystem}
    {d : IncludeDirective} {file target : String} (hfile : Path.IsAbsolute file)
    (htarget : p.resolve? fs d file = some target) :
    Path.IsNormalSpelling target ∧ fs.isFile target = true := by
  have hdirs : ∀ dir ∈ p.directories d file, dir.anchor ≠ .relative ∧
      ∀ part ∈ dir.parts, Path.IsComponent part := by
    have hparse : ∀ {dirs : List String}, (∀ dir ∈ dirs, Path.IsAbsolute dir) →
        ∀ dir ∈ dirs.map Path.parse, dir.anchor ≠ .relative ∧
          ∀ part ∈ dir.parts, Path.IsComponent part := by
      intro dirs habsolute dir hdir
      obtain ⟨text, htext, rfl⟩ := List.mem_map.1 hdir
      exact ⟨habsolute text htext, fun _ => Path.isComponent_of_mem_parse⟩
    intro dir hdir
    rcases List.mem_append.1 hdir with hdir | hdir
    · split at hdir
      · cases hdir
      · rcases List.mem_cons.1 hdir with rfl | hdir
        · exact ⟨Path.anchor_directoryOf_ne hfile, fun _ => Path.isComponent_of_mem_parse⟩
        · exact hparse h.quoteDirs dir hdir
    · exact hparse (List.forall_mem_append.2 ⟨h.includeDirs, h.systemDirs⟩) dir hdir
  refine ⟨?_, List.find?_some htarget⟩
  obtain ⟨dir, hdir, rfl⟩ := List.mem_map.1 (List.mem_of_find?_eq_some htarget)
  obtain ⟨hanchor, hparts⟩ := hdirs dir hdir
  exact Path.isNormalSpelling_under hanchor hparts d.spelling

end SearchPath

namespace CompileCommand

/-- All paths of the command are absolute, and its file is spelled normally. -/
structure IsAbsolute (c : CompileCommand) : Prop where
  file : Path.IsNormalSpelling c.file
  directory : Path.IsAbsolute c.directory
  quoteDirs : ∀ dir ∈ c.quoteDirs, Path.IsAbsolute dir
  includeDirs : ∀ dir ∈ c.includeDirs, Path.IsAbsolute dir
  systemDirs : ∀ dir ∈ c.systemDirs, Path.IsAbsolute dir

theorem IsAbsolute.addDirectory {c : CompileCommand} (h : c.IsAbsolute) (list : SearchList)
    (value : String) : (c.addDirectory list value).IsAbsolute := by
  have hpath : Path.IsAbsolute (Path.normalizeIn value c.directory) :=
    (Path.isNormalSpelling_normalizeIn h.directory value).isAbsolute
  have hconcat : ∀ {dirs : List String}, (∀ dir ∈ dirs, Path.IsAbsolute dir) →
      ∀ dir ∈ dirs ++ [Path.normalizeIn value c.directory], Path.IsAbsolute dir := fun hdirs =>
    List.forall_mem_append.2 ⟨hdirs, List.forall_mem_singleton.2 hpath⟩
  rcases list with - | - | -
  · exact ⟨h.file, h.directory, hconcat h.quoteDirs, h.includeDirs, h.systemDirs⟩
  · exact ⟨h.file, h.directory, h.quoteDirs, hconcat h.includeDirs, h.systemDirs⟩
  · exact ⟨h.file, h.directory, h.quoteDirs, h.includeDirs, hconcat h.systemDirs⟩

theorem IsAbsolute.selectLanguage {c : CompileCommand} (h : c.IsAbsolute) (value : String) :
    (c.selectLanguage value).IsAbsolute :=
  ⟨h.file, h.directory, h.quoteDirs, h.includeDirs, h.systemDirs⟩

theorem IsAbsolute.readArguments {c : CompileCommand} (h : c.IsAbsolute) (arguments : List String) :
    (c.readArguments arguments).IsAbsolute := by
  fun_induction CompileCommand.readArguments c arguments with
  | case1 c => exact h
  | case2 c => exact h
  | case3 c value rest ih => exact ih (h.selectLanguage value)
  | case4 c argument rest _ value _ ih => exact ih (h.selectLanguage value)
  | case5 c argument rest _ _ _ ih => exact ih h
  | case6 c argument rest _ _ list value _ ih => exact ih (h.addDirectory list value)
  | case7 c argument _ _ list _ => exact h
  | case8 c argument _ _ list _ value rest ih => exact ih (h.addDirectory list value)

theorem isAbsolute_ofArguments (wd : WorkingDirectory) (file directory : String)
    (arguments : List String) : (ofArguments wd file directory arguments).IsAbsolute := by
  have hdirectory : Path.IsAbsolute (Path.absolute wd directory) :=
    (Path.isNormalSpelling_absolute wd directory).isAbsolute
  have hfile := Path.isNormalSpelling_normalizeIn hdirectory file
  unfold ofArguments
  generalize Path.absolute wd directory = base at hdirectory hfile ⊢
  apply IsAbsolute.readArguments
  exact ⟨hfile, hdirectory, List.forall_mem_nil _, List.forall_mem_nil _, List.forall_mem_nil _⟩

end CompileCommand

theorem SearchPath.mem_addDirectory {dirs : List String} {dir d : String}
    (h : d ∈ addDirectory dirs dir) : d ∈ dirs ∨ d = dir := by
  unfold addDirectory at h
  split at h
  · exact .inl h
  · rcases List.mem_append.1 h with h | h
    · exact .inl h
    · exact .inr (List.mem_singleton.1 h)

/-- The search path of a command with absolute paths is absolute. -/
theorem CompileCommand.IsAbsolute.ofCommand {c : CompileCommand} (h : c.IsAbsolute)
    (wd : WorkingDirectory) (extra : List String) :
    (SearchPath.ofCommand wd c extra).IsAbsolute := by
  have hfoldl : ∀ {dirs : List String} (texts : List String), (∀ dir ∈ dirs, Path.IsAbsolute dir) →
      ∀ dir ∈ (texts.map (Path.absolute wd)).foldl SearchPath.addDirectory dirs,
        Path.IsAbsolute dir := by
    intro dirs texts hdirs
    induction texts generalizing dirs with
    | nil => exact hdirs
    | cons text texts ih =>
      refine ih fun dir hdir => ?_
      rcases SearchPath.mem_addDirectory hdir with hdir | rfl
      · exact hdirs dir hdir
      · exact (Path.isNormalSpelling_absolute wd text).isAbsolute
  exact ⟨h.quoteDirs, h.includeDirs, hfoldl _ h.systemDirs⟩

end Unreferenced
