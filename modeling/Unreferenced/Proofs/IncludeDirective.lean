/-
Unreferenced/Proofs/IncludeDirective.lean

Which directives stand in a syntax tree, and which files they stand for.

A directive is a node of its kind that is not inside another directive
(`IsDirectiveIn`).  It has a path, the first child that fills this field, and the
text of the path is a name between angle brackets or between quotation marks, with
blanks around it (`Spells`).  These are the directives that are found
(`mem_includeDirectives_iff`), whatever stands around them.  A directive finds the
first file of its name over the directories it is looked for in (`Finds`,
`resolve?_eq_some_iff`).
-/
import Mathlib.Logic.Relation
import Unreferenced.Include.Graph
import Unreferenced.Proofs.BlankRun

namespace Unreferenced

open Relation

/-! ### Texts with blanks around them -/

namespace Text

/-- A text is `core` with blanks around it, and `core` has no blanks at its ends. -/
structure Encloses (s core : List Char) : Prop where
  around : ∃ front back, s = front ++ (core ++ back) ∧ front.all isBlank = true ∧
    back.all isBlank = true
  head : core.head?.all (fun c => !isBlank c) = true
  last : core.getLast?.all (fun c => !isBlank c) = true

theorem dropTrailingBlanks_eq_self {s : List Char}
    (h : s.getLast?.all (fun c => !isBlank c) = true) : dropTrailingBlanks s = s := by
  rw [dropTrailingBlanks_eq_rdropWhile, List.rdropWhile_eq_self_iff]
  intro hne
  rw [List.getLast?_eq_some_getLast hne] at h
  simpa using h

theorem getLast?_dropTrailingBlanks (s : List Char) :
    (dropTrailingBlanks s).getLast?.all (fun c => !isBlank c) = true := by
  rw [dropTrailingBlanks_eq_rdropWhile, List.rdropWhile, List.getLast?_reverse]
  exact head?_skipBlanks s.reverse

/-- Trimming leaves what the blanks enclose. -/
theorem trim_eq_iff {s core : List Char} : trim s = core ↔ Encloses s core := by
  constructor
  · rintro rfl
    obtain ⟨front, hfront, hs⟩ := exists_run_skipBlanks s
    obtain ⟨back, hback, hskip⟩ := exists_run_dropTrailingBlanks (skipBlanks s)
    refine ⟨⟨front, back, hs.trans (congrArg (front ++ ·) hskip), hfront, hback⟩, ?_, ?_⟩
    · rw [trim, ← skipBlanks_dropTrailingBlanks]
      exact head?_skipBlanks _
    · exact getLast?_dropTrailingBlanks _
  · rintro ⟨⟨front, back, rfl, hfront, hback⟩, hhead, hlast⟩
    rw [trim_run_append hfront, trim_append_run hback, trim, skipBlanks_eq_self hhead,
      dropTrailingBlanks_eq_self hlast]

/-- A text with given ends is one character that is both, or something between them. -/
theorem eq_singleton_or_between {c d : Char} {s : List Char} (hstart : [c].isPrefixOf s = true)
    (hstop : [d].isSuffixOf s = true) :
    c = d ∧ s = [c] ∨ s = c :: (s.tail.dropLast ++ [d]) := by
  obtain ⟨t, rfl⟩ := List.isPrefixOf_iff_prefix.1 hstart
  obtain ⟨front, hfront⟩ := List.isSuffixOf_iff_suffix.1 hstop
  rcases front with - | ⟨x, front⟩
  · obtain ⟨rfl, rfl⟩ := List.cons_eq_cons.1 hfront
    exact .inl ⟨rfl, rfl⟩
  · obtain ⟨rfl, rfl⟩ := List.cons_eq_cons.1 hfront
    right
    show x :: (front ++ [d]) = x :: ((front ++ [d]).dropLast ++ [d])
    rw [List.dropLast_concat]

end Text

open Text

/-! ### Spellings -/

namespace IncludeDirective

/-- The text of a path stands for a directive.  Within blanks it is a name between angle brackets,
which may have blanks around it again, or anything between quotation marks.  A single quotation mark
counts as both of them. -/
inductive Spells (text : String) : IncludeDirective → Prop
  | angled {inner name : List Char} : Encloses text.toList ('<' :: (inner ++ ['>'])) →
      Encloses inner name → Spells text ⟨String.ofList name, true⟩
  | quoted {inner : List Char} : Encloses text.toList ('"' :: (inner ++ ['"'])) →
      Spells text ⟨String.ofList inner, false⟩
  | mark : Encloses text.toList ['"'] → Spells text ⟨"", false⟩

theorem spells_of_ofText? {text : String} {d : IncludeDirective} (h : ofText? text = some d) :
    Spells text d := by
  unfold ofText? beginsWith endsWith dropEnds at h
  simp only [String.toList_ofList, Bool.and_eq_true] at h
  have htrim : Encloses text.toList (trim text.toList) := trim_eq_iff.1 rfl
  generalize trim text.toList = trimmed at h htrim
  split at h
  · next hends =>
    cases h
    rcases eq_singleton_or_between hends.1 hends.2 with ⟨hsame, -⟩ | hbetween
    · exact absurd hsame (by decide)
    · rw [hbetween] at htrim
      exact .angled htrim (trim_eq_iff.1 rfl)
  · split at h
    · next hends =>
      cases h
      rcases eq_singleton_or_between hends.1 hends.2 with ⟨-, rfl⟩ | hbetween
      · exact .mark htrim
      · rw [hbetween] at htrim
        exact .quoted htrim
    · cases h

theorem ofText?_of_spells {text : String} {d : IncludeDirective} (h : Spells text d) :
    ofText? text = some d := by
  unfold ofText? beginsWith endsWith dropEnds
  cases h with
  | @angled inner name hinner hname =>
    rw [trim_eq_iff.2 hinner, ← trim_eq_iff.2 hname]
    simp
  | @quoted inner hinner =>
    rw [trim_eq_iff.2 hinner]
    simp
  | mark hmark =>
    rw [trim_eq_iff.2 hmark]
    rfl

theorem ofText?_eq_some_iff {text : String} {d : IncludeDirective} :
    ofText? text = some d ↔ Spells text d :=
  ⟨spells_of_ofText?, ofText?_of_spells⟩

end IncludeDirective

/-! ### Directives of a tree -/

namespace Node

/-- The node is a directive. -/
def IsDirective (n : Node) : Prop :=
  n.kind = "preproc_include"

/-- A directive in a tree that is not inside another one, in whatever branch it stands. -/
def IsDirectiveIn (root n : Node) : Prop :=
  ReflTransGen (fun a b => ¬a.IsDirective ∧ b ∈ a.children) root n ∧ n.IsDirective

/-- The node has a path, the first of its children to fill that field, and this stands for a
directive. -/
def Writes (n : Node) (d : IncludeDirective) : Prop :=
  ∃ before path after, n.children = before ++ path :: after ∧ path.field = "path" ∧
    (∀ c ∈ before, c.field ≠ "path") ∧ IncludeDirective.Spells path.text d

/-- A directive stands somewhere in the tree. -/
def HasDirective (root : Node) (d : IncludeDirective) : Prop :=
  ∃ n, IsDirectiveIn root n ∧ n.Writes d

theorem includeDirectivesAll_eq (ns : List Node) :
    includeDirectivesAll ns = ns.flatMap includeDirectives := by
  induction ns with
  | nil => rfl
  | cons n ns ih => rw [includeDirectivesAll, ih, List.flatMap_cons]

theorem mem_includeDirectives_of_isDirective {n : Node} (h : n.IsDirective) {d : IncludeDirective} :
    d ∈ n.includeDirectives ↔ n.Writes d := by
  have hdirectives : n.includeDirectives =
      ((n.child? "path").bind fun c => IncludeDirective.ofText? c.text).toList := by
    obtain ⟨kind, _, _, _, _, _, _, _, children⟩ := n
    exact if_pos h
  rw [hdirectives, Option.mem_toList, Option.bind_eq_some_iff, child?, Writes]
  constructor
  · rintro ⟨path, hfind, hd⟩
    obtain ⟨hfield, before, after, hchildren, hbefore⟩ := List.find?_eq_some_iff_append.1 hfind
    refine ⟨before, path, after, hchildren, beq_iff_eq.1 hfield, ?_,
      IncludeDirective.ofText?_eq_some_iff.1 hd⟩
    intro c hc
    simpa using hbefore c hc
  · rintro ⟨before, path, after, hchildren, hfield, hbefore, hd⟩
    refine ⟨path,
      List.find?_eq_some_iff_append.2 ⟨beq_iff_eq.2 hfield, before, after, hchildren, ?_⟩,
      IncludeDirective.ofText?_eq_some_iff.2 hd⟩
    intro c hc
    simpa using hbefore c hc

theorem includeDirectives_of_not_isDirective {n : Node} (h : ¬n.IsDirective) :
    n.includeDirectives = n.children.flatMap includeDirectives := by
  obtain ⟨kind, _, _, _, _, _, _, _, children⟩ := n
  exact (if_neg h).trans (includeDirectivesAll_eq children)

theorem IsDirectiveIn.of_child {root c n : Node} (hroot : ¬root.IsDirective)
    (hc : c ∈ root.children) (h : IsDirectiveIn c n) : IsDirectiveIn root n :=
  ⟨.head ⟨hroot, hc⟩ h.1, h.2⟩

/-- What is found in a tree stands in it. -/
theorem hasDirective_of_mem (root : Node) {d : IncludeDirective} (hd : d ∈ root.includeDirectives) :
    root.HasDirective d := by
  by_cases hroot : root.IsDirective
  · exact ⟨root, ⟨.refl, hroot⟩, (mem_includeDirectives_of_isDirective hroot).1 hd⟩
  · rw [includeDirectives_of_not_isDirective hroot] at hd
    obtain ⟨c, hc, hdc⟩ := List.mem_flatMap.1 hd
    have := sizeOf_lt_of_mem_children hc
    obtain ⟨n, hn, hwrites⟩ := hasDirective_of_mem c hdc
    exact ⟨n, hn.of_child hroot hc, hwrites⟩
termination_by sizeOf root

/-- The directives found in a tree are those that stand in it. -/
theorem mem_includeDirectives_iff {root : Node} {d : IncludeDirective} :
    d ∈ root.includeDirectives ↔ root.HasDirective d := by
  refine ⟨hasDirective_of_mem root, ?_⟩
  rintro ⟨n, ⟨hway, hn⟩, hwrites⟩
  -- from the directive up to the root
  induction hway using ReflTransGen.head_induction_on with
  | refl => exact (mem_includeDirectives_of_isDirective hn).2 hwrites
  | head hstep _ ih =>
    rw [includeDirectives_of_not_isDirective hstep.1]
    exact List.mem_flatMap.2 ⟨_, hstep.2, ih⟩

end Node

/-! ### Files of directives -/

namespace SearchPath

/-- The first file of a spelling over some directories. -/
def FindsIn (fs : FileSystem) (spelling : String) (dirs : List Path) (target : String) : Prop :=
  ∃ before dir after, dirs = before ++ dir :: after ∧
    target = (dir.under (Path.parse spelling)).normal.render ∧ fs.isFile target = true ∧
    ∀ other ∈ before, fs.isFile (other.under (Path.parse spelling)).normal.render = false

/-- The file that a directive in a file finds.  A quoted one is looked for beside the file and in
the quote directories first, and then, as one with angle brackets, in the include directories and in
those of the system. -/
inductive Finds (p : SearchPath) (fs : FileSystem) (file : String) :
    IncludeDirective → String → Prop
  | angled {spelling target : String} :
      FindsIn fs spelling ((p.includeDirs ++ p.systemDirs).map Path.parse) target →
      Finds p fs file ⟨spelling, true⟩ target
  | quoted {spelling target : String} :
      FindsIn fs spelling
        (Path.directoryOf file :: (p.quoteDirs ++ p.includeDirs ++ p.systemDirs).map Path.parse)
        target →
      Finds p fs file ⟨spelling, false⟩ target

variable {p : SearchPath} {fs : FileSystem} {file target : String} {d : IncludeDirective}

theorem find?_map_eq_some_iff {spelling : String} {dirs : List Path} :
    (dirs.map fun dir => (dir.under (Path.parse spelling)).normal.render).find? fs.isFile =
      some target ↔ FindsIn fs spelling dirs target := by
  rw [List.find?_map, Option.map_eq_some_iff]
  constructor
  · rintro ⟨dir, hfind, rfl⟩
    obtain ⟨hfile, before, after, rfl, hbefore⟩ := List.find?_eq_some_iff_append.1 hfind
    exact ⟨before, dir, after, rfl, rfl, hfile, fun other h => by simpa using hbefore other h⟩
  · rintro ⟨before, dir, after, rfl, rfl, hfile, hbefore⟩
    refine ⟨dir, List.find?_eq_some_iff_append.2 ⟨hfile, before, after, rfl, ?_⟩, rfl⟩
    exact fun other h => by simpa using hbefore other h

theorem resolve?_eq_some_iff : p.resolve? fs d file = some target ↔ p.Finds fs file d target := by
  obtain ⟨spelling, angled⟩ := d
  unfold resolve? directories
  rw [find?_map_eq_some_iff]
  cases angled with
  | true =>
    refine ⟨fun h => .angled h, fun h => ?_⟩
    cases h with
    | angled h => exact h
  | false =>
    have hdirs : Path.directoryOf file :: p.quoteDirs.map Path.parse ++
        (p.includeDirs ++ p.systemDirs).map Path.parse =
        Path.directoryOf file :: (p.quoteDirs ++ p.includeDirs ++ p.systemDirs).map Path.parse := by
      simp only [List.map_append, List.cons_append, List.append_assoc]
    rw [if_neg Bool.false_ne_true, hdirs]
    refine ⟨fun h => .quoted h, fun h => ?_⟩
    cases h with
    | quoted h => exact h

theorem resolve?_eq_none_iff :
    p.resolve? fs d file = none ↔ ∀ target, ¬p.Finds fs file d target := by
  rw [Option.eq_none_iff_forall_ne_some]
  exact forall_congr' fun target => not_congr resolve?_eq_some_iff

end SearchPath

end Unreferenced
