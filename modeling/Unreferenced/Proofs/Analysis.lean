/-
Unreferenced/Proofs/Analysis.lean

The analysis of a project in terms of the facts of its translation units.

A translation unit makes no violation, whatever its files contain and whatever
the host bears, and enters what its facts say if it is finished (`outcome_spec`).
So the ledger of an analysis is that of the finished units (`ledger_ofDatabase`):
they are loaded, their main files can be read, and the search for their uses is
not given up.  There is one error for every unit with a fault.

Two main results follow.  The order of the commands changes neither a finding
nor a counter (`ofDatabase_perm`).  A symbol is found exactly if some unit
defines it without using it and every unit that uses it has a definition of its
own that is not weak (`mem_findings_ofDatabase`).
-/
import Unreferenced.Project
import Unreferenced.Proofs.Observation

namespace Unreferenced

/-! ### What a translation unit comes to -/

namespace TranslationUnit

/-- The facts of the unit, with what its declarations are. -/
def unitFacts (u : TranslationUnit) : UnitFacts Nat :=
  ⟨u.view, u.observation.facts⟩

/-- Whether the unit is finished: its main file can be read, and the search for uses is not given
up. -/
def isFinished (u : TranslationUnit) (exhaustion? : Option Nat) : Bool :=
  !u.mainIsMissing && exhaustion?.isNone

/-- What is wrong with a unit whose search for uses may be given up. -/
def failure? (u : TranslationUnit) (exhaustion? : Option Nat) : Option UnitFault :=
  if !u.mainIsMissing && exhaustion?.isSome then some .nestedTooDeep else u.fault?

variable {u : TranslationUnit}

theorem Chained.complete (hu : u.Chained) : u.unitFacts.Complete :=
  Facts.complete_observe u.files hu.coherent_view u.events

/-- What a unit defines has the symbol of its definition. -/
theorem Chained.definedSymbol?_eq (hu : u.Chained) {f : Nat}
    (hf : f ∈ u.observation.facts.defs) : u.unitFacts.definedSymbol? f = u.view.symbol? f := by
  have hbody := Facts.hasBody_of_mem_defs u.files hu.coherent_view hf
  exact hu.coherent_view.bind_symbol?_definition? hbody

/-- A unit violates nothing, enters what its facts say if it is finished, and has an error if it has
a fault. -/
theorem Chained.outcome_spec (hu : u.Chained) (exhaustion? : Option Nat) :
    (u.outcome exhaustion?).violation = none ∧
      (u.outcome exhaustion?).entries =
        (if u.isFinished exhaustion? then u.unitFacts.entries else []) ∧
      (u.outcome exhaustion?).error = (u.failure? exhaustion?).map (UnitError.mk u.main) := by
  have hobserved : ∀ events, (Facts.observe u.view u.files .empty events).violation = none :=
    fun events => (Facts.observeAll_spec u.files hu.coherent_view _ _).1
  obtain ⟨hsettled, hentries⟩ := UnitFacts.settle_spec hu.complete
  unfold outcome isFinished failure?
  rcases hmain : u.mainIsMissing with - | -
  · rw [if_neg Bool.false_ne_true]
    rcases exhaustion? with - | reported
    · simp only [show u.observation.violation = none from hobserved _]
      refine ⟨hsettled, hentries, ?_⟩
      show (if (Settlement.settle u.unitFacts.view u.unitFacts.facts).violation.isSome then none
        else _) = _
      rw [hsettled]
      rfl
    · simp only [hobserved]
      exact ⟨trivial, rfl, rfl⟩
  · have hfault : u.fault? = some .mainUnreadable := if_pos hmain
    rw [if_pos rfl, hfault]
    exact ⟨rfl, rfl, rfl⟩

end TranslationUnit

/-! ### What the units of a project come to -/

namespace CompileCommand

variable (host : Host) (fs : FileSystem) (systemDirs : List String) (c : CompileCommand)

/-- The error of a compile command whose unit has a fault. -/
def error? : Option UnitError :=
  match c.loadFault? host fs with
  | some f => some ⟨c.file, .notLoaded f.reason⟩
  | none =>
    ((TranslationUnit.load fs c systemDirs).failure? (host.exhaustion? c)).map (UnitError.mk c.file)

/-- Whether the unit of the command is loaded and finished. -/
def isFinished : Bool :=
  (c.loadFault? host fs).isNone &&
    (TranslationUnit.load fs c systemDirs).isFinished (host.exhaustion? c)

theorem outcome_spec :
    (c.outcome host fs systemDirs).violation = none ∧
      (c.outcome host fs systemDirs).entries =
        (if c.isFinished host fs systemDirs then
          (TranslationUnit.load fs c systemDirs).unitFacts.entries else []) ∧
      (c.outcome host fs systemDirs).error = c.error? host fs systemDirs := by
  unfold outcome isFinished error?
  rcases c.loadFault? host fs with - | f
  · exact (TranslationUnit.chained_load fs c systemDirs).outcome_spec (host.exhaustion? c)
  · exact ⟨rfl, rfl, rfl⟩

end CompileCommand

/-- The finished units of a database. -/
def Database.units (host : Host) (fs : FileSystem) (systemDirs : List String) (db : Database) :
    List TranslationUnit :=
  (db.commands.filter (CompileCommand.isFinished host fs systemDirs)).map fun c =>
    TranslationUnit.load fs c systemDirs

theorem Database.chained_of_mem_units {host : Host} {fs : FileSystem} {systemDirs : List String}
    {db : Database} {u : TranslationUnit} (h : u ∈ db.units host fs systemDirs) : u.Chained := by
  obtain ⟨c, -, rfl⟩ := List.mem_map.1 h
  exact TranslationUnit.chained_load fs c systemDirs

/-! ### A sample project

Two files define `f`.  The first one calls it, from a function `g` that nobody calls. -/

namespace Sample

/-- A branch of a syntax tree. -/
def branch (kind field : String) (start stop : Nat) (children : List Tree) : Tree :=
  ⟨kind, start, stop, true, false, false, field, children⟩

/-- A token of one character. -/
def token (text : String) (start : Nat) : Tree :=
  ⟨text, start, start + 1, false, false, false, "", []⟩

/-- The tree of `void f() {…}` for a function whose name has one letter. -/
def function (start stop : Nat) (statements : List Tree) : Tree :=
  branch "function_definition" "" start stop
    [branch "primitive_type" "type" start (start + 4) [],
      branch "function_declarator" "declarator" (start + 5) (start + 8)
        [branch "identifier" "declarator" (start + 5) (start + 6) [],
          branch "parameter_list" "parameters" (start + 6) (start + 8)
            [token "(" (start + 6), token ")" (start + 7)]],
      branch "compound_statement" "body" (start + 9) stop
        ([token "\x7b" (start + 9)] ++ statements ++ [token "\x7d" (stop - 1)])]

/-- The tree of `f();` for a function whose name has one letter. -/
def call (start : Nat) : Tree :=
  branch "expression_statement" "" start (start + 4)
    [branch "call_expression" "" start (start + 3)
        [branch "identifier" "function" start (start + 1) [],
          branch "argument_list" "arguments" (start + 1) (start + 3)
            [token "(" (start + 1), token ")" (start + 2)]],
      token ";" (start + 3)]

/-- A file with its tree. -/
def file (text : String) (functions : List Tree) : StoredFile where
  bytes := text.toList.map Char.toUInt8
  cppTree := some (branch "translation_unit" "" 0 text.length functions)

/-- The two files. -/
def files : FileSystem where
  root := some [("p", .directory
    [("a.cpp", .file (file "void f() \x7b\x7d void g() \x7b f(); \x7d"
        [function 0 11 [], function 12 29 [call 23]])),
      ("b.cpp", .file (file "void f() \x7b\x7d" [function 0 11 []]))])]

/-- The command for one of the files. -/
def command (name : String) : CompileCommand where
  file := "/p/" ++ name
  directory := "/p"
  arguments := ["c++", name]

/-- The two commands in order. -/
def database : Database := .ofCommands none [command "a.cpp", command "b.cpp"]

/-- A host that bears every unit. -/
def host : Host where
  jsonNesting := 100

/-- The two commands in the other order. -/
def reversed : Database := .ofCommands none [command "b.cpp", command "a.cpp"]

end Sample

namespace Analysis

variable (host : Host) (fs : FileSystem) (systemDirs : List String)

theorem violation_ofDatabase (workers : Nat) (db : Database) :
    (ofDatabase host fs systemDirs workers db).violation = none := by
  show ((db.commands.map (CompileCommand.outcome host fs systemDirs)).filterMap
    Outcome.violation).head? = none
  rw [List.head?_eq_none_iff, List.filterMap_map, List.filterMap_eq_nil_iff]
  intro c _
  exact (c.outcome_spec host fs systemDirs).1

theorem errors_ofDatabase (workers : Nat) (db : Database) :
    (ofDatabase host fs systemDirs workers db).errors =
      db.commands.filterMap (CompileCommand.error? host fs systemDirs) := by
  show (db.commands.map (CompileCommand.outcome host fs systemDirs)).filterMap Outcome.error = _
  rw [List.filterMap_map]
  apply List.filterMap_congr
  intro c _
  exact (c.outcome_spec host fs systemDirs).2.2

/-- The ledger of an analysis is the one that the finished units settle to. -/
theorem ledger_ofDatabase (workers : Nat) (db : Database) :
    (ofDatabase host fs systemDirs workers db).ledger =
      Ledger.empty.postAll
        (UnitFacts.history ((db.units host fs systemDirs).map TranslationUnit.unitFacts)) := by
  show Ledger.empty.postAll ((db.commands.map (CompileCommand.outcome host fs systemDirs)).flatMap
    Outcome.entries) = _
  apply congrArg
  unfold UnitFacts.history Database.units
  rw [List.flatMap_map, List.flatMap_map]
  induction db.commands with
  | nil => rfl
  | cons c commands ih =>
    rw [List.flatMap_cons, ih, (c.outcome_spec host fs systemDirs).2.1, List.filter_cons]
    -- a unit that enters nothing is left out on the other side
    rcases c.isFinished host fs systemDirs
    · rfl
    · rfl

/-- **The order of the commands does not matter.**  No analysis is ended by a violation.  With the
same commands in another order, the same symbols are found, every symbol has the same counter, and
the same symbols have a definition.  The errors are those of the commands, in their order. -/
theorem ofDatabase_perm (workers workers' : Nat) {db db' : Database}
    (h : db'.commands.Perm db.commands) :
    (ofDatabase host fs systemDirs workers db).violation = none ∧
      (ofDatabase host fs systemDirs workers' db').violation = none ∧
      ((ofDatabase host fs systemDirs workers' db').findings.map Finding.symbol).Perm
        ((ofDatabase host fs systemDirs workers db).findings.map Finding.symbol) ∧
      (∀ symbol,
        ((ofDatabase host fs systemDirs workers' db').ledger.get? symbol).map
            (fun r => (r.uses, r.definition.isSome)) =
          ((ofDatabase host fs systemDirs workers db).ledger.get? symbol).map
            fun r => (r.uses, r.definition.isSome)) ∧
      (ofDatabase host fs systemDirs workers db).errors =
        db.commands.filterMap (CompileCommand.error? host fs systemDirs) ∧
      (ofDatabase host fs systemDirs workers' db').errors =
        db'.commands.filterMap (CompileCommand.error? host fs systemDirs) := by
  have hunits : (db'.units host fs systemDirs).Perm (db.units host fs systemDirs) :=
    (h.filter _).map _
  have hhistory :
      (UnitFacts.history ((db'.units host fs systemDirs).map TranslationUnit.unitFacts)).Perm
        (UnitFacts.history ((db.units host fs systemDirs).map TranslationUnit.unitFacts)) :=
    (hunits.map _).flatMap_right _
  refine ⟨violation_ofDatabase host fs systemDirs workers db,
    violation_ofDatabase host fs systemDirs workers' db', ?_, ?_,
    errors_ofDatabase host fs systemDirs workers db,
    errors_ofDatabase host fs systemDirs workers' db'⟩
  · unfold findings
    rw [ledger_ofDatabase, ledger_ofDatabase]
    exact symbols_findings_perm hhistory
  · intro symbol
    rw [ledger_ofDatabase, ledger_ofDatabase]
    exact get?_postAll_perm hhistory symbol

/-- Both orders of the sample commands find `f` and `g`, in the order in which they were entered. -/
theorem ofDatabase_perm_sample :
    Sample.reversed.commands.Perm Sample.database.commands ∧
      (ofDatabase Sample.host Sample.files [] 1 Sample.database).findings.map Finding.symbol =
        ["c:@F@g#", "c:@F@f#"] ∧
      (ofDatabase Sample.host Sample.files [] 4 Sample.reversed).findings.map Finding.symbol =
        ["c:@F@f#", "c:@F@g#"] ∧
      ((ofDatabase Sample.host Sample.files [] 4 Sample.reversed).findings.map Finding.symbol).Perm
        ((ofDatabase Sample.host Sample.files [] 1 Sample.database).findings.map
          Finding.symbol) := by
  have h : Sample.reversed.commands.Perm Sample.database.commands := by decide +kernel
  refine ⟨h, by decide +kernel, by decide +kernel, ?_⟩
  exact (ofDatabase_perm Sample.host Sample.files [] 1 4 h).2.2.1

end Analysis

end Unreferenced
