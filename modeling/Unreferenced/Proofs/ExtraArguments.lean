/-
Unreferenced/Proofs/ExtraArguments.lean

Adding arguments to the commands of a database.  The commands are read again from
their own paths and from all their arguments, the old ones and the new ones.

A command that was read off arguments is read the same way again, since its paths
are normal (`CompileCommand.isRead_ofArguments`).  So reading again with more
arguments behind changes neither file nor directory, and the search lists only
grow: an old argument that waits for its value takes the first of the new ones,
and otherwise reading goes on where it ended (`continues_readArguments_append`).

Files being the keys of a database, no command is lost or moved when arguments
are added, and adding arguments can be exchanged with filtering
(`Database.withExtraArguments_laws`).
-/
import Mathlib.Data.List.Forall2
import Unreferenced.Compile.Database
import Unreferenced.Proofs.LexicalPath

namespace Unreferenced

namespace CompileCommand

/-! ### What one argument does -/

section Equations

variable (c : CompileCommand) {argument value : String} {list : SearchList} (rest : List String)

theorem readArguments_attachedLanguage (hx : argument ≠ "-x")
    (hvalue : attached? "-x" argument = some value) :
    readArguments c (argument :: rest) = readArguments (c.selectLanguage value) rest := by
  rw [readArguments.eq_def]
  simp only [if_neg hx, hvalue]

theorem readArguments_skip (hx : argument ≠ "-x") (hvalue : attached? "-x" argument = none)
    (hswitch : searchSwitch? argument = none) :
    readArguments c (argument :: rest) = readArguments c rest := by
  rw [readArguments.eq_def]
  simp only [if_neg hx, hvalue, hswitch]

theorem readArguments_attachedDirectory (hx : argument ≠ "-x")
    (hvalue : attached? "-x" argument = none)
    (hswitch : searchSwitch? argument = some (list, some value)) :
    readArguments c (argument :: rest) = readArguments (c.addDirectory list value) rest := by
  rw [readArguments.eq_def]
  simp only [if_neg hx, hvalue, hswitch]

theorem readArguments_directory (hx : argument ≠ "-x") (hvalue : attached? "-x" argument = none)
    (hswitch : searchSwitch? argument = some (list, none)) (value : String) :
    readArguments c (argument :: value :: rest) =
      readArguments (c.addDirectory list value) rest := by
  rw [readArguments.eq_def]
  simp only [if_neg hx, hvalue, hswitch]

theorem readArguments_waiting (hx : argument ≠ "-x") (hvalue : attached? "-x" argument = none)
    (hswitch : searchSwitch? argument = some (list, none)) :
    readArguments c [argument] = c := by
  rw [readArguments.eq_def]
  simp only [if_neg hx, hvalue, hswitch]

end Equations

/-- Reading may go on from `c` to `c'`: the paths and the arguments are the same, and the search
lists of `c'` begin with those of `c`. -/
structure Continues (c c' : CompileCommand) : Prop where
  file : c'.file = c.file
  directory : c'.directory = c.directory
  arguments : c'.arguments = c.arguments
  quoteDirs : c.quoteDirs <+: c'.quoteDirs
  includeDirs : c.includeDirs <+: c'.includeDirs
  systemDirs : c.systemDirs <+: c'.systemDirs

namespace Continues

variable {c c' c'' : CompileCommand}

theorem refl (c : CompileCommand) : Continues c c :=
  ⟨rfl, rfl, rfl, List.prefix_rfl, List.prefix_rfl, List.prefix_rfl⟩

theorem trans (h : Continues c c') (h' : Continues c' c'') : Continues c c'' where
  file := h'.file.trans h.file
  directory := h'.directory.trans h.directory
  arguments := h'.arguments.trans h.arguments
  quoteDirs := h.quoteDirs.trans h'.quoteDirs
  includeDirs := h.includeDirs.trans h'.includeDirs
  systemDirs := h.systemDirs.trans h'.systemDirs

theorem addDirectory (c : CompileCommand) (list : SearchList) (value : String) :
    Continues c (c.addDirectory list value) := by
  rcases list with - | - | -
  · exact ⟨rfl, rfl, rfl, List.prefix_append _ _, List.prefix_rfl, List.prefix_rfl⟩
  · exact ⟨rfl, rfl, rfl, List.prefix_rfl, List.prefix_append _ _, List.prefix_rfl⟩
  · exact ⟨rfl, rfl, rfl, List.prefix_rfl, List.prefix_rfl, List.prefix_append _ _⟩

theorem selectLanguage (c : CompileCommand) (value : String) :
    Continues c (c.selectLanguage value) :=
  ⟨rfl, rfl, rfl, List.prefix_rfl, List.prefix_rfl, List.prefix_rfl⟩

end Continues

/-- An argument is either done with at once or waits for the one behind it as its value.  One that
still waits at the end does nothing. -/
theorem readArguments_cons (c : CompileCommand) (argument : String) :
    (∃ c', Continues c c' ∧ ∀ rest, readArguments c (argument :: rest) = readArguments c' rest) ∨
      ∃ take : String → CompileCommand, (∀ value, Continues c (take value)) ∧
        readArguments c [argument] = c ∧
        ∀ value rest, readArguments c (argument :: value :: rest) =
          readArguments (take value) rest := by
  by_cases hx : argument = "-x"
  · subst hx
    exact .inr ⟨c.selectLanguage, Continues.selectLanguage c, rfl, fun _ _ => rfl⟩
  rcases hvalue : attached? "-x" argument with - | value
  · rcases hswitch : searchSwitch? argument with - | ⟨list, - | value⟩
    · exact .inl ⟨c, Continues.refl c, fun rest => readArguments_skip c rest hx hvalue hswitch⟩
    · exact .inr ⟨c.addDirectory list, Continues.addDirectory c list,
        readArguments_waiting c hx hvalue hswitch,
        fun value rest => readArguments_directory c rest hx hvalue hswitch value⟩
    · exact .inl ⟨c.addDirectory list value, Continues.addDirectory c list value,
        fun rest => readArguments_attachedDirectory c rest hx hvalue hswitch⟩
  · exact .inl ⟨c.selectLanguage value, Continues.selectLanguage c value,
      fun rest => readArguments_attachedLanguage c rest hx hvalue⟩

/-! ### What all arguments do -/

theorem continues_readArguments :
    ∀ (arguments : List String) (c : CompileCommand), Continues c (readArguments c arguments)
  | [], c => Continues.refl c
  | [argument], c => by
    rcases readArguments_cons c argument with ⟨c', hc', hread⟩ | ⟨-, -, hwaits, -⟩
    · rw [hread]
      exact hc'
    · rw [hwaits]
      exact Continues.refl c
  | argument :: value :: rest, c => by
    rcases readArguments_cons c argument with ⟨c', hc', hread⟩ | ⟨take, htake, -, hread⟩
    · rw [hread]
      exact hc'.trans (continues_readArguments (value :: rest) c')
    · rw [hread]
      exact (htake value).trans (continues_readArguments rest (take value))

/-- Reading goes on from where the old arguments end. -/
theorem continues_readArguments_append (back : List String) :
    ∀ (front : List String) (c : CompileCommand),
      Continues (readArguments c front) (readArguments c (front ++ back))
  | [], c => continues_readArguments back c
  | [argument], c => by
    rcases readArguments_cons c argument with ⟨c', -, hread⟩ | ⟨-, -, hwaits, -⟩
    · rw [List.singleton_append, hread, hread]
      exact continues_readArguments back c'
    · -- the value the last argument waits for is the first of the new arguments
      rw [hwaits]
      exact continues_readArguments (argument :: back) c
  | argument :: value :: rest, c => by
    rcases readArguments_cons c argument with ⟨c', -, hread⟩ | ⟨take, -, -, hread⟩
    · rw [List.cons_append, hread, hread]
      exact continues_readArguments_append back (value :: rest) c'
    · rw [List.cons_append, List.cons_append, hread, hread]
      exact continues_readArguments_append back rest (take value)

/-- Reading does not look at the list of all arguments. -/
theorem readArguments_withArguments (c : CompileCommand) (all arguments : List String) :
    readArguments { c with arguments := all } arguments =
      { readArguments c arguments with arguments := all } := by
  fun_induction readArguments c arguments with
  | case1 c => rfl
  | case2 c => rfl
  | case3 c value rest ih => exact ih
  | case4 c argument rest hx value hvalue ih =>
    rw [readArguments_attachedLanguage _ rest hx hvalue]
    exact ih
  | case5 c argument rest hx hvalue hswitch ih =>
    rw [readArguments_skip _ rest hx hvalue hswitch]
    exact ih
  | case6 c argument rest hx hvalue list value hswitch ih =>
    rw [readArguments_attachedDirectory _ rest hx hvalue hswitch, ← ih]
    rcases list with - | - | - <;> rfl
  | case7 c argument hx hvalue list hswitch =>
    exact readArguments_waiting _ hx hvalue hswitch
  | case8 c argument hx hvalue list hswitch value rest ih =>
    rw [readArguments_directory _ rest hx hvalue hswitch, ← ih]
    rcases list with - | - | - <;> rfl

/-! ### Reading a command again -/

section OfArguments

variable (wd : WorkingDirectory) (file directory : String) (arguments : List String)

/-- The command before its arguments are read. -/
def unread : CompileCommand :=
  let directory := Path.absolute wd directory
  let file := Path.normalizeIn file directory
  { file := file, directory := directory, arguments := arguments,
    language := (Language.ofFile? file).getD .cpp }

theorem ofArguments_eq :
    ofArguments wd file directory arguments =
      readArguments (unread wd file directory arguments) arguments.tail := rfl

theorem unread_withArguments (all : List String) :
    unread wd file directory all = { unread wd file directory arguments with arguments := all } := by
  simp only [unread]

theorem continues_ofArguments :
    Continues (unread wd file directory arguments) (ofArguments wd file directory arguments) :=
  continues_readArguments arguments.tail (unread wd file directory arguments)

@[simp] theorem file_ofArguments :
    (ofArguments wd file directory arguments).file =
      Path.normalizeIn file (Path.absolute wd directory) :=
  (continues_ofArguments wd file directory arguments).file

@[simp] theorem directory_ofArguments :
    (ofArguments wd file directory arguments).directory = Path.absolute wd directory :=
  (continues_ofArguments wd file directory arguments).directory

@[simp] theorem arguments_ofArguments :
    (ofArguments wd file directory arguments).arguments = arguments :=
  (continues_ofArguments wd file directory arguments).arguments

/-- Normalising the paths first changes nothing. -/
theorem ofArguments_normal :
    ofArguments wd (Path.normalizeIn file (Path.absolute wd directory)) (Path.absolute wd directory)
      arguments = ofArguments wd file directory arguments := by
  have hdirectory := Path.isNormalSpelling_absolute wd directory
  have hfile := Path.isNormalSpelling_normalizeIn hdirectory.isAbsolute file
  have hagain : Path.absolute wd (Path.absolute wd directory) = Path.absolute wd directory :=
    hdirectory.normalizeIn_eq wd.path
  show readArguments (unread wd _ _ arguments) arguments.tail =
    readArguments (unread wd file directory arguments) arguments.tail
  simp only [unread, hagain, hfile.normalizeIn_eq]

/-- The old search lists are the beginnings of the new ones when arguments are added. -/
theorem isPrefix_dirs_ofArguments (extra : List String) :
    let c := ofArguments wd file directory arguments
    let c' := ofArguments wd file directory (arguments ++ extra)
    c.quoteDirs <+: c'.quoteDirs ∧ c.includeDirs <+: c'.includeDirs ∧
      c.systemDirs <+: c'.systemDirs := by
  rcases arguments with - | ⟨compiler, arguments⟩
  · exact ⟨List.nil_prefix, List.nil_prefix, List.nil_prefix⟩
  · have happend := continues_readArguments_append extra arguments
      (unread wd file directory (compiler :: arguments))
    intro c c'
    have hc : c = readArguments (unread wd file directory (compiler :: arguments)) arguments :=
      ofArguments_eq _ _ _ _
    have hc' : c' =
        { readArguments (unread wd file directory (compiler :: arguments)) (arguments ++ extra) with
          arguments := compiler :: arguments ++ extra } := by
      rw [← readArguments_withArguments, ← unread_withArguments]
      exact ofArguments_eq _ _ _ _
    rw [hc, hc']
    exact ⟨happend.quoteDirs, happend.includeDirs, happend.systemDirs⟩

end OfArguments

/-- The command was read off its own paths and arguments. -/
def IsRead (wd : WorkingDirectory) (c : CompileCommand) : Prop :=
  ofArguments wd c.file c.directory c.arguments = c

theorem isRead_ofArguments (wd : WorkingDirectory) (file directory : String)
    (arguments : List String) : (ofArguments wd file directory arguments).IsRead wd := by
  show ofArguments wd _ _ _ = _
  rw [file_ofArguments, directory_ofArguments, arguments_ofArguments, ofArguments_normal]

/-- The command with arguments added at the end, read again. -/
def extend (wd : WorkingDirectory) (c : CompileCommand) (extra : List String) : CompileCommand :=
  ofArguments wd c.file c.directory (c.arguments ++ extra)

section Extend

variable {wd : WorkingDirectory} {c : CompileCommand} (h : c.IsRead wd) (extra : List String)
include h

theorem file_extend : (c.extend wd extra).file = c.file := by
  have hfile := congrArg CompileCommand.file h
  rw [file_ofArguments] at hfile
  rw [extend, file_ofArguments, hfile]

theorem directory_extend : (c.extend wd extra).directory = c.directory := by
  have hdirectory := congrArg CompileCommand.directory h
  rw [directory_ofArguments] at hdirectory
  rw [extend, directory_ofArguments, hdirectory]

theorem extend_nil : c.extend wd [] = c := by
  rw [extend, List.append_nil]
  exact h

theorem extend_extend (extra' : List String) :
    (c.extend wd extra).extend wd extra' = c.extend wd (extra ++ extra') := by
  rw [extend, file_extend h, directory_extend h, extend, arguments_ofArguments, List.append_assoc,
    extend]

end Extend

/-- `c'` is `c` with arguments added at the end: it is read off all the arguments, stays where it
is, and has the search directories of `c` before any others. -/
structure IsExtension (wd : WorkingDirectory) (extra : List String) (c c' : CompileCommand) :
    Prop where
  read : c' = ofArguments wd c.file c.directory (c.arguments ++ extra)
  file : c'.file = c.file
  directory : c'.directory = c.directory
  quoteDirs : c.quoteDirs <+: c'.quoteDirs
  includeDirs : c.includeDirs <+: c'.includeDirs
  systemDirs : c.systemDirs <+: c'.systemDirs

theorem IsRead.isExtension_extend {wd : WorkingDirectory} {c : CompileCommand} (h : c.IsRead wd)
    (extra : List String) : IsExtension wd extra c (c.extend wd extra) := by
  have hdirs := isPrefix_dirs_ofArguments wd c.file c.directory c.arguments extra
  rw [show ofArguments wd c.file c.directory c.arguments = c from h] at hdirs
  exact ⟨rfl, file_extend h extra, directory_extend h extra, hdirs.1, hdirs.2.1, hdirs.2.2⟩

-- The last of the old arguments waits for a directory and takes the first of the new ones.
example : ((ofArguments .root "a.c" "/p" ["cc", "-Isrc", "-I"]).extend .root
    ["inc", "-c"]).includeDirs = ["/p/src", "/p/inc"] := by decide +kernel

end CompileCommand

/-! ### Databases of commands that were read -/

namespace Database

/-- The commands stand under their files and were read off their arguments. -/
structure IsRead (wd : WorkingDirectory) (db : Database) : Prop where
  keyed : ∀ entry ∈ db.byFile.toList, entry.1 = entry.2.file
  read : ∀ c ∈ db.commands, c.IsRead wd

theorem isRead_ofCommands {wd : WorkingDirectory} (source : Option String)
    {commands : List CompileCommand} (h : ∀ c ∈ commands, c.IsRead wd) :
    (ofCommands source commands).IsRead wd := by
  have hentry : ∀ entry ∈ (ofCommands source commands).byFile.toList,
      ∃ c ∈ commands, (c.file, c) = entry := by
    intro entry hentry
    exact List.mem_map.1 (OrderedMap.mem_of_mem_ofListFirst hentry)
  constructor
  · intro entry hmem
    obtain ⟨c, -, rfl⟩ := hentry entry hmem
    rfl
  · intro c hc
    obtain ⟨entry, hmem, rfl⟩ := List.mem_map.1 hc
    obtain ⟨c', hc', rfl⟩ := hentry entry hmem
    exact h c' hc'

/-- Commands for different files are all kept, in their order. -/
theorem commands_ofCommands (source : Option String) {commands : List CompileCommand}
    (h : (commands.map CompileCommand.file).Nodup) :
    (ofCommands source commands).commands = commands := by
  have hkeys : ((commands.map fun c => (c.file, c)).map Prod.fst).Nodup := by
    rw [List.map_map]
    exact h
  show (OrderedMap.ofListFirst (commands.map fun c => (c.file, c))).toList.map Prod.snd = commands
  rw [OrderedMap.toList_ofListFirst hkeys, List.map_map]
  exact List.map_id commands

namespace IsRead

variable {wd : WorkingDirectory} {db db' : Database}

theorem toList_byFile (h : db.IsRead wd) :
    db.byFile.toList = db.commands.map fun c => (c.file, c) := by
  show _ = (db.byFile.toList.map Prod.snd).map fun c => (c.file, c)
  rw [List.map_map]
  refine (List.map_id _).symm.trans (List.map_congr_left fun entry hentry => ?_)
  exact Prod.ext (h.keyed entry hentry) rfl

theorem nodup_files (h : db.IsRead wd) : (db.commands.map CompileCommand.file).Nodup := by
  have hkeys := db.byFile.nodup
  rw [h.toList_byFile, List.map_map] at hkeys
  exact hkeys

/-- Such databases differ only in their source or their commands. -/
theorem ext (h : db.IsRead wd) (h' : db'.IsRead wd) (hsource : db.source = db'.source)
    (hcommands : db.commands = db'.commands) : db = db' := by
  have hlist := h.toList_byFile
  rw [hcommands, ← h'.toList_byFile] at hlist
  obtain ⟨source, ⟨entries, hentries⟩⟩ := db
  obtain ⟨source', ⟨entries', hentries'⟩⟩ := db'
  cases hsource
  cases hlist
  rfl

variable (h : db.IsRead wd)
include h

theorem restrict (keep : String → Bool) : (db.restrict keep).IsRead wd :=
  isRead_ofCommands db.source fun c hc => h.read c (List.mem_of_mem_filter hc)

theorem commands_restrict (keep : String → Bool) :
    (db.restrict keep).commands = db.commands.filter fun c => keep c.file := by
  apply commands_ofCommands
  exact h.nodup_files.sublist (List.filter_sublist.map CompileCommand.file)

theorem withExtraArguments (extra : List String) : (db.withExtraArguments wd extra).IsRead wd := by
  unfold Database.withExtraArguments
  split
  · exact h
  · apply isRead_ofCommands
    intro c hc
    obtain ⟨c, -, rfl⟩ := List.mem_map.1 hc
    exact CompileCommand.isRead_ofArguments wd _ _ _

/-- Each command is extended in its place. -/
theorem commands_withExtraArguments (extra : List String) :
    (db.withExtraArguments wd extra).commands = db.commands.map fun c => c.extend wd extra := by
  unfold Database.withExtraArguments
  split
  · next hextra =>
    subst hextra
    refine ((List.map_congr_left fun c hc => ?_).trans (List.map_id _)).symm
    exact CompileCommand.extend_nil (h.read c hc)
  · apply commands_ofCommands
    have hfiles : (db.commands.map fun c => c.extend wd extra).map CompileCommand.file =
        db.commands.map CompileCommand.file := by
      rw [List.map_map]
      exact List.map_congr_left fun c hc => CompileCommand.file_extend (h.read c hc) extra
    exact hfiles ▸ h.nodup_files

end IsRead

theorem source_withExtraArguments (wd : WorkingDirectory) (db : Database) (extra : List String) :
    (db.withExtraArguments wd extra).source = db.source := by
  unfold withExtraArguments
  split
  · rfl
  · rfl

section Laws

variable {wd : WorkingDirectory} {db : Database} (h : db.IsRead wd) (extra : List String)
include h

theorem withExtraArguments_append (extra' : List String) :
    (db.withExtraArguments wd extra).withExtraArguments wd extra' =
      db.withExtraArguments wd (extra ++ extra') := by
  have hfirst := h.withExtraArguments extra
  apply (hfirst.withExtraArguments extra').ext (h.withExtraArguments (extra ++ extra'))
  · simp only [source_withExtraArguments]
  · rw [hfirst.commands_withExtraArguments, h.commands_withExtraArguments,
      h.commands_withExtraArguments, List.map_map]
    refine List.map_congr_left fun c hc => ?_
    exact CompileCommand.extend_extend (h.read c hc) extra extra'

theorem restrict_withExtraArguments (keep : String → Bool) :
    (db.withExtraArguments wd extra).restrict keep =
      (db.restrict keep).withExtraArguments wd extra := by
  have hextended := h.withExtraArguments extra
  have hkept := h.restrict keep
  apply (hextended.restrict keep).ext (hkept.withExtraArguments extra)
  · show (db.withExtraArguments wd extra).source = _
    rw [source_withExtraArguments, source_withExtraArguments]
    rfl
  · rw [hextended.commands_restrict, h.commands_withExtraArguments,
      hkept.commands_withExtraArguments, h.commands_restrict, List.filter_map]
    -- the filter sees the same files before and after
    refine congrArg (List.map _) (List.filter_congr fun c hc => ?_)
    exact congrArg keep (CompileCommand.file_extend (h.read c hc) extra)

theorem filtered_withExtraArguments (pattern : Option String) :
    (db.withExtraArguments wd extra).filtered pattern =
      (db.filtered pattern).map fun db => db.withExtraArguments wd extra := by
  unfold filtered
  split
  · rfl
  · rfl
  · next text _ =>
    rcases Pattern.read text with error | p
    · cases error <;> rfl
    · exact congrArg Except.ok (restrict_withExtraArguments h extra p.foundIn)

theorem forall₂_commands_withExtraArguments :
    List.Forall₂ (CompileCommand.IsExtension wd extra) db.commands
      (db.withExtraArguments wd extra).commands := by
  rw [h.commands_withExtraArguments, List.forall₂_map_right_iff, List.forall₂_same]
  intro c hc
  exact CompileCommand.IsRead.isExtension_extend (h.read c hc) extra

end Laws

/-- Adding arguments twice is adding them together, and filtering by the files, whatever the pattern
is and whether it can be read at all, may come before it or after it.  Each command is extended in
its place. -/
theorem withExtraArguments_laws (wd : WorkingDirectory) (source : Option String)
    (entries : List (String × String × List String)) (extra extra' : List String) :
    let db := ofCommands source (entries.map fun e => .ofArguments wd e.1 e.2.1 e.2.2)
    (db.withExtraArguments wd extra).withExtraArguments wd extra' =
        db.withExtraArguments wd (extra ++ extra') ∧
      (∀ pattern, (db.withExtraArguments wd extra).filtered pattern =
        (db.filtered pattern).map fun db => db.withExtraArguments wd extra) ∧
      (∀ keep, (db.withExtraArguments wd extra).restrict keep =
        (db.restrict keep).withExtraArguments wd extra) ∧
      List.Forall₂ (CompileCommand.IsExtension wd extra) db.commands
        (db.withExtraArguments wd extra).commands := by
  intro db
  have hdb : db.IsRead wd := by
    apply isRead_ofCommands
    intro c hc
    obtain ⟨e, -, rfl⟩ := List.mem_map.1 hc
    exact CompileCommand.isRead_ofArguments wd e.1 e.2.1 e.2.2
  exact ⟨withExtraArguments_append hdb extra extra', filtered_withExtraArguments hdb extra,
    restrict_withExtraArguments hdb extra, forall₂_commands_withExtraArguments hdb extra⟩

end Database

end Unreferenced
