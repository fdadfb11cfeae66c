/-
Unreferenced/Proofs/DatabaseFault.lean

Which files are databases, and how the others are refused.

Every function on the way from the bytes of a file to its commands has two
statements: when it succeeds, and when it fails with an error that no check
covers (`Escapes`).  What is left fails with an error that is foreseen.
Entries are read in order, so the first one from which no command can be made
decides how the file is refused.  What they take from the standard input is gone
for those behind them.
-/
import Unreferenced.CommandLine.Response
import Unreferenced.Proofs.JsonFault
import Unreferenced.Proofs.Utf8Decoding

namespace Unreferenced

open Text CommandLine

/-! ### Kinds of values -/

namespace Json

/-- Whether a value is a text. -/
def isText : Json → Bool
  | .string _ => true
  | _ => false

/-- Whether a value has items that can be taken one after the other. -/
def isCollection : Json → Bool
  | .array _ | .object _ | .string _ => true
  | _ => false

end Json

namespace Database

open Json

variable (wd : WorkingDirectory) (path : String) (index : Nat) (input : Option String)
  {fields : List (JsonString × Json)} {entry : Json} {entries : List Json}

/-- The result is an error that no check covers. -/
def Escapes {α : Type} (r : Except DatabaseError α) : Prop :=
  ∃ e, r = .error e ∧ isForeseen e = false

@[simp] theorem escapes_ok {α : Type} (a : α) : ¬Escapes (.ok a) := by
  simp [Escapes]

@[simp] theorem escapes_error {α : Type} (e : DatabaseError) :
    Escapes (.error e : Except DatabaseError α) ↔ isForeseen e = false := by
  simp [Escapes]

/-! ### The arguments of an entry -/

/-- Fields from which the arguments of an entry can be read, with what is left on the standard
input. -/
inductive HasArguments (input : Option String) (fields : List (JsonString × Json)) : Prop where
  | collection {v : Json} (ha : get? fields "arguments" = some v) (hv : v.isCollection = true)
  | command {s : JsonString} {words : List String} (ha : get? fields "arguments" = none)
      (hc : get? fields "command" = some (.string s)) (hs : Shell.split s.text = .ok words)
  | null {text : String} {words : List String} (ha : get? fields "arguments" = none)
      (hc : get? fields "command" = some .null) (hinput : input = some text)
      (hs : Shell.split text = .ok words)

/-- Fields with arguments, or without them with a command, of a wrong type. -/
inductive HasMistypedArguments (fields : List (JsonString × Json)) : Prop where
  | arguments {v : Json} (ha : get? fields "arguments" = some v) (hv : v.isCollection = false)
  | command {v : Json} (ha : get? fields "arguments" = none) (hc : get? fields "command" = some v)
      (hv : v.isText = false) (hnull : v ≠ .null)

theorem isSome_argumentsOf? (v : Json) : (argumentsOf? v).isSome = v.isCollection := by
  cases v <;> rfl

theorem commandWords_eq_ok_iff {command : Option String} {words : List String} :
    commandWords path index command = .ok words ↔
      ∃ text, command = some text ∧ Shell.split text = .ok words := by
  rcases command with - | text
  · simp [commandWords]
  · rcases hs : Shell.split text with e | found
    · simp [commandWords, hs]
    · simp [commandWords, hs]

theorem not_escapes_commandWords (command : Option String) :
    ¬Escapes (commandWords path index command) := by
  rcases command with - | text
  · simp [commandWords, isForeseen]
  · rcases hs : Shell.split text with e | found
    · simp [commandWords, hs, isForeseen]
    · simp [commandWords, hs]

theorem exists_entryArguments_iff :
    (∃ arguments, entryArguments path index input fields = .ok arguments) ↔
      HasArguments input fields := by
  constructor
  · rintro ⟨arguments, h⟩
    unfold entryArguments at h
    split at h
    · next ha =>
      split at h
      · next hv => exact .collection ha (by simp [← isSome_argumentsOf?, hv])
      · cases h
    · next ha hc =>
      obtain ⟨text, htext, hs⟩ := (commandWords_eq_ok_iff path index).1 h
      cases htext
      exact .command ha hc hs
    · next ha hc =>
      obtain ⟨text, htext, hs⟩ := (commandWords_eq_ok_iff path index).1 h
      exact .null ha hc htext hs
    · cases h
    · cases h
  · intro h
    cases h with
    | @collection v ha hv =>
      rw [← isSome_argumentsOf?] at hv
      obtain ⟨arguments, harguments⟩ := Option.isSome_iff_exists.1 hv
      exact ⟨arguments, by simp [entryArguments, ha, harguments]⟩
    | @command s words ha hc hs => exact ⟨words, by simp [entryArguments, commandWords, ha, hc, hs]⟩
    | @null text words ha hc hinput hs =>
      exact ⟨words, by simp [entryArguments, commandWords, ha, hc, hinput, hs]⟩

theorem escapes_entryArguments_iff :
    Escapes (entryArguments path index input fields) ↔ HasMistypedArguments fields := by
  constructor
  · intro h
    unfold entryArguments at h
    repeat' split at h
    all_goals try exact absurd h (not_escapes_commandWords path index _)
    all_goals simp [isForeseen] at h
    · next ha _ hv => exact .arguments ha (by simp [← isSome_argumentsOf?, hv])
    · next v htext hnull ha hc =>
      refine .command ha hc ?_ hnull
      cases v <;> simp_all [isText]
  · intro h
    cases h with
    | arguments ha hv =>
      rw [← isSome_argumentsOf?, Option.isSome_eq_false_iff, Option.isNone_iff_eq_none] at hv
      simp [entryArguments, ha, hv, isForeseen]
    | @command v ha hc hv hnull =>
      cases v <;> simp_all [entryArguments, isForeseen, isText]

/-! ### Entries -/

/-- An entry from which a command can be made, with what is left on the standard input. -/
inductive IsSound (input : Option String) : Json → Prop where
  | mk {fields : List (JsonString × Json)} {file directory : JsonString}
      (hfile : get? fields "file" = some (.string file))
      (hdirectory : get? fields "directory" = some (.string directory))
      (ha : HasArguments input fields) : IsSound input (.object fields)

/-- An entry with both keys it needs that has something of a wrong type where no check looks at it:
its arguments or its command or, if these are fine, one of its paths. -/
inductive IsMistyped (input : Option String) : Json → Prop where
  | arguments {fields : List (JsonString × Json)} {file directory : Json}
      (hfile : get? fields "file" = some file) (hdirectory : get? fields "directory" = some directory)
      (ha : HasMistypedArguments fields) : IsMistyped input (.object fields)
  | path {fields : List (JsonString × Json)} {file directory : Json}
      (hfile : get? fields "file" = some file) (hdirectory : get? fields "directory" = some directory)
      (ha : HasArguments input fields) (htext : (file.isText && directory.isText) = false) :
      IsMistyped input (.object fields)

theorem entryCommand_cases (entry : Json) :
    entryCommand wd path index input entry = .error (.incompleteEntry path index) ∨
      ∃ fields file directory, entry = .object fields ∧ get? fields "file" = some file ∧
        get? fields "directory" = some directory := by
  cases entry with
  | object fields =>
    rcases hfile : get? fields "file" with - | file
    · exact .inl (by simp [entryCommand, hfile])
    · rcases hdirectory : get? fields "directory" with - | directory
      · exact .inl (by simp [entryCommand, hfile, hdirectory])
      · exact .inr ⟨fields, file, directory, rfl, hfile, hdirectory⟩
  | _ => exact .inl rfl

theorem exists_entryCommand_iff :
    (∃ c, entryCommand wd path index input entry = .ok c) ↔ IsSound input entry := by
  constructor
  · rintro ⟨c, h⟩
    obtain hnone | ⟨fields, file, directory, rfl, hfile, hdirectory⟩ :=
      entryCommand_cases wd path index input entry
    · simp [hnone] at h
    · rcases ha : entryArguments path index input fields with e | arguments
      · simp [entryCommand, hfile, hdirectory, ha] at h
      · have harguments := (exists_entryArguments_iff path index input).1 ⟨arguments, ha⟩
        simp only [entryCommand, hfile, hdirectory, ha] at h
        split at h
        · exact .mk hfile hdirectory harguments
        · simp at h
  · rintro ⟨hfile, hdirectory, ha⟩
    obtain ⟨arguments, harguments⟩ := (exists_entryArguments_iff path index input).2 ha
    simp [entryCommand, hfile, hdirectory, harguments]

theorem escapes_entryCommand_iff :
    Escapes (entryCommand wd path index input entry) ↔ IsMistyped input entry := by
  constructor
  · intro h
    obtain hnone | ⟨fields, file, directory, rfl, hfile, hdirectory⟩ :=
      entryCommand_cases wd path index input entry
    · simp [hnone, isForeseen] at h
    · -- the arguments are read before the paths are looked at
      rcases ha : entryArguments path index input fields with e | arguments
      · have hescapes : Escapes (entryArguments path index input fields) := by
          simpa [entryCommand, hfile, hdirectory, ha] using h
        exact .arguments hfile hdirectory ((escapes_entryArguments_iff path index input).1 hescapes)
      · have harguments := (exists_entryArguments_iff path index input).1 ⟨arguments, ha⟩
        refine .path hfile hdirectory harguments ?_
        cases file <;> cases directory <;> simp_all [entryCommand, isText]
  · intro h
    cases h with
    | arguments hfile hdirectory ha =>
      obtain ⟨e, he, hforeseen⟩ := (escapes_entryArguments_iff path index input).2 ha
      simp [entryCommand, hfile, hdirectory, he, hforeseen]
    | @path fields file directory hfile hdirectory ha htext =>
      obtain ⟨arguments, harguments⟩ := (exists_entryArguments_iff path index input).2 ha
      cases file <;> cases directory <;> simp_all [entryCommand, isForeseen, isText]

/-- From every entry a command can be made, with what those before it have left on the standard
input. -/
def AreSound : Option String → List Json → Prop
  | _, [] => True
  | input, entry :: rest => IsSound input entry ∧ AreSound (inputAfter input entry) rest

theorem exists_entryCommands_iff :
    (∃ commands, entryCommands wd path index input entries = .ok commands) ↔
      AreSound input entries := by
  induction entries generalizing index input with
  | nil => simp [entryCommands, AreSound]
  | cons entry rest ih =>
    rw [AreSound, ← exists_entryCommand_iff wd path index input,
      ← ih (index + 1) (inputAfter input entry)]
    rcases hentry : entryCommand wd path index input entry with e | c
    · simp [entryCommands, hentry]
    · rcases hrest : entryCommands wd path (index + 1) (inputAfter input entry) rest with e | cs
      · simp [entryCommands, hentry, hrest]
      · simp [entryCommands, hentry, hrest]

/-- The first entry from which no command can be made decides. -/
theorem escapes_entryCommands_iff :
    Escapes (entryCommands wd path index input entries) ↔ ∃ before entry after,
      entries = before ++ entry :: after ∧ AreSound input before ∧
        IsMistyped (before.foldl inputAfter input) entry := by
  induction entries generalizing index input with
  | nil => simp [entryCommands]
  | cons entry rest ih =>
    -- the entry itself, or one behind it if a command can be made from it
    have hsplit : (∃ before x after, entry :: rest = before ++ x :: after ∧ AreSound input before ∧
          IsMistyped (before.foldl inputAfter input) x) ↔
        IsMistyped input entry ∨ IsSound input entry ∧ ∃ before x after,
          rest = before ++ x :: after ∧ AreSound (inputAfter input entry) before ∧
            IsMistyped (before.foldl inputAfter (inputAfter input entry)) x := by
      constructor
      · rintro ⟨before, x, after, hsplit, hbefore, hx⟩
        rcases before with - | ⟨b, before⟩
        · obtain ⟨rfl, rfl⟩ := List.cons.inj hsplit
          exact .inl hx
        · obtain ⟨rfl, rfl⟩ := List.cons.inj hsplit
          exact .inr ⟨hbefore.1, before, x, after, rfl, hbefore.2, hx⟩
      · rintro (hx | ⟨hentry, before, x, after, rfl, hbefore, hx⟩)
        · exact ⟨[], entry, rest, rfl, trivial, hx⟩
        · exact ⟨entry :: before, x, after, rfl, ⟨hentry, hbefore⟩, hx⟩
    rw [hsplit, ← ih (index + 1) (inputAfter input entry),
      ← escapes_entryCommand_iff wd path index input, ← exists_entryCommand_iff wd path index input]
    rcases hentry : entryCommand wd path index input entry with e | c
    · simp [entryCommands, hentry]
    · rcases hrest : entryCommands wd path (index + 1) (inputAfter input entry) rest with e | cs
      · simp [entryCommands, hentry, hrest]
      · simp [entryCommands, hentry, hrest]

/-! ### Files -/

variable (host : Host)

/-- The bytes of a database: a list of entries from each of which a command can be made. -/
def IsDatabase (bytes : List UInt8) : Prop :=
  ∃ text entries, Utf8.encode text = bytes ∧
    Json.read host.jsonNesting text.toList = .ok (.array entries) ∧
    AreSound host.standardInput entries

/-- Bytes with a fault that no check covers: they are not UTF-8, a number in them has too many digits,
values in them nest too deep, or the first entry from which no command can be made has something of a
wrong type. -/
inductive HasUncheckedFault (bytes : List UInt8) : Prop where
  | notUtf8 (h : ∀ text, Utf8.encode text ≠ bytes)
  | numberTooLong {text : String} (htext : Utf8.encode text = bytes)
      (h : Json.read host.jsonNesting text.toList = .error .numberTooLong)
  | nestedTooDeep {text : String} (htext : Utf8.encode text = bytes)
      (h : Json.read host.jsonNesting text.toList = .error .nestedTooDeep)
  | mistyped {text : String} {before after : List Json} {entry : Json}
      (htext : Utf8.encode text = bytes)
      (hread : Json.read host.jsonNesting text.toList = .ok (.array (before ++ entry :: after)))
      (hbefore : AreSound host.standardInput before)
      (hentry : IsMistyped (before.foldl inputAfter host.standardInput) entry)

theorem exists_ofBytes_iff {bytes : List UInt8} :
    (∃ db, ofBytes host wd path bytes = .ok db) ↔ IsDatabase host bytes := by
  constructor
  · rintro ⟨db, h⟩
    unfold ofBytes at h
    repeat' split at h
    all_goals simp at h
    next cs hcs _ entries hread _ commands hcommands =>
      have htext := Utf8.decodeStrict?_eq_some_iff.1 hcs
      refine ⟨String.ofList cs, entries, htext, by rwa [String.toList_ofList], ?_⟩
      exact (exists_entryCommands_iff wd path 0 _).1 ⟨commands, hcommands⟩
  · rintro ⟨text, entries, rfl, hread, hsound⟩
    obtain ⟨commands, hcommands⟩ := (exists_entryCommands_iff wd path 0 _).2 hsound
    simp [ofBytes, hread, hcommands]

theorem escapes_ofBytes_iff {bytes : List UInt8} :
    Escapes (ofBytes host wd path bytes) ↔ HasUncheckedFault host bytes := by
  constructor
  · intro h
    rcases hcs : Utf8.decodeStrict? bytes with - | cs
    · exact .notUtf8 (Utf8.decodeStrict?_eq_none_iff.1 hcs)
    · have htext := Utf8.decodeStrict?_eq_some_iff.1 hcs
      rcases hread : Json.read host.jsonNesting cs with (- | - | -) | v
      · simp [ofBytes, hcs, hread, isForeseen] at h
      · exact .numberTooLong htext (by rwa [String.toList_ofList])
      · exact .nestedTooDeep htext (by rwa [String.toList_ofList])
      · cases v with
        | array entries =>
          have hescapes : Escapes (entryCommands wd path 0 host.standardInput entries) := by
            rcases hcommands : entryCommands wd path 0 host.standardInput entries with e | commands
            · simpa [ofBytes, hcs, hread, hcommands] using h
            · simp [ofBytes, hcs, hread, hcommands] at h
          obtain ⟨before, entry, after, rfl, hbefore, hentry⟩ :=
            (escapes_entryCommands_iff wd path 0 _).1 hescapes
          exact .mistyped htext (by rwa [String.toList_ofList]) hbefore hentry
        | _ => simp [ofBytes, hcs, hread, isForeseen] at h
  · intro h
    cases h with
    | notUtf8 h => simp [ofBytes, Utf8.decodeStrict?_eq_none_iff.2 h, isForeseen]
    | numberTooLong htext h =>
      subst htext
      simp [ofBytes, h, isForeseen]
    | nestedTooDeep htext h =>
      subst htext
      simp [ofBytes, h, isForeseen]
    | @mistyped text before after entry htext hread hbefore hentry =>
      subst htext
      obtain ⟨e, he, hforeseen⟩ :=
        (escapes_entryCommands_iff wd path 0 _).2 ⟨before, entry, after, rfl, hbefore, hentry⟩
      simp [ofBytes, hread, he, hforeseen]

/-- Reading fails with the error for null characters just if the path is refused. -/
theorem read_eq_embeddedNull_iff {fs : FileSystem} :
    fs.read path = .error .embeddedNull ↔ fs.refuses path = true := by
  unfold FileSystem.read
  rcases fs.refuses path
  · rcases fs.item? path with - | (f | items)
    · simp
    · rcases hreadable : f.readable <;> simp [hreadable]
    · simp
  · simp

/-- **Which database files are refused in a way that is not declared.**  Loading gives a database
exactly if the file can be read and is one.  It fails with an error that no check covers exactly if
the path has a null character in it, or the file can be read and has one of four faults; all other
files are refused in the way that is declared.  A number has too many digits only where that many
digits stand in a row, and values nest too deep only where more brackets are opened than may be open.
A run whose database cannot be loaded ends with the message of the error if the error is foreseen,
and without a response if not. -/
theorem escapes_load_iff (host : Host) (fs : FileSystem) (path : String) :
    ((∃ db, load host fs path = .ok db) ↔
        ∃ file, fs.read (Path.parse path).render = .ok file ∧ IsDatabase host file.bytes) ∧
      (Escapes (load host fs path) ↔
        fs.refuses (Path.parse path).render = true ∨
          ∃ file, fs.read (Path.parse path).render = .ok file ∧
            HasUncheckedFault host file.bytes) ∧
      (∀ limit text e, Json.read limit text = .error e → Shows limit text e) ∧
      ∀ settings root s answer e, load host fs path = .error e →
        find? fs root (s.build.map fun b => (Path.parse b).render) = some path →
        withSelected host fs settings root s answer =
          if isForeseen e then .ok (failed e.message) else .error (.database e) := by
  refine ⟨?_, ?_, fun limit text e h => shows_of_read h, ?_⟩
  · rcases hfile : fs.read (Path.parse path).render with e | file
    · cases e <;> simp [load, hfile]
    · simp [load, hfile, exists_ofBytes_iff]
  · rw [← read_eq_embeddedNull_iff]
    rcases hfile : fs.read (Path.parse path).render with e | file
    · cases e <;> simp [load, hfile, isForeseen]
    · simp [load, hfile, escapes_ofBytes_iff]
  · intro settings root s answer e hload hfind
    have hselected : selected host fs settings root s = .error e := by
      simp [selected, ofProject, hfind, hload, bind, Except.bind]
    rw [withSelected, hselected]

/-- A text for a database with an entry that has no list of arguments. -/
def nullText : String :=
  "[\x7b\"file\": \"a.cpp\", \"directory\": \"/p\", \"arguments\": null\x7d]"

/-- A text for a database with two entries whose commands have no text. -/
def commandText : String :=
  "[\x7b\"file\": \"a\", \"directory\": \"/p\", \"command\": null\x7d,\x7b\"file\": \"b\", \"directory\": \"/p\", \"command\": null\x7d]"

/-- Files of which none is a database for every host. -/
def faultyFiles : FileSystem :=
  .ofFiles [("/p/a.json", { bytes := [255] }), ("/p/b.json", { bytes := Utf8.encode nullText }),
    ("/p/c.json", { bytes := Utf8.encode "[[[]]]" }),
    ("/p/d.json", { bytes := Utf8.encode commandText })] []

/-- A host that reads little JSON. -/
def smallHost : Host where
  jsonNesting := 2
  standardInput := some "c++ -c"

/-- The first three files and a path with a null character in it are refused in a way that is not
declared.  The last file is a database for a host that reads the first command from its standard
input and finds nothing left for the second, and none for a host that refuses such commands. -/
theorem escapes_load_iff_sample :
    (∀ path ∈ ["/p/a.json", "/p/b.json", "/p/c.json", "/p/\x00.json"],
        Escapes (load smallHost faultyFiles path)) ∧
      (∃ db, load smallHost faultyFiles "/p/d.json" = .ok db) ∧
      (load { smallHost with standardInput := none } faultyFiles "/p/d.json").isOk = false := by
  refine ⟨?_, ?_, by decide +kernel⟩
  · intro path hpath
    refine (escapes_load_iff smallHost faultyFiles path).2.1.2 ?_
    simp only [List.mem_cons, List.not_mem_nil, or_false] at hpath
    rcases hpath with rfl | rfl | rfl | rfl
    · exact .inr ⟨_, rfl, .notUtf8 (Utf8.decodeStrict?_eq_none_iff.1 (by decide +kernel))⟩
    · refine .inr ⟨_, rfl, ?_⟩
      exact @HasUncheckedFault.mistyped _ _ nullText [] [] _ rfl rfl trivial
        (.arguments rfl rfl (.arguments rfl rfl))
    · exact .inr ⟨_, rfl, @HasUncheckedFault.nestedTooDeep _ _ "[[[]]]" rfl rfl⟩
    · exact .inl (by decide +kernel)
  · refine (escapes_load_iff smallHost faultyFiles "/p/d.json").1.2
      ⟨_, rfl, commandText, _, rfl, rfl, ?_⟩
    exact ⟨.mk rfl rfl (.null rfl rfl rfl rfl), .mk rfl rfl (.null rfl rfl rfl rfl), trivial⟩

end Database

end Unreferenced
