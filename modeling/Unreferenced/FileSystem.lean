/-
Unreferenced/FileSystem.lean

A file system as a finite tree of directories, with the directory that relative
paths start from.  A file holds its bytes and, for each language it may be parsed
as, the syntax tree a grammar gives for it.

There are two kinds of file system.  In one, files are kept under their normal
absolute spellings, and a path is looked up by its own.  In the other, a path is
walked, one directory after the other.  They agree on paths that are spelled
normally and start with one slash.
-/
import Unreferenced.Language
import Unreferenced.Text.Quoted
import Unreferenced.Tree.Basic

namespace Unreferenced

open Text

/-- A file. -/
structure StoredFile where
  bytes : List UInt8 := []
  /-- Whether its bytes may be read. -/
  readable : Bool := true
  /-- Its syntax tree as a C file. -/
  cTree : Option Tree := none
  /-- Its syntax tree as a C++ file. -/
  cppTree : Option Tree := none
deriving Inhabited

/-- The syntax tree of a file without any content. -/
def Tree.blank : Tree where
  kind := "translation_unit"
  start := 0
  stop := 0
  named := true
  missing := false
  hasError := false
  field := ""
  children := []

/-- The syntax tree of a file in a language. -/
def StoredFile.tree (f : StoredFile) : Language → Tree
  | .c => f.cTree.getD Tree.blank
  | .cpp => f.cppTree.getD Tree.blank

/-- A file or a directory with what it holds. -/
inductive Item where
  | file (content : StoredFile)
  | directory (items : List (String × Item))

/-- Why a file cannot be read. -/
inductive ReadError where
  | notFound
  | isDirectory
  | denied
  /-- The path has a null character in it. -/
  | embeddedNull
deriving DecidableEq, Repr

/-- The wording of a read error at a path. -/
def ReadError.message (e : ReadError) (path : String) : String :=
  match e with
  | .notFound => "[Errno 2] No such file or directory: " ++ quoted path
  | .isDirectory => "[Errno 21] Is a directory: " ++ quoted path
  | .denied => "[Errno 13] Permission denied: " ++ quoted path
  | .embeddedNull => "embedded null byte"

/-- How a path is looked up. -/
inductive PathLookup where
  /-- By its normal spelling.  Nothing is kept under a spelling with two slashes in front. -/
  | spelled
  /-- From directory to directory.  Two slashes in front lead to the root, `..` leads up from a
  directory that is there, and null characters are refused. -/
  | walked
deriving DecidableEq, Repr, Inhabited

/-- A file system as a process sees it. -/
structure FileSystem where
  /-- What the root directory holds, if there is one. -/
  root : Option (List (String × Item))
  lookup : PathLookup := .walked
  workingDirectory : WorkingDirectory := .root
deriving Inhabited

namespace Item

/-- The item at a path below an item. -/
def find? : List String → Item → Option Item
  | [], item => some item
  | _ :: _, .file _ => none
  | name :: rest, .directory items =>
    match items.lookup name with
    | some item => find? rest item
    | none => none

/-- Where components lead from a place below an item.  The component `..` leads up, from a directory
only. -/
def walk? (item : Item) (place : List String) : List String → Option (List String)
  | [] => some place
  | name :: rest =>
    if name = ".." then
      match item.find? place with
      | some (.directory _) => walk? item place.dropLast rest
      | _ => none
    else walk? item (place ++ [name]) rest

/-- The items of a directory with one set, in its place if there was one of that name. -/
def set (name : String) (item : Item) : List (String × Item) → List (String × Item)
  | [] => [(name, item)]
  | (n, i) :: rest => if n = name then (n, item) :: rest else (n, i) :: set name item rest

/-- The items of a directory with one added at a path; missing directories are made on the way, and
an empty directory never replaces what is there. -/
def add (item : Item) : List String → List (String × Item) → List (String × Item)
  | [], items => items
  | [name], items =>
    match item, items.lookup name with
    | .directory [], some _ => items
    | _, _ => set name item items
  | name :: rest, items =>
    match items.lookup name with
    | some (.directory inner) => set name (.directory (add item rest inner)) items
    | _ => set name (.directory (add item rest [])) items

end Item

namespace FileSystem

/-- The file system with the files and the empty directories given, and with the directories above
them.  If nothing is given there is no root directory either. -/
def ofFiles (files : List (String × StoredFile)) (directories : List String) : FileSystem :=
  let withFiles := files.foldl (fun items f => Item.add (.file f.2) (Path.parse f.1).parts items) []
  let all :=
    directories.foldl (fun items d => Item.add (.directory []) (Path.parse d).parts items) withFiles
  { root := if files.isEmpty && directories.isEmpty then none else some all }

/-- Whether a path is refused without being looked up. -/
def refuses (fs : FileSystem) (path : String) : Bool :=
  fs.lookup == .walked && path.toList.contains (Char.ofNat 0)

/-- Where a path leads from the root directory, which holds `items`. -/
def place? (fs : FileSystem) (items : List (String × Item)) (path : String) :
    Option (List String) :=
  match fs.lookup with
  | .spelled =>
    let p := Path.parse (Path.absolute fs.workingDirectory path)
    if p.anchor = .root then some p.parts else none
  | .walked =>
    if fs.refuses path then none
    else
      let p := (Path.parse fs.workingDirectory.path).under (Path.parse path)
      (Item.directory items).walk? [] p.parts

/-- The item at a path. -/
def item? (fs : FileSystem) (path : String) : Option Item :=
  match fs.root with
  | some items => (fs.place? items path).bind fun place => (Item.directory items).find? place
  | none => none

/-- Whether a path is that of a file. -/
def isFile (fs : FileSystem) (path : String) : Bool :=
  match fs.item? path with
  | some (.file _) => true
  | _ => false

/-- Whether a path is that of a directory. -/
def isDirectory (fs : FileSystem) (path : String) : Bool :=
  match fs.item? path with
  | some (.directory _) => true
  | _ => false

/-- Whether there is anything at a path. -/
def contains (fs : FileSystem) (path : String) : Bool :=
  (fs.item? path).isSome

/-- The file at a path, if its bytes may be read. -/
def read (fs : FileSystem) (path : String) : Except ReadError StoredFile :=
  if fs.refuses path then .error .embeddedNull
  else
    match fs.item? path with
    | none => .error .notFound
    | some (.directory _) => .error .isDirectory
    | some (.file f) => if f.readable then .ok f else .error .denied

mutual

/-- The number of files in an item. -/
def fileCount : Item → Nat
  | .file _ => 1
  | .directory items => fileCountAll items

/-- The number of files in the items of a directory. -/
def fileCountAll : List (String × Item) → Nat
  | [] => 0
  | (_, item) :: rest => fileCount item + fileCountAll rest

end

/-- The number of files. -/
def size (fs : FileSystem) : Nat :=
  match fs.root with
  | some items => fileCountAll items
  | none => 0

end FileSystem

end Unreferenced
