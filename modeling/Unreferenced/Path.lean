/-
Unreferenced/Path.lean

Lexical paths.  A path is an anchor (none, `/`, or exactly `//`) and a list of
components; reading a path drops empty components and single dots.  Normalising
a path also takes `..` away together with the component before it.  Nothing
here looks at a file system.

`Path.normalizeIn p b` is the one operation the rest of the library builds on:
the normal spelling of `p`, taken relative to `b` if `p` has no anchor.
-/
import Unreferenced.Text.Cut

namespace Unreferenced

open Text

/-- How a path starts. -/
inductive Anchor where
  /-- At the working directory. -/
  | relative
  /-- At the root. -/
  | root
  /-- At the root spelled with exactly two slashes. -/
  | doubleRoot
deriving DecidableEq, Repr, Inhabited

/-- An anchor and the components after it. -/
structure Path where
  anchor : Anchor
  parts : List String
deriving DecidableEq, Repr, Inhabited

namespace Anchor

/-- The text an anchor is written with. -/
def text : Anchor → String
  | .relative => ""
  | .root => "/"
  | .doubleRoot => "//"

/-- The anchor that a number of leading slashes stands for. -/
def ofSlashes : Nat → Anchor
  | 0 => .relative
  | 2 => .doubleRoot
  | _ => .root

end Anchor

namespace Path

/-- The path a text spells. -/
def parse (s : String) : Path where
  anchor := .ofSlashes (s.toList.takeWhile (· == '/')).length
  parts := (pieces '/' s).filter fun part => part != "" && part != "."

/-- The spelling of a path; a path without anchor and components is spelled `.`. -/
def render (p : Path) : String :=
  let text := p.anchor.text ++ "/".intercalate p.parts
  if text == "" then "." else text

/-- The components left when `..` takes away the component before it.  `done` holds the components
read so far, the last one first.  At the root `..` stays at the root; without an anchor it is kept
where there is nothing to take away. -/
def climb (absolute : Bool) (done : List String) : List String → List String
  | [] => done.reverse
  | part :: parts =>
    if part = ".." then
      match done with
      | [] => climb absolute (if absolute then [] else [".."]) parts
      | last :: rest =>
        if last = ".." then climb absolute (".." :: done) parts else climb absolute rest parts
    else climb absolute (part :: done) parts

/-- The path without `..` components, as far as they can be taken away. -/
def normal (p : Path) : Path :=
  { p with parts := climb (p.anchor != .relative) [] p.parts }

/-- The path `p` seen from `base`: `p` itself if it has an anchor, else below `base`. -/
def under (base p : Path) : Path :=
  match p.anchor with
  | .relative => ⟨base.anchor, base.parts ++ p.parts⟩
  | _ => p

/-- The normal spelling of `path`, taken relative to `base`. -/
def normalizeIn (path base : String) : String :=
  render (normal (under (parse base) (parse path)))

/-- The directory of a spelled file: everything up to its last slash. -/
def directoryOf (file : String) : Path :=
  parse (String.ofList ((file.toList.reverse.dropWhile (· != '/')).reverse))

/-- The spelling starts at the root. -/
def IsAbsolute (s : String) : Prop :=
  (parse s).anchor ≠ .relative

instance (s : String) : Decidable (IsAbsolute s) :=
  inferInstanceAs (Decidable (_ ≠ _))

/-- The last component. -/
def name (p : Path) : String :=
  p.parts.getLastD ""

/-- The path of an entry of a directory. -/
def child (p : Path) (entry : String) : Path :=
  under p (parse entry)

/-- The part of the last component from its last dot on, unless that dot is the first or the last
character; empty if there is none. -/
def suffix (p : Path) : String :=
  let chars := p.name.toList
  let extension := (chars.reverse.takeWhile (· != '.')).reverse
  if extension.length + 1 < chars.length && extension.length != 0 then
    String.ofList ('.' :: extension)
  else ""

/-- The path below `base`, if `base` contains it. -/
def relativeTo? (p base : Path) : Option Path :=
  if p.anchor = base.anchor ∧ base.parts.isPrefixOf p.parts then
    some ⟨.relative, p.parts.drop base.parts.length⟩
  else none

/-- Whether the spelled path is the spelled directory or lies in it.  A sibling whose name merely
starts like the directory's does not lie in it. -/
def isWithin (path directory : String) : Bool :=
  let base := dropTrailing '/' directory
  path == base || beginsWith (base ++ "/") path

end Path

/-- The directory that relative paths start from. -/
structure WorkingDirectory where
  path : String
  isAbsolute : Path.IsAbsolute path

namespace WorkingDirectory

/-- The root as the working directory. -/
def root : WorkingDirectory :=
  ⟨"/", by decide⟩

instance : Inhabited WorkingDirectory :=
  ⟨root⟩

/-- The working directory that a text spells, the root if it spells no absolute path. -/
def ofText (s : String) : WorkingDirectory :=
  if h : Path.IsAbsolute s then ⟨s, h⟩ else root

end WorkingDirectory

/-- The normal absolute spelling of a path. -/
def Path.absolute (wd : WorkingDirectory) (path : String) : String :=
  normalizeIn path wd.path

end Unreferenced
