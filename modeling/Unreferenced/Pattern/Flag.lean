/-
Unreferenced/Pattern/Flag.lean

The flags of patterns, and the groups that set them: `(?i)` at the start of a
pattern sets a flag for all of it, `(?i:...)` for what is inside, and
`(?-i:...)` takes it back there.
-/
import Unreferenced.Pattern.CharSet

namespace Unreferenced

/-- A flag. -/
inductive Flag where
  | ignoreCase
  /-- Places at lines hold at every line. -/
  | everyLine
  /-- The dot stands for a line feed, too. -/
  | dotAll
  /-- Blanks and comments are left out. -/
  | verbose
  /-- Only ASCII characters have case and class. -/
  | ascii
  /-- All characters have case and class. -/
  | unicode
  /-- Nothing may be repeated. -/
  | template
deriving DecidableEq, Repr

namespace Flag

/-- The flag of a letter. -/
def ofChar? : Char → Option Flag
  | 'i' => some .ignoreCase
  | 'm' => some .everyLine
  | 's' => some .dotAll
  | 'x' => some .verbose
  | 'a' => some .ascii
  | 'u' => some .unicode
  | 't' => some .template
  | _ => none

/-- Whether a flag says which characters have case and class. -/
def isRepertoire (f : Flag) : Bool :=
  f == .ascii || f == .unicode

/-- The flags in force inside a group that turns some on and some off. -/
def combine (flags on off : List Flag) : List Flag :=
  let kept := if on.any isRepertoire then flags.filter fun f => !f.isRepertoire else flags
  (kept ++ on).filter fun f => !off.contains f

/-- How characters are compared under flags. -/
def casing (flags : List Flag) : Casing :=
  if flags.contains .ignoreCase then if flags.contains .ascii then .ascii else .unicode
  else .exact

/-- Whether flags ask for ASCII only and for all characters. -/
def areConflicting (flags : List Flag) : Bool :=
  flags.contains .ascii && flags.contains .unicode

end Flag

/-- What a group with flags asks for. -/
inductive FlagGroup where
  /-- Flags for the whole pattern. -/
  | whole (on : List Flag)
  /-- Flags for what is inside the group. -/
  | inside (on off : List Flag)
deriving DecidableEq, Repr

namespace FlagGroup

/-- The flags to turn off, up to the colon that ends them, and what follows. -/
def readOff? (on off : List Flag) : List Char → Option (FlagGroup × List Char)
  | [] => none
  | c :: r =>
    if c = ':' then
      if off = [] ∨ off.any (on.contains ·) then none else some (.inside on off, r)
    else
      match Flag.ofChar? c with
      | some f => if f.isRepertoire || f == .template then none else readOff? on (f :: off) r
      | none => none

/-- The flags to turn on, up to the mark that ends them, and what follows. -/
def readOn? (on : List Flag) : List Char → Option (FlagGroup × List Char)
  | [] => none
  | c :: r =>
    if c = ')' then some (.whole on, r)
    else if c = ':' then if on.contains .template then none else some (.inside on [], r)
    else if c = '-' then if on.contains .template then none else readOff? on [] r
    else
      match Flag.ofChar? c with
      | some f => if Flag.areConflicting (f :: on) then none else readOn? (f :: on) r
      | none => none

/-- The flags at the start of a group, and what follows. -/
def read? (s : List Char) : Option (FlagGroup × List Char) :=
  match s with
  | '-' :: r => readOff? [] [] r
  | c :: r => (Flag.ofChar? c).bind fun f => readOn? [f] r
  | [] => none

end FlagGroup

end Unreferenced
