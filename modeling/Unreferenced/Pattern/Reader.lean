/-
Unreferenced/Pattern/Reader.lean

Reading search patterns.  The text is read once from the left; a stack holds the
groups that are still open, each with the alternatives and items it has so far.

A text is no pattern if a group is not closed or closed without being open, if
a set of characters is not closed or has a range that runs backwards, if a
repetition follows nothing, a place or another repetition, if an escape is cut
short or unknown, if a group is referred to that does not exist or is still
open, or if what is looked for behind a place can be of several widths.  A brace
that starts no repetition count stands for itself.
-/
import Unreferenced.Pattern.Basic
import Unreferenced.Pattern.Escape
import Unreferenced.Pattern.Flag
import Unreferenced.Text.Integer

namespace Unreferenced.Pattern

open Text

/-- What is wrong with a text. -/
inductive Fault where
  /-- It is no pattern. -/
  | malformed
  /-- Flags for the whole pattern exclude each other. -/
  | conflictingFlags
  /-- A repetition count is beyond all bounds. -/
  | repetitionTooLarge
  /-- A repetition count has more digits than a number may be written with. -/
  | numberTooLong
deriving DecidableEq, Repr

/-- A result that may be missing because the text is no pattern. -/
def orMalformed {α : Type} : Option α → Except Fault α
  | some a => .ok a
  | none => .error .malformed

/-! ### Counts and comments -/

/-- The least repetition count that is beyond all bounds. -/
def countLimit : Nat := 4294967295

/-- A repetition count. -/
def countOf (digits : List Char) : Except Fault Nat :=
  if maxDigits < digits.length then .error .numberTooLong
  else if countLimit ≤ digitsValue digits then .error .repetitionTooLarge
  else .ok (digitsValue digits)

/-- The digits of the bounds after an opening brace, and what follows the closing brace; `none` if
the brace stands for itself. -/
def boundDigits? (s : List Char) : Option (List Char × List Char × List Char) :=
  let (low, rest) := leadingDigits s
  match rest with
  | '}' :: r => if low = [] then none else some (low, low, r)
  | ',' :: r =>
    let (high, rest) := leadingDigits r
    match rest with
    | '}' :: r => some (low, high, r)
    | _ => none
  | _ => none

/-- The bounds that digits spell.  A backslash at the end of the text right after them is found
first. -/
def bounds (low high rest : List Char) : Except Fault (Nat × Option Nat) :=
  if rest = ['\\'] then .error .malformed
  else
    match if low = [] then .ok 0 else countOf low with
    | .error e => .error e
    | .ok least =>
      if high = [] then .ok (least, none)
      else
        match countOf high with
        | .error e => .error e
        | .ok most => if most < least then .error .malformed else .ok (least, some most)

/-- What follows the first `stop` that has no backslash before it; at the end of the text there is
`atEnd`. -/
def skipPast? (stop : Char) (atEnd : Option (List Char)) : List Char → Option (List Char)
  | [] => atEnd
  | ['\\'] => none
  | '\\' :: _ :: r => skipPast? stop atEnd r
  | c :: r => if c = stop then some r else skipPast? stop atEnd r

/-- Whether a text can be the name of a group. -/
def isGroupName (name : List Char) : Bool :=
  (name.head?.any fun c => c == '_' || isLetter c) &&
    name.all fun c => c == '_' || isLetter c || (decimalValue? c).isSome

/-- The text up to the first `stop`, and what follows it. -/
def upTo? (stop : Char) (s : List Char) : Option (List Char × List Char) :=
  match s.dropWhile (· != stop) with
  | _ :: r => some (s.takeWhile (· != stop), r)
  | [] => none

/-! ### Open groups -/

/-- What an item is for a repetition that follows it. -/
inductive ItemKind where
  | repeatable
  | place
  | repetition
deriving DecidableEq, Repr

/-- One item of a sequence. -/
structure Item where
  pattern : Pattern
  kind : ItemKind

/-- How a group counts. -/
inductive GroupKind where
  | plain
  | numbered (index : Nat)
  | atomic
  | ahead (negated : Bool)
  | behind (negated : Bool)
  | conditional (index : Nat)
deriving DecidableEq, Repr

/-- What a group holds so far: the alternatives that are finished and the items of the last one, each
with the latest first. -/
structure Content where
  alternatives : List Pattern := []
  items : List Item := []

namespace Content

/-- The pattern of the last alternative. -/
def sequence (c : Content) : Pattern :=
  c.items.foldl (fun p i => .seq i.pattern p) .empty

/-- The pattern of all alternatives. -/
def pattern (c : Content) : Pattern :=
  c.alternatives.foldl (fun p q => .alt q p) c.sequence

/-- The content with one more item. -/
def push (c : Content) (i : Item) : Content :=
  { c with items := i :: c.items }

/-- The content with a new alternative. -/
def nextAlternative (c : Content) : Content :=
  { alternatives := c.sequence :: c.alternatives }

end Content

/-- A group that is still open, with what there was around it when it was opened. -/
structure OpenGroup where
  kind : GroupKind
  outer : Content
  flags : List Flag
  behindFrom : Option Nat

/-- How far the reader has come. -/
structure Reading where
  content : Content := {}
  /-- The open groups, innermost first. -/
  groups : List OpenGroup := []
  /-- The flags in force. -/
  flags : List Flag := []
  /-- How many numbered groups have been opened. -/
  opened : Nat := 0
  names : List (List Char × Nat) := []
  /-- The widths of the numbered groups that are closed. -/
  widths : List (Nat × Width) := []
  /-- How many numbered groups there were at the outermost look behind a place that is still open. -/
  behindFrom : Option Nat := none
  /-- The numbers of groups that conditions ask for. -/
  awaited : List Nat := []
  /-- Whether something stands where it may not, which is found last. -/
  misplaced : Bool := false

namespace Reading

/-- Add an item that may be repeated. -/
def push (r : Reading) (p : Pattern) : Reading :=
  { r with content := r.content.push ⟨p, .repeatable⟩ }

/-- Add an item for one code point. -/
def pushPoint (r : Reading) (n : Nat) : Reading :=
  r.push (.one { casing := Flag.casing r.flags, items := [single n] })

/-- Add a place. -/
def pushPlace (r : Reading) (p : Place) : Reading :=
  { r with content := r.content.push ⟨.place p, .place⟩ }

/-- Open a group. -/
def openGroup (r : Reading) (kind : GroupKind) (flags : List Flag) : Reading :=
  { r with
    content := {}
    groups := ⟨kind, r.content, r.flags, r.behindFrom⟩ :: r.groups
    flags := flags
    behindFrom :=
      match kind, r.behindFrom with
      | .behind _, none => some r.opened
      | _, b => b }

/-- Open the next numbered group. -/
def openNumbered (r : Reading) : Reading :=
  { r with opened := r.opened + 1 }.openGroup (.numbered (r.opened + 1)) r.flags

/-- Open the next numbered group under a name. -/
def openNamed (r : Reading) (name : List Char) : Except Fault Reading :=
  if isGroupName name ∧ (r.names.lookup name).isNone then
    .ok { r with names := (name, r.opened + 1) :: r.names }.openNumbered
  else .error .malformed

/-- Close the innermost group. -/
def closeGroup (r : Reading) (g : OpenGroup) (groups : List OpenGroup) : Reading :=
  let p := r.content.pattern
  let r' :=
    { r with content := g.outer, groups := groups, flags := g.flags, behindFrom := g.behindFrom }
  match g.kind with
  | .plain => r'.push p
  | .numbered index =>
    { r' with widths := (index, p.width r.widths) :: r.widths }.push (.group index p)
  | .atomic => r'.push (.atomic p)
  | .ahead negated => r'.push (.ahead negated p)
  | .behind negated =>
    match (p.width r.widths).fixed? with
    | some width => r'.push (.behind negated width p)
    | none => { r' with misplaced := true }.push .empty
  | .conditional index =>
    match r.content.alternatives with
    | [] => r'.push (.conditional index p .empty)
    | q :: _ => r'.push (.conditional index q r.content.sequence)

/-- Start the next alternative.  A condition has only two. -/
def bar (r : Reading) : Except Fault Reading :=
  match r.groups, r.content.alternatives with
  | ⟨.conditional _, _, _, _⟩ :: _, _ :: _ => .error .malformed
  | _, _ => .ok { r with content := r.content.nextAlternative }

/-- Repeat the last item. -/
def repeatLast (r : Reading) (least : Nat) (most : Option Nat) (manner : Manner) :
    Except Fault Reading :=
  match r.content.items with
  | ⟨p, .repeatable⟩ :: items =>
    let content := { r.content with items := ⟨.repeated p least most manner, .repetition⟩ :: items }
    .ok { r with
      content := content
      misplaced := r.misplaced || r.flags.contains .template }
  | _ => .error .malformed

/-- Repeat the last item in the manner that a mark after the bounds asks for. -/
def repeatWith (r : Reading) (least : Nat) (most : Option Nat) (s : List Char) :
    Except Fault (Reading × List Char) :=
  match s with
  | '?' :: t => (r.repeatLast least most .reluctant).map fun r => (r, t)
  | '+' :: t => (r.repeatLast least most .possessive).map fun r => (r, t)
  | t => (r.repeatLast least most .greedy).map fun r => (r, t)

/-! ### References -/

/-- Whether a group is closed and may be referred to from here. -/
def mayRefer (r : Reading) (index : Nat) : Bool :=
  (r.widths.lookup index).isSome && r.behindFrom.all fun n => decide (index ≤ n)

/-- Add a reference to a group. -/
def pushReference (r : Reading) (index : Nat) : Except Fault Reading :=
  if r.mayRefer index then .ok (r.push (.reference index (Flag.casing r.flags)))
  else .error .malformed

/-- The number of the group that a condition asks for, and whether it is known to exist. -/
def conditionIndex? (r : Reading) (name : List Char) : Option (Nat × Bool) :=
  if isGroupName name then (r.names.lookup name).map fun index => (index, true)
  else
    match integer? (String.ofList name) with
    | some (.ofNat (n + 1)) => if n + 1 < 1073741823 then some (n + 1, false) else none
    | _ => none

/-- Open a group with a condition. -/
def openConditional (r : Reading) (name : List Char) : Except Fault Reading :=
  match r.conditionIndex? name with
  | none => .error .malformed
  | some (index, known) =>
    if r.behindFrom.isNone || r.mayRefer index then
      .ok
        ({ r with awaited := if known then r.awaited else index :: r.awaited }.openGroup
          (.conditional index) r.flags)
    else .error .malformed

/-! ### Escapes -/

/-- Read an escape that starts with a digit other than zero: three octal digits are a code point, and
one or two digits are the number of a group. -/
def digitEscape (r : Reading) (c : Char) (s : List Char) : Except Fault (Reading × List Char) :=
  match s with
  | d :: e :: t =>
    if isOctalDigit c && isOctalDigit d && isOctalDigit e then
      let n := (digitValue c * 8 + digitValue d) * 8 + digitValue e
      if n < 256 then .ok (r.pushPoint n, t) else .error .malformed
    else if isDigit d then
      (r.pushReference (digitsValue [c, d])).map fun r => (r, e :: t)
    else (r.pushReference (digitValue c)).map fun r => (r, s)
  | [d] =>
    if isDigit d then (r.pushReference (digitsValue [c, d])).map fun r => (r, [])
    else (r.pushReference (digitValue c)).map fun r => (r, s)
  | [] => (r.pushReference (digitValue c)).map fun r => (r, s)

/-- Read an escape after its backslash. -/
def escape (r : Reading) (s : List Char) : Except Fault (Reading × List Char) :=
  let ascii := r.flags.contains .ascii
  match s with
  | [] => .error .malformed
  | 'A' :: t => .ok (r.pushPlace .textStart, t)
  | 'Z' :: t => .ok (r.pushPlace .textEnd, t)
  | 'b' :: t => .ok (r.pushPlace (.boundary ascii false), t)
  | 'B' :: t => .ok (r.pushPlace (.boundary ascii true), t)
  | '0' :: t =>
    let (n, t) := octalNumber 2 0 t
    .ok (r.pushPoint n, t)
  | c :: t =>
    if isDigit c then r.digitEscape c t
    else
      match escapedItem? ascii c t with
      | some (.listed n, t) => .ok (r.pushPoint n, t)
      | some (i, t) => .ok (r.push (.one { items := [i] }), t)
      | none => .error .malformed

/-! ### Groups -/

/-- Read the flags of a group.  Flags for the whole pattern may stand only where nothing has been
read before them. -/
def flagGroup (r : Reading) (s : List Char) : Except Fault (Reading × List Char) :=
  match FlagGroup.read? s with
  | none => .error .malformed
  | some (.inside on off, t) => .ok (r.openGroup .plain (Flag.combine r.flags on off), t)
  | some (.whole on, t) =>
    if r.groups.isEmpty && r.content.alternatives.isEmpty && r.content.items.isEmpty then
      .ok ({ r with flags := r.flags ++ on }, t)
    else .error .malformed

/-- Read the start of a group after its opening parenthesis. -/
def groupStart (r : Reading) (s : List Char) : Except Fault (Reading × List Char) :=
  match s with
  | '?' :: ':' :: t => .ok (r.openGroup .plain r.flags, t)
  | '?' :: '>' :: t => .ok (r.openGroup .atomic r.flags, t)
  | '?' :: '=' :: t => .ok (r.openGroup (.ahead false) r.flags, t)
  | '?' :: '!' :: t => .ok (r.openGroup (.ahead true) r.flags, t)
  | '?' :: '<' :: '=' :: t => .ok (r.openGroup (.behind false) r.flags, t)
  | '?' :: '<' :: '!' :: t => .ok (r.openGroup (.behind true) r.flags, t)
  | '?' :: '#' :: t => (orMalformed (skipPast? ')' none t)).map fun t => (r, t)
  | '?' :: '(' :: t =>
    match upTo? ')' t with
    | some (name, t) => (r.openConditional name).map fun r => (r, t)
    | none => .error .malformed
  | '?' :: 'P' :: '<' :: t =>
    match upTo? '>' t with
    | some (name, t) => (r.openNamed name).map fun r => (r, t)
    | none => .error .malformed
  | '?' :: 'P' :: '=' :: t =>
    match upTo? ')' t with
    | some (name, t) =>
      match r.names.lookup name with
      | some index => (r.pushReference index).map fun r => (r, t)
      | none => .error .malformed
    | none => .error .malformed
  | '?' :: t => r.flagGroup t
  | t => .ok (r.openNumbered, t)

/-! ### The whole text -/

/-- Whether `c` is left out under the flag for verbose patterns. -/
def isVerboseBlank (c : Char) : Bool :=
  [' ', '\t', '\n', '\r', '\x0b', '\x0c'].contains c

/-- Read one item, mark or group start that is neither a bar nor the end of a group. -/
def step (r : Reading) (c : Char) (s : List Char) : Except Fault (Reading × List Char) :=
  if r.flags.contains .verbose && isVerboseBlank c then .ok (r, s)
  else if r.flags.contains .verbose && c == '#' then
    (orMalformed (skipPast? '\n' (some []) s)).map fun t => (r, t)
  else
    match c with
    | '\\' => r.escape s
    | '[' =>
      (orMalformed (set? (Flag.casing r.flags) (r.flags.contains .ascii) s)).map
        fun (set, t) => (r.push (.one set), t)
    | '*' => r.repeatWith 0 none s
    | '+' => r.repeatWith 1 none s
    | '?' => r.repeatWith 0 (some 1) s
    | '{' =>
      match boundDigits? s with
      | none => .ok (r.pushPoint c.toNat, s)
      | some (low, high, t) =>
        match bounds low high t with
        | .error e => .error e
        | .ok (least, most) => r.repeatWith least most t
    | '.' =>
      let items := if r.flags.contains .dotAll then [] else [single 10]
      .ok (r.push (.one { negated := true, items := items }), s)
    | '(' => r.groupStart s
    | '^' =>
      .ok (r.pushPlace (if r.flags.contains .everyLine then .lineStart else .textStart), s)
    | '$' =>
      .ok (r.pushPlace (if r.flags.contains .everyLine then .lineEnd else .lastLineEnd), s)
    | c => .ok (r.pushPoint c.toNat, s)

/-- The pattern when the text is read, or when the end of a group comes that is not open. -/
def finish (r : Reading) (atEnd : Bool) : Except Fault Pattern :=
  if !r.groups.isEmpty then .error .malformed
  else if Flag.areConflicting r.flags then .error .conflictingFlags
  else if !atEnd || r.awaited.any (fun n => decide (r.opened < n)) || r.misplaced then
    .error .malformed
  else .ok r.content.pattern

/-- Read a text. -/
def readAll (r : Reading) (s : List Char) : Except Fault Pattern :=
  match s with
  | [] => r.finish true
  | '|' :: t =>
    match r.bar with
    | .ok r => r.readAll t
    | .error e => .error e
  | ')' :: t =>
    match r.groups with
    | [] => r.finish false
    | g :: groups => (r.closeGroup g groups).readAll t
  | c :: t =>
    match r.step c t with
    | .error e => .error e
    | .ok (r, rest) => if rest.length < (c :: t).length then r.readAll rest else .error .malformed
termination_by s.length
decreasing_by
  · simp
  · simp
  · assumption

end Reading

/-- The pattern a text spells, or what is wrong with it. -/
def read (s : String) : Except Fault Pattern :=
  ({} : Reading).readAll s.toList

end Unreferenced.Pattern
