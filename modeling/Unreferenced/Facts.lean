/-
Unreferenced/Facts.lean

The facts of one translation unit: which functions it defines and which it
uses, each function given by its canonical declaration.

A front end reports events: a definition written in some file, or a use of a
declaration.  `sighting` decides what an event counts for.  That decision looks
only at the event, never at earlier ones, so the facts after a sequence of
events are those of its events, in whatever order they come.
-/
import Unreferenced.Container.OrderedSet
import Unreferenced.Note
import Unreferenced.Violation

namespace Unreferenced

/-- The files of a translation unit, as far as facts depend on them. -/
structure UnitFiles where
  /-- The file that is compiled. -/
  main : String
  /-- Whether a file belongs to the system. -/
  isSystem : String → Bool

/-- The ways in which a function can be used. -/
inductive UseKind where
  | name
  | memberAccess
  | construction
  | loading
deriving DecidableEq, Repr

/-- What a front end reports. -/
inductive Event (δ : Type) where
  /-- A function definition is written somewhere. -/
  | definition (decl : δ)
  /-- Something is used; `none` if it is not a function. -/
  | use (kind : UseKind) (target : Option δ)
deriving DecidableEq, Repr

/-- What an event can count for. -/
inductive Role where
  | defines
  | uses
deriving DecidableEq, Repr

/-- A declaration seen to define or to use its function. -/
structure Sighting (δ : Type) where
  role : Role
  decl : δ
deriving DecidableEq, Repr

/-- The functions that a translation unit defines and uses. -/
structure Facts (δ : Type) where
  defs : OrderedSet δ
  uses : OrderedSet δ

namespace Facts

variable {δ : Type} (view : View δ) (files : UnitFiles)

/-- No facts. -/
def empty : Facts δ := ⟨.empty, .empty⟩

instance : Inhabited (Facts δ) := ⟨empty⟩

/-- The template that an instantiation was made from; any other declaration stands for itself. -/
def pattern (d : δ) : Except Violation δ :=
  if (view d).isInstantiation then
    match (view d).pattern with
    | some p => .ok p
    | none => .error (.noPattern (view d).qualifiedName)
  else .ok d

/-- Whether a definition counts: it is written in the main file, and it can be the target of a use.
A method that overrides another is used through the overridden one, the end of an object uses its
destructor unseen, and nobody calls the entry point. -/
def counts (d : δ) : Bool :=
  let x := view d
  !files.isSystem x.location.file && x.location.file == files.main &&
    !(x.isMethod && ((x.isVirtual && !x.isPure && x.overrides) || x.isDestructor)) && !x.isMain

/-- The declaration that a reported definition counts for. -/
def definedBy (d : δ) : Except Violation (Option δ) :=
  if !view.hasBody d || (view d).isImplicit then .ok none
  else
    match pattern view ((view d).memberPattern.getD d) with
    | .error v => .error v
    | .ok p => .ok (if counts view files p then some p else none)

/-- The declaration that a reported use counts for; what system headers declare does not count. -/
def usedBy (d : δ) : Except Violation (Option δ) :=
  if files.isSystem (view d).location.file then .ok none
  else (pattern view d).map some

/-- What an event counts for. -/
def sighting : Event δ → Except Violation (Option (Sighting δ))
  | .definition d => (definedBy view files d).map fun p => p.map (Sighting.mk .defines)
  | .use _ none => .ok none
  | .use _ (some d) => (usedBy view files d).map fun p => p.map (Sighting.mk .uses)

/-- The event followed by those it brings about: a function that runs at load time has no call, so
its definition uses it. -/
def reported (e : Event δ) : List (Event δ) :=
  match e with
  | .definition d =>
    match definedBy view files d with
    | .ok (some p) => if (view p).runsAtLoad then [e, .use .loading (some p)] else [e]
    | _ => [e]
  | _ => [e]

/-- Add a sighting to the facts. -/
def record [DecidableEq δ] (facts : Facts δ) (s : Sighting δ) : Facts δ :=
  match s.role with
  | .defines => { facts with defs := facts.defs.insert (view.canonical s.decl) }
  | .uses => { facts with uses := facts.uses.insert (view.canonical s.decl) }

/-- The note a sighting makes. -/
def note (s : Sighting δ) : Note :=
  match s.role with
  | .defines => .defines (view s.decl).qualifiedName
  | .uses => .uses (view s.decl).qualifiedName

/-- What is known after some events. -/
structure Observation (δ : Type) where
  facts : Facts δ
  notes : List Note
  /-- The violation that ended the observation. -/
  violation : Option Violation

/-- Observe events one after the other, up to the first violation. -/
def observeAll [DecidableEq δ] (facts : Facts δ) : List (Event δ) → Observation δ
  | [] => ⟨facts, [], none⟩
  | e :: es =>
    match sighting view files e with
    | .error v => ⟨facts, [], some v⟩
    | .ok none => observeAll facts es
    | .ok (some s) =>
      let later := observeAll (record view facts s) es
      { later with notes := note view s :: later.notes }

/-- Observe events and those they bring about. -/
def observe [DecidableEq δ] (facts : Facts δ) (events : List (Event δ)) : Observation δ :=
  observeAll view files facts (events.flatMap (reported view files))

end Facts

end Unreferenced
