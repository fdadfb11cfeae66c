/-
Unreferenced/TranslationUnit/Lookup.lean

Looking names up in a translation unit.  Where the written text does not decide
between several functions, all of them are given.
-/
import Unreferenced.TranslationUnit.Basic

namespace Unreferenced

open Text

/-- The functions that accept so many arguments; all of them if none does, if there is no choice, or
if the number is not known. -/
def narrow (chains : List Chain) (arity : Option Nat) : List Chain :=
  if arity.isNone || decide (chains.length ≤ 1) then chains
  else
    match chains.filter fun c => c.accepts arity with
    | [] => chains
    | accepting => accepting

namespace TranslationUnit

variable (u : TranslationUnit)

/-- The functions of a name that are no members. -/
def freeFunctions (name : String) : List Chain :=
  u.chains.filter fun c => c.owner.isNone && c.name == name

/-- The methods of a name, of whatever class. -/
def methodsNamed (name : String) : List Chain :=
  u.chains.filter fun c => c.owner.isSome && c.name == name

/-- The methods of the class at a path. -/
def methodsOf (path : List String) : List Chain :=
  u.chains.filter fun c => c.owner == some path

/-- The methods of a name in the class at a path. -/
def methodsOfNamed (path : List String) (name : String) : List Chain :=
  u.chains.filter fun c => c.owner == some path && c.name == name

/-- The class that a spelling names. -/
def findClass (spelling : String) (enclosing : List String) : Option ClassType :=
  u.registry.resolve? spelling enclosing

/-- The class that a function is a member of. -/
def classOf (s : FunctionSite) : Option ClassType :=
  s.owner.bind u.registry.get?

/-- The methods of a name in a class or the nearest of its ancestors that has any. -/
def memberCandidates (c : ClassType) (name : String) : List Chain :=
  (((u.hierarchy.lineage c).map fun b => u.methodsOfNamed b.path name).find? fun l =>
    !l.isEmpty).getD []

/-- The first nonempty level of free functions, from a scope outwards; all of them if there is none. -/
def scopedFunctions (name : String) (enclosing : List String) : List Chain :=
  let functions := u.freeFunctions name
  (((outward enclosing).map fun scope =>
    functions.filter fun c => c.canonical.site.scopePath == scope).find? fun l =>
      !l.isEmpty).getD functions

/-- What an unqualified name means in a scope and a class. -/
def lookupUnqualified (name : String) (enclosing : List String) (owner : Option ClassType)
    (arity : Option Nat) : List Chain :=
  match owner.map fun c => u.memberCandidates c name with
  | some (m :: methods) => narrow (m :: methods) arity
  | _ => narrow (u.scopedFunctions name enclosing) arity

/-- Whether the scope of a function is the one that qualifiers name, or ends in it if they do not
start at the global scope. -/
def isQualifiedBy (c : Chain) (isAbsolute : Bool) (qualifiers : List String) : Bool :=
  let path := c.canonical.site.scopePath
  if isAbsolute then path == qualifiers else qualifiers.isSuffixOf path

/-- What a qualified name means in a scope. -/
def lookupQualified (spelling : String) (enclosing : List String) (arity : Option Nat) :
    List Chain :=
  let parts := Spelling.scopeParts spelling
  let name := parts.getLastD ""
  let isAbsolute := parts.dropLast.head? == some ""
  let qualifiers := parts.dropLast.filter fun q => q != ""
  let holder :=
    if qualifiers.isEmpty then none
    else u.registry.find? qualifiers (if isAbsolute then [] else enclosing)
  match holder.map fun c => u.memberCandidates c name with
  | some (m :: methods) => narrow (m :: methods) arity
  | _ =>
    narrow ((u.freeFunctions name ++ u.methodsNamed name).filter fun c =>
      isQualifiedBy c isAbsolute qualifiers) arity

/-- What a member name means for a receiver; any method of the name if its class is not known. -/
def lookupMember (name : String) (receiver : Option ClassType) (arity : Option Nat) : List Chain :=
  match receiver.map fun c => u.memberCandidates c name with
  | some (m :: methods) => narrow (m :: methods) arity
  | _ => narrow (u.methodsNamed name) arity

/-- Everything of a name. -/
def lookupAny (name : String) : List Chain :=
  u.freeFunctions name ++ u.methodsNamed name

/-! ### Construction -/

/-- The constructors of a class. -/
def constructors (c : ClassType) (arity : Option Nat) : List Chain :=
  narrow ((u.methodsOfNamed c.path (before '<' c.name)).filter fun m =>
    m.canonical.site.kind == .constructor) arity

/-- The methods of a class with those of one name together, in the order of the names. -/
def methodsByName (c : ClassType) : List Chain :=
  let methods := u.methodsOf c.path
  (OrderedSet.ofList (methods.map Chain.name)).toList.flatMap fun name =>
    methods.filter fun m => m.name == name

/-- The functions that making an object of a class may run although nothing is written: copying and
moving constructors, conversions, and the default constructors of bases and members. -/
def implicitUses (c : ClassType) : List Chain :=
  ((u.constructors c none).filter fun m =>
      Spelling.takesSameClass m.canonical.site.signature.types (before '<' c.name)) ++
    ((u.methodsByName c).filter fun m => m.canonical.site.kind == .conversion) ++
    ((u.hierarchy.directBases c).flatMap fun b => u.constructors b (some 0)) ++
    (u.registry.membersOf c).values.flatMap fun type =>
      match u.findClass type c.path with
      | some m => if m.path = c.path then [] else u.constructors m (some 0)
      | none => []

/-- Put a function at the end of a list, unless it is in it. -/
def addChain (chains : List Chain) (c : Chain) : List Chain :=
  if chains.any fun d => d.canonical.index == c.canonical.index then chains else chains ++ [c]

/-- The functions that making an object of a class uses. -/
def constructionUses (c : ClassType) (arity : Option Nat) : List Chain :=
  (u.implicitUses c).foldl addChain (u.constructors c arity)

end TranslationUnit

end Unreferenced
