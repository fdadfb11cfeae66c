/-
Unreferenced/Proofs/QualifiedLookup.lean

What qualified names are looked up to.

A function is found behind the scopes around it exactly if the last component of
the spelling is its name and no class gets in the way: the qualifiers may lead to
a class, and then it is the methods of this class and its ancestors that count
(`mem_behind_iff`).

Seen from the global scope a function is found under its own qualified name.  An
operator function is found behind its scopes only in one spelling.  Its name is
the canonical spelling of the operator, while the spelling of a use is taken as it
is written: any other spacing is another name, and `operator<=>` loses what looks
like template arguments.
-/
import Unreferenced.Proofs.MemberScope
import Unreferenced.Proofs.NameLookup
import Unreferenced.Proofs.ScopeSpelling
import Unreferenced.Spelling.OperatorName

namespace Unreferenced

open Text Spelling

/-- Narrowing keeps every function that accepts the arguments. -/
theorem mem_narrow_iff {found : List Chain} {arity : Option Nat} {e : Chain}
    (h : e.accepts arity = true) : e ∈ narrow found arity ↔ e ∈ found := by
  refine ⟨fun he => (narrow_sublist found arity).subset he, fun he => ?_⟩
  rw [narrow_eq]
  split
  · exact List.mem_filter.2 ⟨he, h⟩
  · exact he

namespace TranslationUnit

variable {u : TranslationUnit} {e : Chain}

/-! ### Behind qualifiers -/

theorem name_of_mem_memberCandidates {k : ClassType} {name : String}
    (h : e ∈ u.memberCandidates k name) : e.name = name := by
  unfold memberCandidates at h
  rcases hfind : ((u.hierarchy.lineage k).map fun b => u.methodsOfNamed b.path name).find?
      fun l => !l.isEmpty with - | found
  · rw [hfind] at h
    cases h
  · rw [hfind] at h
    obtain ⟨b, -, rfl⟩ := List.mem_map.1 (List.mem_of_find?_eq_some hfind)
    exact (mem_methodsOfNamed.1 h).2.2

/-- The methods of a class are found in it, whatever its ancestors have. -/
theorem mem_memberCandidates_of_owner (he : e ∈ u.chains) {k : ClassType}
    (howner : e.owner = some k.path) : e ∈ u.memberCandidates k e.name := by
  have hmem : e ∈ u.methodsOfNamed k.path e.name := mem_methodsOfNamed.2 ⟨he, howner, rfl⟩
  have hfirst : IsFirst (fun b : ClassType => u.methodsOfNamed b.path e.name)
      (u.hierarchy.lineage k) k :=
    ⟨[], _, rfl, List.ne_nil_of_mem hmem, List.forall_mem_nil _⟩
  have hcandidates : u.memberCandidates k e.name = u.methodsOfNamed k.path e.name :=
    hfirst.getD_find? []
  rw [hcandidates]
  exact hmem

/-- The methods of a name in the class that qualifiers lead to. -/
def heldMethods (u : TranslationUnit) (path : List String) (name : String)
    (enclosing : List String) : List Chain :=
  ((u.registry.find? path enclosing).map fun k => u.memberCandidates k name).getD []

/-- The functions that a name behind qualifiers may mean, whatever the arguments are. -/
def behind (u : TranslationUnit) (isAbsolute : Bool) (path : List String) (name : String)
    (enclosing : List String) : List Chain :=
  let held := if path = [] then [] else u.heldMethods path name enclosing
  if held = [] then
    (u.freeFunctions name ++ u.methodsNamed name).filter fun c => isQualifiedBy c isAbsolute path
  else held

/-- The components of a spelling with qualifiers: an empty one comes first if it starts at the
global scope. -/
def components (isAbsolute : Bool) (path : List String) (name : String) : List String :=
  (if isAbsolute then [""] else []) ++ path ++ [name]

/-- Looking a qualified name up is cutting its spelling and narrowing what the components mean. -/
theorem lookupQualified_eq {spelling name : String} {isAbsolute : Bool} {path : List String}
    (hparts : scopeParts spelling = components isAbsolute path name) (hpath : ∀ q ∈ path, q ≠ "")
    (hne : isAbsolute = false → path ≠ []) (enclosing : List String) (arity : Option Nat) :
    u.lookupQualified spelling enclosing arity =
      narrow (u.behind isAbsolute path name (if isAbsolute then [] else enclosing)) arity := by
  have hfront : (scopeParts spelling).dropLast = (if isAbsolute then [""] else []) ++ path := by
    rw [hparts, components, List.dropLast_concat]
  have hlast : (scopeParts spelling).getLastD "" = name := by
    rw [hparts, components, List.getLastD_concat]
  have hfilter : (scopeParts spelling).dropLast.filter (fun q => q != "") = path := by
    have hall : path.filter (fun q => q != "") = path :=
      List.filter_eq_self.2 fun q hq => bne_iff_ne.2 (hpath q hq)
    rw [hfront, List.filter_append, hall]
    cases isAbsolute <;> rfl
  have hhead : ((scopeParts spelling).dropLast.head? == some "") = isAbsolute := by
    rw [hfront]
    cases isAbsolute with
    | true => rfl
    | false =>
      obtain ⟨q, path, rfl⟩ := List.exists_cons_of_ne_nil (hne rfl)
      simpa using hpath q List.mem_cons_self
  unfold lookupQualified behind heldMethods
  simp only [hlast, hfilter, hhead]
  by_cases hnil : path = []
  · simp [hnil]
  · have hempty : path.isEmpty = false := by simpa using hnil
    simp only [hempty, Bool.false_eq_true, if_false, if_neg hnil]
    rcases u.registry.find? path (if isAbsolute = true then [] else enclosing) with - | k
    · rfl
    · simp only [Option.map_some, Option.getD_some]
      rcases u.memberCandidates k name with - | ⟨m, methods⟩
      · rfl
      · rfl

/-- The class that qualifiers lead to gets in the way of a function: there are methods of the name
in it or an ancestor, and the function is none of those found. -/
def Obstructs (u : TranslationUnit) (k : ClassType) (e : Chain) : Prop :=
  u.memberCandidates k e.name ≠ [] ∧ e ∉ u.memberCandidates k e.name

theorem isQualifiedBy_scopePath (e : Chain) (isAbsolute : Bool) :
    isQualifiedBy e isAbsolute e.canonical.site.scopePath = true := by
  unfold isQualifiedBy
  cases isAbsolute with
  | true => exact beq_self_eq_true _
  | false => exact List.isSuffixOf_iff_suffix.2 (List.suffix_refl _)

/-- A function is meant behind the scopes around it exactly under its name, unless a class gets in
the way. -/
theorem mem_behind_iff (he : e ∈ u.chains) (isAbsolute : Bool) (name : String)
    (enclosing : List String) :
    e ∈ u.behind isAbsolute e.canonical.site.scopePath name enclosing ↔ e.name = name ∧
      (e.canonical.site.scopePath ≠ [] →
        ∀ k ∈ u.registry.find? e.canonical.site.scopePath enclosing, ¬u.Obstructs k e) := by
  have hany : e ∈ (u.freeFunctions name ++ u.methodsNamed name).filter (fun c =>
      isQualifiedBy c isAbsolute e.canonical.site.scopePath) ↔ e.name = name := by
    rw [List.mem_filter, List.mem_append, mem_freeFunctions, mem_methodsNamed,
      isQualifiedBy_scopePath]
    simp only [he, true_and, and_true]
    tauto
  unfold behind heldMethods
  by_cases hnil : e.canonical.site.scopePath = []
  · simp only [if_pos hnil, if_true, hany]
    simp [hnil]
  simp only [if_neg hnil]
  rcases hfind : u.registry.find? e.canonical.site.scopePath enclosing with - | k
  · simp only [Option.map_none, Option.getD_none, if_true, hany]
    simp
  simp only [Option.map_some, Option.getD_some, Option.mem_some, forall_eq', Obstructs, not_and,
    not_not]
  split
  · next hlacks =>
    rw [hany]
    refine ⟨fun hname => ⟨hname, fun _ hsome => ?_⟩, fun h => h.1⟩
    rw [hname] at hsome
    exact absurd hlacks hsome
  · next hsome =>
    constructor
    · intro hmem
      have hname := name_of_mem_memberCandidates hmem
      exact ⟨hname, fun _ _ => by rwa [hname]⟩
    · rintro ⟨hname, hopen⟩
      rw [← hname] at hsome ⊢
      exact hopen hnil hsome

/-! ### From the global scope -/

/-- Seen from the global scope, the qualifiers of a function lead to the class of which it is a
method or to none at all. -/
theorem not_obstructs_of_absolute {main : String} {language : Language} {search : SearchPath}
    {graph : IncludeGraph} (he : e ∈ (ofGraph main language search graph).chains)
    (hclass : (∃ path k, e.owner = some path ∧
        (ofGraph main language search graph).registry.get? path = some k) ∨
      (ofGraph main language search graph).registry.get? e.canonical.site.scopePath = none) :
    ∀ k ∈ (ofGraph main language search graph).registry.find? e.canonical.site.scopePath [],
      ¬(ofGraph main language search graph).Obstructs k e := by
  intro k hk
  have hget : (ofGraph main language search graph).registry.get? e.canonical.site.scopePath =
      some k := by
    have hone : outward [] = [[]] := rfl
    simpa [Registry.find?, hone] using hk
  rcases hclass with ⟨path, c, howner, -⟩ | hnone
  · have hscope := scopePath_canonical he howner
    have hpath := (ofGraph main language search graph).registry.path_eq hget
    rw [hscope] at hpath
    exact fun h => h.2 (mem_memberCandidates_of_owner he (hpath ▸ howner))
  · rw [hnone] at hget
    cases hget

/-- The tree of a sample file.

    namespace N {
    struct C { static void m(); };
    void f();
    void operator==();
    void operator<=>();
    } -/
def qualifiedTree : Node :=
  let node := Context.sampleNode
  let function (kind name : String) : Node :=
    node "declaration" "" ("void " ++ name ++ "();")
      [node "primitive_type" "type" "void" [],
        Context.sampleDeclarator (name ++ "()") (node kind "declarator" name [])]
  node "translation_unit" "" ""
    [node "namespace_definition" "" ""
      [node "namespace_identifier" "name" "N" [],
        node "declaration_list" "body" ""
          [node "struct_specifier" "" "struct C \x7b static void m(); \x7d"
              [node "type_identifier" "name" "C" [],
                node "field_declaration_list" "body" "\x7b static void m(); \x7d"
                  [node "field_declaration" "" "static void m();"
                    [node "storage_class_specifier" "" "static" [],
                      node "primitive_type" "type" "void" [],
                      Context.sampleDeclarator "m()"
                        (node "field_identifier" "declarator" "m" [])]]],
            function "identifier" "f",
            function "operator_name" "operator==",
            function "operator_name" "operator<=>"]]]

/-- The include graph of the sample file. -/
def qualifiedGraph : IncludeGraph where
  files := OrderedMap.empty.insert "/p/a.cpp" qualifiedTree
  order := ["/p/a.cpp"]

/-- The unit of the sample file. -/
def qualifiedUnit : TranslationUnit :=
  ofGraph "/p/a.cpp" .cpp ⟨[], [], []⟩ qualifiedGraph

/-- **A function is found under its qualified name.**  Let the names of a function and of the scopes
around it, anonymous namespaces left out, be such that they can stand between double colons, and let
the function be a method of a class that is known or stand in a scope that is no class.  Spelled
from the global scope its qualified name finds it, wherever the name is looked up, with any number
of arguments that it accepts or with none given. -/
theorem mem_lookupQualified_self {main : String} {language : Language} {search : SearchPath}
    {graph : IncludeGraph} {e : Chain} (he : e ∈ (ofGraph main language search graph).chains)
    (hname : IsComponent e.name) (hscope : ∀ q ∈ e.canonical.site.scopePath, IsComponent q)
    (hclass : (∃ path k, e.owner = some path ∧
        (ofGraph main language search graph).registry.get? path = some k) ∨
      (ofGraph main language search graph).registry.get? e.canonical.site.scopePath = none)
    (enclosing : List String) {arity : Option Nat} (haccepts : e.accepts arity = true) :
    e ∈ (ofGraph main language search graph).lookupQualified
      (join ("" :: (e.canonical.site.scopePath ++ [e.name]))) enclosing arity := by
  have hlast : String.ofList (trim (dropTemplateArgs e.name.toList)) = e.name := by
    have hfree : ¬IsBracketed e.name.toList := fun hb => hname.not_mem_angle (hb.subset (by simp))
    rw [dropTemplateArgs_eq_self hfree, hname.trim_toList, String.ofList_toList]
  have hparts : scopeParts (join ("" :: (e.canonical.site.scopePath ++ [e.name]))) =
      components true e.canonical.site.scopePath e.name := by
    rw [← List.cons_append, scopeParts_join ?_ hname.2, hlast]
    · rfl
    · exact List.forall_mem_cons.2 ⟨.inl rfl, fun q hq => .inr (hscope q hq)⟩
  rw [lookupQualified_eq hparts (fun q hq => (hscope q hq).ne_empty) nofun, mem_narrow_iff haccepts,
    if_pos rfl, mem_behind_iff he]
  exact ⟨rfl, fun _ => not_obstructs_of_absolute he hclass⟩

/-- In the sample file the method and the function of the namespace are both found, from inside the
namespace too. -/
theorem mem_lookupQualified_self_sample :
    (∃ e ∈ qualifiedUnit.chains, e.owner = some ["N", "C"] ∧ e.accepts (some 0) = true ∧
        e ∈ qualifiedUnit.lookupQualified "::N::C::m" ["N"] (some 0)) ∧
      ∃ e ∈ qualifiedUnit.chains, e.owner = none ∧
        e ∈ qualifiedUnit.lookupQualified "::N::f" ["N", "C"] none := by
  have hmethod : ∃ e ∈ qualifiedUnit.chains, e.owner = some ["N", "C"] ∧
      e.accepts (some 0) = true ∧ IsComponent e.name ∧
      (∀ q ∈ e.canonical.site.scopePath, IsComponent q) ∧
      (qualifiedUnit.registry.get? ["N", "C"]).isSome = true ∧
      join ("" :: (e.canonical.site.scopePath ++ [e.name])) = "::N::C::m" := by
    decide +kernel
  have hfunction : ∃ e ∈ qualifiedUnit.chains, e.owner = none ∧ IsComponent e.name ∧
      (∀ q ∈ e.canonical.site.scopePath, IsComponent q) ∧
      qualifiedUnit.registry.get? e.canonical.site.scopePath = none ∧
      join ("" :: (e.canonical.site.scopePath ++ [e.name])) = "::N::f" := by
    decide +kernel
  refine ⟨?_, ?_⟩
  · obtain ⟨e, he, howner, haccepts, hname, hscope, hclass, htext⟩ := hmethod
    obtain ⟨k, hk⟩ := Option.isSome_iff_exists.1 hclass
    refine ⟨e, he, howner, haccepts, htext ▸ ?_⟩
    exact mem_lookupQualified_self he hname hscope (.inl ⟨_, k, howner, hk⟩) ["N"] haccepts
  · obtain ⟨e, he, howner, hname, hscope, hnone, htext⟩ := hfunction
    refine ⟨e, he, howner, htext ▸ ?_⟩
    exact mem_lookupQualified_self he hname hscope (.inr hnone) ["N", "C"] rfl

/-! ### Operators -/

/-- **Operators behind qualifiers.**  Let a text spell an operator whose function has a name without
colons, as every operator has, and let the names of the scopes around the function be such that they
can stand between double colons.

Behind these scopes the text finds the function exactly if it is the canonical spelling of the
operator up to the blanks at its ends, no `<` in the operator stands before a `>`, and no class gets
in the way. -/
theorem mem_lookupQualified_operator_iff {main : String} {language : Language}
    {search : SearchPath} {graph : IncludeGraph} {e : Chain}
    (he : e ∈ (ofGraph main language search graph).chains) (hcolon : ':' ∉ e.name.toList)
    (hscope : ∀ q ∈ e.canonical.site.scopePath, IsComponent q) {s : String}
    (hoperator : beginsWith "operator" s = true) (hname : operatorName s = e.name)
    (enclosing : List String) (arity : Option Nat) (haccepts : e.accepts arity = true) :
    e ∈ (ofGraph main language search graph).lookupQualified
        (join e.canonical.site.scopePath ++ "::" ++ s) enclosing arity ↔
      String.ofList (trim s.toList) = e.name ∧ ¬IsBracketed e.name.toList ∧
        (e.canonical.site.scopePath ≠ [] →
          ∀ k ∈ (ofGraph main language search graph).registry.find? e.canonical.site.scopePath
              enclosing, ¬(ofGraph main language search graph).Obstructs k e) := by
  have htext : e.name.toList = canonicalOperator s.toList := by
    rw [← hname, operatorName, String.toList_ofList]
  have hsolid : solid e.name.toList = solid s.toList := by
    rw [htext, solid_canonicalOperator (List.isPrefixOf_iff_prefix.1 hoperator)]
  have hlast : ':' ∉ s.toList := (mem_iff_of_solid hsolid (by decide)).not.1 hcolon
  -- the name is compared with what is left of the text
  have hcut : e.name = String.ofList (trim (dropTemplateArgs s.toList)) ↔
      String.ofList (trim s.toList) = e.name ∧ ¬IsBracketed e.name.toList := by
    rw [eq_comm, ← String.toList_inj, ← String.toList_inj, String.toList_ofList,
      String.toList_ofList]
    exact trim_dropTemplateArgs_eq_iff hsolid
  by_cases hglobal : e.canonical.site.scopePath = []
  · have hparts : scopeParts (join e.canonical.site.scopePath ++ "::" ++ s) =
        components true e.canonical.site.scopePath
          (String.ofList (trim (dropTemplateArgs s.toList))) := by
      have hspelling : join e.canonical.site.scopePath ++ "::" ++ s = join ([""] ++ [s]) := by
        rw [hglobal]
        simp [join]
      rw [hspelling, hglobal]
      exact scopeParts_join (by simp) hlast
    rw [lookupQualified_eq hparts (by simp [hglobal]) (fun h => Bool.noConfusion h),
      mem_narrow_iff haccepts, mem_behind_iff he, hcut, and_assoc]
    simp [hglobal]
  · have hparts : scopeParts (join e.canonical.site.scopePath ++ "::" ++ s) =
        components false e.canonical.site.scopePath
          (String.ofList (trim (dropTemplateArgs s.toList))) := by
      rw [join_concat hglobal]
      exact scopeParts_join (fun q hq => .inr (hscope q hq)) hlast
    rw [lookupQualified_eq hparts (fun q hq => (hscope q hq).ne_empty) (fun _ => hglobal),
      mem_narrow_iff haccepts, if_neg Bool.false_ne_true, mem_behind_iff he, hcut, and_assoc]

/-- In the sample file `operator==` is found as it is declared, and not with a blank before the
symbol. `operator<=>` is not found in the spelling in which it is declared. -/
theorem mem_lookupQualified_operator_iff_sample :
    (∃ e ∈ qualifiedUnit.chains, operatorName "operator ==" = e.name ∧
        e ∈ qualifiedUnit.lookupQualified "N::operator==" [] none ∧
        e ∉ qualifiedUnit.lookupQualified "N::operator ==" [] none) ∧
      ∃ e ∈ qualifiedUnit.chains, e.name = "operator<=>" ∧
        e ∉ qualifiedUnit.lookupQualified "N::operator<=>" [] none := by
  have hequal : ∃ e ∈ qualifiedUnit.chains, e.name = "operator==" ∧
      e.canonical.site.scopePath = ["N"] := by
    decide +kernel
  have hcompare : ∃ e ∈ qualifiedUnit.chains, e.name = "operator<=>" ∧
      e.canonical.site.scopePath = ["N"] := by
    decide +kernel
  have hnone : qualifiedUnit.registry.find? ["N"] [] = none := by decide +kernel
  have hscope : ∀ {e : Chain}, e.canonical.site.scopePath = ["N"] →
      ∀ q ∈ e.canonical.site.scopePath, IsComponent q := by
    intro e hpath
    rw [hpath]
    decide +kernel
  refine ⟨?_, ?_⟩
  · obtain ⟨e, he, hname, hpath⟩ := hequal
    have hcolon : ':' ∉ e.name.toList := by rw [hname]; decide +kernel
    have htight := mem_lookupQualified_operator_iff he hcolon (hscope hpath) (s := "operator==")
      (by decide +kernel) (by rw [hname]; decide +kernel) [] none rfl
    have hspaced := mem_lookupQualified_operator_iff he hcolon (hscope hpath) (s := "operator ==")
      (by decide +kernel) (by rw [hname]; decide +kernel) [] none rfl
    rw [hpath, hname] at htight hspaced
    refine ⟨e, he, by rw [hname]; decide +kernel, htight.2 ⟨?_, ?_, ?_⟩,
      fun h => absurd (hspaced.1 h).1 (by decide +kernel)⟩
    · decide +kernel
    · decide +kernel
    intro _ k hk
    exact absurd (hnone.symm.trans hk) nofun
  · obtain ⟨e, he, hname, hpath⟩ := hcompare
    have hcolon : ':' ∉ e.name.toList := by rw [hname]; decide +kernel
    have hwritten := mem_lookupQualified_operator_iff he hcolon (hscope hpath) (s := "operator<=>")
      (by decide +kernel) (by rw [hname]; decide +kernel) [] none rfl
    rw [hpath, hname] at hwritten
    exact ⟨e, he, hname, fun h => (hwritten.1 h).2.1 (by decide +kernel)⟩

end TranslationUnit

end Unreferenced
