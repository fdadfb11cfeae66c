/-
Unreferenced/Proofs/Redeclaration.lean

What the redeclarations of a function have in common.

Every declaration is named by the first one of its chain, so all declarations of
a chain have the symbol that the first one has by itself
(`Chained.symbol?_eq`).  That symbol is the key of the chain, and since no two
chains have one key, functions with one symbol are one function
(`Chained.canonical_eq_of_symbol?`).

The key of a destructor is no symbol.  It starts with the path of its class, and
a symbol starts with `c:` and no second colon after that
(`destructorKey_ne_symbol`).  So a chain with a key is named by its key whenever
one of its declarations is not that of a destructor.  This needs files that do not
start with a colon, and those of a loaded unit do not (`head?_file_load`).
-/
import Mathlib.Data.List.Nodup
import Unreferenced.Proofs.IncludeWalk
import Unreferenced.Proofs.MemberScope
import Unreferenced.Proofs.QualifiedScope
import Unreferenced.Proofs.SymbolDecoding

namespace Unreferenced

/-! ### The keys of destructors -/

/-- What the key of a destructor starts with. -/
theorem toList_destructorKey (name : String) (path : List String) :
    ∃ rest, ("::".intercalate (name :: path) ++ "::~").toList =
      name.toList ++ ':' :: ':' :: rest := by
  rcases path with - | ⟨next, path⟩
  · refine ⟨['~'], ?_⟩
    rw [String.intercalate_singleton, String.toList_append]
    rfl
  · refine ⟨("::".intercalate (next :: path) ++ "::~").toList, ?_⟩
    rw [String.intercalate_cons_cons]
    simp

/-- What a symbol starts with. -/
theorem FunctionSite.toList_symbol {s : FunctionSite} {symbol : Symbol} (h : s.symbol? = some symbol)
    (hfile : s.location.file.toList.head? ≠ some ':') :
    ∃ rest, symbol.toList = 'c' :: ':' :: rest ∧ rest.head? ≠ some ':' := by
  rw [symbol?_eq_some_iff] at h
  by_cases hc : s.alone.linkage = .c
  · refine ⟨'@' :: 'F' :: '@' :: s.name.toList, ?_, nofun⟩
    rw [Declaration.naming_of_c h hc, String.toList_append]
    rfl
  · refine ⟨_, Declaration.toList_of_naming h hc, ?_⟩
    have hscope : (scopeChars s.alone.scope ++ '@' :: 'F' :: s.alone.tailChars).head? = some '@' :=
      head?_scopeChars_append _ rfl
    rcases hchars : s.alone.fileChars with - | ⟨c, cs⟩
    · rw [List.nil_append, hscope]
      decide
    · -- the file is there, so the symbol goes on with it
      unfold Declaration.fileChars at hchars
      split at hchars
      · rw [show s.location.file.toList = c :: cs from hchars] at hfile
        exact hfile
      · cases hchars

/-- No symbol is the key of a destructor. -/
theorem destructorKey_ne_symbol {s : FunctionSite} {symbol : Symbol} (h : s.symbol? = some symbol)
    (hfile : s.location.file.toList.head? ≠ some ':') {path : List String}
    (hpath : ∀ name ∈ path, LacksAll [':'] name) : symbol ≠ "::".intercalate path ++ "::~" := by
  intro heq
  obtain ⟨rest, hsymbol, hrest⟩ := s.toList_symbol h hfile
  rcases path with - | ⟨name, path⟩
  · rw [heq] at hsymbol
    cases hsymbol
  · obtain ⟨more, hkey⟩ := toList_destructorKey name path
    rw [heq, hkey] at hsymbol
    -- the name ends at its first colon, and a second one follows
    obtain ⟨-, hcolons⟩ := cut_unique (p := (· == ':')) (b := ['c'])
      (fun c hc => (hpath name List.mem_cons_self).ne_of_mem hc List.mem_cons_self)
      (by simp) rfl rfl hsymbol
    rw [← (List.cons.inj hcolons).2] at hrest
    exact hrest rfl

/-- A key is the symbol of its declaration or that of a destructor. -/
theorem FunctionSite.key?_cases {s : FunctionSite} {key : String} (h : s.key? = some key) :
    s.symbol? = some key ∨
      s.kind = .destructor ∧ ∃ path, s.owner = some path ∧ key = "::".intercalate path ++ "::~" := by
  unfold key? at h
  split at h
  · next symbol hsymbol => exact .inl (hsymbol.trans h)
  · split at h
    · next path hkind howner => exact .inr ⟨hkind, path, howner, (Option.some.inj h).symm⟩
    · cases h

/-! ### The symbols of a unit -/

namespace TranslationUnit.Chained

variable {u : TranslationUnit} (hu : u.Chained)
include hu

theorem canonical_eq {c : Chain} {m : Member} (hc : c ∈ u.chains) (hm : m ∈ c.members) :
    u.view.canonical m.index = c.canonical.index := by
  unfold View.canonical
  rw [hu.view_eq hc hm]
  rfl

/-- All declarations of a function have the symbol that the first one has by itself. -/
theorem symbol?_eq {c : Chain} {m : Member} (hc : c ∈ u.chains) (hm : m ∈ c.members) :
    u.view.symbol? m.index = c.canonical.site.symbol? := by
  have hnamesake : u.view.namesake? m.index = some c.canonical.index := by
    unfold View.namesake?
    rw [hu.coherent_view.isInstantiation, hu.canonical_eq hc hm]
    rfl
  unfold View.symbol?
  rw [hnamesake]
  dsimp only
  rw [hu.view_eq hc List.mem_cons_self]
  rfl

/-- What has a symbol is a declaration in the chain with that key. -/
theorem exists_chain_of_symbol? {i : Nat} {symbol : Symbol} (h : u.view.symbol? i = some symbol) :
    ∃ c ∈ u.chains, c.key = some symbol ∧ u.view.canonical i = c.canonical.index := by
  rcases hu.view_cases i with ⟨c, hc, m, hm, rfl, -⟩ | hi
  · refine ⟨c, hc, ?_, hu.canonical_eq hc hm⟩
    rw [hu.symbol?_eq hc hm] at h
    rw [← hu.grouped.key_eq c hc c.canonical List.mem_cons_self]
    unfold FunctionSite.key?
    rw [h]
  · -- a number that stands for no declaration has no symbol
    have hnamesake : u.view.namesake? i = some i := by
      unfold View.namesake? View.canonical
      rw [hi]
      rfl
    unfold View.symbol? at h
    rw [hnamesake] at h
    dsimp only at h
    rw [hi] at h
    cases h

/-- Functions with one symbol are one function. -/
theorem canonical_eq_of_symbol? {i j : Nat} {symbol : Symbol} (hi : u.view.symbol? i = some symbol)
    (hj : u.view.symbol? j = some symbol) : u.view.canonical i = u.view.canonical j := by
  obtain ⟨c, hc, hck, hci⟩ := hu.exists_chain_of_symbol? hi
  obtain ⟨d, hd, hdk, hdj⟩ := hu.exists_chain_of_symbol? hj
  cases hu.grouped.eq_of_key hc hd (hck.trans hdk.symm) (by rw [hck]; exact Option.some_ne_none _)
  exact hci.trans hdj.symm

/-- A chain that holds a function other than a destructor is named by its key, whichever declaration
is asked. -/
theorem symbol?_eq_key
    (hnames : ∀ s ∈ u.functions, ∀ path ∈ s.owner, ∀ name ∈ path, LacksAll [':'] name)
    (hfiles : ∀ s ∈ u.functions, s.location.file.toList.head? ≠ some ':') {c : Chain}
    (hc : c ∈ u.chains) (hkey : c.key ≠ none) {m : Member} (hm : m ∈ c.members)
    (hkind : m.site.kind ≠ .destructor) {n : Member} (hn : n ∈ c.members) :
    u.view.symbol? n.index = c.key := by
  obtain ⟨key, hk⟩ := Option.ne_none_iff_exists'.1 hkey
  have hsite : ∀ {l : Member}, l ∈ c.members → l.site ∈ u.functions := fun hl =>
    Member.site_mem_of_mem_number (hu.mem_number hc hl)
  have hmk := hu.grouped.key_eq c hc m hm
  have hck := hu.grouped.key_eq c hc c.canonical List.mem_cons_self
  rw [hk] at hmk hck
  rw [hu.symbol?_eq hc hn, hk]
  rcases c.canonical.site.key?_cases hck with hsymbol | ⟨-, path, howner, rfl⟩
  · exact hsymbol
  · -- the key of a destructor would be the symbol of `m`
    rcases m.site.key?_cases hmk with hsymbol | ⟨hdestructor, -⟩
    · exact absurd rfl (destructorKey_ne_symbol hsymbol (hfiles _ (hsite hm))
        (hnames _ (hsite List.mem_cons_self) path howner))
    · exact absurd hdestructor hkind

/-- A declaration belongs to one chain only. -/
theorem eq_of_mem_members {c d : Chain} {m : Member} (hc : c ∈ u.chains) (hd : d ∈ u.chains)
    (hmc : m ∈ c.members) (hmd : m ∈ d.members) : c = d :=
  Option.some.inj ((Chain.of?_eq_some hu.nodup_indexes hc hmc).symm.trans
    (Chain.of?_eq_some hu.nodup_indexes hd hmd))

end TranslationUnit.Chained

/-! ### The chains of a unit -/

namespace TranslationUnit

/-- The tree of a sample file.

    struct S { ~S(); };
    void f();
    S::~S() {}
    void f() {} -/
def sampleTree : Node :=
  let node := Context.sampleNode
  let body := node "compound_statement" "body" "\x7b\x7d" []
  let declared := Context.sampleDeclarator "f()" (node "identifier" "declarator" "f" [])
  node "translation_unit" "" ""
    [node "struct_specifier" "" "struct S \x7b ~S(); \x7d"
        [node "type_identifier" "name" "S" [],
          node "field_declaration_list" "body" "\x7b ~S(); \x7d"
            [node "declaration" "" "~S();"
              [Context.sampleDeclarator "~S()" (node "destructor_name" "declarator" "~S" [])]]],
      node "declaration" "" "void f();" [node "primitive_type" "type" "void" [], declared],
      node "function_definition" "" "S::~S() \x7b\x7d"
        [Context.sampleDeclarator "S::~S()" (node "qualified_identifier" "declarator" "S::~S"
            [node "namespace_identifier" "scope" "S" [], node "destructor_name" "name" "~S" []]), body],
      node "function_definition" "" "void f() \x7b\x7d"
        [node "primitive_type" "type" "void" [], declared, body]]

/-- The include graph of the sample file. -/
def sampleGraph : IncludeGraph where
  files := OrderedMap.empty.insert "/p/a.cpp" sampleTree
  order := ["/p/a.cpp"]

/-- The unit of the sample file. -/
def sampleUnit : TranslationUnit :=
  ofGraph "/p/a.cpp" .cpp ⟨[], [], []⟩ sampleGraph

/-- **Chains partition the declarations of a unit by identity.**  Every declaration belongs to exactly
one chain.  A chain lists its declarations in include order and is represented by the first of them,
and the chains stand in the order of their first declarations.  Two declarations share a chain
exactly if they have one key.  If no name on the path of a class contains a colon and no file starts
with one, a chain that holds some function other than a destructor is named by its key, through
whichever of its declarations it is named. -/
theorem partition_ofGraph (main : String) (language : Language) (search : SearchPath)
    (graph : IncludeGraph) :
    let u := ofGraph main language search graph
    u.chains.Nodup ∧
      (∀ m ∈ Member.number u.functions, ∃! c, c ∈ u.chains ∧ m ∈ c.members) ∧
      (∀ c ∈ u.chains, c.members.Sublist (Member.number u.functions) ∧
        ∀ m ∈ c.members, u.view.canonical m.index = c.canonical.index) ∧
      (u.chains.map Chain.canonical).Sublist (Member.number u.functions) ∧
      (∀ m ∈ Member.number u.functions, ∀ n ∈ Member.number u.functions, m ≠ n →
        ((∃ c ∈ u.chains, m ∈ c.members ∧ n ∈ c.members) ↔
          m.site.key? = n.site.key? ∧ m.site.key? ≠ none)) ∧
      ((∀ s ∈ u.functions, ∀ path ∈ s.owner, ∀ name ∈ path, LacksAll [':'] name) →
        (∀ s ∈ u.functions, s.location.file.toList.head? ≠ some ':') →
        ∀ c ∈ u.chains, c.key ≠ none → ∀ m ∈ c.members, m.site.kind ≠ .destructor →
          ∀ n ∈ c.members, u.view.symbol? n.index = c.key) := by
  intro u
  have hu : u.Chained := chained_ofGraph main language search graph
  refine ⟨?_, ?_, ?_, hu.grouped.canonical_sublist, ?_, ?_⟩
  · have hnodup := List.Nodup.of_map _ (Member.nodup_index_number u.functions)
    exact List.Nodup.of_map _ (hnodup.sublist hu.grouped.canonical_sublist)
  · intro m hm
    obtain ⟨c, hc, hmc⟩ := hu.exists_chain hm
    exact ⟨c, ⟨hc, hmc⟩, fun d ⟨hd, hmd⟩ => hu.eq_of_mem_members hd hc hmd hmc⟩
  · intro c hc
    exact ⟨hu.grouped.members_sublist c hc, fun m hm => hu.canonical_eq hc hm⟩
  · intro m hm n hn hmn
    exact hu.grouped.share_iff hu.members_perm hm hn hmn
  · intro hnames hfiles c hc hkey m hm hkind n hn
    exact hu.symbol?_eq_key hnames hfiles hc hkey hm hkind hn

/-- The sample unit has a chain for the destructor and one for `f`, whose declarations take turns.
Through either of them, `f` is named by the key of its chain. -/
theorem partition_ofGraph_sample :
    sampleUnit.chains.map (fun c => (c.key, c.indexes)) =
        [(some "S::~", [0, 2]), (some "c:@F@f#", [1, 3])] ∧
      (∀ s ∈ sampleUnit.functions, ∀ path ∈ s.owner, ∀ name ∈ path, LacksAll [':'] name) ∧
      (∀ s ∈ sampleUnit.functions, s.location.file.toList.head? ≠ some ':') ∧
      ∀ c ∈ sampleUnit.chains, c.key ≠ none → ∀ m ∈ c.members, m.site.kind ≠ .destructor →
        ∀ n ∈ c.members, sampleUnit.view.symbol? n.index = c.key := by
  have hnames : ∀ s ∈ sampleUnit.functions, ∀ path ∈ s.owner, ∀ name ∈ path, LacksAll [':'] name := by
    decide +kernel
  have hfiles : ∀ s ∈ sampleUnit.functions, s.location.file.toList.head? ≠ some ':' := by
    decide +kernel
  obtain ⟨-, -, -, -, -, hsymbol⟩ := partition_ofGraph "/p/a.cpp" .cpp ⟨[], [], []⟩ sampleGraph
  exact ⟨by decide +kernel, hnames, hfiles, hsymbol hnames hfiles⟩

/-- No function of a loaded unit stands in a file that starts with a colon. -/
theorem head?_file_load (fs : FileSystem) {command : CompileCommand} (hcommand : command.IsAbsolute)
    (systemDirs : List String) {s : FunctionSite}
    (hs : s ∈ (load fs command systemDirs).functions) :
    s.location.file.toList.head? ≠ some ':' := by
  have hfile := IncludeGraph.Walk.isNormalSpelling_of_mem_order fs command.language
    (hcommand.ofCommand fs.workingDirectory systemDirs) hcommand.file (file_mem_order hs)
  obtain ⟨rest, hrest⟩ := hfile.isAbsolute.exists_cons
  rw [hrest]
  exact fun h => absurd (Option.some.inj h) (by decide)

/-- **The symbols of a loaded unit.**  In the unit of a command that was made from arguments, a chain
with a key that holds some function other than a destructor is named by its key, if no name on the
path of a class contains a colon. -/
theorem symbol?_load (fs : FileSystem) (wd : WorkingDirectory) (file directory : String)
    (arguments systemDirs : List String) :
    let u := load fs (CompileCommand.ofArguments wd file directory arguments) systemDirs
    (∀ s ∈ u.functions, ∀ path ∈ s.owner, ∀ name ∈ path, LacksAll [':'] name) →
      ∀ c ∈ u.chains, c.key ≠ none → ∀ m ∈ c.members, m.site.kind ≠ .destructor →
        ∀ n ∈ c.members, u.view.symbol? n.index = c.key := by
  intro u hnames c hc hkey m hm hkind n hn
  have hu : u.Chained := chained_ofGraph _ _ _ _
  have hcommand := CompileCommand.isAbsolute_ofArguments wd file directory arguments
  exact hu.symbol?_eq_key hnames (fun s hs => head?_file_load fs hcommand systemDirs hs) hc hkey hm
    hkind hn

end TranslationUnit

end Unreferenced
