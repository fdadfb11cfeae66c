/-
Unreferenced/Proofs/OutOfLine.lean

Members that are declared in the body of their class and defined at file scope.

The declaration is read in the context of the body, where class and scope are
known.  The definition is read at file scope, in the same file or in another one
that includes it, and everything comes from what is written: the qualifiers lead
to the class, since they spell its path (`qualifierScopes_of_spellsPath`); the
template headers are divided between the class templates along the path and the
member itself (`ownTemplateArity_eq`); and the parameters and the qualifiers
after them are the same as in the class, up to their places in the file.

Nothing on the way from the body, or from the start of the file, may open a
scope.  Such a way changes contexts in their template headers only
(`Leads.of_keepsScope`).
-/
import Unreferenced.Proofs.DeclaratorPlace
import Unreferenced.Proofs.QualifierSpelling
import Unreferenced.Proofs.Unplaced

namespace Unreferenced

open Text

/-! ### Ways that open no scope -/

namespace Node

/-- Whether what stands inside the node stands in the same scope. -/
def keepsScope (n : Node) : Bool :=
  n.isOneOf ("ERROR" :: "linkage_specification" :: "template_declaration" :: transparentKinds)

/-- The template headers before what stands inside the node. -/
def headersInside (headers : List Nat) (n : Node) : List Nat :=
  if n.kind = "template_declaration" then headers ++ [n.templateParameterCount]
  else if n.kind = "ERROR" then headers
  else []

end Node

namespace Context

theorem inside_of_keepsScope {n : Node} (h : n.keepsScope = true) (ctx : Context) (r : Registry)
    (file : String) :
    (ctx.inside r file n).scope = ctx.scope ∧ (ctx.inside r file n).owner = ctx.owner ∧
      (ctx.inside r file n).templates = n.headersInside ctx.templates := by
  rcases List.mem_cons.1 (Node.isOneOf_iff.1 h) with hkind | hmem
  · simp [inside, Node.headersInside, hkind]
  rcases List.mem_cons.1 hmem with hkind | hmem
  · simp [inside, Node.headersInside, Node.isOneOf, transparentKinds, hkind, enterLinkage]
  rcases List.mem_cons.1 hmem with hkind | hmem
  · simp [inside, Node.headersInside, Node.isOneOf, transparentKinds, hkind, enterTemplate]
  · have hdistinct : ∀ k ∈ transparentKinds, k ≠ "ERROR" ∧ k ≠ "template_declaration" := by decide
    obtain ⟨herror, htemplate⟩ := hdistinct _ hmem
    rw [inside, if_neg herror, if_pos (Node.isOneOf_iff.2 hmem), Node.headersInside,
      if_neg htemplate, if_neg herror]
    exact ⟨rfl, rfl, rfl⟩

/-- A way that opens no scope leads to a context with the same scope and the same class. -/
theorem Leads.of_keepsScope {file : String} {r r' : Registry} {ctx ctx' : Context}
    {nodes : List Node} (h : ctx.Leads file r nodes r' ctx')
    (hnodes : ∀ n ∈ nodes, n.keepsScope = true) :
    ctx'.scope = ctx.scope ∧ ctx'.owner = ctx.owner ∧
      ctx'.templates = nodes.foldl Node.headersInside ctx.templates := by
  induction h with
  | nil _ => exact ⟨rfl, rfl, rfl⟩
  | @cons _ r' _ ctx _ n _ _ _ ih =>
    obtain ⟨hn, hnodes⟩ := List.forall_mem_cons.1 hnodes
    obtain ⟨hscope, howner, htemplates⟩ := ctx.inside_of_keepsScope hn r' file
    obtain ⟨hscope', howner', htemplates'⟩ := ih hnodes
    exact ⟨hscope'.trans hscope, howner'.trans howner, by rw [htemplates', htemplates]; rfl⟩

end Context

/-- The template headers right before a declaration, on a way that starts without any. -/
def DeclaratorPlace.headers (p : DeclaratorPlace) : List Nat :=
  p.around.foldl Node.headersInside []

/-! ### Declarators that are written alike -/

namespace DeclaratorParts

/-- The texts of the qualifiers before the name, outermost first; empty for a leading double
colon. -/
def qualifierTexts (parts : DeclaratorParts) : List String :=
  parts.nameNode.qualifiedEnd.1.map fun holder => Node.textOf (holder.child? "scope")

/-- The name without its qualifiers. -/
def plainName? (parts : DeclaratorParts) : Option FunctionName :=
  parts.nameNode.qualifiedEnd.2.bind Node.plainFunctionName?

/-- The declarator is another one behind qualifiers that spell a path: it has the same name, the same
parameter list and the same qualifiers after it. -/
structure Respells (parts' parts : DeclaratorParts) (path : List String) : Prop where
  unqualified : parts.qualifierTexts = []
  qualified : Spelling.SpellsPath path parts'.qualifierTexts
  plainName : parts'.plainName? = parts.plainName?
  parameters : parts'.parameters.map Node.unplaced = parts.parameters.map Node.unplaced
  trailing : (parts'.holder.children.filter Node.isTrailingQualifier).map Node.unplaced =
    (parts.holder.children.filter Node.isTrailingQualifier).map Node.unplaced

theorem qualifierText_eq (holder : Node) :
    holder.qualifierText = Spelling.typeName (Node.textOf (holder.child? "scope")) := by
  unfold Node.qualifierText
  rcases holder.child? "scope" with - | scope
  · show "" = Spelling.typeName ""
    decide +kernel
  · rfl

/-- A declarator without qualifiers has its plain name. -/
theorem functionName?_of_unqualified {parts : DeclaratorParts} (h : parts.qualifierTexts = []) :
    parts.nameNode.functionName? = parts.plainName? := by
  unfold qualifierTexts at h
  rw [List.map_eq_nil_iff] at h
  unfold Node.functionName? plainName?
  rcases hend : parts.nameNode.qualifiedEnd with ⟨holders, - | last⟩
  · rfl
  · rw [hend] at h
    cases h
    rfl

/-- A declarator with qualifiers has its plain name behind their canonical spellings. -/
theorem functionName?_of_qualified {parts : DeclaratorParts} (h : parts.qualifierTexts ≠ []) :
    parts.nameNode.functionName? = parts.plainName?.map fun plain =>
      plain.qualified (parts.qualifierTexts.map Spelling.typeName) := by
  have htexts : parts.qualifierTexts.map Spelling.typeName =
      parts.nameNode.qualifiedEnd.1.map Node.qualifierText := by
    rw [qualifierTexts, List.map_map]
    exact List.map_congr_left fun holder _ => (qualifierText_eq holder).symm
  rw [htexts]
  unfold qualifierTexts at h
  unfold Node.functionName? plainName?
  rcases hend : parts.nameNode.qualifiedEnd with ⟨holders, - | last⟩
  · rfl
  · rw [hend] at h
    rcases holders with - | ⟨holder, holders⟩
    · exact absurd rfl h
    · rfl

/-- A name at the end of a declarator has no qualifiers. -/
theorem qualifiers_of_plainName? {parts : DeclaratorParts} {name : FunctionName}
    (h : parts.plainName? = some name) : name.qualifiers = [] := by
  obtain ⟨last, -, hlast⟩ := Option.bind_eq_some_iff.1 h
  unfold Node.plainFunctionName? at hlast
  repeat' split at hlast
  all_goals cases hlast
  all_goals rfl

end DeclaratorParts

/-! ### The two contexts of a member -/

/-- The number of class templates among some scopes. -/
def templateCount (scope : List ScopeSegment) : Nat :=
  (scope.filter fun s => s.kind == .record && s.templateArity != 0).length

namespace Context

/-- Two contexts for one member of a class: one in the body of the class and one at file scope, where
a header that is not empty stands for each class template around the member, in front of the member's
own headers. -/
structure InAndOut (c : ClassType) (ctx ctx' : Context) : Prop where
  scope : ctx.scope = c.segments
  owner : ctx.owner = some c
  scope' : ctx'.scope = []
  owner' : ctx'.owner = none
  headers : ∃ outer, outer.length = templateCount c.segments ∧ (∀ k ∈ outer, k ≠ 0) ∧
    ctx'.templates = outer ++ ctx.templates

namespace InAndOut

variable {c : ClassType} {ctx ctx' : Context} (h : InAndOut c ctx ctx')
include h

theorem inBody_eq : ctx.inBody c = ctx := by
  rw [inBody, ← h.scope, ← h.owner]

/-- At file scope the headers of the class templates are left out. -/
theorem ownTemplateArity_eq :
    ctx'.ownTemplateArity c.segments = ctx.ownTemplateArity c.segments := by
  obtain ⟨outer, hlength, -, htemplates⟩ := h.headers
  have hdrop : (outer ++ ctx.templates).drop (templateCount c.segments) = ctx.templates := by
    rw [← hlength, List.drop_left]
  unfold ownTemplateArity
  rw [h.owner, h.owner', htemplates]
  exact congrArg (fun headers => List.getLastD headers 0) hdrop

/-- The last header is an empty one in both places or in none. -/
theorem lastTemplate?_iff : ctx'.lastTemplate? = some 0 ↔ ctx.lastTemplate? = some 0 := by
  obtain ⟨outer, -, houter, htemplates⟩ := h.headers
  unfold lastTemplate?
  rw [htemplates]
  rcases ctx.templates.eq_nil_or_concat with hown | ⟨front, k, hown⟩
  · rw [hown, List.append_nil]
    constructor
    · intro hlast
      exact absurd rfl (houter 0 (List.mem_of_getLast? hlast))
    · intro hlast
      cases hlast
  · rw [hown, List.concat_eq_append, ← List.append_assoc, List.getLast?_concat,
      List.getLast?_concat]

end InAndOut

/-! ### The two sites of a member -/

section Site

variable (ctx : Context) (r : Registry) (file : String) (n : Node) (isDefinition : Bool)
  (parts : DeclaratorParts) (name : FunctionName)

theorem templateArity_siteOf : (ctx.siteOf r file n isDefinition parts name).templateArity =
    ctx.ownTemplateArity (ctx.siteOf r file n isDefinition parts name).scope :=
  rfl

theorem templateArgs_siteOf : (ctx.siteOf r file n isDefinition parts name).templateArgs =
    if (ctx.siteOf r file n isDefinition parts name).templateArity = 0 ∧ name.templateArgs = none ∧
        ctx.lastTemplate? = some 0 then some ""
    else name.templateArgs :=
  rfl

/-- A definition behind qualifiers that stand for the scopes of a class is one of a member of this
class. -/
theorem siteOf_outside {c : ClassType} {qualifiers : List String} (hc : r.get? c.path = some c)
    (hscope : ctx.scope = []) (hscopes : r.qualifierScopes [] qualifiers = c.segments)
    (hne : qualifiers ≠ []) (hlast : before '<' (qualifiers.getLastD "") = before '<' c.name) :
    (ctx.siteOf r file n isDefinition parts (name.qualified qualifiers)).scope = c.segments ∧
      (ctx.siteOf r file n isDefinition parts (name.qualified qualifiers)).owner = some c.path ∧
      (ctx.siteOf r file n isDefinition parts (name.qualified qualifiers)).kind =
        kindOf name (some c) := by
  have hnames : ctx.names = [] := by
    rw [names, hscope]
    rfl
  have hwhole : ctx.scope ++ r.qualifierScopes ctx.names (name.qualified qualifiers).qualifiers =
      c.segments := by
    rw [hnames, hscope]
    exact hscopes
  have hqualified : (!(name.qualified qualifiers).qualifiers.isEmpty) = true := by
    obtain ⟨q, rest, rfl⟩ := List.exists_cons_of_ne_nil hne
    rfl
  have howner : ctx.ownerOf r true c.segments = some c := by
    unfold ownerOf
    rw [if_pos c.endsInClass_segments, c.scopeNames_segments]
    exact hc
  rw [scope_siteOf, owner_siteOf, kind_siteOf, hwhole, hqualified, howner,
    kindOf_qualified name hlast]
  exact ⟨rfl, rfl, rfl⟩

end Site

end Context

namespace FunctionSite

/-- The two sites are declarations of one member that are written alike. -/
structure Redeclares (t s : FunctionSite) : Prop where
  scope : t.scope = s.scope
  owner : t.owner = s.owner
  kind : t.kind = s.kind
  templateArity : t.templateArity = s.templateArity
  templateArgs : t.templateArgs = s.templateArgs
  signature : t.signature = s.signature
  name : t.name = s.name
  qualifiers : t.qualifiers = s.qualifiers
  linkage : t.linkage = s.linkage

/-- A redeclaration has the same symbol, unless that depends on the file. -/
theorem Redeclares.symbol?_eq {t s : FunctionSite} (h : t.Redeclares s)
    (hlinkage : s.linkage = .external) : t.symbol? = s.symbol? := by
  have halike : t.WrittenAlike s := by
    refine ⟨h.name, congrArg Signature.types h.signature, h.qualifiers, h.templateArity,
      h.templateArgs, fun hinternal => ?_⟩
    rw [hlinkage] at hinternal
    cases hinternal
  exact halike.symbol?_eq h.kind h.scope h.linkage

end FunctionSite

namespace Context

/-- What is written at file scope behind the path of a class redeclares the member in the body. -/
theorem InAndOut.redeclares {c : ClassType} {ctx ctx' : Context} (h : InAndOut c ctx ctx')
    {r : Registry} (hc : r.get? c.path = some c) (hpath : ∀ q ∈ c.path, Spelling.IsIdentifier q)
    {parts parts' : DeclaratorParts} (hparts : parts'.Respells parts c.path) {name : FunctionName}
    (hname : name.qualifiers = []) (r₀ : Registry) (file file' : String) (n n' : Node)
    (isDefinition isDefinition' : Bool) :
    (ctx'.siteOf r file' n' isDefinition' parts'
        (name.qualified (parts'.qualifierTexts.map Spelling.typeName))).Redeclares
      (ctx.siteOf r₀ file n isDefinition parts name) := by
  have hlast : before '<' ((parts'.qualifierTexts.map Spelling.typeName).getLastD "") =
      before '<' c.name := by
    rw [c.before_getLastD_typeName hpath hparts.qualified,
      (hpath _ c.name_mem_path).isPlainName.before_eq]
  have hne : parts'.qualifierTexts.map Spelling.typeName ≠ [] := fun hnil =>
    hparts.qualified.ne_nil c.path_ne_nil (List.map_eq_nil_iff.1 hnil)
  have hinside := siteOf_inBody ctx c r₀ file n isDefinition parts hname
  have houtside := siteOf_outside ctx' r file' n' isDefinition' parts' name hc h.scope'
    (Registry.qualifierScopes_of_spellsPath hc hpath hparts.qualified) hne hlast
  rw [h.inBody_eq] at hinside
  obtain ⟨hscope, howner, hkind⟩ := hinside
  obtain ⟨hscope', howner', hkind'⟩ := houtside
  have harity : (ctx'.siteOf r file' n' isDefinition' parts'
      (name.qualified (parts'.qualifierTexts.map Spelling.typeName))).templateArity =
        (ctx.siteOf r₀ file n isDefinition parts name).templateArity := by
    rw [templateArity_siteOf, templateArity_siteOf, hscope, hscope', h.ownTemplateArity_eq]
  refine ⟨hscope'.trans hscope.symm, howner'.trans howner.symm, hkind'.trans hkind.symm, harity, ?_,
    ?_, rfl, qualifierMask_congr hparts.trailing, ?_⟩
  · rw [templateArgs_siteOf, templateArgs_siteOf, harity]
    simp only [h.lastTemplate?_iff]
    rfl
  · exact congrArg (fun signature => Option.getD signature {}) (Node.signature_congr hparts.parameters)
  · -- both are members, so their linkage follows from their scope
    rw [linkage_siteOf (by rw [howner']; rfl), linkage_siteOf (by rw [howner]; rfl), hscope, hscope']

end Context

/-! ### Reading a class and a file -/

/-- The function definition at one place, on a way from the start of a file, is written as one of the
member that is declared at another place, on a way from the body of a class: neither way opens a
scope; the headers of the class templates around the member, none of them empty, come before the
member's own; and the declarator is the same behind qualifiers that spell the path of the class. -/
structure DeclaratorPlace.DefinesMember (q p : DeclaratorPlace) (c : ClassType) : Prop where
  inBody : ∀ n ∈ p.around, n.keepsScope = true
  atFileScope : ∀ n ∈ q.around, n.keepsScope = true
  headers : ∃ outer, outer.length = templateCount c.segments ∧ (∀ k ∈ outer, k ≠ 0) ∧
    q.headers = outer ++ p.headers
  isFunction : q.node.kind = "function_definition"
  isDeclarator : (q.node.child? "declarator").bind Node.definedDeclarator? = some q.declarator
  respells : ∃ parts', q.declarator.declaratorParts? = some parts' ∧
    ∀ parts ∈ p.declarator.declaratorParts?, parts'.Respells parts c.path

/-- A class that is not known yet stands for itself. -/
theorem Registry.declare_of_new {r : Registry} {c : ClassType} (hname : c.name ≠ "")
    (hnew : r.get? c.path = none) : (r.declare c).1 = c := by
  rw [declare, if_neg hname, hnew]

/-- The contexts that the ways to a member and to its definition lead to. -/
theorem DeclaratorPlace.DefinesMember.inAndOut {q p : DeclaratorPlace} {c : ClassType}
    (h : q.DefinesMember p c) {file file' : String} {r r₁ r' r₁' : Registry}
    {ctx ctx₁ ctx' ctx₁' : Context} (hscope : ctx.scope = c.segments) (howner : ctx.owner = some c)
    (htemplates : ctx.templates = []) (hscope' : ctx'.scope = []) (howner' : ctx'.owner = none)
    (htemplates' : ctx'.templates = []) (hleads : ctx.Leads file r p.around r₁ ctx₁)
    (hleads' : ctx'.Leads file' r' q.around r₁' ctx₁') : Context.InAndOut c ctx₁ ctx₁' := by
  obtain ⟨hs, ho, ht⟩ := hleads.of_keepsScope h.inBody
  obtain ⟨hs', ho', ht'⟩ := hleads'.of_keepsScope h.atFileScope
  refine ⟨hs.trans hscope, ho.trans howner, hs'.trans hscope', ho'.trans howner', ?_⟩
  rw [ht, ht', htemplates, htemplates']
  exact h.headers

/-- A function definition adds the site of its declarator. -/
theorem Survey.walk_of_site? {n d : Node} (hn : n.kind = "function_definition")
    (hd : (n.child? "declarator").bind Node.definedDeclarator? = some d) {file : String}
    {ctx : Context} {s : Survey} {t : FunctionSite}
    (ht : ctx.site? s.registry file n d true = some t) : walk file ctx n s = s.addFunction t := by
  obtain ⟨declarator, hchild, hdefined⟩ := Option.bind_eq_some_iff.1 hd
  rw [walk_of_function hn, addDefinition, hchild]
  simp only [hdefined]
  rw [addDeclared, ht]

namespace Sample

/-- The declarator of a function with one parameter, which can be called on constant objects. -/
def memberDeclarator (name : Node) : Node :=
  let node := Context.sampleNode
  node "function_declarator" "declarator" ""
    [name, node "parameter_list" "parameters" "(U)"
        [node "parameter_declaration" "" "U" [node "type_identifier" "type" "U" []]],
      node "type_qualifier" "" "const" []]

/-- A template with one parameter. -/
def template (inner : Node) : Node :=
  let node := Context.sampleNode
  node "template_declaration" "" ""
    [node "template_parameter_list" "parameters" ""
        [node "type_parameter_declaration" "" "" []], inner]

/-- The declaration `void m(U) const;`. -/
def memberDeclaration : Node :=
  Context.sampleNode "declaration" "" "" [Context.sampleNode "primitive_type" "type" "void" [],
    memberDeclarator (Context.sampleNode "field_identifier" "declarator" "m" [])]

/-- The body of a class `Box` with a member template `m`. -/
def boxBody : Node :=
  Context.sampleNode "field_declaration_list" "body" "" [template memberDeclaration]

/-- The class `Box`. -/
def box : Node :=
  Context.sampleNode "class_specifier" "" ""
    [Context.sampleNode "type_identifier" "name" "Box" [], boxBody]

/-- The name `::N::Box <T>::m`. -/
def memberName : Node :=
  let node := Context.sampleNode
  node "qualified_identifier" "declarator" ""
    [node "qualified_identifier" "name" ""
      [node "namespace_identifier" "scope" "N" [],
        node "qualified_identifier" "name" ""
          [node "template_type" "scope" "Box <T>" [], node "identifier" "name" "m" []]]]

/-- The definition `void ::N::Box <T>::m(U) const {}`. -/
def memberDefinition : Node :=
  Context.sampleNode "function_definition" "" ""
    [Context.sampleNode "primitive_type" "type" "void" [], memberDeclarator memberName,
      Context.sampleNode "compound_statement" "body" "" []]

/-- The namespace `N` with the class template. -/
def boxNamespace : Node :=
  let node := Context.sampleNode
  node "namespace_definition" "" ""
    [node "namespace_identifier" "name" "N" [],
      node "declaration_list" "body" "" [template box]]

/-- A file with the class template and, behind the headers of the class and of the member, the
definition. -/
def boxFile : Node :=
  Context.sampleNode "translation_unit" "" ""
    [boxNamespace, template (template memberDefinition)]

/-- The context of the class template: a namespace `N` and a template header. -/
def boxContext : Context :=
  Context.enterTemplate (Context.enter {} ⟨.nspace, "N", 0⟩) 1

/-- The class template. -/
def boxClass : ClassType :=
  boxContext.classType .empty "/p/box.cpp" box

/-- What is known when the body of the class is read. -/
def boxSurvey : Survey :=
  (Survey.addClass "/p/box.cpp" boxContext box { registry := .empty }).2

/-- What is known behind the namespace. -/
def afterNamespace : Survey :=
  Survey.walk "/p/box.cpp" {} boxNamespace { registry := .empty }

/-- Where the member is declared. -/
def declarationPlace : DeclaratorPlace :=
  ⟨[boxBody, template memberDeclaration], memberDeclaration,
    memberDeclarator (Context.sampleNode "field_identifier" "declarator" "m" [])⟩

/-- Where the member is defined. -/
def definitionPlace : DeclaratorPlace :=
  ⟨[boxFile, template (template memberDefinition), template memberDefinition], memberDefinition,
    memberDeclarator memberName⟩

theorem definedDeclarator?_memberDeclarator (name : Node) (hfield : name.field = "declarator")
    (hkind : name.isOneOf functionNameKinds = true) :
    (memberDeclarator name).definedDeclarator? = some (memberDeclarator name) := by
  have hdeclarator : (memberDeclarator name).kind = "function_declarator" := rfl
  have hname : (memberDeclarator name).child? "declarator" = some name :=
    List.find?_cons_of_pos (beq_iff_eq.2 hfield)
  have hfunction : (memberDeclarator name).functionDeclarator? = some (memberDeclarator name) := by
    rw [Node.functionDeclarator?, if_pos hdeclarator, hname]
    exact if_pos hkind
  rw [Node.definedDeclarator?, hfunction]

theorem namedFunction?_memberDeclarator (name : Node) (hfield : name.field = "declarator")
    (hkind : name.isOneOf functionNameKinds = true)
    (hnamed : (memberDeclarator name).declaredFunction?.isSome = true) :
    (memberDeclarator name).namedFunction? = some (memberDeclarator name) := by
  rw [Node.namedFunction?, definedDeclarator?_memberDeclarator name hfield hkind]
  exact Option.filter_some_pos hnamed

theorem declarationPlace_mem : declarationPlace ∈ boxBody.declaratorPlaces := by
  have hnamed := namedFunction?_memberDeclarator
    (Context.sampleNode "field_identifier" "declarator" "m" []) rfl rfl (by decide +kernel)
  refine Node.mem_declaratorPlaces.2 (.inl ⟨template memberDeclaration, List.mem_cons_self,
    ⟨[template memberDeclaration], memberDeclaration, _⟩, ?_, rfl⟩)
  refine Node.mem_declaratorPlaces.2 (.inl ⟨memberDeclaration, List.mem_cons_self,
    ⟨[], memberDeclaration, _⟩, ?_, rfl⟩)
  refine Node.mem_declaratorPlaces.2 (.inr ⟨_, ?_, rfl⟩)
  exact List.mem_filterMap.2 ⟨_, List.mem_cons_self, hnamed⟩

/-- Reading the file gets to the definition after the class was read. -/
theorem visits_definition : Survey.Visits "/p/box.cpp" {} boxFile { registry := .empty }
    definitionPlace.around { templates := [1, 1] } memberDefinition afterNamespace := by
  have hfile : boxFile.declarationNext =
      [boxNamespace] ++ template (template memberDefinition) :: [] := rfl
  have houter : (template (template memberDefinition)).declarationNext =
      [] ++ template memberDefinition :: [] := rfl
  have hinner : (template memberDefinition).declarationNext = [] ++ memberDefinition :: [] := rfl
  exact .inside hfile (.inside houter (.inside hinner .here))

/-- The definition is one of the member. -/
theorem definesMember : definitionPlace.DefinesMember declarationPlace boxClass where
  inBody := by decide +kernel
  atFileScope := by decide +kernel
  headers := ⟨[1], by decide +kernel, by decide, by decide +kernel⟩
  isFunction := rfl
  isDeclarator := definedDeclarator?_memberDeclarator memberName rfl rfl
  respells := by
    refine ⟨_, rfl, fun parts hparts => ?_⟩
    cases hparts
    have htext : "Box <T>" = String.ofList ("Box".toList ++ ([' '] ++ '<' :: ['T', '>'])) := by
      decide +kernel
    refine ⟨by decide +kernel, ?_, by decide +kernel, rfl, rfl⟩
    have htexts : DeclaratorParts.qualifierTexts ⟨memberName, (memberDeclarator memberName).child?
        "parameters", memberDeclarator memberName⟩ = ["", "N", "Box <T>"] := by decide +kernel
    have hpath : boxClass.path = ["N", "Box"] := by decide +kernel
    rw [hpath]
    refine htexts ▸ .absolute (.cons .bare (.cons ?_ .nil))
    rw [htext]
    exact .withArguments [' '] ['T', '>'] rfl

end Sample

namespace Survey

/-- **Members defined at file scope.**  Let a class be registered at a path of identifiers, and a
member be declared in the body that registered the class.  Let reading a file get to a function
definition when the class is known, where the definition is written behind the path of the class, with
or without a leading double colon and template arguments, after one header for each class template on
the path and the member's own.  Then the file has the function, with the scopes, class, sort, template
arity, template arguments, signature and linkage of the member.  If the linkage is external they have
the same symbol. -/
theorem redeclares_atFileScope {file : String} {ctx : Context} {before : Survey} {n body : Node}
    {c : ClassType} (hclass : ctx.classType before.registry file n = c)
    (hnew : before.registry.get? c.path = none)
    (hpath : ∀ name ∈ c.path, Spelling.IsIdentifier name) {p : DeclaratorPlace} {s : FunctionSite}
    (hs : (p, s) ∈ declared file (addClass file ctx n before).1 body (addClass file ctx n before).2)
    {q : DeclaratorPlace} (hq : q.DefinesMember p c) {language : Language} {r : Registry}
    {file' : String} {root : Node} {outside : Context} {later : Survey}
    (hvisits : Visits file' { cLinkage := language = .c } root { registry := r } q.around outside
      q.node later)
    (hknown : later.registry.get? c.path = some c) :
    s.scope = c.segments ∧ s.owner = some c.path ∧
      ∃ t ∈ (FileContents.read language r file' root).contents.functions,
        walk file' outside q.node later = later.addFunction t ∧ t.Redeclares s ∧
          (s.linkage = .external → t.symbol? = s.symbol?) := by
  obtain ⟨r₁, ctx₁, hleads, hsite⟩ := isReadFrom_of_mem_declared hs
  have howner : (before.registry.declare c).1 = c :=
    Registry.declare_of_new (hpath _ c.name_mem_path).isPlainName.1 hnew
  have hcontexts : Context.InAndOut c ctx₁ outside := by
    subst hclass
    exact hq.inAndOut rfl (congrArg some howner) rfl rfl rfl rfl hleads hvisits.leads
  obtain ⟨parts, name, hparts, hname, rfl⟩ := Context.site?_eq_some_iff.1 hsite
  obtain ⟨parts', hparts', hall⟩ := hq.respells
  have hrespells := hall parts hparts
  rw [DeclaratorParts.functionName?_of_unqualified hrespells.unqualified] at hname
  have hplain := DeclaratorParts.qualifiers_of_plainName? hname
  -- the definition has the name of the member, behind qualifiers
  have hname' : parts'.nameNode.functionName? =
      some (name.qualified (parts'.qualifierTexts.map Spelling.typeName)) := by
    rw [DeclaratorParts.functionName?_of_qualified (hrespells.qualified.ne_nil c.path_ne_nil),
      hrespells.plainName, hname]
    rfl
  have hwalk : walk file' outside q.node later = later.addFunction _ :=
    walk_of_site? hq.isFunction hq.isDeclarator
      (Context.site?_eq_some_iff.2 ⟨parts', _, hparts', hname', rfl⟩)
  have hredeclares := hcontexts.redeclares hknown hpath hrespells hplain r₁ file file' p.node q.node
    p.isDefinition true
  have hinside := Context.siteOf_inBody ctx₁ c r₁ file p.node p.isDefinition parts hplain
  rw [hcontexts.inBody_eq] at hinside
  refine ⟨hinside.1, hinside.2.1, _, ?_, hwalk, hredeclares, hredeclares.symbol?_eq⟩
  refine hvisits.isPrefix_functions.subset ?_
  rw [hwalk]
  exact List.mem_append_right _ List.mem_cons_self

/-- In one file, the definition of the member template at file scope has the symbol of its
declaration in the body of the class template. -/
theorem redeclares_atFileScope_sample :
    Sample.definitionPlace.DefinesMember Sample.declarationPlace Sample.boxClass ∧
      ∃ s, (Sample.declarationPlace, s) ∈ declared "/p/box.cpp"
          (addClass "/p/box.cpp" Sample.boxContext Sample.box { registry := .empty }).1
          Sample.boxBody Sample.boxSurvey ∧
        s.symbol? = some "c:@N@N@ST>1@Box@FT@>1m#U#1" ∧
        ∃ t ∈ (FileContents.read .cpp .empty "/p/box.cpp" Sample.boxFile).contents.functions,
          t.Redeclares s ∧ t.symbol? = s.symbol? := by
  obtain ⟨s, hs⟩ := exists_mem_declared Sample.declarationPlace_mem "/p/box.cpp"
    (addClass "/p/box.cpp" Sample.boxContext Sample.box { registry := .empty }).1 Sample.boxSurvey
  have hnew : Registry.empty.get? Sample.boxClass.path = none := by decide +kernel
  have hpath : ∀ name ∈ Sample.boxClass.path, Spelling.IsIdentifier name := by decide +kernel
  have hknown : Sample.afterNamespace.registry.get? Sample.boxClass.path = some Sample.boxClass := by
    decide +kernel
  have hall : (declared "/p/box.cpp"
      (addClass "/p/box.cpp" Sample.boxContext Sample.box { registry := .empty }).1 Sample.boxBody
      Sample.boxSurvey).map (fun x => (x.2.symbol?, x.2.linkage)) =
        [(some "c:@N@N@ST>1@Box@FT@>1m#U#1", .external)] := by decide +kernel
  have hsymbol := List.mem_map_of_mem (f := fun x => (x.2.symbol?, x.2.linkage)) hs
  rw [hall, List.mem_singleton, Prod.mk.injEq] at hsymbol
  obtain ⟨-, -, t, ht, -, hredeclares, heq⟩ := @redeclares_atFileScope "/p/box.cpp"
    Sample.boxContext { registry := .empty } Sample.box Sample.boxBody Sample.boxClass rfl hnew hpath
    Sample.declarationPlace s hs Sample.definitionPlace Sample.definesMember .cpp .empty "/p/box.cpp"
    Sample.boxFile _ Sample.afterNamespace Sample.visits_definition hknown
  exact ⟨Sample.definesMember, s, hs, hsymbol.1, t, ht, hredeclares, heq hsymbol.2⟩

end Survey

end Unreferenced
