/-
Unreferenced/Proofs/Symbol.lean

What the symbol of a function is made of.

A symbol with C linkage is the name alone.  Any other one is the file, if the
name is known in no other file, then the text of the scopes and the tail
(`naming_eq_named`).  The text of a scope is that of its parts, so a scope that
is longer gives a longer symbol, and nothing else of a declaration matters
(`naming_congr`).
-/
import Unreferenced.FunctionSite.Basic

namespace Unreferenced

/-! ### The text of a scope -/

/-- The text of a scope is that of its parts, one after the other. -/
theorem scopeSymbolText_append {a b : List ScopeSegment} {text : String}
    (h : scopeSymbolText (a ++ b) = .ok text) :
    ∃ x y, scopeSymbolText a = .ok x ∧ scopeSymbolText b = .ok y ∧ text = x ++ y := by
  induction a generalizing text with
  | nil => exact ⟨"", text, rfl, h, (String.empty_append).symm⟩
  | cons s a ih =>
    rw [List.cons_append, scopeSymbolText] at h
    rcases hs : s.symbolText? with - | first
    · rw [hs] at h
      cases h
    · rw [hs] at h
      rcases hab : scopeSymbolText (a ++ b) with e | more
      · rw [hab] at h
        cases h
      · rw [hab] at h
        cases h
        obtain ⟨x, y, hx, hy, rfl⟩ := ih hab
        refine ⟨first ++ x, y, ?_, hy, (String.append_assoc).symm⟩
        rw [scopeSymbolText, hs, hx]

/-- A namespace leaves a trace in the text of a scope. -/
theorem length_pos_of_scopeSymbolText {name : String} {scope : List ScopeSegment} {text : String}
    (h : scopeSymbolText (⟨.nspace, name, 0⟩ :: scope) = .ok text) : 0 < text.length := by
  rw [scopeSymbolText] at h
  by_cases hname : name = ""
  · rw [show ScopeSegment.symbolText? ⟨.nspace, name, 0⟩ = none from if_pos hname] at h
    cases h
  · rw [show ScopeSegment.symbolText? ⟨.nspace, name, 0⟩ = some ("@N@" ++ name) from
      if_neg hname] at h
    rcases hscope : scopeSymbolText scope with more | s
    · rw [hscope] at h
      cases h
    · rw [hscope] at h
      cases h
      rw [String.length_append, String.length_append]
      have hmark : "@N@".length = 3 := rfl
      omega

/-! ### The naming of a declaration -/

namespace Declaration

variable {δ : Type} {d e : Declaration δ}

theorem symbolTail_congr (hname : d.name = e.name) (hsignature : d.signature = e.signature)
    (hqualifiers : d.qualifiers = e.qualifiers) (harity : d.templateArity = e.templateArity)
    (hargs : d.templateArgs = e.templateArgs) : d.symbolTail = e.symbolTail := by
  unfold symbolTail
  rw [hname, hsignature, hqualifiers, harity, hargs]

/-- The file of a declaration matters only if its name is known in no other file. -/
theorem declaringFile_congr (hlinkage : d.linkage = e.linkage)
    (hfile : e.linkage = .internal → d.declaringFile = e.declaringFile) :
    (if d.linkage = .internal then d.declaringFile else "") =
      if e.linkage = .internal then e.declaringFile else "" := by
  rw [hlinkage]
  by_cases h : e.linkage = .internal
  · rw [if_pos h, if_pos h, hfile h]
  · rw [if_neg h, if_neg h]

theorem naming_congr (hdestructor : d.isDestructor = e.isDestructor) (hname : d.name = e.name)
    (hlinkage : d.linkage = e.linkage) (hscope : d.scope = e.scope)
    (htail : d.symbolTail = e.symbolTail)
    (hfile : e.linkage = .internal → d.declaringFile = e.declaringFile) : d.naming = e.naming := by
  unfold naming
  rw [hdestructor, hname, declaringFile_congr hlinkage hfile, hlinkage, hscope, htail]

/-- What the symbol of a function without C linkage is made of. -/
theorem naming_eq_named {symbol : Symbol} (h : d.naming = .named symbol) (hc : d.linkage ≠ .c) :
    ∃ text, scopeSymbolText d.scope = .ok text ∧
      symbol = "c:" ++ (if d.linkage = .internal then d.declaringFile else "") ++ text ++
        d.symbolTail := by
  unfold naming at h
  rw [if_neg hc] at h
  split at h
  · cases h
  · rcases ht : scopeSymbolText d.scope with s | text
    · rw [ht] at h
      cases h
    · rw [ht] at h
      cases h
      exact ⟨text, rfl, rfl⟩

end Declaration

/-- A declaration that stands for its function is named by its own data. -/
theorem View.symbol?_eq_some_iff {δ : Type} {view : View δ} {d : δ} (hcanonical : view.canonical d = d)
    (hpattern : (view d).isInstantiation = false) {symbol : Symbol} :
    view.symbol? d = some symbol ↔ (view d).naming = .named symbol := by
  have hnamesake : view.namesake? d = some d := by
    unfold namesake?
    rw [hpattern, hcanonical]
    rfl
  unfold symbol?
  rw [hnamesake]
  dsimp only
  rcases (view d).naming with found | - | segment
  · show some found = some symbol ↔ Naming.named found = Naming.named symbol
    rw [Option.some.injEq, Naming.named.injEq]
  · exact ⟨nofun, nofun⟩
  · exact ⟨nofun, nofun⟩

namespace FunctionSite

theorem symbol?_eq_some_iff {s : FunctionSite} {symbol : Symbol} :
    s.symbol? = some symbol ↔ s.alone.naming = .named symbol :=
  @View.symbol?_eq_some_iff _ alone s rfl rfl symbol

/-- Two sites are written alike: they have the same parameters, the same qualifiers after them and
the same template headers, and stand in the same file if that matters. -/
structure WrittenAlike (s t : FunctionSite) : Prop where
  name : s.name = t.name
  types : s.signature.types = t.signature.types
  qualifiers : s.qualifiers = t.qualifiers
  templateArity : s.templateArity = t.templateArity
  templateArgs : s.templateArgs = t.templateArgs
  file : t.linkage = .internal → s.location.file = t.location.file

variable {s t : FunctionSite}

theorem WrittenAlike.symbolTail (h : s.WrittenAlike t) :
    s.alone.symbolTail = t.alone.symbolTail :=
  Declaration.symbolTail_congr h.name h.types h.qualifiers h.templateArity h.templateArgs

/-- Functions of one sort that are written alike in one scope have one symbol. -/
theorem WrittenAlike.symbol?_eq (h : s.WrittenAlike t) (hkind : s.kind = t.kind)
    (hscope : s.scope = t.scope) (hlinkage : s.linkage = t.linkage) : s.symbol? = t.symbol? := by
  have hnaming : s.alone.naming = t.alone.naming :=
    Declaration.naming_congr (congrArg (fun k => decide (k = FunctionKind.destructor)) hkind) h.name
      hlinkage hscope h.symbolTail h.file
  apply Option.ext
  intro symbol
  rw [symbol?_eq_some_iff, symbol?_eq_some_iff, hnaming]

/-- Functions that are written alike, one of them inside more namespaces, have two symbols. -/
theorem WrittenAlike.symbol?_ne (h : s.WrittenAlike t) (hlinkage : s.linkage = t.linkage)
    (hc : t.linkage ≠ .c) {name : String} {scope : List ScopeSegment}
    (hscope : s.scope = ⟨.nspace, name, 0⟩ :: scope ++ t.scope) (hsome : t.symbol?.isSome) :
    s.symbol? ≠ t.symbol? := by
  intro heq
  obtain ⟨symbol, ht⟩ := Option.isSome_iff_exists.1 hsome
  have hs := heq.trans ht
  rw [symbol?_eq_some_iff] at hs ht
  obtain ⟨text, htext, hsymbol⟩ := Declaration.naming_eq_named ht hc
  obtain ⟨text', htext', hsymbol'⟩ := Declaration.naming_eq_named hs
    (show s.linkage ≠ .c from hlinkage ▸ hc)
  obtain ⟨x, y, hx, hy, rfl⟩ := scopeSymbolText_append
    (show scopeSymbolText (⟨.nspace, name, 0⟩ :: scope ++ t.scope) = .ok text' from hscope ▸ htext')
  have hpos := length_pos_of_scopeSymbolText hx
  -- the two symbols differ in the text of the additional namespaces only
  have hlength := congrArg String.length (hsymbol'.symm.trans hsymbol)
  rw [h.symbolTail, @Declaration.declaringFile_congr _ s.alone t.alone hlinkage h.file] at hlength
  cases hy.symm.trans htext
  simp only [String.length_append] at hlength
  omega

end FunctionSite

end Unreferenced
