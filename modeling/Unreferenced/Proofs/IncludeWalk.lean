/-
Unreferenced/Proofs/IncludeWalk.lean

The search for the files of a translation unit, one step at a time.

The include graph is made by a recursion that takes up a file inside another one,
up to some depth.  Here the same search has no limit: a `Walk` holds the files
that are open, each with the directives that are still to be followed, and a step
follows one directive of the innermost file or finishes it.

Three things hold all along.  `Books`: the parsed files are those that are
finished or open, and the files met are kept apart into headers of the system,
which are never parsed, and others, which are reached from the main file.
`Followed`: the directives that are done have left an edge or an entry among the
unresolved ones, and there are no others.  `Nested`: every open file includes the
one inside it, and a finished file comes after the files it includes, unless they
lead back to it.  A step keeps them (`Invariant.step`), and so does a run
(`Invariant.of_reaches`).

An open file is a file of the file system, and none is open twice, so there are
never more of them than there are spellings of files, with one slash in front or
with two.  This is why the recursion, with the limit it has, ends where the walk
ends (`mem_eval_build`), and what holds at the end of the walk holds of the
include graph (`build_ofArguments`).
-/
import Mathlib.Computability.StateTransition
import Mathlib.Data.List.Perm.Subperm
import Unreferenced.Proofs.IncludeDirective
import Unreferenced.Proofs.IncludeOrder
import Unreferenced.Proofs.NormalPath

namespace Unreferenced

theorem OrderedMap.insert_insert {α : Type u} {β : Type v} [DecidableEq α] (m : OrderedMap α β)
    (a : α) (b c : β) : (m.insert a b).insert a c = m.insert a c := by
  have hentries : ∀ l : List (α × β),
      alterEntries a (fun _ => c) (alterEntries a (fun _ => b) l) =
        alterEntries a (fun _ => c) l := by
    intro l
    induction l with
    | nil => simp [alterEntries]
    | cons e l ih =>
      obtain ⟨k, v⟩ := e
      by_cases h : k = a
      · simp [alterEntries, h]
      · simp [alterEntries, h, ih]
  unfold insert alter
  simp only [hentries]

namespace IncludeGraph

open Relation StateTransition

/-- One file stands before another in a list. -/
def IsBefore (files : List String) (b a : String) : Prop :=
  ∃ front back, files = front ++ a :: back ∧ b ∈ front

section Files

variable (fs : FileSystem) (search : SearchPath) (language : Language)

/-! ### What is included -/

/-- The file can be read. -/
def IsReadable (path : String) : Prop :=
  ∃ f, fs.read path = .ok f

/-- The include directives of a file; none if it cannot be read. -/
def directivesOf (path : String) : List IncludeDirective :=
  match fs.read path with
  | .ok f => (f.parse language).includeDirectives
  | .error _ => []

/-- A directive stands in a file that can be read. -/
def HasDirective (path : String) (d : IncludeDirective) : Prop :=
  ∃ f, fs.read path = .ok f ∧ (f.parse language).HasDirective d

/-- One of the directives of a file finds another one. -/
def Includes (path target : String) : Prop :=
  ∃ d, HasDirective fs language path d ∧ search.Finds fs path d target

/-- A file is reached from the main file over directives that stand for files outside of the
system. -/
def IsReached (main path : String) : Prop :=
  ReflTransGen (fun a b => Includes fs search language a b ∧ search.isSystem b = false) main path

theorem directivesOf_of_ok {path : String} {f : StoredFile} (h : fs.read path = .ok f) :
    directivesOf fs language path = (f.parse language).includeDirectives := by
  unfold directivesOf
  rw [h]

theorem mem_directivesOf_iff {path : String} {d : IncludeDirective} :
    d ∈ directivesOf fs language path ↔ HasDirective fs language path d := by
  unfold directivesOf HasDirective
  rcases fs.read path with e | f
  · simp
  · simp [Node.mem_includeDirectives_iff]

theorem includes_iff {path target : String} :
    Includes fs search language path target ↔
      ∃ d ∈ directivesOf fs language path, search.resolve? fs d path = some target := by
  unfold Includes
  refine exists_congr fun d => and_congr ?_ ?_
  · exact (mem_directivesOf_iff fs language).symm
  · exact SearchPath.resolve?_eq_some_iff.symm

theorem not_isReadable_of_error {path : String} {e : ReadError} (h : fs.read path = .error e) :
    ¬IsReadable fs path := by
  rintro ⟨f, hf⟩
  rw [h] at hf
  cases hf

/-- Only a file that can be read has directives. -/
theorem Includes.isReadable {path target : String} (h : Includes fs search language path target) :
    IsReadable fs path := by
  obtain ⟨d, ⟨f, hread, -⟩, -⟩ := h
  exact ⟨f, hread⟩

/-- What is reached from a normal spelling is spelled normally. -/
theorem IsReached.isNormalSpelling {main path : String} (hsearch : search.IsAbsolute)
    (hmain : Path.IsNormalSpelling main) (h : IsReached fs search language main path) :
    Path.IsNormalSpelling path := by
  induction h with
  | refl => exact hmain
  | tail _ hstep ih =>
    obtain ⟨⟨d, -, hfinds⟩, -⟩ := hstep
    have hresolve := SearchPath.resolve?_eq_some_iff.2 hfinds
    exact (hsearch.isNormalSpelling_resolve? ih.isAbsolute hresolve).1

/-- A directive of a file has been followed: there is an edge for it, or it is unresolved. -/
def Handled (g : IncludeGraph) (path : String) (d : IncludeDirective) : Prop :=
  match search.resolve? fs d path with
  | none => (path, d.spelling) ∈ g.unresolved
  | some target => (path, target) ∈ g.edges

/-- What following a directive of a file does to a graph. -/
structure Answers (path : String) (d : IncludeDirective) (g g' : IncludeGraph) : Prop where
  order_eq : g'.order = g.order
  keeps : ∀ p s, g.nodes.get? p = some s → g'.nodes.get? p = some s
  mem_unresolved : ∀ e, e ∈ g'.unresolved ↔
    e ∈ g.unresolved ∨ search.resolve? fs d path = none ∧ e = (path, d.spelling)
  mem_edges : ∀ e, e ∈ g'.edges ↔
    e ∈ g.edges ∨ ∃ target, search.resolve? fs d path = some target ∧ e = (path, target)
  met : ∀ target, search.resolve? fs d path = some target → g'.nodes.get? target ≠ none

variable {fs search language} {path : String} {d : IncludeDirective} {g g' : IncludeGraph}

theorem Answers.met_of_met (h : Answers fs search path d g g') {p : String}
    (hp : g.nodes.get? p ≠ none) : g'.nodes.get? p ≠ none := by
  obtain ⟨s, hs⟩ := Option.ne_none_iff_exists'.1 hp
  rw [h.keeps p s hs]
  exact Option.some_ne_none s

theorem Answers.handled (h : Answers fs search path d g g') : Handled fs search g' path d := by
  unfold Handled
  split
  · next hnone => exact (h.mem_unresolved _).2 (.inr ⟨hnone, rfl⟩)
  · next target hsome => exact (h.mem_edges _).2 (.inr ⟨target, hsome, rfl⟩)

theorem Answers.handled_of_handled (h : Answers fs search path d g g') {p : String}
    {e : IncludeDirective} (he : Handled fs search g p e) : Handled fs search g' p e := by
  unfold Handled at he ⊢
  split at he
  · exact (h.mem_unresolved _).2 (.inl he)
  · exact (h.mem_edges _).2 (.inl he)

theorem get?_addNode (g : IncludeGraph) (path : String) (isSystem : Bool) (p : String) :
    (g.addNode path isSystem).nodes.get? p = if p = path then some isSystem else g.nodes.get? p :=
  OrderedMap.get?_insert g.nodes path p isSystem

/-- Meeting a new file leaves what is known of the others. -/
theorem get?_addNode_of_new {target : String} (hnew : g.nodes.get? target = none) (isSystem : Bool)
    {p : String} {s : Bool} (hp : g.nodes.get? p = some s) :
    (g.addNode target isSystem).nodes.get? p = some s := by
  rw [get?_addNode, if_neg, hp]
  rintro rfl
  rw [hnew] at hp
  cases hp

variable (g) in
theorem answers_miss (hnone : search.resolve? fs d path = none) (note : Note) :
    Answers fs search path d g
      { g.addNote note with unresolved := g.unresolved ++ [(path, d.spelling)] } where
  order_eq := rfl
  keeps := fun _ _ hp => hp
  mem_unresolved := by
    intro e
    simp [hnone]
  mem_edges := by
    intro e
    simp [hnone, addNote]
  met := by simp [hnone]

variable (g g') in
/-- The edge of a directive is added to a graph in which its target has been met. -/
theorem answers_addEdge {target : String} (hsome : search.resolve? fs d path = some target)
    (horder : g'.order = g.order) (hunresolved : g'.unresolved = g.unresolved)
    (hedges : g'.edges = g.edges) (hkeeps : ∀ p s, g.nodes.get? p = some s → g'.nodes.get? p = some s)
    (hmet : g'.nodes.get? target ≠ none) :
    Answers fs search path d g (g'.addEdge path target) where
  order_eq := horder
  keeps := hkeeps
  mem_unresolved := by
    intro e
    simp [hsome, addEdge, hunresolved]
  mem_edges := by
    intro e
    simp [hsome, addEdge, hedges]
  met := by
    intro other hother
    rw [hsome] at hother
    cases hother
    exact hmet

end Files

/-! ### The walk -/

/-- A search for the files of a unit on its way. -/
structure Walk where
  /-- The open files, innermost first, each with the directives that are still to be followed. -/
  openFiles : List (String × List IncludeDirective)
  graph : IncludeGraph

namespace Walk

/-- The open files, innermost first. -/
def paths (w : Walk) : List String :=
  w.openFiles.map Prod.fst

/-- The files that are finished or open. -/
def parsed (w : Walk) : List String :=
  w.graph.order ++ w.paths

variable (fs : FileSystem) (search : SearchPath) (language : Language)

/-- Open a file that has been met, if it can be read. -/
def enter (path : String) (openFiles : List (String × List IncludeDirective)) (g : IncludeGraph) :
    Walk :=
  match fs.read path with
  | .error e => ⟨openFiles, g.addNote (.cannotRead path (e.message path))⟩
  | .ok f =>
    let root := f.parse language
    ⟨(path, root.includeDirectives) :: openFiles, { g with files := g.files.insert path root }⟩

/-- The walk starts with the main file. -/
def start (main : String) : Walk :=
  enter fs language main [] (addNode {} main false)

/-- One step: follow the next directive of the innermost file, or finish the file.  Without open files
the walk is at its end. -/
def step : Walk → Option Walk
  | ⟨[], _⟩ => none
  | ⟨(path, []) :: rest, g⟩ => some ⟨rest, { g with order := g.order ++ [path] }⟩
  | ⟨(path, d :: ds) :: rest, g⟩ =>
    match search.resolve? fs d path with
    | none =>
      some ⟨(path, ds) :: rest, { g.addNote (.cannotFindInclude path d.spelling) with
        unresolved := g.unresolved ++ [(path, d.spelling)] }⟩
    | some target =>
      if g.nodes.contains target then some ⟨(path, ds) :: rest, g.addEdge path target⟩
      else if search.isSystem target then
        some ⟨(path, ds) :: rest, { (g.addNode target true).addEdge path target with
          systemHeaders := g.systemHeaders ++ [target] }⟩
      else
        some (enter fs language target ((path, ds) :: rest)
          ((g.addNode target false).addEdge path target))

/-! ### Files -/

/-- The parsed files are those that are finished or open, each once.  A file that was met is noted as
a header of the system, or it is reached from the main file and parsed if it can be read. -/
structure Books (main : String) (w : Walk) : Prop where
  contains_files : ∀ p, w.graph.files.contains p = true ↔ p ∈ w.parsed
  nodup : w.parsed.Nodup
  mem_parsed : ∀ p, p ∈ w.parsed ↔ w.graph.nodes.get? p = some false ∧ IsReadable fs p
  reached : ∀ p, w.graph.nodes.get? p = some false → IsReached fs search language main p
  mem_system : ∀ p, p ∈ w.graph.systemHeaders ↔ w.graph.nodes.get? p = some true
  isSystem : ∀ p ∈ w.graph.systemHeaders, search.isSystem p = true
  nodup_system : w.graph.systemHeaders.Nodup

/-- Directives that are done have been handled, and only those leave edges and entries among the
unresolved ones. -/
structure Followed (w : Walk) : Prop where
  pending : ∀ file ∈ w.openFiles, ∃ done, directivesOf fs language file.1 = done ++ file.2 ∧
    ∀ d ∈ done, Handled fs search w.graph file.1 d
  finished : ∀ p ∈ w.graph.order, ∀ d ∈ directivesOf fs language p, Handled fs search w.graph p d
  unresolved : ∀ p spelling, (p, spelling) ∈ w.graph.unresolved → p ∈ w.parsed ∧
    ∃ d ∈ directivesOf fs language p, d.spelling = spelling ∧ search.resolve? fs d p = none
  edges : ∀ a b, (a, b) ∈ w.graph.edges → a ∈ w.parsed ∧ Includes fs search language a b ∧
    w.graph.nodes.get? b ≠ none

/-- Every open file includes the one inside it, and a finished file comes after the files it includes,
unless they lead back to it. -/
structure Nested (w : Walk) : Prop where
  chain : w.paths.IsChain fun inner outer => (outer, inner) ∈ w.graph.edges
  ordered : ∀ a b, (a, b) ∈ w.graph.edges → a ∈ w.graph.order → b ∈ w.parsed →
    IsBefore w.graph.order b a ∨ ReflTransGen (fun p q => (p, q) ∈ w.graph.edges) b a

/-- What holds all along a walk. -/
structure Invariant (main : String) (w : Walk) : Prop where
  books : Books fs search language main w
  followed : Followed fs search language w
  nested : Nested w
  main_met : w.graph.nodes.get? main = some false

variable {fs search language} {main : String}

section Books

variable {g : IncludeGraph} {openFiles : List (String × List IncludeDirective)} {target : String}

/-- Edges, notes and unresolved directives do not matter for the books. -/
theorem Books.congr {w w' : Walk} (h : Books fs search language main w)
    (hfiles : w'.graph.files = w.graph.files) (hparsed : w'.parsed = w.parsed)
    (hnodes : w'.graph.nodes = w.graph.nodes)
    (hsystem : w'.graph.systemHeaders = w.graph.systemHeaders) :
    Books fs search language main w' := by
  refine ⟨?_, ?_, ?_, ?_, ?_, ?_, ?_⟩
  · rw [hfiles, hparsed]
    exact h.contains_files
  · rw [hparsed]
    exact h.nodup
  · rw [hparsed, hnodes]
    exact h.mem_parsed
  · rw [hnodes]
    exact h.reached
  · rw [hsystem, hnodes]
    exact h.mem_system
  · rw [hsystem]
    exact h.isSystem
  · rw [hsystem]
    exact h.nodup_system

theorem Books.get?_of_mem_parsed {w : Walk} (h : Books fs search language main w) {p : String}
    (hp : p ∈ w.parsed) : w.graph.nodes.get? p = some false :=
  ((h.mem_parsed p).1 hp).1

variable (fs search language main) in
theorem books_empty : Books fs search language main ⟨[], {}⟩ where
  contains_files := by simp [parsed, paths, OrderedMap.contains]
  nodup := .nil
  mem_parsed := by simp [parsed, paths]
  reached := by simp
  mem_system := by simp
  isSystem := List.forall_mem_nil _
  nodup_system := .nil

variable (h : Books fs search language main ⟨openFiles, g⟩) (hnew : g.nodes.get? target = none)
include h hnew

theorem Books.not_mem_parsed_of_new : target ∉ (Walk.mk openFiles g).parsed := by
  intro hmem
  have hmet : g.nodes.get? target = some false := h.get?_of_mem_parsed hmem
  rw [hnew] at hmet
  cases hmet

/-- A new header of the system is met. -/
theorem Books.meet_system (hsystem : search.isSystem target = true) :
    Books fs search language main
      ⟨openFiles, { g.addNode target true with systemHeaders := g.systemHeaders ++ [target] }⟩ where
  contains_files := h.contains_files
  nodup := h.nodup
  mem_parsed := by
    intro p
    rw [get?_addNode]
    split
    · next heq =>
      rw [heq]
      exact ⟨fun hp => absurd hp (h.not_mem_parsed_of_new hnew), nofun⟩
    · exact h.mem_parsed p
  reached := by
    intro p
    rw [get?_addNode]
    split
    · nofun
    · exact h.reached p
  mem_system := by
    intro p
    rw [get?_addNode, List.mem_append, List.mem_singleton, h.mem_system]
    split
    · next heq => simp [heq]
    · next hne => simp [hne]
  isSystem := List.forall_mem_append.2 ⟨h.isSystem, List.forall_mem_singleton.2 hsystem⟩
  nodup_system := by
    refine List.nodup_append.2 ⟨h.nodup_system, List.nodup_singleton target, ?_⟩
    rintro p hp q hq rfl
    have hmet : g.nodes.get? p = some true := (h.mem_system p).1 hp
    rw [List.mem_singleton.1 hq, hnew] at hmet
    cases hmet

variable (hreached : IsReached fs search language main target)
include hreached

/-- A new file is met that cannot be read. -/
theorem Books.meet_unreadable (hread : ¬IsReadable fs target) :
    Books fs search language main ⟨openFiles, g.addNode target false⟩ where
  contains_files := h.contains_files
  nodup := h.nodup
  mem_parsed := by
    intro p
    rw [get?_addNode]
    split
    · next heq =>
      rw [heq]
      exact ⟨fun hp => absurd hp (h.not_mem_parsed_of_new hnew), fun hp => absurd hp.2 hread⟩
    · exact h.mem_parsed p
  reached := by
    intro p
    rw [get?_addNode]
    split
    · next heq => exact fun _ => heq ▸ hreached
    · exact h.reached p
  mem_system := by
    intro p
    rw [get?_addNode]
    refine (h.mem_system p).trans ?_
    split
    · next heq => simp [heq, hnew]
    · rfl
  isSystem := h.isSystem
  nodup_system := h.nodup_system

/-- A new file is opened. -/
theorem Books.open_file (hread : IsReadable fs target) (root : Node) (ds : List IncludeDirective) :
    Books fs search language main ⟨(target, ds) :: openFiles,
      { g.addNode target false with files := g.files.insert target root }⟩ := by
  have hperm : (Walk.mk ((target, ds) :: openFiles)
      { g.addNode target false with files := g.files.insert target root }).parsed.Perm
        (target :: (Walk.mk openFiles g).parsed) :=
    List.perm_middle
  refine ⟨?_, ?_, ?_, ?_, ?_, h.isSystem, h.nodup_system⟩
  · intro p
    rw [hperm.mem_iff, List.mem_cons, ← h.contains_files]
    exact g.files.contains_insert target p root
  · exact hperm.nodup_iff.2 (List.nodup_cons.2 ⟨h.not_mem_parsed_of_new hnew, h.nodup⟩)
  · intro p
    rw [hperm.mem_iff, List.mem_cons, h.mem_parsed]
    show _ ↔ (g.addNode target false).nodes.get? p = some false ∧ IsReadable fs p
    rw [get?_addNode]
    by_cases heq : p = target
    · simp [heq, hread]
    · simp [heq]
  · intro p
    show (g.addNode target false).nodes.get? p = some false → _
    rw [get?_addNode]
    split
    · next heq => exact fun _ => heq ▸ hreached
    · exact h.reached p
  · intro p
    show _ ↔ (g.addNode target false).nodes.get? p = some true
    rw [get?_addNode]
    split
    · next heq =>
      rw [heq]
      exact (h.mem_system target).trans (by simp [hnew])
    · exact h.mem_system p

end Books

/-! ### Directives -/

section Followed

variable {g g' : IncludeGraph} {path : String} {d : IncludeDirective} {ds : List IncludeDirective}
  {rest : List (String × List IncludeDirective)}

theorem Followed.mem_directivesOf (h : Followed fs search language ⟨(path, d :: ds) :: rest, g⟩) :
    d ∈ directivesOf fs language path := by
  obtain ⟨done, hdone, -⟩ := h.pending (path, d :: ds) List.mem_cons_self
  rw [hdone]
  exact List.mem_append_right done List.mem_cons_self

/-- A directive is followed. -/
theorem Followed.advance (h : Followed fs search language ⟨(path, d :: ds) :: rest, g⟩)
    (ha : Answers fs search path d g g') : Followed fs search language ⟨(path, ds) :: rest, g'⟩ := by
  have hparsed : (Walk.mk ((path, ds) :: rest) g').parsed =
      (Walk.mk ((path, d :: ds) :: rest) g).parsed := by
    show g'.order ++ _ = g.order ++ _
    rw [ha.order_eq]
    rfl
  have hpath : path ∈ (Walk.mk ((path, d :: ds) :: rest) g).parsed :=
    List.mem_append_right g.order List.mem_cons_self
  refine ⟨?_, ?_, ?_, ?_⟩
  · intro file hfile
    rcases List.mem_cons.1 hfile with rfl | hfile
    · -- the directive goes over to those that are done
      obtain ⟨done, hdone, hhandled⟩ := h.pending (path, d :: ds) List.mem_cons_self
      refine ⟨done ++ [d], by rw [hdone, List.append_assoc]; rfl, ?_⟩
      refine List.forall_mem_append.2 ⟨fun e he => ha.handled_of_handled (hhandled e he), ?_⟩
      exact List.forall_mem_singleton.2 ha.handled
    · obtain ⟨done, hdone, hhandled⟩ := h.pending file (List.mem_cons_of_mem _ hfile)
      exact ⟨done, hdone, fun e he => ha.handled_of_handled (hhandled e he)⟩
  · intro p hp e he
    rw [ha.order_eq] at hp
    exact ha.handled_of_handled (h.finished p hp e he)
  · intro p spelling hmem
    rw [hparsed]
    rcases (ha.mem_unresolved _).1 hmem with hmem | ⟨hnone, heq⟩
    · exact h.unresolved p spelling hmem
    · cases heq
      exact ⟨hpath, d, h.mem_directivesOf, rfl, hnone⟩
  · intro a b hmem
    rw [hparsed]
    rcases (ha.mem_edges _).1 hmem with hmem | ⟨target, hsome, heq⟩
    · obtain ⟨hparsed, hincludes, hmet⟩ := h.edges a b hmem
      exact ⟨hparsed, hincludes, ha.met_of_met hmet⟩
    · cases heq
      exact ⟨hpath, (includes_iff _ _ _).2 ⟨d, h.mem_directivesOf, hsome⟩, ha.met _ hsome⟩

/-- A file is opened with all its directives. -/
theorem Followed.push {openFiles : List (String × List IncludeDirective)}
    (h : Followed fs search language ⟨openFiles, g⟩) {target : String} {f : StoredFile}
    (hread : fs.read target = .ok f) :
    Followed fs search language ⟨(target, (f.parse language).includeDirectives) :: openFiles,
      { g with files := g.files.insert target (f.parse language) }⟩ := by
  have hmono : ∀ p ∈ (Walk.mk openFiles g).parsed,
      p ∈ (Walk.mk ((target, (f.parse language).includeDirectives) :: openFiles) g).parsed := by
    intro p hp
    exact (List.mem_append.1 hp).elim (List.mem_append_left _)
      fun hp => List.mem_append_right _ (List.mem_cons_of_mem _ hp)
  refine ⟨?_, h.finished, ?_, ?_⟩
  · intro file hfile
    rcases List.mem_cons.1 hfile with rfl | hfile
    · exact ⟨[], directivesOf_of_ok fs language hread, List.forall_mem_nil _⟩
    · exact h.pending file hfile
  · intro p spelling hmem
    obtain ⟨hp, hd⟩ := h.unresolved p spelling hmem
    exact ⟨hmono p hp, hd⟩
  · intro a b hmem
    obtain ⟨ha, hb⟩ := h.edges a b hmem
    exact ⟨hmono a ha, hb⟩

theorem parsed_finish :
    (Walk.mk rest { g with order := g.order ++ [path] }).parsed =
      (Walk.mk ((path, []) :: rest) g).parsed :=
  List.append_assoc g.order [path] _

/-- A file is finished. -/
theorem Followed.finish (h : Followed fs search language ⟨(path, []) :: rest, g⟩) :
    Followed fs search language ⟨rest, { g with order := g.order ++ [path] }⟩ := by
  refine ⟨fun file hfile => h.pending file (List.mem_cons_of_mem _ hfile), ?_, ?_, ?_⟩
  · intro p hp e he
    rcases List.mem_append.1 hp with hp | hp
    · exact h.finished p hp e he
    · -- all directives of the file are done
      obtain ⟨done, hdone, hhandled⟩ := h.pending (path, []) List.mem_cons_self
      rw [List.append_nil] at hdone
      rw [List.mem_singleton.1 hp] at he ⊢
      exact hhandled e (hdone ▸ he)
  · intro p spelling hmem
    rw [parsed_finish]
    exact h.unresolved p spelling hmem
  · intro a b hmem
    rw [parsed_finish]
    exact h.edges a b hmem

end Followed

/-! ### Order -/

section Nested

variable {g g' : IncludeGraph} {path : String} {d : IncludeDirective} {ds : List IncludeDirective}
  {rest : List (String × List IncludeDirective)}

/-- Every open file leads to the innermost one. -/
theorem reflTransGen_of_isChain {R : String → String → Prop} {inner : String} {files : List String}
    (h : (inner :: files).IsChain fun x y => R y x) :
    ∀ p ∈ inner :: files, ReflTransGen R p inner := by
  induction files generalizing inner with
  | nil =>
    intro p hp
    rw [List.mem_singleton.1 hp]
  | cons outer files ih =>
    obtain ⟨hstep, hrest⟩ := List.isChain_cons_cons.1 h
    intro p hp
    rcases List.mem_cons.1 hp with rfl | hp
    · exact .refl
    · exact (ih hrest p hp).tail hstep

theorem Nested.advance (h : Nested ⟨(path, d :: ds) :: rest, g⟩)
    (hnodup : (Walk.mk ((path, d :: ds) :: rest) g).parsed.Nodup)
    (ha : Answers fs search path d g g') : Nested ⟨(path, ds) :: rest, g'⟩ := by
  have hmono : ∀ e, e ∈ g.edges → e ∈ g'.edges := fun e he => (ha.mem_edges e).2 (.inl he)
  refine ⟨h.chain.imp fun _ _ he => hmono _ he, ?_⟩
  intro a b hedge horder hparsed
  show IsBefore g'.order b a ∨ _
  have horder' : a ∈ g.order := ha.order_eq ▸ horder
  have hparsed' : b ∈ (Walk.mk ((path, d :: ds) :: rest) g).parsed := by
    show b ∈ g.order ++ _
    rw [← ha.order_eq]
    exact hparsed
  rcases (ha.mem_edges _).1 hedge with hold | ⟨target, -, heq⟩
  · rw [ha.order_eq]
    exact (h.ordered a b hold horder' hparsed').imp id
      fun hback => ReflTransGen.mono (fun p q he => hmono (p, q) he) b a hback
  · -- the new edge starts at an open file
    cases heq
    obtain ⟨-, -, hdisjoint⟩ := List.nodup_append.1 hnodup
    exact absurd rfl (hdisjoint path horder' path List.mem_cons_self)

theorem Nested.push (h : Nested ⟨(path, ds) :: rest, g⟩) {target : String}
    (hedge : (path, target) ∈ g.edges) (hfresh : ∀ a ∈ g.order, (a, target) ∉ g.edges)
    (files : OrderedMap String Node) (ds' : List IncludeDirective) :
    Nested ⟨(target, ds') :: (path, ds) :: rest, { g with files := files }⟩ := by
  refine ⟨List.isChain_cons_cons.2 ⟨hedge, h.chain⟩, ?_⟩
  intro a b hmem horder hparsed
  refine h.ordered a b hmem horder ?_
  rcases List.mem_append.1 hparsed with hb | hb
  · exact List.mem_append_left _ hb
  · rcases List.mem_cons.1 hb with rfl | hb
    · exact absurd hmem (hfresh a horder)
    · exact List.mem_append_right _ hb

theorem Nested.finish (h : Nested ⟨(path, []) :: rest, g⟩) :
    Nested ⟨rest, { g with order := g.order ++ [path] }⟩ := by
  refine ⟨h.chain.tail, ?_⟩
  intro a b hedge horder hparsed
  rw [parsed_finish] at hparsed
  show IsBefore (g.order ++ [path]) b a ∨ _
  rcases List.mem_append.1 horder with ha | ha
  · refine (h.ordered a b hedge ha hparsed).imp ?_ id
    rintro ⟨front, back, hsplit, hb⟩
    have hsplit : g.order = front ++ a :: back := hsplit
    exact ⟨front, back ++ [path], by rw [hsplit, List.append_assoc]; rfl, hb⟩
  · -- what the file includes is finished already, or open and so leads to it
    rw [List.mem_singleton.1 ha]
    rcases List.mem_append.1 hparsed with hb | hb
    · exact .inl ⟨g.order, [], rfl, hb⟩
    · exact .inr (reflTransGen_of_isChain h.chain b hb)

end Nested

/-! ### Steps and runs -/

variable (fs search language main) in
theorem invariant_start : Invariant fs search language main (start fs language main) := by
  have hmet : (addNode {} main false).nodes.get? main = some false := by
    rw [get?_addNode, if_pos rfl]
  have hfollowed : Followed fs search language ⟨[], addNode {} main false⟩ :=
    ⟨List.forall_mem_nil _, List.forall_mem_nil _, nofun,
      fun _ _ hmem => absurd hmem (OrderedSet.not_mem_empty _)⟩
  have hordered : ∀ {openFiles g}, g.order = [] → (Walk.mk openFiles g).paths.length ≤ 1 →
      Nested ⟨openFiles, g⟩ := by
    intro openFiles g horder hlength
    refine ⟨?_, fun a b _ ha => absurd (horder ▸ ha) List.not_mem_nil⟩
    rcases hpaths : (Walk.mk openFiles g).paths with - | ⟨p, - | ⟨q, ps⟩⟩
    · exact .nil
    · exact .singleton p
    · rw [hpaths] at hlength
      simp at hlength
  unfold start enter
  split
  · next e hread =>
    have hbooks := (books_empty fs search language main).meet_unreadable rfl .refl
      (not_isReadable_of_error fs hread)
    exact ⟨hbooks.congr rfl rfl rfl rfl,
      ⟨hfollowed.pending, hfollowed.finished, hfollowed.unresolved, hfollowed.edges⟩,
      hordered rfl (Nat.zero_le 1), hmet⟩
  · next f hread =>
    exact ⟨(books_empty fs search language main).open_file rfl .refl ⟨f, hread⟩ _ _,
      hfollowed.push hread, hordered rfl (Nat.le_refl 1), hmet⟩

/-- A step of the walk keeps all that holds of it. -/
theorem Invariant.step {w w' : Walk} (h : Invariant fs search language main w)
    (hstep : w' ∈ step fs search language w) : Invariant fs search language main w' := by
  obtain ⟨hbooks, hfollowed, hnested, hmain⟩ := h
  unfold Walk.step at hstep
  split at hstep
  · cases hstep
  · -- a file is finished
    next path rest g =>
    cases hstep
    exact ⟨hbooks.congr rfl parsed_finish rfl rfl, hfollowed.finish, hnested.finish, hmain⟩
  next path d ds rest g =>
  have hparsed : path ∈ (Walk.mk ((path, d :: ds) :: rest) g).parsed :=
    List.mem_append_right g.order List.mem_cons_self
  split at hstep
  · -- nothing is found
    next hnone =>
    cases hstep
    have ha := answers_miss g hnone (.cannotFindInclude path d.spelling)
    exact ⟨hbooks.congr rfl rfl rfl rfl, hfollowed.advance ha, hnested.advance hbooks.nodup ha, hmain⟩
  next target hsome =>
  split at hstep
  · -- the file was met before
    next hknown =>
    cases hstep
    have ha := answers_addEdge g g hsome rfl rfl rfl (fun _ _ hp => hp)
      (Option.isSome_iff_ne_none.1 hknown)
    exact ⟨hbooks.congr rfl rfl rfl rfl, hfollowed.advance ha, hnested.advance hbooks.nodup ha, hmain⟩
  next hunknown =>
  have hnew : g.nodes.get? target = none := by
    simpa [OrderedMap.contains] using hunknown
  have hmet : ∀ isSystem, (g.addNode target isSystem).nodes.get? target ≠ none := by
    intro isSystem
    rw [get?_addNode, if_pos rfl]
    exact Option.some_ne_none _
  split at hstep
  · -- a new header of the system
    next hsystem =>
    cases hstep
    have ha := answers_addEdge g
      { g.addNode target true with systemHeaders := g.systemHeaders ++ [target] } hsome rfl rfl rfl
      (fun _ _ => get?_addNode_of_new hnew true) (hmet true)
    exact ⟨(hbooks.meet_system hnew hsystem).congr rfl rfl rfl rfl, hfollowed.advance ha,
      hnested.advance hbooks.nodup ha, get?_addNode_of_new hnew true hmain⟩
  next hsystem =>
  have hreached : IsReached fs search language main target :=
    (hbooks.reached path (hbooks.get?_of_mem_parsed hparsed)).tail
      ⟨(includes_iff _ _ _).2 ⟨d, hfollowed.mem_directivesOf, hsome⟩, Bool.eq_false_iff.2 hsystem⟩
  have ha := answers_addEdge g (g.addNode target false) hsome rfl rfl rfl
    (fun _ _ => get?_addNode_of_new hnew false) (hmet false)
  have hfollowed' := hfollowed.advance ha
  have hnested' := hnested.advance hbooks.nodup ha
  unfold enter at hstep
  split at hstep
  · -- a new file that cannot be read
    next e hread =>
    cases hstep
    exact ⟨(hbooks.meet_unreadable hnew hreached (not_isReadable_of_error fs hread)).congr rfl rfl rfl
      rfl, ⟨hfollowed'.pending, hfollowed'.finished, hfollowed'.unresolved, hfollowed'.edges⟩,
      ⟨hnested'.chain, hnested'.ordered⟩, get?_addNode_of_new hnew false hmain⟩
  · -- a new file is opened
    next f hread =>
    cases hstep
    have hfresh : ∀ a ∈ g.order,
        (a, target) ∉ ((g.addNode target false).addEdge path target).edges := by
      intro a horder hedge
      rcases (ha.mem_edges _).1 hedge with hold | ⟨t, -, heq⟩
      · obtain ⟨-, -, hmet⟩ := hfollowed.edges a target hold
        exact hmet hnew
      · cases heq
        obtain ⟨-, -, hdisjoint⟩ := List.nodup_append.1 hbooks.nodup
        exact hdisjoint path horder path List.mem_cons_self rfl
    exact ⟨(hbooks.open_file hnew hreached ⟨f, hread⟩ _ _).congr rfl rfl rfl rfl,
      hfollowed'.push hread,
      hnested'.push ((ha.mem_edges _).2 (.inr ⟨target, hsome, rfl⟩)) hfresh _ _,
      get?_addNode_of_new hnew false hmain⟩

theorem Invariant.of_reaches {w w' : Walk} (h : Invariant fs search language main w)
    (hrun : Reaches (Walk.step fs search language) w w') : Invariant fs search language main w' := by
  induction hrun with
  | refl => exact h
  | tail _ hstep ih => exact ih.step hstep

/-! ### The walk and the recursion -/

section Depth

variable (hsearch : search.IsAbsolute) (hmain : Path.IsNormalSpelling main)
include hsearch hmain

section Open

variable {w : Walk} (h : Invariant fs search language main w)
include h

/-- The open files are files, and spelled normally. -/
theorem Invariant.isFile_of_mem_paths {p : String} (hp : p ∈ w.paths) :
    Path.IsNormalSpelling p ∧ fs.isFile p = true := by
  obtain ⟨hmet, f, hread⟩ := (h.books.mem_parsed p).1 (List.mem_append_right _ hp)
  exact ⟨(h.books.reached p hmet).isNormalSpelling fs search language hsearch hmain,
    fs.isFile_of_read hread⟩

theorem Invariant.paths_subset_spellings : w.paths ⊆ fs.spellings := by
  intro p hp
  obtain ⟨hnormal, hfile⟩ := h.isFile_of_mem_paths hsearch hmain hp
  exact fs.mem_spellings hnormal hfile

omit hsearch hmain in
theorem Invariant.nodup_paths : w.paths.Nodup :=
  (List.nodup_append.1 h.books.nodup).2.1

/-- No more files are open than there are spellings of files. -/
theorem Invariant.length_openFiles_le : w.openFiles.length ≤ 2 * fs.size := by
  have hlength := (h.nodup_paths.subperm (h.paths_subset_spellings hsearch hmain)).length_le
  rw [fs.length_spellings, paths, List.length_map] at hlength
  exact hlength

/-- Together with a new one, the open files are distinct files of the file system. -/
theorem Invariant.length_paths_lt {path target : String} {d : IncludeDirective}
    (hpath : path ∈ w.paths) (hsome : search.resolve? fs d path = some target)
    (hnew : w.graph.nodes.get? target = none) : w.paths.length < 2 * fs.size := by
  have hopen := h.isFile_of_mem_paths hsearch hmain hpath
  have htarget := hsearch.isNormalSpelling_resolve? hopen.1.isAbsolute hsome
  have hnodup : (target :: w.paths).Nodup := by
    refine List.nodup_cons.2 ⟨fun hmem => ?_, h.nodup_paths⟩
    exact h.books.not_mem_parsed_of_new hnew (List.mem_append_right _ hmem)
  have hsubset : target :: w.paths ⊆ fs.spellings :=
    List.cons_subset.2 ⟨fs.mem_spellings htarget.1 htarget.2,
      h.paths_subset_spellings hsearch hmain⟩
  have hlength := (hnodup.subperm hsubset).length_le
  rw [fs.length_spellings] at hlength
  exact hlength

end Open

variable (fs search language main) in
omit hsearch hmain in
/-- When the walk has followed all directives of the innermost file, it is where the recursion gets
that goes so many levels deeper, if this is deep enough for all files. -/
def Simulates (depth : Nat) : Prop :=
  ∀ path ds rest g, Invariant fs search language main ⟨(path, ds) :: rest, g⟩ →
    2 * fs.size ≤ depth + (rest.length + 1) →
    Reaches (Walk.step fs search language) ⟨(path, ds) :: rest, g⟩
      ⟨(path, []) :: rest, ds.foldl (follow fs search (visit fs search language depth) path) g⟩

omit hsearch hmain in
theorem addNode_addEdge_addNode (g : IncludeGraph) (path target : String) :
    ((g.addNode target false).addEdge path target).addNode target false =
      (g.addNode target false).addEdge path target := by
  simp only [addNode, addEdge, OrderedMap.insert_insert]

/-- The walk follows a directive as the recursion does. -/
theorem reaches_follow {depth : Nat} (ih : ∀ k < depth, Simulates fs search language main k)
    {path : String} {d : IncludeDirective} {ds : List IncludeDirective}
    {rest : List (String × List IncludeDirective)} {g : IncludeGraph}
    (h : Invariant fs search language main ⟨(path, d :: ds) :: rest, g⟩)
    (hdepth : 2 * fs.size ≤ depth + (rest.length + 1)) :
    Reaches (Walk.step fs search language) ⟨(path, d :: ds) :: rest, g⟩
      ⟨(path, ds) :: rest, follow fs search (visit fs search language depth) path g d⟩ := by
  unfold follow
  rcases hresolve : search.resolve? fs d path with - | target
  · exact .single (by simp [Walk.step, hresolve])
  dsimp only
  by_cases hknown : g.nodes.contains target = true
  · rw [if_pos hknown]
    exact .single (by simp [Walk.step, hresolve, hknown])
  rw [if_neg hknown]
  by_cases hsystem : search.isSystem target = true
  · rw [if_pos hsystem]
    exact .single (by simp [Walk.step, hresolve, hknown, hsystem])
  rw [if_neg hsystem]
  have hstep : enter fs language target ((path, ds) :: rest)
      ((g.addNode target false).addEdge path target) ∈
        Walk.step fs search language ⟨(path, d :: ds) :: rest, g⟩ := by
    simp [Walk.step, hresolve, hknown, hsystem]
  have hentered := h.step hstep
  -- the file is new, so the recursion has not come to its limit
  have hnew : g.nodes.get? target = none := by
    simpa [OrderedMap.contains] using hknown
  have hlt := h.length_paths_lt hsearch hmain List.mem_cons_self hresolve hnew
  have hlength : (Walk.mk ((path, d :: ds) :: rest) g).paths.length = rest.length + 1 :=
    List.length_map _
  obtain ⟨k, rfl⟩ : ∃ k, depth = k + 1 := ⟨depth - 1, by omega⟩
  unfold enter at hstep hentered
  rcases hread : fs.read target with e | f
  · rw [visit_of_error fs search language hread, addNode_addEdge_addNode]
    rw [hread] at hstep
    exact .single hstep
  · rw [visit_of_ok fs search language hread, opened, addNode_addEdge_addNode]
    rw [hread] at hstep hentered
    have hinner := ih k (Nat.lt_succ_self k) target (f.parse language).includeDirectives
      ((path, ds) :: rest) _ hentered (by rw [List.length_cons]; omega)
    have hfirst : Reaches (Walk.step fs search language) _ _ := .single hstep
    exact (hfirst.trans hinner).tail rfl

theorem simulates (depth : Nat) : Simulates fs search language main depth := by
  induction depth using Nat.strongRecOn with
  | _ depth ih =>
    intro path ds rest g h hdepth
    induction ds generalizing g with
    | nil => exact .refl
    | cons d ds ihds =>
      have hfirst := reaches_follow hsearch hmain ih h hdepth
      exact hfirst.trans (ihds _ (h.of_reaches hfirst))

variable (fs language) in
/-- The walk ends with the graph that the recursion makes. -/
theorem mem_eval_build :
    ⟨[], build fs search language main⟩ ∈
      eval (Walk.step fs search language) (start fs language main) := by
  refine mem_eval.2 ⟨?_, rfl⟩
  have hdepth : depthLimit fs = (2 * fs.size + 999) + 1 := rfl
  have hinvariant := invariant_start fs search language main
  unfold build
  unfold start enter at hinvariant ⊢
  rcases hread : fs.read main with e | f
  · rw [hdepth, visit_of_error fs search language hread]
    exact .refl
  · rw [hdepth, visit_of_ok fs search language hread]
    rw [hread] at hinvariant
    have hrun := simulates hsearch hmain (2 * fs.size + 999) main
      (f.parse language).includeDirectives [] _ hinvariant (by omega)
    exact hrun.tail rfl

end Depth

/-! ### The end of a walk -/

theorem parsed_end (g : IncludeGraph) : (Walk.mk [] g).parsed = g.order :=
  List.append_nil g.order

section End

variable {g : IncludeGraph} (h : Invariant fs search language main ⟨[], g⟩)
include h

theorem Invariant.mem_order {p : String} :
    p ∈ g.order ↔ IsReached fs search language main p ∧ IsReadable fs p := by
  have hmem := h.books.mem_parsed
  rw [parsed_end] at hmem
  -- along the way every file is met, and none as a header of the system
  have hmet : ∀ {p}, IsReached fs search language main p → g.nodes.get? p = some false := by
    intro p hreached
    induction hreached with
    | refl => exact h.main_met
    | @tail a b _ hstep ih =>
      obtain ⟨hincludes, hsystem⟩ := hstep
      obtain ⟨d, hd, hsome⟩ := (includes_iff _ _ _).1 hincludes
      have horder : a ∈ g.order := (hmem a).2 ⟨ih, hincludes.isReadable⟩
      have hedge := h.followed.finished a horder d hd
      unfold Handled at hedge
      rw [hsome] at hedge
      obtain ⟨-, -, hmet⟩ := h.followed.edges a b hedge
      obtain ⟨s, hs⟩ := Option.ne_none_iff_exists'.1 hmet
      cases s with
      | false => exact hs
      | true =>
        have hsystem' := h.books.isSystem b ((h.books.mem_system b).2 hs)
        rw [hsystem] at hsystem'
        cases hsystem'
  rw [hmem]
  exact and_congr_left fun _ => ⟨h.books.reached p, hmet⟩

theorem Invariant.mem_edges {a b : String} :
    (a, b) ∈ g.edges ↔ a ∈ g.order ∧ Includes fs search language a b := by
  constructor
  · intro hedge
    obtain ⟨ha, hincludes, -⟩ := h.followed.edges a b hedge
    exact ⟨parsed_end g ▸ ha, hincludes⟩
  · rintro ⟨ha, hincludes⟩
    obtain ⟨d, hd, hsome⟩ := (includes_iff _ _ _).1 hincludes
    have hedge := h.followed.finished a ha d hd
    unfold Handled at hedge
    rwa [hsome] at hedge

theorem Invariant.mem_unresolved {p spelling : String} :
    (p, spelling) ∈ g.unresolved ↔ p ∈ g.order ∧
      ∃ d, HasDirective fs language p d ∧ d.spelling = spelling ∧
        ∀ target, ¬search.Finds fs p d target := by
  constructor
  · intro hmem
    obtain ⟨hp, d, hd, hspelling, hnone⟩ := h.followed.unresolved p spelling hmem
    exact ⟨parsed_end g ▸ hp, d, (mem_directivesOf_iff _ _).1 hd, hspelling,
      SearchPath.resolve?_eq_none_iff.1 hnone⟩
  · rintro ⟨hp, d, hd, rfl, hnone⟩
    have hmem := h.followed.finished p hp d ((mem_directivesOf_iff _ _).2 hd)
    unfold Handled at hmem
    rwa [SearchPath.resolve?_eq_none_iff.2 hnone] at hmem

end End

/-- The files of an include graph are spelled normally. -/
theorem isNormalSpelling_of_mem_order (fs : FileSystem) {search : SearchPath} (language : Language)
    (hsearch : search.IsAbsolute) {main : String} (hmain : Path.IsNormalSpelling main) {p : String}
    (hp : p ∈ (build fs search language main).order) : Path.IsNormalSpelling p := by
  have hend := mem_eval_build fs language hsearch hmain
  have h := (invariant_start fs search language main).of_reaches (mem_eval.1 hend).1
  exact (h.mem_order.1 hp).1.isNormalSpelling _ _ _ hsearch hmain

end Walk

/-- **The include graph of a command.**  The search for the files of a unit ends, however the files
include one another, and it ends with the graph that is built.  On its way no more files are open
inside one another than there are spellings of files.

In this graph `order` lists every parsed file once.  These are the files that can be read among those
reached from the main file over directives that stand for files outside of the system.  A main file
that can be read is the last one.  The edges are those of the directives in parsed files.  If a parsed
file includes another, and that one does not lead back to it, then the included file is listed first.
No header of the system is listed twice or parsed.  A directive is unresolved exactly if it stands in a
parsed file and no file is found for it. -/
theorem build_ofArguments (fs : FileSystem) (wd : WorkingDirectory) (file directory : String)
    (arguments extra : List String) :
    let command := CompileCommand.ofArguments wd file directory arguments
    let search := SearchPath.ofCommand wd command extra
    let main := command.file
    let g := build fs search command.language main
    ⟨[], g⟩ ∈ eval (Walk.step fs search command.language) (Walk.start fs command.language main) ∧
      (∀ w, Reaches (Walk.step fs search command.language) (Walk.start fs command.language main) w →
        w.openFiles.length ≤ 2 * fs.size) ∧
      g.order.Nodup ∧
      (∀ p, g.files.contains p = true ↔ p ∈ g.order) ∧
      (∀ p, p ∈ g.order ↔
        IsReached fs search command.language main p ∧ IsReadable fs p) ∧
      (IsReadable fs main → g.order.getLast? = some main) ∧
      (∀ a b, (a, b) ∈ g.edges ↔ a ∈ g.order ∧ Includes fs search command.language a b) ∧
      (∀ a b, (a, b) ∈ g.edges → a ∈ g.order → b ∈ g.order →
        ¬ReflTransGen (fun p q => (p, q) ∈ g.edges) b a → IsBefore g.order b a) ∧
      g.systemHeaders.Nodup ∧
      (∀ p ∈ g.systemHeaders, p ∉ g.order) ∧
      ∀ p spelling, (p, spelling) ∈ g.unresolved ↔ p ∈ g.order ∧
        ∃ d, HasDirective fs command.language p d ∧ d.spelling = spelling ∧
          ∀ target, ¬search.Finds fs p d target := by
  intro command search main g
  have hcommand := CompileCommand.isAbsolute_ofArguments wd file directory arguments
  have hsearch := hcommand.ofCommand wd extra
  have hend := Walk.mem_eval_build fs command.language hsearch hcommand.file
  have hstart := Walk.invariant_start fs search command.language main
  have h : Walk.Invariant fs search command.language main ⟨[], g⟩ :=
    hstart.of_reaches (mem_eval.1 hend).1
  refine ⟨hend, ?_, ?_, ?_, fun p => h.mem_order, ?_, fun a b => h.mem_edges, ?_,
    h.books.nodup_system, ?_, fun p spelling => h.mem_unresolved⟩
  · exact fun w hw => (hstart.of_reaches hw).length_openFiles_le hsearch hcommand.file
  · exact Walk.parsed_end g ▸ h.books.nodup
  · intro p
    rw [← Walk.parsed_end]
    exact h.books.contains_files p
  · rintro ⟨f, hread⟩
    obtain ⟨headers, horder, -⟩ := build_of_ok fs search command.language hread
    show (build fs search command.language main).order.getLast? = some main
    rw [horder, List.getLast?_concat]
  · intro a b hedge ha hb hback
    rw [← Walk.parsed_end] at hb
    exact (h.nested.ordered a b hedge ha hb).resolve_right hback
  · intro p hp horder
    have hfile : g.nodes.get? p = some false :=
      h.books.get?_of_mem_parsed ((Walk.parsed_end g).symm ▸ horder)
    have hsystem : g.nodes.get? p = some true := (h.books.mem_system p).1 hp
    rw [hfile] at hsystem
    cases hsystem

/-! ### Headers that include each other -/

/-- The tree of a directive whose path stands between two offsets, inside a conditional. -/
def directiveTree (start stop : Nat) : Tree :=
  ⟨"preproc_ifdef", start, stop, true, false, false, "",
    [⟨"preproc_include", start, stop, true, false, false, "",
      [⟨"string_literal", start, stop, true, false, false, "path", []⟩]⟩]⟩

/-- A file with directives whose paths stand between the offsets. -/
def includingFile (text : String) (paths : List (Nat × Nat)) : StoredFile where
  bytes := Guard.bytesOf text
  cTree := some ⟨"translation_unit", 0, text.length, true, false, false, "",
    paths.map fun p => directiveTree p.1 p.2⟩

/-- The main file includes `a.h` and a header of the system, `a.h` includes `b.h`, and `b.h` includes
`a.h` again and a header that is not there. -/
def cyclicFiles : FileSystem where
  root := some [("p", .directory
      [("m.c", .file (includingFile "#include \"a.h\"\n#include < s.h >" [(9, 14), (24, 31)])),
        ("a.h", .file (includingFile "#include \"b.h\"" [(9, 14)])),
        ("b.h", .file (includingFile "#include \"a.h\"\n#include \"x.h\"" [(9, 14), (24, 29)]))]),
    ("usr", .directory [("include", .directory [("s.h", .file {})])])]

/-- The command for the main file. -/
def cyclicCommand : CompileCommand :=
  .ofArguments .root "m.c" "/p" ["cc", "-c", "m.c"]

/-- Where its headers are looked for. -/
def cyclicSearch : SearchPath :=
  .ofCommand .root cyclicCommand []

/-- The include graph of the main file. -/
def cyclicGraph : IncludeGraph :=
  build cyclicFiles cyclicSearch cyclicCommand.language cyclicCommand.file

/-- Of the files that include each other, the one that is met first is finished last.  The main file
reaches both, and each of them includes the other. -/
theorem build_ofArguments_cyclic :
    cyclicGraph.order = ["/p/b.h", "/p/a.h", "/p/m.c"] ∧
      cyclicGraph.systemHeaders = ["/usr/include/s.h"] ∧
      cyclicGraph.unresolved = [("/p/b.h", "x.h")] ∧
      IsReached cyclicFiles cyclicSearch cyclicCommand.language cyclicCommand.file "/p/b.h" ∧
      Includes cyclicFiles cyclicSearch cyclicCommand.language "/p/a.h" "/p/b.h" ∧
      Includes cyclicFiles cyclicSearch cyclicCommand.language "/p/b.h" "/p/a.h" ∧
      ∃ d, HasDirective cyclicFiles cyclicCommand.language "/p/b.h" d ∧ d.spelling = "x.h" := by
  obtain ⟨-, -, -, -, hreached, -, hedges, -, -, -, hunresolved⟩ :=
    build_ofArguments cyclicFiles .root "m.c" "/p" ["cc", "-c", "m.c"] []
  change ∀ p, p ∈ cyclicGraph.order ↔ _ at hreached
  change ∀ a b, (a, b) ∈ cyclicGraph.edges ↔ _ at hedges
  change ∀ p spelling, (p, spelling) ∈ cyclicGraph.unresolved ↔ _ at hunresolved
  obtain ⟨horder, hsystem, hmissing, hforth, hback⟩ :
      cyclicGraph.order = ["/p/b.h", "/p/a.h", "/p/m.c"] ∧
        cyclicGraph.systemHeaders = ["/usr/include/s.h"] ∧
        cyclicGraph.unresolved = [("/p/b.h", "x.h")] ∧
        ("/p/a.h", "/p/b.h") ∈ cyclicGraph.edges ∧ ("/p/b.h", "/p/a.h") ∈ cyclicGraph.edges := by
    decide +kernel
  refine ⟨horder, hsystem, hmissing, ?_, ((hedges _ _).1 hforth).2, ((hedges _ _).1 hback).2, ?_⟩
  · exact ((hreached _).1 (horder ▸ List.mem_cons_self)).1
  · obtain ⟨-, d, hd, hspelling, -⟩ := (hunresolved _ _).1 (hmissing ▸ List.mem_singleton_self _)
    exact ⟨d, hd, hspelling⟩

end IncludeGraph

end Unreferenced
