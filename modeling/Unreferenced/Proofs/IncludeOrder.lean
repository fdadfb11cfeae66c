/-
Unreferenced/Proofs/IncludeOrder.lean

In which order the files of a translation unit are parsed and finished.

Taking up a file follows its directives one by one, and each of them may take up
further files.  What all of this can do to an include graph is `Grows`: files are
finished that were not met before, they are just those that are parsed, and no
file that was met is forgotten.  A directive grows the graph (`grows_follow`),
and so does a list of them.

For a graph as a whole it follows that the parsed files are the finished ones,
and that the main file comes last, and nowhere before (`build_of_ok`), or that
nothing is parsed at all (`build_of_error`).
-/
import Mathlib.Tactic.Tauto
import Unreferenced.Include.Graph

namespace Unreferenced.IncludeGraph

/-! ### What following directives can do -/

/-- From one graph to another some files were finished.  They are the files that were parsed, and
none of them had been met before. -/
structure Grows (g g' : IncludeGraph) (finished : List String) : Prop where
  order_eq : g'.order = g.order ++ finished
  parsed : ∀ p, g'.files.contains p = true ↔ g.files.contains p = true ∨ p ∈ finished
  met : ∀ p, g.nodes.contains p = true → g'.nodes.contains p = true
  fresh : ∀ p ∈ finished, ¬g.nodes.contains p = true

variable {g g' g'' : IncludeGraph} {finished later : List String}

/-- Nothing is finished where at most new files are met. -/
theorem Grows.of_eq (horder : g'.order = g.order) (hfiles : g'.files = g.files)
    (hmet : ∀ p, g.nodes.contains p = true → g'.nodes.contains p = true) : Grows g g' [] where
  order_eq := by rw [horder, List.append_nil]
  parsed := by simp [hfiles]
  met := hmet
  fresh := List.forall_mem_nil _

theorem Grows.trans (h : Grows g g' finished) (h' : Grows g' g'' later) :
    Grows g g'' (finished ++ later) where
  order_eq := by rw [h'.order_eq, h.order_eq, List.append_assoc]
  parsed := by
    intro p
    rw [h'.parsed, h.parsed, List.mem_append, or_assoc]
  met := fun p hp => h'.met p (h.met p hp)
  fresh := by
    intro p hp hmet
    rcases List.mem_append.1 hp with hp | hp
    · exact h.fresh p hp hmet
    · exact h'.fresh p hp (h.met p hmet)

theorem contains_addNode (g : IncludeGraph) (path : String) (isSystem : Bool) (p : String) :
    (g.addNode path isSystem).nodes.contains p = true ↔ p = path ∨ g.nodes.contains p = true :=
  g.nodes.contains_insert path p isSystem

theorem met_addNode {p : String} (h : g.nodes.contains p = true) (path : String)
    (isSystem : Bool) : (g.addNode path isSystem).nodes.contains p = true :=
  (contains_addNode g path isSystem p).2 (.inr h)

variable (fs : FileSystem) (search : SearchPath) (language : Language)

/-- Following a directive grows the graph, if taking up a file that has just been met does. -/
theorem grows_follow {take : String → IncludeGraph → IncludeGraph} (path : String)
    (htake : ∀ target g, ¬g.nodes.contains target = true → ∃ finished,
      Grows g (take target ((g.addNode target false).addEdge path target)) finished)
    (g : IncludeGraph) (d : IncludeDirective) :
    ∃ finished, Grows g (follow fs search take path g d) finished := by
  unfold follow
  rcases search.resolve? fs d path with - | target
  · exact ⟨[], .of_eq rfl rfl fun _ hp => hp⟩
  dsimp only
  split
  · exact ⟨[], .of_eq rfl rfl fun _ hp => hp⟩
  split
  · exact ⟨[], .of_eq rfl rfl fun _ hp => met_addNode hp target true⟩
  · next hnew _ => exact htake target g hnew

theorem grows_foldl_follow {take : String → IncludeGraph → IncludeGraph} (path : String)
    (htake : ∀ target g, ¬g.nodes.contains target = true → ∃ finished,
      Grows g (take target ((g.addNode target false).addEdge path target)) finished)
    (directives : List IncludeDirective) (g : IncludeGraph) :
    ∃ finished, Grows g (directives.foldl (follow fs search take path) g) finished := by
  induction directives generalizing g with
  | nil => exact ⟨[], .of_eq rfl rfl fun _ hp => hp⟩
  | cons d directives ih =>
    obtain ⟨finished, hfirst⟩ := grows_follow fs search path htake g d
    obtain ⟨later, hlater⟩ := ih (follow fs search take path g d)
    exact ⟨finished ++ later, hfirst.trans hlater⟩

/-! ### Taking up a file -/

/-- The graph with a file that has been parsed, before its directives are followed. -/
def opened (g : IncludeGraph) (path : String) (root : Node) : IncludeGraph :=
  { g.addNode path false with files := g.files.insert path root }

theorem visit_of_error {path : String} {e : ReadError} (h : fs.read path = .error e) (depth : Nat)
    (g : IncludeGraph) :
    visit fs search language (depth + 1) path g =
      (g.addNode path false).addNote (.cannotRead path (e.message path)) := by
  simp only [visit, h]

theorem visit_of_ok {path : String} {f : StoredFile} (h : fs.read path = .ok f) (depth : Nat)
    (g : IncludeGraph) :
    visit fs search language (depth + 1) path g =
      let followed := (f.parse language).includeDirectives.foldl
        (follow fs search (visit fs search language depth) path) (g.opened path (f.parse language))
      { followed with order := followed.order ++ [path] } := by
  simp only [visit, h]
  rfl

/-- Taking up a file that has just been met grows the graph. -/
theorem grows_visit (depth : Nat) (includer target : String) (g : IncludeGraph)
    (hnew : ¬g.nodes.contains target = true) :
    ∃ finished, Grows g (visit fs search language depth target
      ((g.addNode target false).addEdge includer target)) finished := by
  induction depth generalizing includer target g with
  | zero => exact ⟨[], .of_eq rfl rfl fun _ hp => met_addNode hp target false⟩
  | succ depth ih =>
    -- the file is met by the directive and once more when it is taken up
    have hmet : ∀ p, g.nodes.contains p = true →
        (((g.addNode target false).addEdge includer target).addNode target false).nodes.contains p =
          true :=
      fun p hp => @met_addNode ((g.addNode target false).addEdge includer target) p
        (met_addNode hp target false) target false
    rcases hread : fs.read target with e | f
    · rw [visit_of_error fs search language hread]
      exact ⟨[], .of_eq rfl rfl hmet⟩
    · rw [visit_of_ok fs search language hread]
      obtain ⟨inner, hinner⟩ := grows_foldl_follow fs search target (ih target)
        (f.parse language).includeDirectives
        (((g.addNode target false).addEdge includer target).opened target (f.parse language))
      -- the file itself is finished after all that it includes
      refine ⟨inner ++ [target], ?_, ?_, ?_, ?_⟩
      · dsimp only
        rw [hinner.order_eq, ← List.append_assoc]
        rfl
      · intro p
        refine (hinner.parsed p).trans ?_
        have hopened := g.files.contains_insert target p (f.parse language)
        rw [List.mem_append, List.mem_singleton]
        refine (or_congr_left hopened).trans ?_
        tauto
      · exact fun p hp => hinner.met p (hmet p hp)
      · intro p hp hold
        rcases List.mem_append.1 hp with hp | hp
        · exact hinner.fresh p hp (hmet p hold)
        · rw [List.mem_singleton.1 hp] at hold
          exact hnew hold

/-! ### The graph of a main file -/

/-- A main file that can be read is finished last, after the headers; it is none of them, and these
files are all that is parsed. -/
theorem build_of_ok {main : String} {f : StoredFile} (h : fs.read main = .ok f) :
    ∃ headers, (build fs search language main).order = headers ++ [main] ∧ main ∉ headers ∧
      ∀ p, (build fs search language main).files.contains p = true ↔ p ∈ headers ++ [main] := by
  have hdepth : depthLimit fs = (2 * fs.size + 999) + 1 := rfl
  unfold build
  rw [hdepth, visit_of_ok fs search language h]
  obtain ⟨headers, hheaders⟩ := grows_foldl_follow fs search main
    (grows_visit fs search language (2 * fs.size + 999) main)
    (f.parse language).includeDirectives (opened {} main (f.parse language))
  refine ⟨headers, ?_, ?_, ?_⟩
  · dsimp only
    rw [hheaders.order_eq]
    rfl
  · intro hmain
    apply hheaders.fresh main hmain
    exact (contains_addNode {} main false main).2 (.inl rfl)
  · intro p
    refine (hheaders.parsed p).trans ?_
    have hopened := (OrderedMap.empty : OrderedMap String Node).contains_insert main p (f.parse language)
    rw [List.mem_append, List.mem_singleton]
    refine (or_congr_left hopened).trans ?_
    simp [OrderedMap.contains, or_comm]

/-- Without its main file a unit has no files at all. -/
theorem build_of_error {main : String} {e : ReadError} (h : fs.read main = .error e) :
    (build fs search language main).order = [] ∧
      (build fs search language main).files = .empty := by
  have hdepth : depthLimit fs = (2 * fs.size + 999) + 1 := rfl
  unfold build
  rw [hdepth, visit_of_error fs search language h]
  exact ⟨rfl, rfl⟩

end Unreferenced.IncludeGraph
