import CodeAtlas.Graph.Basic

/-!
# Import cycles

A depth-first search from every file in path order, with an explicit chain of the files whose
imports are being followed. Meeting a file of the chain closes a cycle; files whose imports have all
been followed are not entered again. A cycle is written from its smallest path on and reported once.
`Graph.walk` is the search. It ends because every step takes away work: a file is entered once, each
of its imports is followed once, and it is left once.
-/

namespace CodeAtlas.Graph

/-- What the search has found so far. -/
structure CycleSearch where
  /-- Files whose imports have all been followed. -/
  finished : List Path := []
  /-- The cycles, newest first. -/
  cycles : List (List Path) := []
  deriving Inhabited

/-- The position of the first smallest path. -/
def smallestIndex : List Path → Nat
  | [] => 0
  | path :: rest =>
    if rest.all (path.le ·) then 0 else smallestIndex rest + 1

/-- The cycle written from its smallest path on. -/
def rotate (cycle : List Path) : List Path :=
  let start := smallestIndex cycle
  cycle.drop start ++ cycle.take start

/-- Whether two lists name the same places in the same order. -/
def samePaths : List Path → List Path → Bool
  | [], [] => true
  | a :: left, b :: right => a.same b && samePaths left right
  | _, _ => false

/-- Note a cycle, unless it is known. -/
def CycleSearch.note (search : CycleSearch) (cycle : List Path) : CycleSearch :=
  if search.cycles.any (samePaths · cycle) then search
  else { search with cycles := cycle :: search.cycles }

/-- Noting a cycle finishes no file. -/
@[simp] theorem CycleSearch.note_finished (search : CycleSearch) (cycle : List Path) :
    (search.note cycle).finished = search.finished := by
  unfold note
  split <;> rfl

/-- The part of a chain, given in reverse, from a path to the end of the chain. -/
def chainFrom (chain : List Path) (path : Path) : List Path :=
  (chain.takeWhile (!·.same path) ++ ((chain.find? (·.same path)).toList)).reverse

/-- A file of the current chain of imports, with those of its imports that have not been followed.
-/
structure Frame where
  path : Path
  rest : List Path
  deriving Inhabited

/-- The files of a chain, given in reverse. -/
def framePaths (chain : List Frame) : List Path :=
  chain.map (·.path)

/-- The work that files outside of `seen` can still cause: entering a file, following each of its
imports, and leaving it. -/
def workOutside (seen : List Path) : List (Path × Node) → Nat
  | [] => 0
  | (path, node) :: rest =>
    (if listed seen path then 0 else node.dependencies.length + 2) + workOutside seen rest

/-- The work that is left on a chain: following the remaining imports of each file, and leaving it.
-/
def workOnChain : List Frame → Nat
  | [] => 0
  | frame :: above => frame.rest.length + 1 + workOnChain above

/-- The work of files depends only on the places that have been seen. -/
theorem work_outside_congr {seen other : List Path} (entries : List (Path × Node))
    (h : ∀ path, listed seen path = listed other path) :
    workOutside seen entries = workOutside other entries := by
  induction entries with
  | nil => rfl
  | cons entry rest ih => rw [workOutside, workOutside, h, ih]

/-- Seeing one more file never adds work. -/
theorem work_outside_cons_le (target : Path) (seen : List Path) (entries : List (Path × Node)) :
    workOutside (target :: seen) entries ≤ workOutside seen entries := by
  induction entries with
  | nil => exact Nat.le_refl _
  | cons entry rest ih =>
      rw [workOutside, workOutside, listed_cons]
      cases hseen : listed seen entry.1 with
      | true => simpa using ih
      | false =>
          simp only [Bool.or_false, Bool.false_eq_true, if_false]
          split <;> omega

/-- Entering a new file takes its work away. -/
theorem work_outside_cons_lt {entries : List (Path × Node)} {target : Path} {entry : Path × Node}
    {seen : List Path} (hentry : entries.find? (·.1.same target) = some entry)
    (hnew : listed seen target = false) :
    workOutside (target :: seen) entries + (entry.2.dependencies.length + 2)
      ≤ workOutside seen entries := by
  induction entries with
  | nil => simp at hentry
  | cons first rest ih =>
      rw [workOutside, workOutside, listed_cons, Path.same_comm]
      cases hfirst : first.1.same target with
      | true =>
          obtain rfl : first = entry := by simpa [List.find?_cons, hfirst] using hentry
          rw [listed_congr hfirst, hnew]
          have := work_outside_cons_le target seen rest
          simp only [Bool.true_or, if_true, Bool.false_eq_true, if_false]
          omega
      | false =>
          rw [List.find?_cons, hfirst] at hentry
          have := ih hentry
          simp only [Bool.false_or]
          omega

/-- Follow the imports of a chain, which is given in reverse, and of the files met on the way. -/
def walk (graph : Graph) (chain : List Frame) (search : CycleSearch) : CycleSearch :=
  match chain with
  | [] => search
  | ⟨current, []⟩ :: above =>
    walk graph above { search with finished := current :: search.finished }
  | ⟨current, target :: rest⟩ :: above =>
    if listed (framePaths (⟨current, rest⟩ :: above)) target then
      walk graph (⟨current, rest⟩ :: above)
        (search.note (rotate (chainFrom (framePaths (⟨current, rest⟩ :: above)) target)))
    else if listed search.finished target then walk graph (⟨current, rest⟩ :: above) search
    else
      match hnode : graph.node? target with
      | none => walk graph (⟨current, rest⟩ :: above) search
      | some node => walk graph (⟨target, node.dependencies⟩ :: ⟨current, rest⟩ :: above) search
termination_by workOutside (framePaths chain ++ search.finished) graph.nodes + workOnChain chain
decreasing_by
  -- A file that is left goes from the chain to the finished ones, so nothing more lies outside.
  · have hseen : ∀ path, listed (framePaths above ++ current :: search.finished) path
        = listed (framePaths (⟨current, []⟩ :: above) ++ search.finished) path := by
      intro path
      simp [framePaths, Bool.or_left_comm]
    rw [work_outside_congr graph.nodes hseen]
    simp [workOnChain]
  · simp [framePaths, workOnChain]
  · simp [framePaths, workOnChain]
  · simp [framePaths, workOnChain]
  -- A file that is entered takes its imports from the work outside to the work on the chain.
  · next hchain hfinished =>
      obtain ⟨entry, hentry, rfl⟩ := Option.map_eq_some_iff.mp hnode
      have hnew : listed (framePaths (⟨current, rest⟩ :: above) ++ search.finished) target =
          false := by
        simp [hchain, hfinished]
      have hwork := work_outside_cons_lt hentry hnew
      simp only [framePaths, workOnChain, List.map_cons, List.length_cons,
        List.cons_append] at hwork ⊢
      omega

/-- Search from a file, unless its imports have all been followed. -/
def enter (graph : Graph) (search : CycleSearch) (entry : Path × Node) : CycleSearch :=
  if listed search.finished entry.1 then search
  else walk graph [⟨entry.1, entry.2.dependencies⟩] search

/-- The import cycles of a graph, each once, in the order in which the search closes them. -/
def cycles (graph : Graph) : List (List Path) :=
  (graph.nodes.foldl graph.enter {}).cycles.reverse

end CodeAtlas.Graph
