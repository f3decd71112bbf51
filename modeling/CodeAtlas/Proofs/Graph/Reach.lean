import CodeAtlas.Graph.Traversal
import CodeAtlas.Proofs.Graph.Cycle
import CodeAtlas.Proofs.Graph.Transpose

/-!
# Reached files, nearest first

Read `Graph.ListsReached` first: it says which files a traversal has to list and in which order,
without the traversal. `QueueInv` is the invariant of a visit in breadth: the depths of known
members never fall along the queue, and they span at most two levels. When the queue is empty,
depths are distances (`breadth_first_nearest`). Both traversals of a graph are such visits, one
along imports and one against them.
-/

namespace CodeAtlas

/-- `Steps step hops source target` says that `target` is reached from `source` in that many steps.
-/
def Steps {α : Type} (step : α → α → Prop) : (hops : Nat) → (source target : α) → Prop
  | 0, source, target => source = target
  | hops + 1, source, target => ∃ middle, Steps step hops source middle ∧ step middle target

/-- What is reached at all is reached in some number of steps. -/
theorem exists_steps_iff {α : Type} {step : α → α → Prop} {source target : α} :
    (∃ hops, Steps step hops source target) ↔ Relation.ReflTransGen step source target := by
  constructor
  · rintro ⟨hops, hsteps⟩
    induction hops generalizing target with
    | zero => exact hsteps ▸ .refl
    | succ hops ih =>
        obtain ⟨middle, hmiddle, hstep⟩ := hsteps
        exact (ih hmiddle).tail hstep
  · intro hreached
    induction hreached with
    | refl => exact ⟨0, rfl⟩
    | tail _ hstep ih =>
        obtain ⟨hops, hsteps⟩ := ih
        exact ⟨hops + 1, _, hsteps, hstep⟩

section BreadthFirst

variable {α : Type} [DecidableEq α]

/-- The new members are those that are not known. -/
theorem mem_fresh {known members : List α} {a : α} :
    a ∈ fresh known members ↔ a ∈ members ∧ a ∉ known := by
  induction members generalizing known with
  | nil => simp [fresh]
  | cons first rest ih =>
      rw [fresh]
      split
      · next hknown =>
          rw [ih, List.mem_cons]
          constructor
          · exact fun h => ⟨Or.inr h.1, h.2⟩
          · rintro ⟨rfl | hmem, hnot⟩
            · exact False.elim (hnot hknown)
            · exact ⟨hmem, hnot⟩
      · next hnew =>
          rw [List.mem_cons, ih, List.mem_cons, List.mem_cons]
          by_cases heq : a = first
          · simp [heq, hnew]
          · simp [heq]

/-- The new members are listed once. -/
theorem fresh_nodup (known members : List α) : (fresh known members).Nodup := by
  induction members generalizing known with
  | nil => exact List.nodup_nil
  | cons first rest ih =>
      rw [fresh]
      split
      · exact ih known
      · refine List.nodup_cons.mpr ⟨?_, ih _⟩
        simp [mem_fresh]

variable {next : α → List α} {start : α}

/-- What holds between two visits. The members visited so far and those in the queue are all that is
known, and `depth` says in how many steps each of them was found. -/
structure QueueInv (next : α → List α) (start : α) (visited queue : List α) (depth : α → Nat) :
    Prop where
  nodup : (visited ++ queue).Nodup
  start_known : start ∈ visited ++ queue
  start_depth : depth start = 0
  reached : ∀ a ∈ visited ++ queue, Steps (fun a b => b ∈ next a) (depth a) start a
  sorted : (visited ++ queue).Pairwise fun a b => depth a ≤ depth b
  /-- Neighbours of what was visited are known, at most one step deeper. -/
  followed : ∀ a ∈ visited, ∀ b ∈ next a, b ∈ visited ++ queue ∧ depth b ≤ depth a + 1
  /-- Nothing is more than one step deeper than the head of the queue. -/
  span : ∀ first ∈ queue.head?, ∀ a ∈ visited ++ queue, depth a ≤ depth first + 1

/-- The depths after a visit: what was found is at the given level. -/
def deepen (found : List α) (level : Nat) (depth : α → Nat) (a : α) : Nat :=
  if a ∈ found then level else depth a

section Deepen

variable {known members : List α} {level : Nat} {depth : α → Nat}

/-- What was found is at the given level. -/
theorem deepen_of_fresh {a : α} (h : a ∈ fresh known members) :
    deepen (fresh known members) level depth a = level :=
  if_pos h

/-- What was known stays where it is. -/
theorem deepen_of_known {a : α} (h : a ∈ known) :
    deepen (fresh known members) level depth a = depth a :=
  if_neg fun hfound => (mem_fresh.mp hfound).2 h

/-- What is known after a visit is listed once. -/
theorem nodup_append_fresh (h : known.Nodup) : (known ++ fresh known members).Nodup := by
  refine List.nodup_append.mpr ⟨h, fresh_nodup known members, ?_⟩
  rintro a ha b hb rfl
  exact (mem_fresh.mp hb).2 ha

/-- Nothing is deeper than what was found. -/
theorem deepen_le (hlevel : ∀ a ∈ known, depth a ≤ level) {a : α}
    (ha : a ∈ known ++ fresh known members) :
    deepen (fresh known members) level depth a ≤ level := by
  rcases List.mem_append.mp ha with hknown | hfound
  · rw [deepen_of_known hknown]
    exact hlevel a hknown
  · rw [deepen_of_fresh hfound]

/-- What was found comes after what is less deep. -/
theorem deepen_sorted (hlevel : ∀ a ∈ known, depth a ≤ level)
    (h : known.Pairwise fun a b => depth a ≤ depth b) :
    (known ++ fresh known members).Pairwise fun a b =>
      deepen (fresh known members) level depth a ≤ deepen (fresh known members) level depth b := by
  refine List.pairwise_append.mpr ⟨?_, ?_, ?_⟩
  · refine h.imp_of_mem fun {a b} ha hb hle => ?_
    rwa [deepen_of_known ha, deepen_of_known hb]
  · refine List.pairwise_of_forall_mem_list fun a ha b hb => ?_
    rw [deepen_of_fresh ha, deepen_of_fresh hb]
  · intro a ha b hb
    rw [deepen_of_known ha, deepen_of_fresh hb]
    exact hlevel a ha

end Deepen

omit [DecidableEq α] in
/-- What is visited and queued after a visit is what was known before and what was found. -/
theorem visited_append (visited queue found : List α) (a : α) :
    (visited ++ [a]) ++ (queue ++ found) = (visited ++ a :: queue) ++ found := by
  simp

/-- Visiting the head of the queue keeps the invariant: its new neighbours are one step deeper. -/
theorem QueueInv.visit {visited queue : List α} {depth : α → Nat} {a : α}
    (h : QueueInv next start visited (a :: queue) depth) :
    QueueInv next start (visited ++ [a]) (queue ++ fresh (visited ++ a :: queue) (next a))
      (deepen (fresh (visited ++ a :: queue) (next a)) (depth a + 1) depth) := by
  have ha : a ∈ visited ++ a :: queue := by simp
  have hspan : ∀ b ∈ visited ++ a :: queue, depth b ≤ depth a + 1 := h.span a rfl
  constructor
  case nodup =>
    rw [visited_append]
    exact nodup_append_fresh h.nodup
  case start_known =>
    rw [visited_append]
    exact List.mem_append_left _ h.start_known
  case start_depth =>
    rw [deepen_of_known h.start_known]
    exact h.start_depth
  case reached =>
    intro b hb
    rw [visited_append] at hb
    rcases List.mem_append.mp hb with hknown | hfound
    · rw [deepen_of_known hknown]
      exact h.reached b hknown
    · rw [deepen_of_fresh hfound]
      exact ⟨a, h.reached a ha, (mem_fresh.mp hfound).1⟩
  case sorted =>
    rw [visited_append]
    exact deepen_sorted hspan h.sorted
  case followed =>
    intro b hb c hc
    have hbefore : b ∈ visited ++ a :: queue :=
      List.append_cons visited a queue ▸ List.mem_append_left _ hb
    rw [visited_append, deepen_of_known hbefore]
    rcases List.mem_append.mp hb with hvisited | hlast
    · obtain ⟨hknown, hdepth⟩ := h.followed b hvisited c hc
      rw [deepen_of_known hknown]
      exact ⟨List.mem_append_left _ hknown, hdepth⟩
    · -- Only the head of the queue finds something new.
      obtain rfl := List.mem_singleton.mp hlast
      have hknown : c ∈ (visited ++ b :: queue) ++ fresh (visited ++ b :: queue) (next b) := by
        by_cases hmem : c ∈ visited ++ b :: queue
        · exact List.mem_append_left _ hmem
        · exact List.mem_append_right _ (mem_fresh.mpr ⟨hc, hmem⟩)
      exact ⟨hknown, deepen_le hspan hknown⟩
  case span =>
    intro first hfirst b hb
    rw [visited_append] at hb
    have hhead : depth a ≤
        deepen (fresh (visited ++ a :: queue) (next a)) (depth a + 1) depth first := by
      rcases List.mem_append.mp (List.mem_of_mem_head? hfirst) with hqueue | hfound
      · have hknown : first ∈ visited ++ a :: queue := by simp [hqueue]
        rw [deepen_of_known hknown]
        exact (List.pairwise_cons.mp (List.pairwise_append.mp h.sorted).2.1).1 first hqueue
      · rw [deepen_of_fresh hfound]
        exact Nat.le_succ _
    exact Nat.le_trans (deepen_le hspan hb) (Nat.succ_le_succ hhead)

/-- A visit goes on until the queue is empty, if all that is reached lies in a list that is no
longer than the allowed number of visits. -/
theorem breadth_first_inv {all : List α} (hall : ∀ a ∈ all, ∀ b ∈ next a, b ∈ all) {fuel : Nat}
    {visited queue : List α} {depth : α → Nat} (h : QueueInv next start visited queue depth)
    (hknown : ∀ a ∈ visited ++ queue, a ∈ all) (hfuel : all.length ≤ visited.length + fuel) :
    ∃ depth', QueueInv next start
      (visited ++ breadthFirst next fuel (visited ++ queue) queue) [] depth' := by
  induction fuel generalizing visited queue depth with
  | zero =>
      -- All that is known has been visited already.
      have hlength := (h.nodup.subperm hknown).length_le
      rw [List.length_append] at hlength
      obtain rfl : queue = [] := List.eq_nil_of_length_eq_zero (by omega)
      exact ⟨depth, by simpa [breadthFirst] using h⟩
  | succ fuel ih =>
      cases queue with
      | nil => exact ⟨depth, by simpa [breadthFirst] using h⟩
      | cons a queue =>
          have hknown' : ∀ b ∈ (visited ++ [a]) ++
              (queue ++ fresh (visited ++ a :: queue) (next a)), b ∈ all := by
            intro b hb
            rw [visited_append] at hb
            rcases List.mem_append.mp hb with hb | hb
            · exact hknown b hb
            · exact hall a (hknown a (by simp)) b (mem_fresh.mp hb).1
          have hfuel' : all.length ≤ (visited ++ [a]).length + fuel := by
            rw [List.length_append, List.length_singleton]
            omega
          obtain ⟨depth', hlater⟩ := ih h.visit hknown' hfuel'
          rw [visited_append] at hlater
          exact ⟨depth', by simpa [breadthFirst] using hlater⟩

omit [DecidableEq α] in
/-- When the queue is empty, everything that is reached was visited, and its depth is the least
number of steps. -/
theorem QueueInv.depth_le {visited : List α} {depth : α → Nat}
    (h : QueueInv next start visited [] depth) {hops : Nat} {a : α}
    (hsteps : Steps (fun a b => b ∈ next a) hops start a) : a ∈ visited ∧ depth a ≤ hops := by
  induction hops generalizing a with
  | zero =>
      obtain rfl : start = a := hsteps
      exact ⟨by simpa using h.start_known, h.start_depth.le⟩
  | succ hops ih =>
      obtain ⟨middle, hmiddle, hstep⟩ := hsteps
      obtain ⟨hvisited, hle⟩ := ih hmiddle
      obtain ⟨hmem, hdepth⟩ := h.followed middle hvisited a hstep
      exact ⟨by simpa using hmem, by omega⟩

/-- A visit in breadth lists what is reached from its start, each member once, nearest first. -/
theorem breadth_first_nearest {all : List α} (hall : ∀ a ∈ all, ∀ b ∈ next a, b ∈ all)
    (hstart : start ∈ all) :
    (breadthFirst next all.length [start] [start]).Nodup ∧
    (∀ a, a ∈ breadthFirst next all.length [start] [start] ↔
      ∃ hops, Steps (fun a b => b ∈ next a) hops start a) ∧
    (breadthFirst next all.length [start] [start]).Pairwise fun near far =>
      ∀ hops, Steps (fun a b => b ∈ next a) hops start far →
        ∃ fewer ≤ hops, Steps (fun a b => b ∈ next a) fewer start near := by
  have hinv : QueueInv next start [] [start] fun _ => 0 := by
    constructor <;> simp [Steps]
  obtain ⟨depth, h⟩ := breadth_first_inv hall hinv (by simpa using hstart) (Nat.le_add_left _ _)
  simp only [List.nil_append] at h
  have hreached : ∀ a ∈ breadthFirst next all.length [start] [start],
      Steps (fun a b => b ∈ next a) (depth a) start a := by simpa using h.reached
  refine ⟨by simpa using h.nodup, fun a => ⟨fun ha => ⟨_, hreached a ha⟩, ?_⟩, ?_⟩
  · rintro ⟨hops, hsteps⟩
    exact (h.depth_le hsteps).1
  · have hsorted := h.sorted
    rw [List.append_nil] at hsorted
    refine hsorted.imp_of_mem fun {near far} hnear _ hle hops hsteps => ?_
    exact ⟨depth near, Nat.le_trans hle (h.depth_le hsteps).2, hreached near hnear⟩

end BreadthFirst

namespace Graph

variable {graph : Graph}

/-- `Keyed graph` says that every entry stands under the path of its node. -/
def Keyed (graph : Graph) : Prop :=
  ∀ entry ∈ graph.nodes, entry.2.path.same entry.1 = true

instance (graph : Graph) : Decidable graph.Keyed :=
  inferInstanceAs (Decidable (∀ entry ∈ graph.nodes, _))

/-- `ListsReached graph step file found` says that `found` lists, each once, the other files of the
graph that `file` reaches along `step`, none of them before one that is nearer. -/
structure ListsReached (graph : Graph) (step : Path → Path → Prop) (file : Path)
    (found : List Path) : Prop where
  distinct : Distinct found
  mem_iff : ∀ other, other ∈ found ↔
    other ∈ graph.paths ∧ other.same file = false ∧ Relation.ReflTransGen step file other
  nearest_first : found.Pairwise fun near far =>
    ∀ hops, Steps step hops file far → ∃ fewer ≤ hops, Steps step fewer file near

/-- The entry of a path depends only on the place that the path names. -/
theorem entry_congr {left right : Path} (h : left.same right = true) :
    graph.entry? left = graph.entry? right := by
  simp only [Path.same, entry?, Path.same_iff.mp h]

/-- The entry of a place is an entry of the graph under that place. -/
theorem mem_of_entry {path : Path} {entry : Path × Node} (h : graph.entry? path = some entry) :
    entry ∈ graph.nodes ∧ entry.1.same path = true :=
  ⟨List.mem_of_find?_eq_some h, by simpa using List.find?_some h⟩

/-- The spelling that the graph has for a place leads to it. -/
theorem spelling_eq_some_iff {path spelling : Path} :
    (graph.entry? path).map (·.1) = some spelling ↔
      spelling ∈ graph.paths ∧ spelling.same path = true := by
  constructor
  · intro h
    obtain ⟨entry, hentry, rfl⟩ := Option.map_eq_some_iff.mp h
    obtain ⟨hmem, hsame⟩ := mem_of_entry hentry
    exact ⟨List.mem_map_of_mem hmem, hsame⟩
  · rintro ⟨hmem, hsame⟩
    obtain ⟨entry, hentry, rfl⟩ := List.mem_map.mp hmem
    rw [← entry_congr hsame, entry_eq_some_of_mem hentry]
    rfl

/-- A graph spells a place in one way. -/
theorem eq_of_same {left right : Path} (hleft : left ∈ graph.paths) (hright : right ∈ graph.paths)
    (h : left.same right = true) : left = right :=
  Option.some.inj ((spelling_eq_some_iff.mpr ⟨hleft, h⟩).symm.trans
    (spelling_eq_some_iff.mpr ⟨hright, Path.same_refl right⟩))

/-- A path of the graph has a node. -/
theorem is_some_node {path : Path} (h : path ∈ graph.paths) : (graph.node? path).isSome = true := by
  obtain ⟨entry, hentry, rfl⟩ := List.mem_map.mp h
  rw [node_eq_some_of_mem hentry]
  rfl

/-- A file of the graph has a spelling there. -/
theorem exists_spelling {path : Path} (h : (graph.node? path).isSome = true) :
    ∃ spelling ∈ graph.paths, spelling.same path = true := by
  obtain ⟨entry, hentry⟩ := Option.isSome_iff_exists.mp (Option.isSome_map ▸ h)
  exact ⟨entry.1, spelling_eq_some_iff.mp (by rw [hentry]; rfl)⟩

/-- The successors of a file are the files that it imports, as the graph spells them. -/
theorem mem_successors {source other : Path} :
    other ∈ graph.successors source ↔ other ∈ graph.paths ∧ graph.Imports source other := by
  rw [successors]
  cases hnode : graph.node? source with
  | none => simp [Imports, hnode]
  | some node =>
      simp only [List.mem_reverse, List.mem_filterMap, spelling_eq_some_iff, Imports, hnode,
        Option.some.injEq, exists_eq_left', listed_iff]
      constructor
      · rintro ⟨target, htarget, hmem, hsame⟩
        exact ⟨hmem, ⟨target, htarget, Path.same_comm ▸ hsame⟩, is_some_node hmem⟩
      · rintro ⟨hmem, ⟨target, htarget, hsame⟩, _⟩
        exact ⟨target, htarget, hmem, Path.same_comm ▸ hsame⟩

/-- The sources of the edges to a place are the paths of the nodes that depend on it. -/
theorem mem_importers {source target : Path} :
    source ∈ graph.importers target ↔ ∃ entry ∈ graph.nodes,
      entry.2.path = source ∧ listed entry.2.dependencies target = true := by
  simp only [importers, edges, List.mem_map, List.mem_filter, List.mem_flatMap, listed_iff]
  constructor
  · rintro ⟨_, ⟨⟨entry, hentry, dependency, hdependency, rfl⟩, hsame⟩, rfl⟩
    exact ⟨entry, hentry, rfl, dependency, hdependency, hsame⟩
  · rintro ⟨entry, hentry, rfl, dependency, hdependency, hsame⟩
    exact ⟨_, ⟨⟨entry, hentry, dependency, hdependency, rfl⟩, hsame⟩, rfl⟩

/-- The predecessors of a file are the files that import it, as the graph spells them. -/
theorem mem_predecessors (hkeyed : graph.Keyed) {target other : Path}
    (htarget : (graph.node? target).isSome = true) :
    other ∈ graph.predecessors target ↔ other ∈ graph.paths ∧ graph.Imports other target := by
  simp only [predecessors, List.mem_reverse, List.mem_filterMap, spelling_eq_some_iff,
    mem_importers]
  constructor
  · rintro ⟨_, ⟨entry, hentry, rfl, hlisted⟩, hmem, hsame⟩
    obtain rfl : other = entry.1 := eq_of_same hmem (List.mem_map_of_mem hentry)
      (Path.same_trans hsame (hkeyed entry hentry))
    exact ⟨hmem, entry.2, node_eq_some_of_mem hentry, hlisted, htarget⟩
  · rintro ⟨hmem, node, hnode, hlisted, _⟩
    obtain ⟨entry, hentry, rfl⟩ := List.mem_map.mp hmem
    obtain rfl : entry.2 = node := Option.some.inj ((node_eq_some_of_mem hentry).symm.trans hnode)
    exact ⟨entry.2.path, ⟨entry, hentry, rfl, hlisted⟩, hmem, Path.same_comm ▸ hkeyed entry hentry⟩

/-- `Neighbours graph step next` says that a step leads from place to place, however they are
spelled, and that `next` lists the paths of the graph that one step leads to. -/
structure Neighbours (graph : Graph) (step : Path → Path → Prop) (next : Path → List Path) :
    Prop where
  of_same_source : ∀ {source other target}, step source target → source.same other = true →
    step other target
  of_same : ∀ {source target other}, step source target → target.same other = true →
    step source other
  is_node : ∀ {source target}, step source target → (graph.node? source).isSome = true
  mem_next : ∀ {source target}, source ∈ graph.paths →
    (target ∈ next source ↔ target ∈ graph.paths ∧ step source target)

/-- The successors are the neighbours along imports. -/
theorem neighbours_successors (graph : Graph) :
    graph.Neighbours graph.Imports graph.successors where
  of_same_source := Imports.of_same_source
  of_same := Imports.of_same
  is_node := by
    rintro source target ⟨node, hnode, _⟩
    rw [hnode]
    rfl
  mem_next _ := mem_successors

/-- The predecessors are the neighbours against imports. -/
theorem neighbours_predecessors (hkeyed : graph.Keyed) :
    graph.Neighbours (fun source target => graph.Imports target source) graph.predecessors where
  of_same_source := Imports.of_same
  of_same := Imports.of_same_source
  is_node := by
    rintro source target ⟨_, _, _, hsource⟩
    exact hsource
  mem_next hsource := mem_predecessors hkeyed (is_some_node hsource)

section Reached

variable {step : Path → Path → Prop} {next : Path → List Path} {file start : Path}

/-- What some steps lead to from a file is found in as many steps from its spelling. -/
theorem Neighbours.steps_next (h : graph.Neighbours step next) (hstart : start ∈ graph.paths)
    (hsame : start.same file = true) {hops : Nat} {target other : Path}
    (hsteps : Steps step hops file target) (hother : other ∈ graph.paths)
    (hspelled : other.same target = true) : Steps (fun a b => b ∈ next a) hops start other := by
  induction hops generalizing target other with
  | zero =>
      obtain rfl : file = target := hsteps
      exact eq_of_same hstart hother (Path.same_trans hsame (Path.same_comm ▸ hspelled))
  | succ hops ih =>
      obtain ⟨middle, hmiddle, hstep⟩ := hsteps
      obtain ⟨spelling, hmem, hmiddle'⟩ := exists_spelling (h.is_node hstep)
      have hstep' : step spelling other :=
        h.of_same (h.of_same_source hstep (Path.same_comm ▸ hmiddle')) (Path.same_comm ▸ hspelled)
      exact ⟨spelling, ih hmiddle hmem hmiddle', (h.mem_next hmem).mpr ⟨hother, hstep'⟩⟩

/-- What is found in some steps from the spelling of a file is reached in as many steps. -/
theorem Neighbours.steps_of_next (h : graph.Neighbours step next) (hstart : start ∈ graph.paths)
    (hsame : start.same file = true) {hops : Nat} {other : Path}
    (hsteps : Steps (fun a b => b ∈ next a) (hops + 1) start other) :
    other ∈ graph.paths ∧ Steps step (hops + 1) file other := by
  induction hops generalizing other with
  | zero =>
      obtain ⟨_, rfl, hnext⟩ := hsteps
      obtain ⟨hother, hstep⟩ := (h.mem_next hstart).mp hnext
      exact ⟨hother, file, rfl, h.of_same_source hstep hsame⟩
  | succ hops ih =>
      obtain ⟨middle, hmiddle, hnext⟩ := hsteps
      obtain ⟨hmem, hmiddle'⟩ := ih hmiddle
      obtain ⟨hother, hstep⟩ := (h.mem_next hmem).mp hnext
      exact ⟨hother, middle, hmiddle', hstep⟩

/-- Another file is found in some number of steps exactly if it is reached in that number. -/
theorem Neighbours.steps_iff (h : graph.Neighbours step next) (hstart : start ∈ graph.paths)
    (hsame : start.same file = true) {hops : Nat} {other : Path} (hne : other ≠ start) :
    Steps (fun a b => b ∈ next a) hops start other ↔
      other ∈ graph.paths ∧ Steps step hops file other := by
  constructor
  · intro hsteps
    cases hops with
    | zero => exact False.elim (hne hsteps.symm)
    | succ hops => exact h.steps_of_next hstart hsame hsteps
  · rintro ⟨hother, hsteps⟩
    exact h.steps_next hstart hsame hsteps hother (Path.same_refl other)

/-- A visit begins with its start. -/
theorem breadth_first_eq_cons {all : List Path} (h : start ∈ all) (next : Path → List Path)
    (known queue : List Path) :
    ∃ rest, breadthFirst next all.length known (start :: queue) = start :: rest := by
  obtain ⟨fuel, hfuel⟩ := Nat.exists_eq_succ_of_ne_zero (List.length_pos_of_mem h).ne'
  exact ⟨_, by rw [hfuel, breadthFirst]⟩

/-- A visit in breadth lists the files that are reached along the steps it follows. -/
theorem Neighbours.lists_reached (h : graph.Neighbours step next)
    (hfile : (graph.node? file).isSome = true) :
    graph.ListsReached step file (graph.reached next file) := by
  obtain ⟨start, hstart, hsame⟩ := exists_spelling hfile
  obtain ⟨entry, hentry, rfl⟩ :=
    Option.map_eq_some_iff.mp (spelling_eq_some_iff.mpr ⟨hstart, hsame⟩)
  obtain ⟨rest, hrest⟩ := breadth_first_eq_cons hstart next [entry.1] []
  have hreached : graph.reached next file = rest := by
    rw [reached, hentry]
    simpa [paths] using congrArg (List.drop 1) hrest
  obtain ⟨hnodup, hmem, hnearest⟩ :=
    breadth_first_nearest (fun a ha b hb => ((h.mem_next ha).mp hb).1) hstart
  rw [hrest] at hnodup hmem hnearest
  obtain ⟨hfirst, hnodup⟩ := List.nodup_cons.mp hnodup
  have hne : ∀ other ∈ rest, other ≠ entry.1 := fun other hother heq => hfirst (heq ▸ hother)
  have hmem_rest : ∀ other, other ∈ rest ↔
      other ∈ graph.paths ∧ other.same file = false ∧ Relation.ReflTransGen step file other := by
    intro other
    constructor
    · intro hother
      obtain ⟨hops, hsteps⟩ := (hmem other).mp (List.mem_cons_of_mem _ hother)
      obtain ⟨hpath, hsteps⟩ := (h.steps_iff hstart hsame (hne other hother)).mp hsteps
      refine ⟨hpath, ?_, exists_steps_iff.mp ⟨hops, hsteps⟩⟩
      refine Bool.eq_false_iff.mpr fun hfile => hne other hother ?_
      exact eq_of_same hpath hstart (Path.same_trans hfile (Path.same_comm ▸ hsame))
    · rintro ⟨hpath, hother, hstep⟩
      obtain ⟨hops, hsteps⟩ := exists_steps_iff.mpr hstep
      have hapart : other ≠ entry.1 := by
        rintro rfl
        simp [hsame] at hother
      have hvisited := (hmem other).mpr
        ⟨hops, (h.steps_iff hstart hsame hapart).mpr ⟨hpath, hsteps⟩⟩
      exact (List.mem_cons.mp hvisited).resolve_left hapart
  rw [hreached]
  refine ⟨?_, hmem_rest, ?_⟩
  · refine hnodup.imp_of_mem fun {left right} hleft hright hne => ?_
    by_contra hsame
    exact hne (eq_of_same ((hmem_rest left).mp hleft).1 ((hmem_rest right).mp hright).1
      (Bool.not_eq_false _ ▸ hsame))
  · refine (List.pairwise_cons.mp hnearest).2.imp_of_mem ?_
    intro near far hnear hfar hle hops hsteps
    obtain ⟨fewer, hfewer, hsteps'⟩ := hle hops
      ((h.steps_iff hstart hsame (hne far hfar)).mpr ⟨((hmem_rest far).mp hfar).1, hsteps⟩)
    exact ⟨fewer, hfewer, ((h.steps_iff hstart hsame (hne near hnear)).mp hsteps').2⟩

/-- Another file is reached however it is spelled. -/
theorem Neighbours.reached_of_same (h : graph.Neighbours step next) {target other : Path}
    (hreached : Relation.ReflTransGen step file target) (hne : target.same file = false)
    (hsame : target.same other = true) : Relation.ReflTransGen step file other := by
  cases hreached with
  | refl => simp at hne
  | tail hbefore hstep => exact hbefore.tail (h.of_same hstep hsame)

/-- A visit lists the place of another file exactly if that is reached. -/
theorem Neighbours.listed_reached_iff (h : graph.Neighbours step next)
    (hfile : (graph.node? file).isSome = true) {other : Path}
    (hother : (graph.node? other).isSome = true) (hne : other.same file = false) :
    listed (graph.reached next file) other = true ↔ Relation.ReflTransGen step file other := by
  rw [listed_iff]
  constructor
  · rintro ⟨spelling, hmem, hsame⟩
    obtain ⟨_, hapart, hreached⟩ := ((h.lists_reached hfile).mem_iff spelling).mp hmem
    exact h.reached_of_same hreached hapart hsame
  · intro hreached
    obtain ⟨spelling, hmem, hsame⟩ := exists_spelling hother
    have hapart : spelling.same file = false := by
      rw [← hne, Path.same, Path.same, Path.same_iff.mp hsame]
    have hsame' : other.same spelling = true := Path.same_comm ▸ hsame
    refine ⟨spelling, ((h.lists_reached hfile).mem_iff spelling).mpr ⟨hmem, hapart, ?_⟩, hsame⟩
    exact h.reached_of_same hreached hne hsame'

end Reached

/-- In a graph whose entries stand under the paths of their nodes, the dependencies of a file are
the other files that it reaches through imports and its dependents are the other files that reach
it, each listed once, nearest first; and of two files, the one is among the dependencies of the
other exactly if the other is among its dependents. -/
theorem reached_exact_and_dual (graph : Graph) (hkeyed : graph.Keyed) (file : Path)
    (hfile : (graph.node? file).isSome = true) :
    graph.ListsReached graph.Imports file (graph.transitiveDependencies file) ∧
    graph.ListsReached (fun source target => graph.Imports target source) file
      (graph.transitiveDependents file) ∧
    ∀ other, (graph.node? other).isSome = true → other.same file = false →
      (listed (graph.transitiveDependencies file) other = true ↔
        listed (graph.transitiveDependents other) file = true) := by
  have hforward := graph.neighbours_successors
  have hbackward := neighbours_predecessors hkeyed
  refine ⟨hforward.lists_reached hfile, hbackward.lists_reached hfile, ?_⟩
  intro other hother hne
  rw [transitiveDependencies, transitiveDependents, hforward.listed_reached_iff hfile hother hne,
    hbackward.listed_reached_iff hother hfile (Path.same_comm ▸ hne)]
  exact Relation.reflTransGen_swap.symm

/-- Three files that import each other in a cycle and a fourth one. One of the files imports a place
twice, and one imports a file that is no node. -/
def ringGraph : Graph :=
  ofNodes
    [{ path := ⟨"/ws/a.ts"⟩, relative := "a.ts", dependencies := [⟨"/ws/b.ts"⟩, ⟨"/ws/x.ts"⟩] },
      { path := ⟨"/ws/b.ts"⟩, relative := "b.ts",
        dependencies := [⟨"/ws/c.ts"⟩, ⟨"/ws//c.ts"⟩, ⟨"/ws/d.ts"⟩] },
      { path := ⟨"/ws/c.ts"⟩, relative := "c.ts", dependencies := [⟨"/ws/a.ts"⟩] },
      { path := ⟨"/ws/d.ts"⟩, relative := "d.ts" }] []

/-- The three other files are reached from the first one, the fourth one among them. -/
theorem reached_ring :
    ringGraph.Keyed ∧
    ringGraph.ListsReached ringGraph.Imports ⟨"/ws/./a.ts"⟩
      [⟨"/ws/b.ts"⟩, ⟨"/ws/d.ts"⟩, ⟨"/ws/c.ts"⟩] ∧
    listed (ringGraph.transitiveDependents ⟨"/ws/d.ts"⟩) ⟨"/ws/./a.ts"⟩ = true := by
  obtain ⟨hreached, _, hdual⟩ :=
    reached_exact_and_dual ringGraph (by decide) ⟨"/ws/./a.ts"⟩ (by decide)
  have hfound : ringGraph.transitiveDependencies ⟨"/ws/./a.ts"⟩ =
      [⟨"/ws/b.ts"⟩, ⟨"/ws/d.ts"⟩, ⟨"/ws/c.ts"⟩] := by decide
  refine ⟨by decide, hfound ▸ hreached, (hdual ⟨"/ws/d.ts"⟩ (by decide) (by decide)).mp ?_⟩
  rw [hfound]
  decide

end Graph

end CodeAtlas
