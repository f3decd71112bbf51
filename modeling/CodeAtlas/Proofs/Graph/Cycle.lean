import CodeAtlas.Proofs.Graph.Rotation
import Mathlib.Data.List.Cycle

/-!
# What the search for cycles finds

Read `SearchInv` first: it says how the chain, the finished files and the reported cycles of a
search belong together. Every step of `Graph.walk` keeps it, so it holds at the end of the search,
when the chain is empty and all files are finished. Every reported list is then a cycle of imports,
and every closed walk of imports meets a reported cycle, because along its other edges files finish
earlier and earlier.
-/

namespace CodeAtlas.Graph

/-- `Imports graph source target` says that both are files of the graph and that `source` imports
`target`. -/
def Imports (graph : Graph) (source target : Path) : Prop :=
  ∃ node, graph.node? source = some node ∧ listed node.dependencies target = true ∧
    (graph.node? target).isSome = true

/-- `IsCycle graph cycle` says that the list is not empty, names no place twice, and that each of
its files imports the next one and the last one imports the first one. -/
structure IsCycle (graph : Graph) (cycle : List Path) : Prop where
  ne_nil : cycle ≠ []
  distinct : Distinct cycle
  closed : Cycle.Chain graph.Imports (cycle : Cycle Path)

variable {graph : Graph}

/-- The node of a path depends only on the place that the path names. -/
theorem node_congr {left right : Path} (h : left.same right = true) :
    graph.node? left = graph.node? right := by
  simp only [node?, entry?, Path.same, Path.same_iff.mp h]

/-- An import leads to a place, however that is spelled. -/
theorem Imports.of_same {source target other : Path} (h : graph.Imports source target)
    (hsame : target.same other = true) : graph.Imports source other := by
  obtain ⟨node, hnode, hlisted, htarget⟩ := h
  exact ⟨node, hnode, listed_congr hsame ▸ hlisted, node_congr hsame ▸ htarget⟩

/-- An import comes from a place, however that is spelled. -/
theorem Imports.of_same_source {source other target : Path} (h : graph.Imports source target)
    (hsame : source.same other = true) : graph.Imports other target := by
  obtain ⟨node, hnode, hlisted⟩ := h
  exact ⟨node, node_congr hsame ▸ hnode, hlisted⟩

/-- The files of a cycle reach each other. -/
theorem IsCycle.connected {cycle : List Path} (h : graph.IsCycle cycle) {left right : Path}
    (hleft : left ∈ cycle) (hright : right ∈ cycle) :
    Relation.TransGen graph.Imports left right := by
  have hclosed : Cycle.Chain (Relation.TransGen graph.Imports) (cycle : Cycle Path) :=
    Cycle.chain_mono (fun _ _ => Relation.TransGen.single) (cycle : Cycle Path) h.closed
  exact Cycle.chain_iff_pairwise.mp hclosed left hleft right hright

/-- A rotation of a cycle is a cycle. -/
theorem IsCycle.of_is_rotated {cycle other : List Path} (h : graph.IsCycle cycle)
    (hrotated : cycle.IsRotated other) : graph.IsCycle other where
  ne_nil hother := h.ne_nil (List.isRotated_nil_iff.mp (hother ▸ hrotated))
  distinct := (hrotated.perm.pairwise_iff (fun hsame => Path.same_comm ▸ hsame)).mp h.distinct
  closed := Cycle.coe_eq_coe.mpr hrotated ▸ h.closed

/-- A file lies on one of the cycles. -/
def Reported (cycles : List (List Path)) (path : Path) : Prop :=
  ∃ cycle ∈ cycles, listed cycle path = true

/-- Whether a file lies on one of the cycles depends only on its place. -/
theorem Reported.of_same {cycles : List (List Path)} {path other : Path}
    (h : Reported cycles path) (hsame : path.same other = true) : Reported cycles other := by
  obtain ⟨cycle, hcycle, hlisted⟩ := h
  exact ⟨cycle, hcycle, listed_congr hsame ▸ hlisted⟩

/-- Every file of the list lies on a cycle, or all files it imports come after it in the list. In a
list of finished files, those that come after a file finished before it. -/
def Settled (graph : Graph) (cycles : List (List Path)) : List Path → Prop
  | [] => True
  | path :: older =>
      (Reported cycles path ∨ ∀ target, graph.Imports path target → listed older target = true) ∧
      Settled graph cycles older

/-- A frame belongs to a node. Of the imports that were followed already, one is the file that the
chain goes on with, if it goes on, and all are finished, unless the file lies on a cycle. -/
def FrameOk (graph : Graph) (search : CycleSearch) (child : Option Path) (frame : Frame) : Prop :=
  ∃ node followed, graph.node? frame.path = some node ∧
    node.dependencies = followed ++ frame.rest ∧ (∀ path ∈ child, path ∈ followed) ∧
    (Reported search.cycles frame.path ∨ ∀ target ∈ followed,
      (graph.node? target).isSome = true → listed (child.toList ++ search.finished) target = true)

/-- Every frame of a chain belongs to a node and is followed by the next one. -/
def ChainOk (graph : Graph) (search : CycleSearch) : (child : Option Path) → List Frame → Prop
  | _, [] => True
  | child, frame :: above =>
      FrameOk graph search child frame ∧ ChainOk graph search (some frame.path) above

/-- What holds between two steps of a search. -/
structure SearchInv (graph : Graph) (chain : List Frame) (search : CycleSearch) : Prop where
  distinct : Distinct (framePaths chain)
  chain_ok : ChainOk graph search none chain
  settled : Settled graph search.cycles search.finished
  sound : ∀ cycle ∈ search.cycles, graph.IsCycle cycle ∧ StartsSmallest cycle
  apart : search.cycles.Pairwise fun left right => places left ≠ places right

/-- Further cycles leave the files on the known ones reported. -/
theorem Reported.mono {cycles more : List (List Path)} {path : Path} (h : Reported cycles path)
    (hcycles : cycles ⊆ more) : Reported more path := by
  obtain ⟨cycle, hcycle, hlisted⟩ := h
  exact ⟨cycle, hcycles hcycle, hlisted⟩

/-- Further cycles leave finished files settled. -/
theorem Settled.mono {cycles more : List (List Path)} {finished : List Path}
    (h : Settled graph cycles finished) (hcycles : cycles ⊆ more) :
    Settled graph more finished := by
  induction finished with
  | nil => trivial
  | cons path older ih => exact ⟨h.1.imp_left (·.mono hcycles), ih h.2⟩

/-- Further cycles and finished files leave a frame in order. -/
theorem FrameOk.mono {search later : CycleSearch} {child next : Option Path} {frame : Frame}
    (h : FrameOk graph search child frame) (hcycles : search.cycles ⊆ later.cycles)
    (hnext : ∀ path ∈ next, path ∈ child)
    (hfinished : ∀ path, listed (child.toList ++ search.finished) path = true →
      listed (next.toList ++ later.finished) path = true) : FrameOk graph later next frame := by
  obtain ⟨node, followed, hnode, hrest, hchild, hfollowed⟩ := h
  refine ⟨node, followed, hnode, hrest, fun path hpath => hchild path (hnext path hpath), ?_⟩
  exact hfollowed.imp (·.mono hcycles)
    fun h target htarget hsome => hfinished target (h target htarget hsome)

/-- Further cycles and finished files leave a chain in order. -/
theorem ChainOk.mono {search later : CycleSearch} {child : Option Path} {chain : List Frame}
    (h : ChainOk graph search child chain) (hcycles : search.cycles ⊆ later.cycles)
    (hfinished : ∀ path, listed search.finished path = true → listed later.finished path = true) :
    ChainOk graph later child chain := by
  induction chain generalizing child with
  | nil => trivial
  | cons frame above ih =>
      refine ⟨h.1.mono hcycles (fun _ hpath => hpath) ?_, ih h.2⟩
      intro path hpath
      rw [listed_append, Bool.or_eq_true] at hpath ⊢
      exact hpath.imp_right (hfinished path)

/-- The last file of a chain, once finished, leaves the rest of the chain in order. -/
theorem ChainOk.pop {search : CycleSearch} {current : Path} {above : List Frame}
    (h : ChainOk graph search (some current) above) :
    ChainOk graph { search with finished := current :: search.finished } none above := by
  cases above with
  | nil => trivial
  | cons parent rest =>
      refine ⟨h.1.mono (List.Subset.refl _) (by simp) ?_, h.2.mono (List.Subset.refl _) ?_⟩
      · intro path hpath
        simpa using hpath
      · intro path hpath
        simp [hpath]

/-- Every file of a chain belongs to a node. -/
theorem ChainOk.is_node {search : CycleSearch} {child : Option Path} {frame : Frame}
    {above : List Frame} (h : ChainOk graph search child (frame :: above)) :
    (graph.node? frame.path).isSome = true := by
  obtain ⟨⟨node, _, hnode, _⟩, _⟩ := h
  rw [hnode]
  rfl

/-- Every path that names a file of a chain belongs to a node. -/
theorem ChainOk.is_node_of_listed {search : CycleSearch} {child : Option Path}
    {chain : List Frame} (h : ChainOk graph search child chain) {path : Path}
    (hlisted : listed (framePaths chain) path = true) : (graph.node? path).isSome = true := by
  induction chain generalizing child with
  | nil => simp [framePaths] at hlisted
  | cons frame above ih =>
      rw [framePaths, List.map_cons, listed_cons, Bool.or_eq_true] at hlisted
      rcases hlisted with hsame | hlisted
      · exact node_congr hsame ▸ h.is_node
      · exact ih h.2 hlisted

/-- Every file of a chain is imported by the one above it. -/
theorem ChainOk.is_chain {search : CycleSearch} {child : Option Path} {chain : List Frame}
    (h : ChainOk graph search child chain) :
    (framePaths chain).IsChain fun below above => graph.Imports above below := by
  induction chain generalizing child with
  | nil => exact List.isChain_nil
  | cons frame above ih =>
      cases above with
      | nil => exact List.isChain_singleton _
      | cons parent rest =>
          obtain ⟨node, followed, hnode, hrest, hchild, _⟩ := h.2.1
          have hlisted : listed node.dependencies frame.path = true := by
            rw [hrest, listed_append, listed_iff.mpr ⟨_, hchild frame.path rfl, Path.same_refl _⟩]
            rfl
          exact List.isChain_cons_cons.mpr ⟨⟨node, hnode, hlisted, h.is_node⟩, ih h.2⟩

/-- The part of a chain from a listed path on: the front of the chain up to that path, turned round.
-/
theorem chain_from_eq {chain : List Path} {target : Path} (h : listed chain target = true) :
    ∃ front first back, chain = front ++ first :: back ∧ first.same target = true ∧
      chainFrom chain target = first :: front.reverse := by
  induction chain with
  | nil => simp at h
  | cons head rest ih =>
      cases hhead : head.same target with
      | true => exact ⟨[], head, rest, rfl, hhead, by simp [chainFrom, hhead]⟩
      | false =>
          rw [listed_cons, hhead, Bool.false_or] at h
          obtain ⟨front, first, back, hrest, hfirst, hchain⟩ := ih h
          refine ⟨head :: front, first, back, by simp [hrest], hfirst, ?_⟩
          have hstep : chainFrom (head :: rest) target = chainFrom rest target ++ [head] := by
            simp [chainFrom, hhead]
          simp [hstep, hchain]

/-- An import of the last file of a chain that leads back to the chain closes a cycle. -/
theorem is_cycle_chain_from {current target : Path} {above : List Path}
    (hdistinct : Distinct (current :: above))
    (hchain : (current :: above).IsChain fun below above => graph.Imports above below)
    (himport : graph.Imports current target) (hlisted : listed (current :: above) target = true) :
    graph.IsCycle (chainFrom (current :: above) target) := by
  obtain ⟨front, first, back, hsplit, hfirst, heq⟩ := chain_from_eq hlisted
  -- A chain is given from its last file up, so the cycle is its front, turned round.
  have hprefix : (front ++ [first]).Sublist (current :: above) := by
    rw [hsplit]
    simp
  have hhead : (front ++ [first]).head? = some current := by
    have := congrArg List.head? hsplit
    cases front <;> simp_all
  rw [heq]
  refine ⟨by simp, ?_, ?_⟩
  · have hturned : first :: front.reverse = (front ++ [first]).reverse := by simp
    rw [hturned, Distinct, List.pairwise_reverse]
    exact (hdistinct.sublist hprefix).imp fun h => Path.same_comm ▸ h
  · have hturned : first :: (front.reverse ++ [first]) = (first :: (front ++ [first])).reverse := by
      simp
    rw [Cycle.chain_coe_cons, hturned, List.isChain_reverse, List.isChain_cons]
    refine ⟨?_, ?_⟩
    · intro next hnext
      obtain rfl : current = next := by simpa [hhead] using hnext
      exact himport.of_same (Path.same_comm ▸ hfirst)
    · have hfront : (front ++ [first]) <+: current :: above := ⟨back, by simp [hsplit]⟩
      exact hchain.prefix hfront

/-- The cycle that is closed lists the last file of the chain. -/
theorem listed_chain_from {current target : Path} {above : List Path}
    (hlisted : listed (current :: above) target = true) :
    listed (chainFrom (current :: above) target) current = true := by
  obtain ⟨front, first, back, hsplit, _, heq⟩ := chain_from_eq hlisted
  refine listed_iff.mpr ⟨current, ?_, Path.same_refl _⟩
  cases front <;> simp_all

/-- Noting a cycle loses none. -/
theorem subset_note (search : CycleSearch) (cycle : List Path) :
    search.cycles ⊆ (search.note cycle).cycles := by
  unfold CycleSearch.note
  split
  · exact List.Subset.refl _
  · exact List.subset_cons_self _ _

/-- The files of a noted cycle are reported. -/
theorem reported_note {search : CycleSearch} {cycle : List Path} {path : Path}
    (h : listed cycle path = true) : Reported (search.note cycle).cycles path := by
  unfold CycleSearch.note
  split
  · next hknown =>
      -- The known cycle names the same places, so it lists the path under some spelling.
      obtain ⟨known, hmem, hsame⟩ := List.any_eq_true.mp hknown
      refine ⟨known, hmem, ?_⟩
      obtain ⟨other, hother, hpath⟩ := listed_iff.mp h
      obtain ⟨twin, htwin, hcomponents⟩ : ∃ twin ∈ known, twin.components = other.components := by
        apply List.mem_map.mp
        change other.components ∈ places known
        rw [same_paths_iff.mp hsame]
        exact List.mem_map_of_mem hother
      exact listed_iff.mpr ⟨twin, htwin, Path.same_trans (Path.same_iff.mpr hcomponents) hpath⟩
  · exact ⟨cycle, by simp, h⟩

/-- Noting a cycle that starts at its smallest path keeps the cycles sound and apart. -/
theorem SearchInv.note {chain : List Frame} {search : CycleSearch} {cycle : List Path}
    (h : SearchInv graph chain search) (hcycle : graph.IsCycle cycle)
    (hstart : StartsSmallest cycle) : SearchInv graph chain (search.note cycle) where
  distinct := h.distinct
  chain_ok := h.chain_ok.mono (subset_note search cycle) (by simp)
  settled := by
    rw [CycleSearch.note_finished]
    exact h.settled.mono (subset_note search cycle)
  sound := by
    unfold CycleSearch.note
    split
    · exact h.sound
    · intro other hother
      rcases List.mem_cons.mp hother with rfl | hother
      · exact ⟨hcycle, hstart⟩
      · exact h.sound other hother
  apart := by
    unfold CycleSearch.note
    split
    · exact h.apart
    · next hnew =>
        refine List.pairwise_cons.mpr ⟨?_, h.apart⟩
        intro other hother hplaces
        exact hnew (List.any_eq_true.mpr ⟨other, hother, same_paths_iff.mpr hplaces.symm⟩)

/-- Leaving a file whose imports have all been followed. -/
theorem SearchInv.leave {current : Path} {above : List Frame} {search : CycleSearch}
    (h : SearchInv graph (⟨current, []⟩ :: above) search) :
    SearchInv graph above { search with finished := current :: search.finished } where
  distinct := (List.pairwise_cons.mp h.distinct).2
  chain_ok := h.chain_ok.2.pop
  settled := by
    refine ⟨?_, h.settled⟩
    -- Nothing is left to follow, so the imports that were followed are all imports.
    obtain ⟨node, followed, hnode, hrest, _, hfollowed⟩ := h.chain_ok.1
    refine hfollowed.imp_right ?_
    rintro hfinished target ⟨other, hother, hlisted, hsome⟩
    obtain rfl : node = other := by simpa [hnode] using hother
    obtain ⟨entry, hentry, hsame⟩ := listed_iff.mp hlisted
    rw [hrest, List.append_nil] at hentry
    rw [← listed_congr hsame]
    simpa using hfinished entry hentry (node_congr hsame ▸ hsome)
  sound := h.sound
  apart := h.apart

/-- Passing over an import that need not be entered. -/
theorem SearchInv.pass {current target : Path} {rest : List Path} {above : List Frame}
    {search : CycleSearch} (h : SearchInv graph (⟨current, target :: rest⟩ :: above) search)
    (htarget : Reported search.cycles current ∨
      ((graph.node? target).isSome = true → listed search.finished target = true)) :
    SearchInv graph (⟨current, rest⟩ :: above) search where
  distinct := h.distinct
  chain_ok := by
    refine ⟨?_, h.chain_ok.2⟩
    obtain ⟨node, followed, hnode, hrest, _, hfollowed⟩ := h.chain_ok.1
    refine ⟨node, followed ++ [target], hnode, by simp [hrest], by simp, ?_⟩
    rcases htarget with hreported | htarget
    · exact Or.inl hreported
    · refine hfollowed.imp_right ?_
      intro hfinished other hother hsome
      rcases List.mem_append.mp hother with hother | hother
      · exact hfinished other hother hsome
      · obtain rfl := List.mem_singleton.mp hother
        simpa using htarget hsome
  settled := h.settled
  sound := h.sound
  apart := h.apart

/-- Entering an import that is not on the chain. -/
theorem SearchInv.enter {current target : Path} {rest : List Path} {above : List Frame}
    {search : CycleSearch} {node : Node}
    (h : SearchInv graph (⟨current, target :: rest⟩ :: above) search)
    (hnew : ¬ listed (framePaths (⟨current, rest⟩ :: above)) target = true)
    (hnode : graph.node? target = some node) :
    SearchInv graph (⟨target, node.dependencies⟩ :: ⟨current, rest⟩ :: above) search where
  distinct := by
    refine List.pairwise_cons.mpr ⟨?_, h.distinct⟩
    intro other hother
    rw [← Bool.not_eq_true]
    exact fun hsame => hnew (listed_iff.mpr ⟨other, hother, Path.same_comm ▸ hsame⟩)
  chain_ok := by
    refine ⟨⟨node, [], hnode, rfl, by simp, Or.inr (by simp)⟩, ?_, h.chain_ok.2⟩
    obtain ⟨parent, followed, hparent, hrest, _, hfollowed⟩ := h.chain_ok.1
    refine ⟨parent, followed ++ [target], hparent, by simp [hrest], by simp, ?_⟩
    refine hfollowed.imp_right ?_
    intro hfinished other hother hsome
    rcases List.mem_append.mp hother with hother | hother
    · have := hfinished other hother hsome
      simp_all
    · simp [List.mem_singleton.mp hother]
  settled := h.settled
  sound := h.sound
  apart := h.apart

/-- An import that leads back to the chain closes a cycle. -/
theorem SearchInv.is_cycle {current target : Path} {rest : List Path} {above : List Frame}
    {search : CycleSearch} (h : SearchInv graph (⟨current, target :: rest⟩ :: above) search)
    (hlisted : listed (framePaths (⟨current, rest⟩ :: above)) target = true) :
    graph.IsCycle (chainFrom (framePaths (⟨current, rest⟩ :: above)) target) := by
  obtain ⟨node, followed, hnode, hrest, _, _⟩ := h.chain_ok.1
  have himport : graph.Imports current target :=
    ⟨node, hnode, by simp [hrest], h.chain_ok.is_node_of_listed hlisted⟩
  exact is_cycle_chain_from h.distinct h.chain_ok.is_chain himport hlisted

/-- Closing a cycle by an import that leads back to the chain. -/
theorem SearchInv.close {current target : Path} {rest : List Path} {above : List Frame}
    {search : CycleSearch} (h : SearchInv graph (⟨current, target :: rest⟩ :: above) search)
    (hlisted : listed (framePaths (⟨current, rest⟩ :: above)) target = true) :
    SearchInv graph (⟨current, rest⟩ :: above)
      (search.note (rotate (chainFrom (framePaths (⟨current, rest⟩ :: above)) target))) := by
  have hcycle := (h.is_cycle hlisted).of_is_rotated (rotate_is_rotated _)
  -- The last file of the chain lies on the noted cycle, so its import back need not be finished.
  refine (h.note hcycle (rotate_starts_smallest _)).pass ?_
  refine Or.inl (reported_note ?_)
  obtain ⟨other, hother, hsame⟩ := listed_iff.mp (listed_chain_from hlisted)
  exact listed_iff.mpr ⟨other, (rotate_is_rotated _).mem_iff.mp hother, hsame⟩

/-- A search keeps its invariant to the end of the chain. -/
theorem walk_inv {chain : List Frame} {search : CycleSearch} (h : SearchInv graph chain search) :
    SearchInv graph [] (walk graph chain search) := by
  fun_induction walk graph chain search with
  | case1 search => exact h
  | case2 search current above ih => exact ih h.leave
  | case3 search current target rest above hlisted ih => exact ih (h.close hlisted)
  | case4 search current target rest above _ hfinished ih =>
      exact ih (h.pass (Or.inr fun _ => hfinished))
  | case5 search current target rest above _ _ hnode ih =>
      exact ih (h.pass (Or.inr fun hsome => by simp [hnode] at hsome))
  | case6 search current target rest above hnew _ node hnode ih => exact ih (h.enter hnew hnode)

/-- A search finishes every file of its chain and forgets no finished file. -/
theorem listed_finished_walk {chain : List Frame} {search : CycleSearch} {path : Path}
    (h : listed (framePaths chain ++ search.finished) path = true) :
    listed (walk graph chain search).finished path = true := by
  fun_induction walk graph chain search with
  | case1 search => exact h
  | case2 search current above ih =>
      apply ih
      -- The file moves from the head of the chain to the head of the finished ones.
      simp only [framePaths, List.map_cons, List.cons_append, listed_cons, listed_append] at h ⊢
      rwa [Bool.or_left_comm]
  | case3 search current target rest above _ ih => exact ih (by simpa [framePaths] using h)
  | case4 search current target rest above _ _ ih => exact ih h
  | case5 search current target rest above _ _ _ ih => exact ih h
  | case6 search current target rest above _ _ node _ ih =>
      apply ih
      rw [framePaths, List.map_cons, List.cons_append, listed_cons, Bool.or_eq_true]
      exact Or.inr h

/-- A search that starts from a file is in order. -/
theorem SearchInv.start {search : CycleSearch} {entry : Path × Node} (hentry : entry ∈ graph.nodes)
    (h : SearchInv graph [] search) :
    SearchInv graph [⟨entry.1, entry.2.dependencies⟩] search := by
  have hnode : graph.node? entry.1 = some entry.2 := by
    rw [node?, entry_eq_some_of_mem hentry]
    rfl
  refine ⟨List.pairwise_singleton _ _, ⟨?_, trivial⟩, h.settled, h.sound, h.apart⟩
  exact ⟨entry.2, [], hnode, rfl, by simp, Or.inr (by simp)⟩

/-- Searching from a file keeps the invariant. -/
theorem enter_inv {search : CycleSearch} {entry : Path × Node} (hentry : entry ∈ graph.nodes)
    (h : SearchInv graph [] search) : SearchInv graph [] (graph.enter search entry) := by
  unfold enter
  split
  · exact h
  · exact walk_inv (h.start hentry)

/-- Searching from a file finishes it and forgets no finished file. -/
theorem listed_finished_enter {search : CycleSearch} {entry : Path × Node} {path : Path}
    (h : entry.1.same path = true ∨ listed search.finished path = true) :
    listed (graph.enter search entry).finished path = true := by
  unfold enter
  split
  · next hfinished =>
      rcases h with hsame | h
      · rwa [← listed_congr hsame]
      · exact h
  · exact listed_finished_walk (by simpa [framePaths] using h)

/-- The searches from all files keep the invariant and finish these files. -/
theorem foldl_enter_inv {search : CycleSearch} (h : SearchInv graph [] search)
    {entries : List (Path × Node)} (hentries : entries ⊆ graph.nodes) :
    SearchInv graph [] (entries.foldl graph.enter search) ∧
      ∀ path, listed (entries.map (·.1) ++ search.finished) path = true →
        listed (entries.foldl graph.enter search).finished path = true := by
  induction entries generalizing search with
  | nil => exact ⟨h, fun _ hpath => hpath⟩
  | cons entry rest ih =>
      obtain ⟨hentry, hrest⟩ := List.cons_subset.mp hentries
      obtain ⟨hinv, hfinished⟩ := ih (enter_inv hentry h) hrest
      refine ⟨hinv, ?_⟩
      intro path hpath
      apply hfinished
      simp only [List.map_cons, List.cons_append, listed_cons, listed_append, Bool.or_eq_true]
        at hpath ⊢
      rcases hpath with hsame | hpath | hpath
      · exact Or.inr (listed_finished_enter (Or.inl hsame))
      · exact Or.inl hpath
      · exact Or.inr (listed_finished_enter (Or.inr hpath))

/-- A search that has not begun is in order. -/
theorem search_inv_empty (graph : Graph) : SearchInv graph [] {} :=
  ⟨.nil, trivial, trivial, by simp, .nil⟩

/-- The search is in order at its end. -/
theorem search_inv (graph : Graph) : SearchInv graph [] (graph.nodes.foldl graph.enter {}) :=
  (foldl_enter_inv (search_inv_empty graph) (List.Subset.refl _)).1

/-- At the end of the search every file is finished. -/
theorem listed_finished_of_is_node {path : Path} (h : (graph.node? path).isSome = true) :
    listed (graph.nodes.foldl graph.enter {}).finished path = true := by
  refine (foldl_enter_inv (search_inv_empty graph) (List.Subset.refl _)).2 path ?_
  obtain ⟨entry, hentry⟩ := Option.isSome_iff_exists.mp (by simpa [node?] using h)
  have hmem : entry ∈ graph.nodes := List.mem_of_find?_eq_some hentry
  have hsame := List.find?_some hentry
  exact listed_iff.mpr ⟨entry.1, by simpa using ⟨entry.2, hmem⟩, hsame⟩

/-- An import by a file that lies on none of the cycles. -/
def Missed (graph : Graph) (cycles : List (List Path)) (source target : Path) : Prop :=
  graph.Imports source target ∧ ¬ Reported cycles source

/-- An import that the cycles miss leads from a settled file to one that finished before it. -/
theorem Settled.listed_older {cycles : List (List Path)} {path source target : Path}
    {older : List Path} (h : Settled graph cycles (path :: older))
    (hsame : path.same source = true) (hmissed : Missed graph cycles source target) :
    listed older target = true := by
  obtain ⟨himport, hnot⟩ := hmissed
  rcases h.1 with hreported | holder
  · exact False.elim (hnot (hreported.of_same hsame))
  · exact holder target (himport.of_same_source (Path.same_comm ▸ hsame))

/-- An import that the cycles miss leads from a settled file to a settled file. -/
theorem Settled.listed_of_missed {cycles : List (List Path)} {finished : List Path}
    (h : Settled graph cycles finished) {source target : Path}
    (hsource : listed finished source = true) (hmissed : Missed graph cycles source target) :
    listed finished target = true := by
  induction finished with
  | nil => simp at hsource
  | cons path older ih =>
      rw [listed_cons, Bool.or_eq_true] at hsource ⊢
      rcases hsource with hsame | hsource
      · exact Or.inr (h.listed_older hsame hmissed)
      · exact Or.inr (ih h.2 hsource)

/-- The imports that the cycles miss never lead out of the settled files. -/
theorem Settled.listed_of_walk {cycles : List (List Path)} {finished : List Path}
    (h : Settled graph cycles finished) {source target : Path}
    (hsource : listed finished source = true)
    (hwalk : Relation.ReflTransGen (Missed graph cycles) source target) :
    listed finished target = true := by
  induction hwalk with
  | refl => exact hsource
  | tail _ hmissed ih => exact h.listed_of_missed ih hmissed

/-- The imports that the cycles miss close no walk among settled files. -/
theorem Settled.not_closed {cycles : List (List Path)} {finished : List Path}
    (h : Settled graph cycles finished) {path : Path} (hpath : listed finished path = true) :
    ¬ Relation.TransGen (Missed graph cycles) path path := by
  intro hwalk
  induction finished with
  | nil => simp at hpath
  | cons newest older ih =>
      rw [listed_cons, Bool.or_eq_true] at hpath
      rcases hpath with hsame | hpath
      · -- The first step leads to an older file, and the walk stays among the older ones.
        obtain ⟨next, hmissed, hback⟩ := Relation.TransGen.head'_iff.mp hwalk
        exact ih h.2 (h.2.listed_of_walk (h.listed_older hsame hmissed) hback)
      · exact ih h.2 hpath

/-- A walk of imports meets a file on one of the cycles, or the cycles miss all of its imports. -/
theorem meets_or_missed (cycles : List (List Path)) {source target : Path}
    (h : Relation.TransGen graph.Imports source target) :
    (∃ file, Reported cycles file ∧ Relation.ReflTransGen graph.Imports source file ∧
      Relation.TransGen graph.Imports file target) ∨
    Relation.TransGen (Missed graph cycles) source target := by
  induction h with
  | @single target himport =>
      by_cases hreported : Reported cycles source
      · exact Or.inl ⟨source, hreported, .refl, .single himport⟩
      · exact Or.inr (.single ⟨himport, hreported⟩)
  | @tail middle target hwalk himport ih =>
      rcases ih with ⟨file, hreported, hfront, hback⟩ | hmissed
      · exact Or.inl ⟨file, hreported, hfront, hback.tail himport⟩
      · by_cases hreported : Reported cycles middle
        · exact Or.inl ⟨middle, hreported, hwalk.to_reflTransGen, .single himport⟩
        · exact Or.inr (hmissed.tail ⟨himport, hreported⟩)

/-- The walks to and from a file on a cycle go on to every file of the cycle. -/
theorem IsCycle.connected_of_listed {cycle : List Path} (h : graph.IsCycle cycle)
    {path file : Path} (hpath : listed cycle path = true) (hfile : file ∈ cycle) :
    Relation.TransGen graph.Imports path file ∧ Relation.TransGen graph.Imports file path := by
  obtain ⟨other, hother, hsame⟩ := listed_iff.mp hpath
  constructor
  · obtain ⟨next, himport, hrest⟩ := Relation.TransGen.head'_iff.mp (h.connected hother hfile)
    exact .head' (himport.of_same_source hsame) hrest
  · obtain ⟨last, hrest, himport⟩ := Relation.TransGen.tail'_iff.mp (h.connected hfile hother)
    exact .tail' hrest (himport.of_same hsame)

/-- Every closed walk of imports shares its component with all files of one reported cycle. -/
theorem exists_cycle_of_closed {path : Path} (h : Relation.TransGen graph.Imports path path) :
    ∃ cycle ∈ graph.cycles, ∀ file ∈ cycle,
      Relation.TransGen graph.Imports path file ∧ Relation.TransGen graph.Imports file path := by
  have hinv := search_inv graph
  rcases meets_or_missed (graph.nodes.foldl graph.enter {}).cycles h with
    ⟨meeting, ⟨cycle, hcycle, hlisted⟩, hto, hfrom⟩ | hmissed
  · refine ⟨cycle, by simpa [cycles] using hcycle, ?_⟩
    intro file hfile
    obtain ⟨hahead, hback⟩ := (hinv.sound cycle hcycle).1.connected_of_listed hlisted hfile
    exact ⟨.trans_right hto hahead, hback.trans hfrom⟩
  · -- All files are finished in the end, and missed imports lead to files that finished earlier.
    obtain ⟨_, ⟨node, hnode, _⟩, _⟩ := Relation.TransGen.head'_iff.mp h
    refine False.elim (hinv.settled.not_closed ?_ hmissed)
    exact listed_finished_of_is_node (by rw [hnode]; rfl)

/-- The reported lists are cycles of imports, each begins at its smallest path, no two are rotations
of each other, and every component with a closed walk, a self-import included, contains all files of
one of them. So there are none exactly if no walk of imports is closed. -/
theorem cycles_sound_canonical_complete (graph : Graph) :
    (∀ cycle ∈ graph.cycles, graph.IsCycle cycle ∧ StartsSmallest cycle) ∧
    graph.cycles.Pairwise (fun left right => ¬ (places left).IsRotated (places right)) ∧
    (∀ path, Relation.TransGen graph.Imports path path →
      ∃ cycle ∈ graph.cycles, ∀ file ∈ cycle,
        Relation.TransGen graph.Imports path file ∧
        Relation.TransGen graph.Imports file path) ∧
    (graph.cycles = [] ↔ ∀ path, ¬ Relation.TransGen graph.Imports path path) := by
  have hinv := search_inv graph
  have hsound : ∀ cycle ∈ graph.cycles, graph.IsCycle cycle ∧ StartsSmallest cycle := by
    intro cycle hcycle
    exact hinv.sound cycle (List.mem_reverse.mp hcycle)
  refine ⟨hsound, ?_, fun path => exists_cycle_of_closed, ?_, ?_⟩
  · refine (List.pairwise_reverse.mpr (hinv.apart.imp fun h => h.symm)).imp_of_mem ?_
    -- Rotations of each other that both begin at their smallest path are equal.
    intro left right hleft hright hne hrotated
    obtain ⟨hcycle, hstart⟩ := hsound left hleft
    exact hne (eq_of_is_rotated hcycle.distinct hstart (hsound right hright).2 hrotated)
  · intro hnone path hwalk
    obtain ⟨cycle, hcycle, _⟩ := exists_cycle_of_closed hwalk
    simp [hnone] at hcycle
  · intro hacyclic
    refine List.eq_nil_iff_forall_not_mem.mpr ?_
    intro cycle hcycle
    obtain ⟨hcycle, _⟩ := hsound cycle hcycle
    obtain ⟨file, hfile⟩ := List.exists_mem_of_ne_nil cycle hcycle.ne_nil
    exact hacyclic file (hcycle.connected hfile hfile)

end CodeAtlas.Graph
