import CodeAtlas.Proofs.Graph.FirstPath

/-!
# Which cycles are reported

The chain of a search is always the first path to its last file, because everything that an earlier
choice leads to around the chain is finished by the time the chain goes on (`Trail`). So the cycles
that are reported are those that close a first path, and no others: read `mem_cycles_iff` first. A
cycle that can be cut short is not always found.
-/

namespace CodeAtlas.Graph

variable {graph : Graph}

/-- Each file of a cycle imports the next one. -/
theorem IsCycle.is_chain {files : List Path} (h : graph.IsCycle files) :
    files.IsChain graph.Imports := by
  obtain ⟨first, rest, rfl⟩ := List.exists_cons_of_ne_nil h.ne_nil
  have hclosed := h.closed
  rw [Cycle.chain_coe_cons, ← List.cons_append, List.isChain_append] at hclosed
  exact hclosed.1

/-- The last file of a cycle imports the first one. -/
theorem IsCycle.imports_first {first last : Path} {rest : List Path}
    (h : graph.IsCycle (first :: rest)) (hlast : last ∈ (first :: rest).getLast?) :
    graph.Imports last first := by
  have hclosed := h.closed
  rw [Cycle.chain_coe_cons, ← List.cons_append, List.isChain_append] at hclosed
  exact hclosed.2.2 last hlast first (by simp)

/-- Every file of a cycle is one of the graph. -/
theorem IsCycle.is_node {files : List Path} (h : graph.IsCycle files) {file : Path}
    (hfile : file ∈ files) : (graph.node? file).isSome = true := by
  obtain ⟨_, ⟨node, hnode, _⟩, _⟩ := Relation.TransGen.head'_iff.mp (h.connected hfile hfile)
  simp [hnode]

/-- The loop is among the cycles of a search, written from its smallest path on. -/
def Noted (search : CycleSearch) (loop : List Path) : Prop :=
  ∃ cycle ∈ search.cycles, places cycle = places (rotate loop)

/-- Every file that imports lead to from `source` around the avoided files is finished. -/
def Exhausted (graph : Graph) (search : CycleSearch) (avoided : List Path) (source : Path) : Prop :=
  ∀ target, graph.Leads avoided source target → (graph.node? target).isSome = true →
    listed search.finished target = true

/-- The imports of a frame are those that were followed before, the file that the chain goes on
with, if it goes on, and those that are left. The ones followed before are finished or lie on the
chain, where the loops that they close are noted; when the chain goes on, they are exhausted. -/
def FrameTrail (graph : Graph) (search : CycleSearch) (child : Option Path) (frame : Frame)
    (above : List Frame) : Prop :=
  ∃ node earlier, graph.node? frame.path = some node ∧
    node.dependencies = earlier ++ child.toList ++ frame.rest ∧
    (∀ target ∈ earlier, (graph.node? target).isSome = true →
      listed (framePaths (frame :: above) ++ search.finished) target = true) ∧
    (∀ target ∈ earlier, listed (framePaths (frame :: above)) target = true →
      Noted search (chainFrom (framePaths (frame :: above)) target)) ∧
    (child.isSome = true → ∀ target ∈ earlier,
      graph.Exhausted search (framePaths (frame :: above)) target)

/-- Every frame of a chain is in order, and the files before the one it starts with are exhausted.
-/
def Trail (graph : Graph) (search : CycleSearch) : (child : Option Path) → List Frame → Prop
  | child, [] => ∀ root ∈ child, ∃ before after, graph.paths = before ++ root :: after ∧
      ∀ other ∈ before, graph.Exhausted search [] other
  | child, frame :: above =>
      FrameTrail graph search child frame above ∧ Trail graph search (some frame.path) above

/-- What holds between two steps of a search, besides `SearchInv`. -/
structure TrailInv (graph : Graph) (chain : List Frame) (search : CycleSearch) : Prop where
  base : SearchInv graph chain search
  trail : Trail graph search none chain
  /-- Imports of finished files are finished or lie on the chain. -/
  closed : ∀ source target, listed search.finished source = true → graph.Imports source target →
    listed (framePaths chain ++ search.finished) target = true
  unfinished : ∀ file ∈ framePaths chain, listed search.finished file = false
  /-- Every cycle closes a first path. -/
  followed : ∀ cycle ∈ search.cycles, ∃ front loop, graph.FirstPath (front ++ loop) ∧
    graph.IsCycle loop ∧ cycle = rotate loop
  /-- There is a first path to every finished file, and the loops that close it are noted. -/
  noted : ∀ file, listed search.finished file = true → ∃ path, graph.FirstPath path ∧
    (∃ last ∈ path.getLast?, last.same file = true) ∧
    ∀ front loop, path = front ++ loop → graph.IsCycle loop → Noted search loop

/-- A file whose imports lead nowhere but to the chain and to finished files is exhausted. -/
theorem exhausted_of_closed {chain : List Path} {search : CycleSearch} {source : Path}
    (hclosed : ∀ source target, listed search.finished source = true →
      graph.Imports source target → listed (chain ++ search.finished) target = true)
    (hsource : (graph.node? source).isSome = true →
      listed (chain ++ search.finished) source = true) :
    graph.Exhausted search chain source := by
  rintro target ⟨hnot, last, hsame, hwalk⟩ htarget
  rw [← listed_congr hsame]
  replace htarget : (graph.node? last).isSome = true := node_congr hsame ▸ htarget
  clear hsame
  induction hwalk with
  | refl => simpa [hnot] using hsource htarget
  | tail _ hstep ih =>
      obtain ⟨himport, hnext⟩ := hstep
      have hfile := ih (by obtain ⟨node, hnode, _⟩ := himport; simp [hnode])
      simpa [hnext] using hclosed _ _ hfile himport

theorem Noted.mono {search later : CycleSearch} {loop : List Path} (h : Noted search loop)
    (hcycles : search.cycles ⊆ later.cycles) : Noted later loop := by
  obtain ⟨cycle, hcycle, hplaces⟩ := h
  exact ⟨cycle, hcycles hcycle, hplaces⟩

section Mono

variable {search later : CycleSearch} (hcycles : search.cycles ⊆ later.cycles)
  (hfinished : ∀ path, listed search.finished path = true → listed later.finished path = true)

include hcycles hfinished

/-- Further cycles and finished files leave a frame in order. -/
theorem FrameTrail.mono {child : Option Path} {frame : Frame} {above : List Frame}
    (h : FrameTrail graph search child frame above) :
    FrameTrail graph later child frame above := by
  obtain ⟨node, earlier, hnode, hrest, hearlier, hloops, hexhausted⟩ := h
  refine ⟨node, earlier, hnode, hrest, ?_, ?_, ?_⟩
  · intro target htarget hsome
    have hlisted := hearlier target htarget hsome
    rw [listed_append, Bool.or_eq_true] at hlisted ⊢
    exact hlisted.imp_right (hfinished target)
  · exact fun target htarget hlisted => (hloops target htarget hlisted).mono hcycles
  · intro hchild target htarget other hleads hsome
    exact hfinished other (hexhausted hchild target htarget other hleads hsome)

/-- Further cycles and finished files leave a chain in order. -/
theorem Trail.mono {child : Option Path} {chain : List Frame}
    (h : Trail graph search child chain) : Trail graph later child chain := by
  induction chain generalizing child with
  | nil =>
      intro root hroot
      obtain ⟨before, after, hpaths, hexhausted⟩ := h root hroot
      refine ⟨before, after, hpaths, fun other hother target hleads hsome => ?_⟩
      exact hfinished target (hexhausted other hother target hleads hsome)
  | cons frame above ih => exact ⟨h.1.mono hcycles hfinished, ih h.2⟩

end Mono

/-- Where a chain goes on, it takes the first choice that leads to an unfinished file. -/
theorem Trail.choice {search : CycleSearch} {next last : Path} {chain : List Frame}
    (h : Trail graph search (some next) chain) (hnode : (graph.node? last).isSome = true)
    (hlast : listed search.finished last = false) :
    ∃ before after, graph.choices (framePaths chain).reverse = before ++ next :: after ∧
      ∀ other ∈ before, ¬ graph.Leads (framePaths chain).reverse other last := by
  have hnot : ∀ {other : Path}, graph.Exhausted search (framePaths chain) other →
      ¬ graph.Leads (framePaths chain).reverse other last := by
    intro other hexhausted hleads
    have hfinished := hexhausted last (hleads.mono (by simp)) hnode
    rw [hlast] at hfinished
    contradiction
  cases chain with
  | nil =>
      obtain ⟨before, after, hpaths, hexhausted⟩ := h next rfl
      exact ⟨before, after, hpaths, fun other hother => hnot (hexhausted other hother)⟩
  | cons frame above =>
      obtain ⟨⟨node, earlier, hframe, hrest, _, _, hexhausted⟩, _⟩ := h
      refine ⟨earlier, frame.rest, ?_, fun other hother => hnot (hexhausted rfl other hother)⟩
      simp [choices, framePaths, hframe, hrest]

/-- A chain takes the first choices that lead to an unfinished file. -/
theorem Trail.first {search : CycleSearch} {child : Option Path} {last : Path} {chain : List Frame}
    (h : Trail graph search child chain) (hnode : (graph.node? last).isSome = true)
    (hlast : listed search.finished last = false) {front rest : List Path} {file : Path}
    (hsplit : (framePaths chain).reverse ++ child.toList = front ++ file :: rest) :
    ∃ before after, graph.choices front = before ++ file :: after ∧
      ∀ other ∈ before, ¬ graph.Leads front other last := by
  induction chain generalizing child rest with
  | nil =>
      cases child with
      | none => simp [framePaths] at hsplit
      | some next =>
          obtain ⟨rfl, rfl, rfl⟩ : front = [] ∧ next = file ∧ rest = [] := by
            cases front <;> simp_all [framePaths]
          exact h.choice hnode hlast
  | cons frame above ih =>
      have hframe : (framePaths (frame :: above)).reverse =
          (framePaths above).reverse ++ (some frame.path).toList := by
        simp [framePaths]
      cases child with
      | none =>
          rw [hframe, Option.toList_none, List.append_nil] at hsplit
          exact ih h.2 hsplit
      | some next =>
          -- The file in question is the next one, or it lies on the chain already.
          rcases rest.eq_nil_or_concat with rfl | ⟨rest, final, rfl⟩
          · obtain ⟨rfl, heq⟩ := List.append_inj' hsplit rfl
            obtain rfl : next = file := by simpa using heq
            exact h.choice hnode hlast
          · have hsplit' : (framePaths (frame :: above)).reverse ++ [next] =
                (front ++ file :: rest) ++ [final] := by simpa using hsplit
            rw [hframe] at hsplit'
            exact ih h.2 (List.append_inj' hsplit' rfl).1

/-- The chain of a search is the first path to its last file. -/
theorem TrailInv.first_path {frame : Frame} {above : List Frame} {search : CycleSearch}
    (h : TrailInv graph (frame :: above) search) :
    graph.FirstPath (framePaths (frame :: above)).reverse where
  distinct := by
    rw [Distinct, List.pairwise_reverse]
    exact h.base.distinct.imp fun hsame => Path.same_comm ▸ hsame
  is_node file hfile := by
    rw [List.mem_reverse] at hfile
    exact h.base.chain_ok.is_node_of_listed (listed_iff.mpr ⟨file, hfile, Path.same_refl _⟩)
  first front file rest hsplit := by
    have hlast : listed search.finished frame.path = false :=
      h.unfinished frame.path (by simp [framePaths])
    obtain ⟨before, after, hchoices, hfirst⟩ :=
      h.trail.first h.base.chain_ok.is_node hlast (by simpa using hsplit)
    refine ⟨before, after, hchoices, fun other hother last hmem => ?_⟩
    obtain rfl : frame.path = last := by simpa [framePaths] using hmem
    exact hfirst other hother

/-- The part of a chain from a path on. -/
theorem chain_from_of_append {head target : Path} {tail above : List Path}
    (hhead : head.same target = true) (htail : ∀ file ∈ tail, file.same target = false) :
    chainFrom (tail.reverse ++ head :: above) target = head :: tail := by
  have htake : (tail.reverse ++ head :: above).takeWhile (!·.same target) = tail.reverse := by
    rw [List.takeWhile_append_of_pos (by simpa using htail)]
    simp [hhead]
  have hfind : (tail.reverse ++ head :: above).find? (·.same target) = some head := by
    rw [List.find?_append, List.find?_eq_none.mpr (by simpa using htail)]
    simp [hhead]
  simp [chainFrom, htake, hfind]

/-- Once all imports of the last file are followed, the loops that close the chain are noted. -/
theorem TrailInv.noted_of_split {current : Path} {above : List Frame} {search : CycleSearch}
    (h : TrailInv graph (⟨current, []⟩ :: above) search) {front loop : List Path}
    (hsplit : (framePaths (⟨current, []⟩ :: above)).reverse = front ++ loop)
    (hloop : graph.IsCycle loop) : Noted search loop := by
  obtain ⟨⟨node, earlier, hnode, hrest, _, hloops, _⟩, _⟩ := h.trail
  obtain ⟨head, tail, rfl⟩ := List.exists_cons_of_ne_nil hloop.ne_nil
  have hchain : framePaths (⟨current, []⟩ :: above) = tail.reverse ++ head :: front.reverse := by
    have := congrArg List.reverse hsplit
    simpa using this
  have hlast : current ∈ (head :: tail).getLast? := by
    have := congrArg List.getLast? hsplit
    simpa [framePaths, List.getLast?_append, List.getLast?_cons, eq_comm] using this
  -- The last file imports the first one of the loop, under some spelling.
  obtain ⟨other, hother, hlisted, _⟩ := hloop.imports_first hlast
  obtain rfl : node = other := by simpa [hnode] using hother
  obtain ⟨target, htarget, hsame⟩ := listed_iff.mp hlisted
  have hhead : head.same target = true := Path.same_comm ▸ hsame
  have htail : ∀ file ∈ tail, file.same target = false := by
    intro file hfile
    rw [← Bool.not_eq_true]
    intro hfile'
    have hnot := (List.pairwise_cons.mp hloop.distinct).1 file hfile
    rw [Path.same_trans hhead (Path.same_comm ▸ hfile')] at hnot
    contradiction
  have hnoted := hloops target (by simpa [hrest] using htarget)
    (by rw [hchain]; simp [hhead])
  rwa [hchain, chain_from_of_append hhead htail] at hnoted

/-- A frame stays in order when one more of its imports has been followed. -/
theorem FrameTrail.followed {search : CycleSearch} {child : Option Path} {current target : Path}
    {left rest : List Path} {above : List Frame}
    (h : FrameTrail graph search child ⟨current, left⟩ above)
    (hsplit : child.toList ++ left = target :: rest)
    (htarget : (graph.node? target).isSome = true →
      listed (framePaths (⟨current, rest⟩ :: above) ++ search.finished) target = true)
    (hloop : listed (framePaths (⟨current, rest⟩ :: above)) target = true →
      Noted search (chainFrom (framePaths (⟨current, rest⟩ :: above)) target)) :
    FrameTrail graph search none ⟨current, rest⟩ above := by
  obtain ⟨node, earlier, hnode, hrest, hearlier, hloops, _⟩ := h
  have hrest' : node.dependencies = earlier ++ target :: rest := by
    rw [hrest, List.append_assoc, hsplit]
  refine ⟨node, earlier ++ [target], hnode, by simp [hrest'], ?_, ?_, by simp⟩
  · intro other hother
    rcases List.mem_append.mp hother with hother | hother
    · exact hearlier other hother
    · rwa [List.mem_singleton.mp hother]
  · intro other hother
    rcases List.mem_append.mp hother with hother | hother
    · exact hloops other hother
    · rwa [List.mem_singleton.mp hother]

/-- Once all imports of the last file are followed, they are finished or lie on the chain. -/
theorem TrailInv.listed_of_imports {current target : Path} {above : List Frame}
    {search : CycleSearch} (h : TrailInv graph (⟨current, []⟩ :: above) search)
    (himport : graph.Imports current target) :
    listed (framePaths (⟨current, []⟩ :: above) ++ search.finished) target = true := by
  obtain ⟨⟨node, earlier, hnode, hrest, hearlier, _⟩, _⟩ := h.trail
  obtain ⟨other, hother, hlisted, hsome⟩ := himport
  obtain rfl : node = other := by simpa [hnode] using hother
  obtain ⟨entry, hentry, hsame⟩ := listed_iff.mp hlisted
  rw [← listed_congr hsame]
  exact hearlier entry (by simpa [hrest] using hentry) (node_congr hsame ▸ hsome)

/-- Leaving a file whose imports have all been followed. -/
theorem TrailInv.leave {current : Path} {above : List Frame} {search : CycleSearch}
    (h : TrailInv graph (⟨current, []⟩ :: above) search) :
    TrailInv graph above { search with finished := current :: search.finished } where
  base := h.base.leave
  trail := by
    have hmono : ∀ path, listed search.finished path = true →
        listed (current :: search.finished) path = true := by
      intro path hpath
      simp [hpath]
    have hlater : Trail graph { search with finished := current :: search.finished }
        (some current) above := by
      refine Trail.mono ?_ hmono h.trail.2
      exact List.Subset.refl _
    cases above with
    | nil => simp [Trail]
    | cons parent rest =>
        refine ⟨hlater.1.followed rfl (fun _ => by simp) fun hlisted => ?_, hlater.2⟩
        -- The file that is left lies below the others, so it closes no loop.
        obtain ⟨file, hfile, hsame⟩ := listed_iff.mp hlisted
        have hnot := (List.pairwise_cons.mp h.base.distinct).1 file hfile
        rw [Path.same_comm, hsame] at hnot
        contradiction
  closed source target hsource himport := by
    have hseen : listed (framePaths (⟨current, []⟩ :: above) ++ search.finished) target = true := by
      rw [listed_cons, Bool.or_eq_true] at hsource
      rcases hsource with hsame | hsource
      · exact h.listed_of_imports (himport.of_same_source (Path.same_comm ▸ hsame))
      · exact h.closed source target hsource himport
    simp only [framePaths, List.map_cons, List.cons_append, listed_cons, listed_append] at hseen ⊢
    rwa [Bool.or_left_comm]
  unfinished file hfile := by
    have hnot := (List.pairwise_cons.mp h.base.distinct).1 file hfile
    simp [hnot, h.unfinished file (List.mem_cons_of_mem _ hfile)]
  followed := h.followed
  noted file hfile := by
    rw [listed_cons, Bool.or_eq_true] at hfile
    rcases hfile with hsame | hfile
    · refine ⟨_, h.first_path, ⟨current, by simp [framePaths], hsame⟩, ?_⟩
      exact fun front loop hsplit hloop => h.noted_of_split hsplit hloop
    · exact h.noted file hfile

/-- Passing over an import that need not be entered. -/
theorem TrailInv.pass {current target : Path} {rest : List Path} {above : List Frame}
    {search : CycleSearch} (h : TrailInv graph (⟨current, target :: rest⟩ :: above) search)
    (hbase : SearchInv graph (⟨current, rest⟩ :: above) search)
    (htarget : (graph.node? target).isSome = true →
      listed (framePaths (⟨current, rest⟩ :: above) ++ search.finished) target = true)
    (hloop : listed (framePaths (⟨current, rest⟩ :: above)) target = true →
      Noted search (chainFrom (framePaths (⟨current, rest⟩ :: above)) target)) :
    TrailInv graph (⟨current, rest⟩ :: above) search where
  base := hbase
  trail := ⟨h.trail.1.followed rfl htarget hloop, h.trail.2⟩
  closed := h.closed
  unfinished := h.unfinished
  followed := h.followed
  noted := h.noted

/-- A loop is known after it was noted. -/
theorem noted_note (search : CycleSearch) (loop : List Path) :
    Noted (search.note (rotate loop)) loop := by
  unfold CycleSearch.note
  split
  · next hknown =>
      obtain ⟨known, hmem, hsame⟩ := List.any_eq_true.mp hknown
      exact ⟨known, hmem, same_paths_iff.mp hsame⟩
  · exact ⟨rotate loop, by simp, rfl⟩

/-- Noting a loop that closes a first path. -/
theorem TrailInv.note {chain : List Frame} {search : CycleSearch} {front loop : List Path}
    (h : TrailInv graph chain search) (hfirst : graph.FirstPath (front ++ loop))
    (hloop : graph.IsCycle loop) : TrailInv graph chain (search.note (rotate loop)) where
  base := h.base.note (hloop.of_is_rotated (rotate_is_rotated _)) (rotate_starts_smallest _)
  trail := h.trail.mono (subset_note _ _) (by simp)
  closed := by simpa using h.closed
  unfinished := by simpa using h.unfinished
  followed cycle hcycle := by
    unfold CycleSearch.note at hcycle
    split at hcycle
    · exact h.followed cycle hcycle
    · rcases List.mem_cons.mp hcycle with rfl | hcycle
      · exact ⟨front, loop, hfirst, hloop, rfl⟩
      · exact h.followed cycle hcycle
  noted file hfile := by
    rw [CycleSearch.note_finished] at hfile
    obtain ⟨path, hpath, hlast, hloops⟩ := h.noted file hfile
    refine ⟨path, hpath, hlast, fun front loop hsplit hcycle => ?_⟩
    exact (hloops front loop hsplit hcycle).mono (subset_note _ _)

/-- Closing a loop by an import that leads back to the chain. -/
theorem TrailInv.close {current target : Path} {rest : List Path} {above : List Frame}
    {search : CycleSearch} (h : TrailInv graph (⟨current, target :: rest⟩ :: above) search)
    (hlisted : listed (framePaths (⟨current, rest⟩ :: above)) target = true) :
    TrailInv graph (⟨current, rest⟩ :: above)
      (search.note (rotate (chainFrom (framePaths (⟨current, rest⟩ :: above)) target))) := by
  obtain ⟨front, first, back, hchain, _, hfrom⟩ := chain_from_eq hlisted
  have hfirst : graph.FirstPath (back.reverse ++
      chainFrom (framePaths (⟨current, rest⟩ :: above)) target) := by
    have hpath := h.first_path
    rw [show framePaths (⟨current, target :: rest⟩ :: above) = front ++ first :: back from hchain]
      at hpath
    simpa [hfrom] using hpath
  refine (h.note hfirst (h.base.is_cycle hlisted)).pass (h.base.close hlisted) ?_
    fun _ => noted_note search _
  exact fun _ => listed_append_left hlisted _

/-- Entering an import that is neither on the chain nor finished. -/
theorem TrailInv.enter {current target : Path} {rest : List Path} {above : List Frame}
    {search : CycleSearch} {node : Node}
    (h : TrailInv graph (⟨current, target :: rest⟩ :: above) search)
    (hnew : ¬ listed (framePaths (⟨current, rest⟩ :: above)) target = true)
    (hopen : ¬ listed search.finished target = true) (hnode : graph.node? target = some node) :
    TrailInv graph (⟨target, node.dependencies⟩ :: ⟨current, rest⟩ :: above) search where
  base := h.base.enter hnew hnode
  trail := by
    refine ⟨⟨node, [], hnode, by simp, by simp, by simp, by simp⟩, ?_, h.trail.2⟩
    obtain ⟨parent, earlier, hparent, hrest, hearlier, hloops, _⟩ := h.trail.1
    refine ⟨parent, earlier, hparent, by simpa using hrest, hearlier, hloops, ?_⟩
    -- The imports followed before are finished or on the chain, so they lead to nothing new.
    exact fun _ other hother => exhausted_of_closed h.closed (hearlier other hother)
  closed source other hsource himport := by
    have hseen := h.closed source other hsource himport
    rw [framePaths, List.map_cons, List.cons_append, listed_cons, Bool.or_eq_true]
    exact Or.inr hseen
  unfinished := List.forall_mem_cons.mpr ⟨by simpa using hopen, h.unfinished⟩
  followed := h.followed
  noted := h.noted

/-- A search keeps its invariant to the end of the chain. -/
theorem walk_trail {chain : List Frame} {search : CycleSearch} (h : TrailInv graph chain search) :
    TrailInv graph [] (walk graph chain search) := by
  fun_induction walk graph chain search with
  | case1 search => exact h
  | case2 search current above ih => exact ih h.leave
  | case3 search current target rest above hlisted ih => exact ih (h.close hlisted)
  | case4 search current target rest above hnew hfinished ih =>
      refine ih (h.pass (h.base.pass (Or.inr fun _ => hfinished)) ?_ ?_)
      · intro _
        simp [hfinished]
      · exact fun hlisted => False.elim (hnew hlisted)
  | case5 search current target rest above hnew _ hnode ih =>
      have hsome : ¬ (graph.node? target).isSome = true := by simp [hnode]
      refine ih (h.pass (h.base.pass (Or.inr fun h => False.elim (hsome h))) ?_ ?_)
      · exact fun h => False.elim (hsome h)
      · exact fun hlisted => False.elim (hnew hlisted)
  | case6 search current target rest above hnew hopen node hnode ih =>
      exact ih (h.enter hnew hopen hnode)

/-- Searching from a file keeps the invariant, if the files before it are finished. -/
theorem enter_trail {search : CycleSearch} {before after : List (Path × Node)} {entry : Path × Node}
    (hnodes : graph.nodes = before ++ entry :: after)
    (hbefore : ∀ other ∈ before, listed search.finished other.1 = true)
    (h : TrailInv graph [] search) : TrailInv graph [] (graph.enter search entry) := by
  unfold Graph.enter
  split
  · exact h
  · next hopen =>
      have hentry : entry ∈ graph.nodes := by simp [hnodes]
      have hnode : graph.node? entry.1 = some entry.2 := by
        rw [node?, entry_eq_some_of_mem hentry]
        rfl
      refine walk_trail ⟨h.base.start hentry, ⟨?_, ?_⟩, ?_, ?_, h.followed, h.noted⟩
      · exact ⟨entry.2, [], hnode, by simp, by simp, by simp, by simp⟩
      · intro root hroot
        obtain rfl := Option.some.inj hroot
        refine ⟨before.map (·.1), after.map (·.1), by simp [paths, hnodes], ?_⟩
        intro other hother
        obtain ⟨file, hfile, rfl⟩ := List.mem_map.mp hother
        exact exhausted_of_closed h.closed fun _ => hbefore file hfile
      · intro source target hsource himport
        have hfinished := h.closed source target hsource himport
        rw [listed_append, Bool.or_eq_true]
        exact Or.inr hfinished
      · simpa [framePaths] using hopen

/-- The searches from all files keep the invariant. -/
theorem foldl_enter_trail {search : CycleSearch} {before entries : List (Path × Node)}
    (hnodes : graph.nodes = before ++ entries)
    (hbefore : ∀ other ∈ before, listed search.finished other.1 = true)
    (h : TrailInv graph [] search) : TrailInv graph [] (entries.foldl graph.enter search) := by
  induction entries generalizing before search with
  | nil => exact h
  | cons entry rest ih =>
      have hlonger : graph.nodes = (before ++ [entry]) ++ rest := by simpa using hnodes
      refine ih hlonger ?_ (enter_trail hnodes hbefore h)
      intro other hother
      rcases List.mem_append.mp hother with hother | hother
      · exact listed_finished_enter (Or.inr (hbefore other hother))
      · obtain rfl := List.mem_singleton.mp hother
        exact listed_finished_enter (Or.inl (Path.same_refl _))

/-- The search is in order at its end. -/
theorem trail_inv (graph : Graph) : TrailInv graph [] (graph.nodes.foldl graph.enter {}) := by
  refine @foldl_enter_trail graph {} [] graph.nodes rfl (by simp) ?_
  exact ⟨search_inv_empty graph, by simp [Trail], by simp, by simp [framePaths], by simp, by simp⟩

/-- There is a first path to every file of the graph, and the loops that close it are reported. -/
theorem exists_first_path {file : Path} (h : (graph.node? file).isSome = true) :
    ∃ path, graph.FirstPath path ∧ (∃ last ∈ path.getLast?, last.same file = true) ∧
      ∀ front loop, path = front ++ loop → graph.IsCycle loop →
        ∃ cycle ∈ graph.cycles, places cycle = places (rotate loop) := by
  obtain ⟨path, hpath, hlast, hloops⟩ :=
    (trail_inv graph).noted file (listed_finished_of_is_node h)
  refine ⟨path, hpath, hlast, fun front loop hsplit hloop => ?_⟩
  obtain ⟨cycle, hcycle, hplaces⟩ := hloops front loop hsplit hloop
  exact ⟨cycle, List.mem_reverse.mpr hcycle, hplaces⟩

/-- A list of places is reported exactly if it is a loop that closes a first path, written from its
smallest path on. -/
theorem mem_cycles_iff {reported : List (List Component)} :
    (∃ cycle ∈ graph.cycles, places cycle = reported) ↔
      ∃ front loop, graph.FirstPath (front ++ loop) ∧ graph.IsCycle loop ∧
        places (rotate loop) = reported := by
  constructor
  · rintro ⟨cycle, hcycle, rfl⟩
    obtain ⟨front, loop, hfirst, hloop, rfl⟩ :=
      (trail_inv graph).followed cycle (List.mem_reverse.mp hcycle)
    exact ⟨front, loop, hfirst, hloop, rfl⟩
  · rintro ⟨front, loop, hfirst, hloop, rfl⟩
    obtain ⟨last, hlast⟩ : ∃ last, last ∈ (front ++ loop).getLast? := by
      simp [List.getLast?_append, List.getLast?_eq_some_getLast hloop.ne_nil]
    obtain ⟨path, hpath, ⟨last', hlast', hsame⟩, hloops⟩ :=
      exists_first_path (hfirst.is_node last (List.mem_of_getLast? hlast))
    -- There is only one first path to the last file of the loop.
    obtain rfl := hpath.unique hfirst hlast' hlast hsame
    exact hloops front loop rfl hloop

/-- `GoesThrough cycle files` says that the cycle has all the files in their cyclic order. -/
def GoesThrough (cycle files : List Path) : Prop :=
  ∃ turned, (places cycle).IsRotated turned ∧ (places files).Sublist turned

/-- Which files a cycle goes through does not depend on where it is written from. -/
theorem goes_through_rotate {cycle loop files : List Path}
    (hplaces : places cycle = places (rotate loop)) :
    GoesThrough cycle files ↔ GoesThrough loop files := by
  have hrotated : (places loop).IsRotated (places cycle) := by
    rw [hplaces]
    exact (rotate_is_rotated loop).map _
  constructor
  · rintro ⟨turned, hturned, hsublist⟩
    exact ⟨turned, hrotated.trans hturned, hsublist⟩
  · rintro ⟨turned, hturned, hsublist⟩
    exact ⟨turned, hrotated.symm.trans hturned, hsublist⟩

/-- A cycle that goes through files goes through them from any of them on. -/
theorem GoesThrough.of_is_rotated {cycle files other : List Path} (h : GoesThrough cycle files)
    (hrotated : files.IsRotated other) : GoesThrough cycle other := by
  obtain ⟨turned, hturned, hsublist⟩ := h
  obtain ⟨steps, hsteps, rfl⟩ := List.isRotated_iff_mod.mp hrotated
  rw [← List.take_append_drop steps files, places, List.map_append] at hsublist
  obtain ⟨front, back, rfl, hfront, hback⟩ := List.append_sublist_iff.mp hsublist
  refine ⟨back ++ front, hturned.trans List.isRotated_append, ?_⟩
  rw [List.rotate_eq_drop_append_take hsteps, places, List.map_append]
  exact hback.append hfront

/-- Every path without repetitions from a file of the cycle to the one before it goes through all of
its files in their order. -/
def NoShortcut (graph : Graph) (files : List Path) : Prop :=
  ∀ turned path, files.IsRotated turned → Distinct path → path.IsChain graph.Imports →
    (places path).head? = (places turned).head? →
    (places path).getLast? = (places turned).getLast? → (places turned).Sublist (places path)

/-- The search comes to a cycle at one of its files, along a path that meets none of the others. -/
theorem IsCycle.exists_entry {files : List Path} (h : graph.IsCycle files) :
    ∃ front file first rest, files.IsRotated (first :: rest) ∧ file.same first = true ∧
      graph.FirstPath (front ++ [file]) ∧ ∀ other ∈ files, listed front other = false := by
  obtain ⟨target, htarget⟩ := List.exists_mem_of_ne_nil files h.ne_nil
  obtain ⟨path, hpath, ⟨last, hlast, hsame⟩, _⟩ := exists_first_path (h.is_node htarget)
  have hlisted : listed files last = true :=
    listed_iff.mpr ⟨target, htarget, Path.same_comm ▸ hsame⟩
  -- The first file of this path that lies on the cycle.
  obtain ⟨file, hfound⟩ := Option.isSome_iff_exists.mp
    (List.find?_isSome.mpr ⟨last, List.mem_of_getLast? hlast, hlisted⟩)
  obtain ⟨hfile, front, rest, rfl, hfront⟩ := List.find?_eq_some_iff_append.mp hfound
  obtain ⟨first, hfirst, hsame⟩ := listed_iff.mp hfile
  obtain ⟨left, right, rfl⟩ := List.append_of_mem hfirst
  refine ⟨front, file, first, right ++ left, List.isRotated_append, Path.same_comm ▸ hsame,
    hpath.take, ?_⟩
  intro other hother
  rw [← Bool.not_eq_true, listed_iff]
  rintro ⟨early, hearly, hsame⟩
  have hnot := hfront early hearly
  rw [listed_iff.mpr ⟨other, hother, Path.same_comm ▸ hsame⟩] at hnot
  contradiction

/-- From the file where the search comes to a cycle, the first path to the file before it closes a
loop. -/
theorem IsCycle.exists_loop {files : List Path} (h : graph.IsCycle files) :
    ∃ turned front loop, files.IsRotated turned ∧ graph.FirstPath (front ++ loop) ∧
      graph.IsCycle loop ∧ (places loop).head? = (places turned).head? ∧
      (places loop).getLast? = (places turned).getLast? := by
  obtain ⟨front, file, first, rest, hrotated, hsame, hpath, hfront⟩ := h.exists_entry
  have hcycle := h.of_is_rotated hrotated
  have havoided : ∀ other ∈ first :: rest, listed front other = false :=
    fun other hother => hfront other (hrotated.mem_iff.mpr hother)
  obtain ⟨before, hbefore⟩ : ∃ before, before ∈ (first :: rest).getLast? := by
    simp [List.getLast?_cons]
  have himport := hcycle.imports_first hbefore
  have hmem : before ∈ first :: rest := List.mem_of_getLast? hbefore
  -- The two files lead to each other along the cycle, which the path to it does not touch.
  have hto : graph.Leads front file before := by
    have hfile : listed front file = false := by
      rw [listed_congr hsame]
      exact havoided first (by simp)
    have hstart : graph.Leads front file first := ⟨hfile, file, hsame, .refl⟩
    exact hstart.trans (leads_of_is_chain hcycle.is_chain havoided hbefore)
  have hback : graph.Leads front before file := by
    have hfirst : listed front first = false := havoided first (by simp)
    exact ⟨havoided before hmem, first, Path.same_comm ▸ hsame, .single ⟨himport, hfirst⟩⟩
  obtain ⟨path, hpath', ⟨last, hlast, hsame'⟩, _⟩ := exists_first_path (hcycle.is_node hmem)
  obtain ⟨later, rfl⟩ : ∃ later, path = front ++ file :: later :=
    @FirstPath.shares_front graph [] front path file before last hpath hpath' hlast hsame' hto hback
  have hlast' : last ∈ (file :: later).getLast? := by
    simpa [List.getLast?_append, List.getLast?_cons] using hlast
  refine ⟨first :: rest, front, file :: later, hrotated, hpath', ⟨by simp, ?_, ?_⟩, ?_, ?_⟩
  · exact hpath'.distinct.sublist (by simp)
  · rw [Cycle.chain_coe_cons, ← List.cons_append, List.isChain_append]
    refine ⟨(List.isChain_append.mp hpath'.is_chain).2.1, List.isChain_singleton _, ?_⟩
    intro final hfinal next hnext
    obtain rfl : last = final := by simpa [Option.mem_def.mp hlast'] using hfinal
    obtain rfl : file = next := by simpa using hnext
    exact (himport.of_same (Path.same_comm ▸ hsame)).of_same_source (Path.same_comm ▸ hsame')
  · simp [places, Path.same_iff.mp hsame]
  · rw [places, places, List.getLast?_map, List.getLast?_map, Option.mem_def.mp hlast',
      Option.mem_def.mp hbefore]
    simp [Path.same_iff.mp hsame']

/-- A cycle of at most two files has no shortcut. -/
theorem no_shortcut_of_length {files : List Path} (h : graph.IsCycle files)
    (hlength : files.length ≤ 2) : graph.NoShortcut files := by
  intro turned path hrotated _ _ hhead hlast
  have hcycle := h.of_is_rotated hrotated
  rw [hrotated.perm.length_eq] at hlength
  match turned, hcycle, hlength with
  | [first], _, _ =>
      have hmem : first.components ∈ places path := List.mem_of_mem_head? hhead
      simpa [places] using hmem
  | [first, second], hcycle, _ =>
      have hne : first.components ≠ second.components := by
        have := hcycle.distinct.nodup_places
        simpa [places] using this
      obtain ⟨rest, hrest⟩ : ∃ rest, places path = first.components :: rest :=
        List.head?_eq_some_iff.mp (by simpa [places] using hhead)
      rw [hrest] at hlast ⊢
      cases rest with
      | nil => simp [places, hne] at hlast
      | cons next rest =>
          have hmem : second.components ∈ next :: rest :=
            List.mem_of_getLast? (by simpa [places] using hlast)
          simpa [places] using hmem

/-- Files are reported in their cyclic order exactly if a loop that closes a first path goes through
them. This is so for every cycle of imports without a shortcut, whatever else the graph holds, and
in particular for every file that imports itself and every two files that import each other. -/
theorem cycle_reported_iff (graph : Graph) (files : List Path) :
    ((∃ cycle ∈ graph.cycles, GoesThrough cycle files) ↔
      ∃ front loop, graph.FirstPath (front ++ loop) ∧ graph.IsCycle loop ∧
        GoesThrough loop files) ∧
    (graph.IsCycle files → graph.NoShortcut files ∨ files.length ≤ 2 →
      ∃ cycle ∈ graph.cycles, GoesThrough cycle files) := by
  have hiff : (∃ cycle ∈ graph.cycles, GoesThrough cycle files) ↔
      ∃ front loop, graph.FirstPath (front ++ loop) ∧ graph.IsCycle loop ∧
        GoesThrough loop files := by
    constructor
    · rintro ⟨cycle, hcycle, hthrough⟩
      obtain ⟨front, loop, hfirst, hloop, hplaces⟩ := mem_cycles_iff.mp ⟨cycle, hcycle, rfl⟩
      exact ⟨front, loop, hfirst, hloop, (goes_through_rotate hplaces.symm).mp hthrough⟩
    · rintro ⟨front, loop, hfirst, hloop, hthrough⟩
      obtain ⟨cycle, hcycle, hplaces⟩ := mem_cycles_iff.mpr ⟨front, loop, hfirst, hloop, rfl⟩
      exact ⟨cycle, hcycle, (goes_through_rotate hplaces).mpr hthrough⟩
  refine ⟨hiff, fun hcycle hshort => hiff.mpr ?_⟩
  have hnone : graph.NoShortcut files := hshort.elim id (no_shortcut_of_length hcycle)
  obtain ⟨turned, front, loop, hrotated, hfirst, hloop, hhead, hlast⟩ := hcycle.exists_loop
  have hsublist := hnone turned loop hrotated hloop.distinct hloop.is_chain hhead hlast
  have hthrough : GoesThrough loop turned := ⟨places loop, List.IsRotated.refl _, hsublist⟩
  exact ⟨front, loop, hfirst, hloop, hthrough.of_is_rotated hrotated.symm⟩

/-- Whether one file imports another can be looked up. -/
theorem imports_iff {source target : Path} :
    graph.Imports source target ↔ ((graph.node? source).any fun node =>
      listed node.dependencies target && (graph.node? target).isSome) = true := by
  simp [Imports, Option.any_eq_true]

instance (graph : Graph) (source target : Path) : Decidable (graph.Imports source target) :=
  decidable_of_iff _ imports_iff.symm

instance (paths : List Path) : Decidable (Distinct paths) :=
  inferInstanceAs (Decidable (paths.Pairwise fun left right => left.same right = false))

/-- Three files that import each other in a cycle, the first of which imports the third one as well,
and before the second one. -/
def shortcutGraph : Graph :=
  ofNodes
    [{ path := ⟨"/ws/a.ts"⟩, relative := "a.ts", dependencies := [⟨"/ws/c.ts"⟩, ⟨"/ws/b.ts"⟩] },
      { path := ⟨"/ws/b.ts"⟩, relative := "b.ts", dependencies := [⟨"/ws/c.ts"⟩] },
      { path := ⟨"/ws/c.ts"⟩, relative := "c.ts", dependencies := [⟨"/ws/a.ts"⟩] }] []

/-- Of the three files, the two that import each other are reported. -/
theorem cycle_reported_two_files :
    shortcutGraph.IsCycle [⟨"/ws/a.ts"⟩, ⟨"/ws/c.ts"⟩] ∧
      ∃ cycle ∈ shortcutGraph.cycles, GoesThrough cycle [⟨"/ws/a.ts"⟩, ⟨"/ws/c.ts"⟩] := by
  have hcycle : shortcutGraph.IsCycle [⟨"/ws/a.ts"⟩, ⟨"/ws/c.ts"⟩] := by
    refine ⟨by decide, by decide, ?_⟩
    rw [Cycle.chain_coe_cons]
    decide
  exact ⟨hcycle, (cycle_reported_iff shortcutGraph _).2 hcycle (Or.inr (by decide))⟩

/-- The three files import each other in a cycle, and no reported cycle goes through all of them. -/
theorem shortcut_hides_cycle :
    shortcutGraph.IsCycle [⟨"/ws/a.ts"⟩, ⟨"/ws/b.ts"⟩, ⟨"/ws/c.ts"⟩] ∧
      ¬ ∃ cycle ∈ shortcutGraph.cycles,
        GoesThrough cycle [⟨"/ws/a.ts"⟩, ⟨"/ws/b.ts"⟩, ⟨"/ws/c.ts"⟩] := by
  constructor
  · refine ⟨by decide, by decide, ?_⟩
    rw [Cycle.chain_coe_cons]
    decide
  · rintro ⟨cycle, hcycle, turned, hturned, hsublist⟩
    have hcycles : shortcutGraph.cycles = [[⟨"/ws/a.ts"⟩, ⟨"/ws/c.ts"⟩]] := by decide +kernel
    obtain rfl : cycle = [⟨"/ws/a.ts"⟩, ⟨"/ws/c.ts"⟩] := by simpa [hcycles] using hcycle
    -- The reported cycle has two files only.
    have hlength := hsublist.length_le
    rw [← hturned.perm.length_eq] at hlength
    simp [places] at hlength

end CodeAtlas.Graph
