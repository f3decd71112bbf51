import CodeAtlas.Graph.Build
import Mathlib.Data.List.Induction
import Mathlib.Data.List.Nodup

/-!
# Which files the levels of a graph contain

Read `Within` first: it says without levels which files lie at most so many hops from a selected
one. `LevelInv` holds between two levels, `LevelInv.next` carries it over a level, and
`expand_explored` says what the levels have found together. Inside a level, `Follows` describes what
one file adds and `Merges` what several files add.
-/

namespace CodeAtlas.GraphBuild

/-- Erasing repeats leaves none. -/
theorem nodup_erase_dups (paths : List Path) : paths.eraseDups.Nodup := by
  induction paths using List.reverseRecOn with
  | nil => simp
  | append_singleton paths path ih =>
      rw [List.eraseDups_append]
      by_cases h : path ∈ paths
      · simpa [List.removeAll, h] using ih
      · have hlast : ([path].removeAll paths).eraseDups = [path] := by
          simp [List.removeAll, List.eraseDups_cons, h]
        rw [hlast]
        refine List.nodup_append.mpr ⟨ih, List.nodup_singleton path, ?_⟩
        rintro other hother _ hsingle rfl
        exact h (List.mem_singleton.mp hsingle ▸ List.mem_eraseDups.mp hother)

/-- The files of the workspace among the targets, in order and with repeats. -/
def internals (targets : List Resolution) : List Path :=
  targets.filterMap Resolution.path?

@[simp] theorem mem_internals {targets : List Resolution} {path : Path} :
    path ∈ internals targets ↔ .internal path ∈ targets := by
  simp only [internals, List.mem_filterMap]
  constructor
  · rintro ⟨target, htarget, hpath⟩
    cases target with
    | internal other => exact Option.some.inj hpath ▸ htarget
    | external specifier => contradiction
  · intro h
    exact ⟨_, h, rfl⟩

@[simp] theorem internals_concat_external (targets : List Resolution) (specifier : String) :
    internals (targets ++ [.external specifier]) = internals targets := by
  simp [internals, Resolution.path?]

@[simp] theorem internals_concat_internal (targets : List Resolution) (path : Path) :
    internals (targets ++ [.internal path]) = internals targets ++ [path] := by
  simp [internals, Resolution.path?]

/-- The targets that have been discovered, in the order of their first occurrence. -/
def edgesTo (discovered : List Path) (targets : List Resolution) : List Path :=
  (internals targets).eraseDups.filter (discovered.contains ·)

@[simp] theorem mem_edges_to {discovered : List Path} {targets : List Resolution} {path : Path} :
    path ∈ edgesTo discovered targets ↔ .internal path ∈ targets ∧ path ∈ discovered := by
  simp [edgesTo]

/-- An edge depends only on whether its target has been discovered. -/
theorem edges_to_congr {left right : List Path} {targets : List Resolution}
    (h : ∀ path, .internal path ∈ targets → (path ∈ left ↔ path ∈ right)) :
    edgesTo left targets = edgesTo right targets := by
  refine List.filter_congr ?_
  intro path hpath
  rw [Bool.eq_iff_iff, List.contains_iff_mem, List.contains_iff_mem]
  exact h path (mem_internals.mp (List.mem_eraseDups.mp hpath))

/-- Another target is the last edge if it has been discovered, unless it is an edge already. -/
theorem edges_to_concat (discovered : List Path) (targets : List Resolution) (path : Path) :
    edgesTo discovered (targets ++ [.internal path]) =
      if path ∈ discovered ∧ .internal path ∉ targets then edgesTo discovered targets ++ [path]
      else edgesTo discovered targets := by
  rw [edgesTo, internals_concat_internal, List.eraseDups_append, List.filter_append, ← edgesTo]
  by_cases hseen : .internal path ∈ targets
  · simp [List.removeAll, hseen]
  · by_cases hpath : path ∈ discovered <;>
      simp [List.removeAll, List.eraseDups_cons, hseen, hpath]

/-- The node of a file with its edges to discovered files. -/
def linked (discovered : List Path) (scan : FileScan) : Node :=
  { scan.node with dependencies := edgesTo discovered scan.targets }

/-- What the targets in `seen` have added to the state and the node at which they started. -/
structure Follows (deeper : Bool) (start : State × Node) (seen : List Resolution)
    (found : State × Node) : Prop where
  nodes : found.1.nodes = start.1.nodes
  grown : ∃ new, found.1.discovered = start.1.discovered ++ new ∧
    found.1.next = start.1.next ++ new ∧ ∀ path ∈ new, deeper = true ∧ .internal path ∈ seen
  nodup : start.1.discovered.Nodup → found.1.discovered.Nodup
  complete : deeper = true → ∀ path, .internal path ∈ seen → path ∈ found.1.discovered
  externals : ∀ specifier, specifier ∈ found.1.externals ↔
    specifier ∈ start.1.externals ∨ .external specifier ∈ seen
  node : found.2 = linked found.1.discovered ⟨start.2, seen⟩

variable {deeper : Bool} {start found : State × Node} {seen : List Resolution}

/-- A target outside the workspace is recorded as external. -/
theorem Follows.external (h : Follows deeper start seen found) (specifier : String) :
    Follows deeper start (seen ++ [.external specifier])
      (follow deeper found (.external specifier)) where
  nodes := h.nodes
  grown := by
    obtain ⟨new, hdiscovered, hnext, hnew⟩ := h.grown
    exact ⟨new, hdiscovered, hnext, fun path hpath => by simpa using hnew path hpath⟩
  nodup := h.nodup
  complete hdeeper path hpath := h.complete hdeeper path (by simpa using hpath)
  externals other := by
    simp only [follow, List.mem_append, List.mem_singleton, h.externals other,
      Resolution.external.injEq, or_assoc]
  node := by
    refine h.node.trans ?_
    simp [linked, edgesTo, follow]

/-- A target inside the workspace that changes nothing but the edges of the node. -/
theorem Follows.internal (h : Follows deeper start seen found) {path : Path} {node : Node}
    (hdeeper : deeper = true → path ∈ found.1.discovered)
    (hnode : node =
      { found.2 with dependencies := edgesTo found.1.discovered (seen ++ [.internal path]) }) :
    Follows deeper start (seen ++ [.internal path]) (found.1, node) where
  nodes := h.nodes
  grown := by
    obtain ⟨new, hdiscovered, hnext, hnew⟩ := h.grown
    refine ⟨new, hdiscovered, hnext, fun other hother => ?_⟩
    exact (hnew other hother).imp_right (List.mem_append_left _)
  nodup := h.nodup
  complete hyes other hother := by
    rcases List.mem_append.mp hother with hother | hother
    · exact h.complete hyes other hother
    · obtain rfl := Resolution.internal.inj (List.mem_singleton.mp hother)
      exact hdeeper hyes
  externals specifier := by simpa using h.externals specifier
  node := by
    rw [hnode, h.node]
    rfl

/-- A target inside the workspace that is discovered by this node. -/
theorem Follows.discover (h : Follows true start seen found) {path : Path}
    (hpath : path ∉ found.1.discovered) :
    Follows true start (seen ++ [.internal path])
      ({ found.1 with discovered := found.1.discovered ++ [path], next := found.1.next ++ [path] },
        { found.2 with dependencies := found.2.dependencies ++ [path] }) where
  nodes := h.nodes
  grown := by
    obtain ⟨new, hdiscovered, hnext, hnew⟩ := h.grown
    refine ⟨new ++ [path], by simp [hdiscovered], by simp [hnext], ?_⟩
    intro other hother
    rcases List.mem_append.mp hother with hother | hother
    · exact ⟨rfl, List.mem_append_left _ (hnew other hother).2⟩
    · simp [List.mem_singleton.mp hother]
  nodup hstart := by
    refine List.nodup_append.mpr ⟨h.nodup hstart, List.nodup_singleton path, ?_⟩
    intro other hother _ hsingle heq
    exact hpath (List.mem_singleton.mp hsingle ▸ heq ▸ hother)
  complete _ other hother := by
    rcases List.mem_append.mp hother with hother | hother
    · exact List.mem_append_left _ (h.complete rfl other hother)
    · simp [Resolution.internal.inj (List.mem_singleton.mp hother)]
  externals specifier := by simpa using h.externals specifier
  node := by
    -- All targets so far are discovered, so this one is new among them and changes no edge.
    have hseen : .internal path ∉ seen := fun hmem => hpath (h.complete rfl path hmem)
    have hedges : edgesTo (found.1.discovered ++ [path]) seen =
        edgesTo found.1.discovered seen := by
      refine edges_to_congr fun other hother => ?_
      simp [h.complete rfl other hother]
    rw [h.node]
    simp [linked, edges_to_concat, hseen, hedges]

/-- One more target. -/
theorem Follows.step (h : Follows deeper start seen found) (target : Resolution) :
    Follows deeper start (seen ++ [target]) (follow deeper found target) := by
  cases target with
  | external specifier => exact h.external specifier
  | internal path =>
      have hedges : found.2.dependencies = edgesTo found.1.discovered seen := by
        rw [h.node]
        rfl
      rw [follow]
      split
      · -- The target is an edge already.
        next hedge =>
          rw [List.contains_iff_mem, hedges, mem_edges_to] at hedge
          refine h.internal (fun _ => hedge.2) ?_
          simp [edges_to_concat, hedge, ← hedges]
      · next hnot =>
          rw [List.contains_iff_mem, hedges, mem_edges_to] at hnot
          split
          · -- The target was discovered by another file, and becomes an edge.
            next hpath =>
              rw [List.contains_iff_mem] at hpath
              refine h.internal (fun _ => hpath) ?_
              simp_all [edges_to_concat]
          · next hpath =>
              rw [List.contains_iff_mem] at hpath
              split
              · next hdeeper =>
                  subst hdeeper
                  exact h.discover hpath
              · -- The levels end here, so the target is no edge.
                next hdeeper =>
                  refine h.internal (fun hyes => False.elim (hdeeper hyes)) ?_
                  simp [edges_to_concat, hpath, ← hedges]

/-- All targets of a file. -/
theorem follows_targets (deeper : Bool) (state : State) (scan : FileScan)
    (h : scan.node.dependencies = []) :
    Follows deeper (state, scan.node) scan.targets
      (scan.targets.foldl (follow deeper) (state, scan.node)) := by
  induction scan.targets using List.reverseRecOn with
  | nil =>
      refine ⟨rfl, ⟨[], by simp⟩, fun h => h, by simp, by simp, ?_⟩
      change scan.node = { scan.node with dependencies := [] }
      rw [← h]
  | append_singleton seen target ih =>
      rw [List.foldl_append]
      exact ih.step target

/-- What the files in `scans` have added to the state at which they started. -/
structure Merges (deeper : Bool) (start : State) (scans : List FileScan) (state : State) :
    Prop where
  grown : ∃ new, state.discovered = start.discovered ++ new ∧ state.next = start.next ++ new ∧
    ∀ path ∈ new, deeper = true ∧ ∃ scan ∈ scans, .internal path ∈ scan.targets
  nodup : start.discovered.Nodup → state.discovered.Nodup
  complete : deeper = true → ∀ scan ∈ scans, ∀ path, .internal path ∈ scan.targets →
    path ∈ state.discovered
  externals : ∀ specifier, specifier ∈ state.externals ↔
    specifier ∈ start.externals ∨ ∃ scan ∈ scans, .external specifier ∈ scan.targets
  nodes : state.nodes = (scans.map (linked state.discovered)).reverse ++ start.nodes

/-- One more file. -/
theorem Merges.step {start state : State} {scans : List FileScan}
    (h : Merges deeper start scans state) {scan : FileScan} (hscan : scan.node.dependencies = []) :
    Merges deeper start (scans ++ [scan]) (merge deeper state scan) := by
  have hfollows := follows_targets deeper state scan hscan
  rw [merge]
  generalize scan.targets.foldl (follow deeper) (state, scan.node) = pair at hfollows ⊢
  obtain ⟨found, node⟩ := pair
  obtain ⟨new, hdiscovered, hnext, hnew⟩ := hfollows.grown
  dsimp only at hdiscovered hnext ⊢
  refine ⟨?_, fun hstart => hfollows.nodup (h.nodup hstart), ?_, ?_, ?_⟩
  · obtain ⟨old, hold, holdNext, hreason⟩ := h.grown
    refine ⟨old ++ new, by simp [hdiscovered, hold], by simp [hnext, holdNext], ?_⟩
    intro path hpath
    rcases List.mem_append.mp hpath with hpath | hpath
    · obtain ⟨hdeeper, other, hother, htarget⟩ := hreason path hpath
      exact ⟨hdeeper, other, List.mem_append_left _ hother, htarget⟩
    · exact ⟨(hnew path hpath).1, scan, by simp, (hnew path hpath).2⟩
  · intro hdeeper other hother path htarget
    rcases List.mem_append.mp hother with hother | hother
    · rw [hdiscovered]
      exact List.mem_append_left _ (h.complete hdeeper other hother path htarget)
    · obtain rfl := List.mem_singleton.mp hother
      exact hfollows.complete hdeeper path htarget
  · intro specifier
    simp only [hfollows.externals specifier, h.externals specifier, List.mem_append,
      List.mem_singleton, or_and_right, exists_or, exists_eq_left, or_assoc]
  · -- What is discovered now was no target of the files before, so their edges stay as they are.
    have hstable : scans.map (linked state.discovered) = scans.map (linked found.discovered) := by
      refine List.map_congr_left fun other hother => ?_
      rw [linked, linked, edges_to_congr]
      intro path htarget
      rw [hdiscovered, List.mem_append]
      refine ⟨Or.inl, fun hpath => hpath.elim id fun hpath => ?_⟩
      exact h.complete (hnew path hpath).1 other hother path htarget
    have hnode : node = linked found.discovered scan := hfollows.node
    have hnodes : found.nodes = state.nodes := hfollows.nodes
    simp [hnode, hnodes, h.nodes, hstable]

/-- All files of a level. -/
theorem merges_scans (deeper : Bool) (start : State) {scans : List FileScan}
    (h : ∀ scan ∈ scans, scan.node.dependencies = []) :
    Merges deeper start scans (scans.foldl (merge deeper) start) := by
  induction scans using List.reverseRecOn with
  | nil => exact ⟨⟨[], by simp⟩, fun h => h, by simp, by simp, by simp⟩
  | append_singleton scans scan ih =>
      rw [List.foldl_append]
      refine (ih fun other hother => h other (List.mem_append_left _ hother)).step ?_
      exact h scan (by simp)

section Levels

variable (workspace : Workspace) (oracle : (question : Question) → Except Failure question.Answer)
  (withPackages : Bool) (seeds : List Path)

/-- The files at most so many hops from a selected one. A hop goes from a file that can be read to a
file of the workspace that it imports. -/
inductive Within : (hops : Nat) → Path → Prop where
  | seed {hops : Nat} {path : Path} : path ∈ seeds → Within hops path
  | hop {hops : Nat} {path target : Path} {module : ModuleSyntax} : Within hops path →
      oracle (.modules path) = .ok module →
      target ∈ workspace.internalTargets path module.specifiers withPackages →
      Within (hops + 1) target

/-- What reading a file gives, if it can be read. -/
def scan? (path : Path) : Option FileScan :=
  match oracle (.modules path) with
  | .ok module => some (scanOf workspace withPackages path module)
  | .error _ => none

variable {workspace oracle withPackages seeds}

/-- A file that was read. -/
theorem scan_eq_some {path : Path} {scan : FileScan} :
    scan? workspace oracle withPackages path = some scan ↔
      ∃ module, oracle (.modules path) = .ok module ∧
        scan = scanOf workspace withPackages path module := by
  unfold scan?
  split
  · next module hmodule => simp [hmodule, eq_comm]
  · next failure hfailure => simp [hfailure]

/-- The files among the targets of a file are its direct imports. -/
theorem erase_dups_internals_scan_of (path : Path) (module : ModuleSyntax) :
    (internals (scanOf workspace withPackages path module).targets).eraseDups =
      workspace.internalTargets path module.specifiers withPackages := by
  rw [internals, scanOf, List.filterMap_map]
  rfl

/-- More hops reach more files. -/
theorem Within.mono {hops more : Nat} {path : Path}
    (h : Within workspace oracle withPackages seeds hops path) (hle : hops ≤ more) :
    Within workspace oracle withPackages seeds more path := by
  induction h generalizing more with
  | seed hseed => exact .seed hseed
  | hop _ hmodule htarget ih =>
      cases more with
      | zero => contradiction
      | succ more => exact .hop (ih (Nat.le_of_succ_le_succ hle)) hmodule htarget

/-- A target of a file that was read is one hop further. -/
theorem Within.target {hops : Nat} {path target : Path} {scan : FileScan}
    (h : Within workspace oracle withPackages seeds hops path)
    (hscan : scan? workspace oracle withPackages path = some scan)
    (htarget : .internal target ∈ scan.targets) :
    Within workspace oracle withPackages seeds (hops + 1) target := by
  obtain ⟨module, hmodule, rfl⟩ := scan_eq_some.mp hscan
  refine .hop h hmodule ?_
  rwa [← erase_dups_internals_scan_of, List.mem_eraseDups, mem_internals]

/-- A file one hop further is a target of a file that was read, or no further than before. -/
theorem within_succ {hops : Nat} {target : Path}
    (h : Within workspace oracle withPackages seeds (hops + 1) target) :
    Within workspace oracle withPackages seeds hops target ∨
      ∃ path scan, Within workspace oracle withPackages seeds hops path ∧
        scan? workspace oracle withPackages path = some scan ∧ .internal target ∈ scan.targets := by
  cases h with
  | seed hseed => exact Or.inl (.seed hseed)
  | @hop _ path _ module hpath hmodule htarget =>
      refine Or.inr ⟨path, _, hpath, scan_eq_some.mpr ⟨module, hmodule, rfl⟩, ?_⟩
      rwa [← mem_internals, ← List.mem_eraseDups, erase_dups_internals_scan_of]

/-- Where no hop leads to another file, no number of hops does. -/
theorem Within.of_closed {depth hops : Nat} {path : Path}
    (hclosed : ∀ path, Within workspace oracle withPackages seeds depth path →
      ∃ fewer < depth, Within workspace oracle withPackages seeds fewer path)
    (h : Within workspace oracle withPackages seeds hops path) :
    Within workspace oracle withPackages seeds depth path := by
  induction h with
  | seed hseed => exact .seed hseed
  | hop _ hmodule htarget ih =>
      obtain ⟨fewer, hlt, hpath⟩ := hclosed _ ih
      exact (Within.hop hpath hmodule htarget).mono hlt

variable (workspace oracle withPackages seeds)

/-- The files of `paths` that can be read. -/
def scansOf (paths : List Path) : List FileScan :=
  paths.filterMap (scan? workspace oracle withPackages)

/-- What holds between two levels when `depth` levels are done. -/
structure LevelInv (depth : Nat) (done : List Path) (state : State) : Prop where
  discovered : state.discovered = done ++ state.next
  nodup : state.discovered.Nodup
  mem_done : ∀ path, path ∈ done ↔
    ∃ hops < depth, Within workspace oracle withPackages seeds hops path
  mem_discovered : ∀ path, path ∈ state.discovered ↔
    Within workspace oracle withPackages seeds depth path
  externals : ∀ specifier, specifier ∈ state.externals ↔
    ∃ scan ∈ scansOf workspace oracle withPackages done, .external specifier ∈ scan.targets
  nodes : state.nodes =
    ((scansOf workspace oracle withPackages done).map (linked state.discovered)).reverse

/-- What holds when all levels are done. -/
structure Explored (maxDepth : Nat) (state : State) : Prop where
  nodup : state.discovered.Nodup
  mem_discovered : ∀ path, path ∈ state.discovered ↔
    Within workspace oracle withPackages seeds maxDepth path
  externals : ∀ specifier, specifier ∈ state.externals ↔
    ∃ scan ∈ scansOf workspace oracle withPackages state.discovered,
      .external specifier ∈ scan.targets
  nodes : state.nodes =
    ((scansOf workspace oracle withPackages state.discovered).map
      (linked state.discovered)).reverse

variable {workspace oracle withPackages seeds}

@[simp] theorem scans_of_append (left right : List Path) :
    scansOf workspace oracle withPackages (left ++ right) =
      scansOf workspace oracle withPackages left ++ scansOf workspace oracle withPackages right :=
  List.filterMap_append

/-- A file is among those that were read if it is one of them and can be read. -/
theorem mem_scans_of {paths : List Path} {scan : FileScan} :
    scan ∈ scansOf workspace oracle withPackages paths ↔
      ∃ path ∈ paths, scan? workspace oracle withPackages path = some scan :=
  List.mem_filterMap

/-- Files have no edges when they are read. -/
theorem dependencies_of_mem_scans_of {paths : List Path} {scan : FileScan}
    (h : scan ∈ scansOf workspace oracle withPackages paths) : scan.node.dependencies = [] := by
  obtain ⟨_, _, hscan⟩ := mem_scans_of.mp h
  obtain ⟨_, _, rfl⟩ := scan_eq_some.mp hscan
  rfl

/-- Reading the files of a level never fails. -/
theorem eval_scan_files (paths : List Path) :
    (scanFiles workspace withPackages paths).eval oracle =
      .ok (scansOf workspace oracle withPackages paths) := by
  induction paths with
  | nil => rfl
  | cons path rest ih =>
      rw [scanFiles, Inquiry.eval_bind, Inquiry.eval_attempt]
      simp only [Inquiry.eval_bind, Inquiry.eval_pure, ih, scansOf, List.filterMap_cons, scan?]
      cases oracle (.modules path) <;> rfl

/-- The first level is that of the selected files. -/
theorem level_inv_start (h : seeds.Nodup) :
    LevelInv workspace oracle withPackages seeds 0 [] { discovered := seeds, next := seeds } where
  discovered := rfl
  nodup := h
  mem_done := by simp
  mem_discovered path := by
    refine ⟨.seed, fun hpath => ?_⟩
    cases hpath with
    | seed hseed => exact hseed
  externals := by simp [scansOf]
  nodes := rfl

variable {depth : Nat} {done : List Path} {state : State}

/-- Every target of a file of an earlier level is discovered. -/
theorem LevelInv.target_discovered
    (h : LevelInv workspace oracle withPackages seeds depth done state)
    {scan : FileScan} {path : Path} (hscan : scan ∈ scansOf workspace oracle withPackages done)
    (htarget : .internal path ∈ scan.targets) : path ∈ state.discovered := by
  obtain ⟨source, hsource, hscan⟩ := mem_scans_of.mp hscan
  obtain ⟨hops, hlt, hwithin⟩ := (h.mem_done source).mp hsource
  exact (h.mem_discovered path).mpr ((hwithin.target hscan htarget).mono hlt)

section Step

variable {deeper : Bool} {after : State}

/-- Reading a level adds the external specifiers of its files. -/
theorem LevelInv.externals_after
    (h : LevelInv workspace oracle withPackages seeds depth done state)
    (hmerges : Merges deeper { state with next := [] }
      (scansOf workspace oracle withPackages state.next) after) (specifier : String) :
    specifier ∈ after.externals ↔
      ∃ scan ∈ scansOf workspace oracle withPackages state.discovered,
        .external specifier ∈ scan.targets := by
  rw [hmerges.externals, h.externals, h.discovered, scans_of_append]
  simp only [List.mem_append, or_and_right, exists_or]

/-- Reading a level adds its files with their edges and leaves the edges of earlier files alone. -/
theorem LevelInv.nodes_after (h : LevelInv workspace oracle withPackages seeds depth done state)
    (hmerges : Merges deeper { state with next := [] }
      (scansOf workspace oracle withPackages state.next) after) :
    after.nodes = ((scansOf workspace oracle withPackages state.discovered).map
      (linked after.discovered)).reverse := by
  -- The targets of earlier files were discovered before this level, so their edges stay.
  have hstable : (scansOf workspace oracle withPackages done).map (linked state.discovered) =
      (scansOf workspace oracle withPackages done).map (linked after.discovered) := by
    refine List.map_congr_left fun scan hscan => ?_
    rw [linked, linked, edges_to_congr]
    intro path htarget
    obtain ⟨new, hdiscovered, _⟩ := hmerges.grown
    simp [hdiscovered, h.target_discovered hscan htarget]
  rw [hmerges.nodes, h.nodes, hstable, h.discovered]
  simp

/-- A level that may go on keeps the invariant. -/
theorem LevelInv.next (h : LevelInv workspace oracle withPackages seeds depth done state)
    (hmerges : Merges true { state with next := [] }
      (scansOf workspace oracle withPackages state.next) after) :
    LevelInv workspace oracle withPackages seeds (depth + 1) state.discovered after := by
  obtain ⟨new, hdiscovered, hnext, hnew⟩ := hmerges.grown
  refine ⟨?_, hmerges.nodup h.nodup, ?_, ?_, h.externals_after hmerges, h.nodes_after hmerges⟩
  · rw [hdiscovered, hnext]
    rfl
  · intro path
    rw [h.mem_discovered path]
    exact ⟨fun hpath => ⟨depth, Nat.lt_succ_self depth, hpath⟩,
      fun ⟨hops, hlt, hpath⟩ => hpath.mono (Nat.le_of_lt_succ hlt)⟩
  · intro path
    constructor
    · intro hpath
      rw [hdiscovered] at hpath
      rcases List.mem_append.mp hpath with hpath | hpath
      · exact ((h.mem_discovered path).mp hpath).mono (Nat.le_succ depth)
      · obtain ⟨_, scan, hscan, htarget⟩ := hnew path hpath
        obtain ⟨source, hsource, hscan⟩ := mem_scans_of.mp hscan
        have hwithin := (h.mem_discovered source).mp (by simp [h.discovered, hsource])
        exact hwithin.target hscan htarget
    · intro hpath
      rcases within_succ hpath with hpath | ⟨source, scan, hsource, hscan, htarget⟩
      · simp [hdiscovered, (h.mem_discovered path).mpr hpath]
      · -- The importing file belongs to this level or to an earlier one.
        have hmem := (h.mem_discovered source).mpr hsource
        rw [h.discovered] at hmem
        rcases List.mem_append.mp hmem with hmem | hmem
        · have := h.target_discovered (mem_scans_of.mpr ⟨source, hmem, hscan⟩) htarget
          simp [hdiscovered, this]
        · exact hmerges.complete rfl scan (mem_scans_of.mpr ⟨source, hmem, hscan⟩) path htarget

/-- After the last level all files have been found. -/
theorem LevelInv.last (h : LevelInv workspace oracle withPackages seeds depth done state)
    (hmerges : Merges false { state with next := [] }
      (scansOf workspace oracle withPackages state.next) after) :
    Explored workspace oracle withPackages seeds depth after := by
  -- No hops are left, so the last level discovers nothing.
  have hdiscovered : after.discovered = state.discovered := by
    obtain ⟨new, hdiscovered, _, hnew⟩ := hmerges.grown
    have hnone : new = [] :=
      List.eq_nil_iff_forall_not_mem.mpr fun path hpath => Bool.noConfusion (hnew path hpath).1
    simpa [hnone] using hdiscovered
  have hexternals := h.externals_after hmerges
  have hnodes := h.nodes_after hmerges
  rw [← hdiscovered] at hexternals hnodes
  exact ⟨hmerges.nodup h.nodup, fun path => hdiscovered ▸ h.mem_discovered path, hexternals, hnodes⟩

end Step

/-- When a level is empty, all files have been found. -/
theorem LevelInv.of_empty (h : LevelInv workspace oracle withPackages seeds depth done state)
    (hempty : state.next = []) {maxDepth : Nat} (hle : depth ≤ maxDepth) :
    Explored workspace oracle withPackages seeds maxDepth state := by
  obtain rfl : state.discovered = done := by simpa [hempty] using h.discovered
  refine ⟨h.nodup, fun path => ?_, h.externals, h.nodes⟩
  rw [h.mem_discovered path]
  -- Every discovered file was read in an earlier level, so no hop leads out of these files.
  refine ⟨fun hpath => hpath.mono hle, fun hpath => hpath.of_closed ?_⟩
  intro other hother
  exact (h.mem_done other).mp ((h.mem_discovered other).mpr hother)

/-- Where no file is selected, nothing is read and no time is needed. -/
theorem eval_expand_of_empty {deadline : Deadline} {hops : Nat} (h : state.next = []) :
    (expand workspace withPackages deadline hops state).eval oracle = .ok state := by
  rw [expand.eq_def]
  simp [h]

/-- Without time no level is read. -/
theorem eval_expand_of_expired {deadline : Deadline} {failure : Failure} {hops : Nat}
    (hdeadline : deadline.check = .error failure) (hne : state.next ≠ []) :
    (expand workspace withPackages deadline hops state).eval oracle = .error failure := by
  rw [expand.eq_def]
  simp [hne, hdeadline]
  rfl

/-- One level is read, and then the levels after it. -/
theorem eval_expand {deadline : Deadline} (hdeadline : deadline.check = .ok ()) {hops : Nat}
    (hne : state.next ≠ []) {after : State}
    (hafter : after = (scansOf workspace oracle withPackages state.next).foldl
      (merge (0 < hops)) { state with next := [] }) :
    (expand workspace withPackages deadline hops state).eval oracle =
      match hops with
      | 0 => .ok after
      | hops + 1 => (expand workspace withPackages deadline hops after).eval oracle := by
  subst hafter
  rw [expand.eq_def]
  cases hops <;> simp [hne, hdeadline, eval_scan_files] <;> rfl

/-- The levels find all files within the allowed number of hops. -/
theorem expand_explored {deadline : Deadline} (hdeadline : deadline.check = .ok ()) {hops : Nat}
    (h : LevelInv workspace oracle withPackages seeds depth done state) :
    ∃ final, (expand workspace withPackages deadline hops state).eval oracle = .ok final ∧
      Explored workspace oracle withPackages seeds (depth + hops) final := by
  induction hops generalizing depth done state with
  | zero =>
      by_cases hempty : state.next = []
      · exact ⟨state, eval_expand_of_empty hempty, h.of_empty hempty (Nat.le_refl depth)⟩
      · refine ⟨_, eval_expand hdeadline hempty rfl, h.last (merges_scans false _ ?_)⟩
        exact fun _ => dependencies_of_mem_scans_of
  | succ hops ih =>
      by_cases hempty : state.next = []
      · exact ⟨state, eval_expand_of_empty hempty, h.of_empty hempty (Nat.le_add_right depth _)⟩
      · obtain ⟨final, hfinal, hexplored⟩ :=
          ih (h.next (merges_scans true _ fun _ => dependencies_of_mem_scans_of))
        refine ⟨final, (eval_expand hdeadline hempty rfl).trans ?_, ?_⟩
        · simpa using hfinal
        · rwa [Nat.add_right_comm] at hexplored

end Levels

end CodeAtlas.GraphBuild
