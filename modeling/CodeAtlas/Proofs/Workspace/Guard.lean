import CodeAtlas.Proofs.Path.Walk
import CodeAtlas.Proofs.Workspace.Lexical

/-!
# Guarding paths that are not stored yet

A path of which nothing exists but the root and what is above it (`Vacant`) is resolved by its
spelling: it leads where walking along it does, if that is inside the root, and is refused otherwise
(`resolve_eq_of_vacant`). What it leads to is resolved to itself, and so is the way this is shown. The
reason is that the places above the end of a walk were passed on the way (`Path.prefix_of_walk`), so
they are no links either.
-/

namespace CodeAtlas

namespace Path

/-- The way that a path leads from a directory, whatever is stored there: an absolute path starts from
the top. -/
def walkFrom (place : List String) (path : Path) : List String :=
  path.components.foldl walk place

variable {root path : Path}

/-- A path with the components of a chain of names below the root has these names. -/
theorem names_of_components {names : List String} (h : path.components = .root :: names.map .name) :
    path.names = names := by
  rw [Path.names, h, List.filterMap_cons_none rfl, List.filterMap_map]
  exact List.filterMap_some

/-- A path lies below another one if its names start with the names of that. -/
theorem prefix_of_names_iff {above names : List String} :
    Component.root :: above.map .name <+: .root :: names.map .name ↔ above <+: names := by
  rw [List.cons_prefix_cons, List.prefix_map_iff]
  constructor
  · rintro ⟨-, front, hfront, heq⟩
    rwa [(List.map_inj_right fun _ _ => Component.name.inj).mp heq]
  · exact fun h => ⟨rfl, above, h, rfl⟩

/-- A joined path leads from the top where the path leads from the directory. -/
theorem walk_join (hroot : root.components = .root :: root.names.map .name) :
    (root.join path).segments.foldl walk [] = path.walkFrom root.names := by
  have habsolute : root.isAbsolute = true := is_absolute_of_root_mem (hroot ▸ List.mem_cons_self)
  cases hpath : path.isAbsolute with
  | true =>
      rw [walkFrom, components_of_absolute hpath, List.foldl_cons, walk, join, if_pos hpath]
  | false =>
      have hsegments : root.segments = root.names.map .name :=
        (List.cons.inj ((components_of_absolute habsolute).symm.trans hroot)).2
      rw [segments_join hpath, List.foldl_append, hsegments, foldl_walk_names, List.nil_append,
        walkFrom]
      rcases components_of_relative hpath with heq | heq
      · rw [heq]
      · rw [heq, List.foldl_cons, walk]

/-- What follows the components of another path is left when these are dropped. -/
theorem drop_prefix_append (base rest : List Component) : dropPrefix? base (base ++ rest) = some rest := by
  induction base with
  | nil => rfl
  | cons component base ih => rw [List.cons_append, dropPrefix?, if_pos rfl, ih]

/-- Joined names hold slashes and what the names hold. -/
theorem mem_intercalate {c : Char} {names : List String} (hc : c ∈ ("/".intercalate names).toList) :
    c = '/' ∨ ∃ name ∈ names, c ∈ name.toList := by
  induction names with
  | nil => simp at hc
  | cons name rest ih =>
      cases rest with
      | nil => exact Or.inr ⟨name, List.mem_cons_self, by simpa using hc⟩
      | cons next rest =>
          rw [String.intercalate_cons_cons, String.toList_append, String.toList_append] at hc
          rcases List.mem_append.mp hc with hfront | hrest
          · rcases List.mem_append.mp hfront with hname | hslash
            · exact Or.inr ⟨name, List.mem_cons_self, hname⟩
            · exact Or.inl (List.mem_singleton.mp hslash)
          · exact (ih hrest).imp_right fun ⟨other, hother, hmem⟩ =>
              ⟨other, List.mem_cons_of_mem _ hother, hmem⟩

/-- A path below a directory is shown as its names below that, unless one of these holds a backslash. -/
theorem shown_below_eq {names : List String}
    (hpath : path.components = root.components ++ names.map .name)
    (hplain : ∀ name ∈ names, '\\' ∉ name.toList) :
    (⟨path.shownBelow root⟩ : Path) = ofComponents (names.map .name) := by
  have htext : (ofComponents (names.map .name)).text = "/".intercalate names := by
    cases names with
    | nil => rfl
    | cons name rest => simp [ofComponents, Component.spelling, Function.comp_def]
  have hkept : ∀ c ∈ (ofComponents (names.map .name)).text.toList,
      (if c = '\\' then '/' else c) = c := by
    intro c hc
    rw [htext] at hc
    refine if_neg ?_
    rintro rfl
    rcases mem_intercalate hc with hslash | ⟨name, hname, hmem⟩
    · exact absurd hslash (by decide)
    · exact hplain name hname hmem
  rw [shownBelow, below, hpath, drop_prefix_append]
  simp only [List.map_congr_left hkept, List.map_id', String.ofList_toList]

/-- Names below nothing are the segments of a relative path. -/
theorem segments_of_names {names : List String} (hnames : ∀ name ∈ names, IsName name) :
    (ofComponents (names.map .name)).isAbsolute = false ∧
      (ofComponents (names.map .name)).segments = names.map .name := by
  have hcomponents := components_of_names hnames
  have hrelative : (ofComponents (names.map .name)).isAbsolute = false := by
    rw [← Bool.not_eq_true]
    intro habsolute
    have hroot : Component.root ∈ names.map Component.name := by
      rw [← hcomponents, components_of_absolute habsolute]
      exact List.mem_cons_self
    simp at hroot
  refine ⟨hrelative, ?_⟩
  rcases components_of_relative hrelative with heq | heq
  · rw [← heq, hcomponents]
  · have hdot : Component.current ∈ names.map Component.name := by
      rw [← hcomponents, heq]
      exact List.mem_cons_self
    simp at hdot

end Path

namespace FileTree

variable {tree : FileTree} {root path : Path}

/-- Of the places that a path leads through from the root, only the root and those above it exist. -/
def Vacant (tree : FileTree) (root path : Path) : Prop :=
  ∀ front, front <+: path.components → ∀ item,
    tree.at? (front.foldl Path.walk root.names) = some item →
      front.foldl Path.walk root.names <+: root.names

section Canonical

/-- Above a directory there are directories. -/
theorem directory_above {front back : List String} {entries : List (String × FileTree)}
    (h : tree.at? (front ++ back) = some (.directory entries)) :
    ∃ above, tree.at? front = some (.directory above) := by
  rw [at_append] at h
  obtain ⟨item, hitem, hback⟩ := Option.bind_eq_some_iff.mp h
  cases back with
  | nil => exact ⟨entries, by rw [hitem, ← hback, at?]⟩
  | cons name rest =>
      obtain ⟨above, -, rfl, -⟩ := exists_entries_of_at hback
      exact ⟨above, hitem⟩

/-- Something is stored at the end of a chain of names, and it is no link. -/
def Lands (tree : FileTree) (names : List String) : Prop :=
  ∃ item, tree.at? names = some item ∧ ∀ target, item ≠ .link target

/-- A directory is stored and is no link. -/
theorem lands_of_directory {names : List String} {entries : List (String × FileTree)}
    (h : tree.at? names = some (.directory entries)) : tree.Lands names :=
  ⟨_, h, by simp⟩

/-- A path leads to something that is stored and is no link. -/
theorem lands_of_resolve_from {links : Nat} {place names : List String} {path : List Component}
    (hplace : tree.Lands place.reverse) (h : tree.resolveFrom links place path = .ok names) :
    tree.Lands names := by
  cases path with
  | nil =>
      rw [resolveFrom] at h
      rwa [← Except.ok.inj h]
  | cons component rest =>
      rw [resolveFrom] at h
      split at h
      · next entries hentries =>
          split at h
          · exact lands_of_resolve_from hplace h
          · exact lands_of_resolve_from hplace h
          · refine lands_of_resolve_from ?_ h
            have habove : place.reverse = (place.drop 1).reverse ++ (place.take 1).reverse := by
              rw [← List.reverse_append, List.take_append_drop]
            rw [habove] at hentries
            obtain ⟨above, habove⟩ := directory_above hentries
            exact lands_of_directory habove
          · next name =>
              split at h
              · contradiction
              · next target _ =>
                  split at h
                  · contradiction
                  · refine lands_of_resolve_from ?_ h
                    split
                    · have hbelow : tree.at? ([] ++ place.reverse) = some (.directory entries) := hentries
                      obtain ⟨above, habove⟩ := directory_above hbelow
                      exact lands_of_directory habove
                    · exact hplace
              · next item hlink hfound =>
                  refine lands_of_resolve_from ⟨item.2, ?_, ?_⟩ h
                  · rw [at_entry hentries, hfound]
                    rfl
                  · intro target htarget
                    exact hlink item.1 target (Prod.ext rfl htarget)
      · contradiction
      · contradiction
termination_by (links, path.length)

/-- Whatever leads anywhere starts in a directory at the top. -/
theorem lands_at_top {names : List String} (h : tree.resolve path = .ok names) : tree.Lands [] := by
  cases hsteps : steps path with
  | nil => exact absurd (List.map_eq_nil_iff.mp hsteps) (Text.split_by_ne_nil _ _)
  | cons component rest =>
      rw [resolve, hsteps, resolveFrom] at h
      split at h
      · next entries hentries => exact lands_of_directory hentries
      · contradiction
      · contradiction

/-- A path that is its own real path is spelled along its names, which lead past directories to
something that is no link. -/
theorem canonical_root (hroot : tree.realPath root = .ok root) :
    root.components = .root :: root.names.map .name ∧ (∀ name ∈ root.names, Path.IsName name) ∧
      ∀ above, above <+: root.names → ∀ target, tree.at? above ≠ some (.link target) := by
  rw [realPath] at hroot
  cases hresolve : tree.resolve root with
  | error fault =>
      rw [hresolve] at hroot
      contradiction
  | ok names =>
      rw [hresolve] at hroot
      have hpath : pathOf names = root := Except.ok.inj hroot
      have hnames := resolve_from_names (List.forall_mem_nil _) (fun _ => is_name_of_mem_steps) hresolve
      have hcomponents : root.components = .root :: names.map .name := by
        rw [← hpath]
        exact Path.components_of_rooted hnames
      have hstart : tree.Lands ([] : List String).reverse := lands_at_top hresolve
      have hlands : tree.Lands names := lands_of_resolve_from hstart hresolve
      rw [Path.names_of_components hcomponents]
      refine ⟨hcomponents, hnames, ?_⟩
      rintro above ⟨rest, rfl⟩ target hlink
      obtain ⟨item, hitem, hplain⟩ := hlands
      cases rest with
      | nil =>
          rw [List.append_nil, hlink] at hitem
          exact hplain target (Option.some.inj hitem).symm
      | cons name rest =>
          rw [at_append, hlink, Option.bind_some] at hitem
          obtain ⟨entries, -, hdirectory, -⟩ := exists_entries_of_at hitem
          cases hdirectory

end Canonical

section Resolved

/-- The steps of a path pass the places that its segments do. -/
theorem passed_by_segments {front : List Component} (h : front <+: steps path) (place : List String) :
    ∃ early, early <+: path.segments ∧ front.foldl Path.walk place = early.foldl Path.walk place :=
  ⟨front.filter (· ≠ .current), filter_steps path ▸ h.filter _, (Path.foldl_walk_filter _ _).symm⟩

/-- A path on whose way there are no links is resolved by its spelling. -/
theorem resolve_of_unlinked (hroot : root.components = .root :: root.names.map .name)
    (hlinks : ∀ early, early <+: (root.join path).segments → ∀ target,
      tree.at? (early.foldl Path.walk []) ≠ some (.link target)) :
    (tree.storage root).resolve root path =
      if root.names <+: path.walkFrom root.names then .ok (pathOf (path.walkFrom root.names))
      else .error (.outside (if path.isAbsolute then "path outside workspace" else path.text)) := by
  have habsolute : (root.join path).isAbsolute = true :=
    Path.join_is_absolute (Path.is_absolute_of_root_mem (hroot ▸ List.mem_cons_self)) path
  have hnormal : (root.join path).normalize = pathOf (path.walkFrom root.names) := by
    rw [Path.normalize_eq_walk habsolute, Path.walk_join hroot, pathOf]
  have hreal : ((tree.storage root).realPath (root.join path)).toOption.getD
      (root.join path).normalize = pathOf (path.walkFrom root.names) := by
    show (tree.realPath (root.join path)).toOption.getD _ = _
    rw [realPath]
    cases hresolve : tree.resolve (root.join path) with
    | error fault => exact hnormal
    | ok names =>
        have hwalk := resolve_from_eq_walk (root_not_mem_steps _) (fun front hfront => by
          obtain ⟨early, hearly, heq⟩ := passed_by_segments hfront []
          exact heq ▸ hlinks early hearly) hresolve
        rw [hwalk, List.reverse_nil, foldl_steps, Path.walk_join hroot]
        rfl
  have hcomponents : (pathOf (path.walkFrom root.names)).components =
      .root :: (path.walkFrom root.names).map .name := by
    rw [← hnormal, Path.components_normalize, Path.normal_components_eq_walk habsolute,
      Path.walk_join hroot]
  have hinside : (pathOf (path.walkFrom root.names)).startsWith root = true ↔
      root.names <+: path.walkFrom root.names := by
    rw [Path.starts_with_iff_components, hcomponents, hroot, Path.prefix_of_names_iff]
  rw [Storage.resolve, hreal]
  simp only [hinside]

/-- No place on the way of a vacant path is a link. -/
theorem unlinked_on_way (hroot : tree.realPath root = .ok root) (hvacant : tree.Vacant root path)
    {early : List Component} (hearly : early <+: (root.join path).segments) (target : Path) :
    tree.at? (early.foldl Path.walk []) ≠ some (.link target) := by
  obtain ⟨hcomponents, -, hcanonical⟩ := canonical_root hroot
  have habsolute : root.isAbsolute = true :=
    Path.is_absolute_of_root_mem (hcomponents ▸ List.mem_cons_self)
  intro hlink
  have habove : early.foldl Path.walk [] <+: root.names := by
    cases hpath : path.isAbsolute with
    | true =>
        rw [Path.join, if_pos hpath] at hearly
        refine hvacant (.root :: early) ?_ _ hlink
        rw [Path.components_of_absolute hpath, List.cons_prefix_cons]
        exact ⟨rfl, hearly⟩
    | false =>
        have hsegments : root.segments = root.names.map .name :=
          (List.cons.inj ((Path.components_of_absolute habsolute).symm.trans hcomponents)).2
        obtain ⟨late, heq⟩ := hearly
        rw [Path.segments_join hpath, hsegments, List.append_eq_append_iff] at heq
        rcases heq with ⟨between, hnames, -⟩ | ⟨between, rfl, hpassed⟩
        · -- The walk has not left the way down to the root.
          obtain ⟨above, habove, rfl⟩ := List.prefix_map_iff.mp ⟨between, hnames.symm⟩
          rwa [Path.foldl_walk_names, List.nil_append]
        · rw [List.foldl_append, Path.foldl_walk_names, List.nil_append] at hlink ⊢
          have hbetween : between <+: path.segments := ⟨late, hpassed.symm⟩
          rcases Path.components_of_relative hpath with heq | heq
          · exact hvacant between (heq ▸ hbetween) _ hlink
          · exact hvacant (.current :: between)
              (heq ▸ List.cons_prefix_cons.mpr ⟨rfl, hbetween⟩) _ hlink
  exact hcanonical _ habove target hlink

/-- No place above the end of a vacant path is a link. -/
theorem unlinked_above (hroot : tree.realPath root = .ok root) (hvacant : tree.Vacant root path)
    {above : List String} (habove : above <+: path.walkFrom root.names) (target : Path) :
    tree.at? above ≠ some (.link target) := by
  intro hlink
  have hnames : above <+: root.names := by
    rcases Path.prefix_of_walk habove with hnames | ⟨front, hfront, rfl⟩
    · exact hnames
    · exact hvacant front hfront _ hlink
  exact (canonical_root hroot).2.2 above hnames target hlink

/-- Whatever goes straight to the end of a vacant path inside the root is resolved to it. -/
theorem resolve_of_straight (hroot : tree.realPath root = .ok root) (hvacant : tree.Vacant root path)
    (hinside : root.names <+: path.walkFrom root.names) {straight : Path}
    (hstraight : (root.join straight).segments = (path.walkFrom root.names).map .name) :
    (tree.storage root).resolve root straight = .ok (pathOf (path.walkFrom root.names)) := by
  have hcomponents := (canonical_root hroot).1
  have hwalk : straight.walkFrom root.names = path.walkFrom root.names := by
    rw [← Path.walk_join hcomponents, hstraight, Path.foldl_walk_names, List.nil_append]
  rw [resolve_of_unlinked hcomponents, hwalk, if_pos hinside]
  intro early hearly target
  obtain ⟨above, habove, rfl⟩ := List.prefix_map_iff.mp (hstraight ▸ hearly)
  rw [Path.foldl_walk_names, List.nil_append]
  exact unlinked_above hroot hvacant habove target

/-- The names where a vacant path leads can stand between slashes. -/
theorem names_of_walk (hroot : tree.realPath root = .ok root) (path : Path) :
    ∀ name ∈ path.walkFrom root.names, Path.IsName name := by
  have hcomponents := (canonical_root hroot).1
  have habsolute : (root.join path).isAbsolute = true :=
    Path.join_is_absolute (Path.is_absolute_of_root_mem (hcomponents ▸ List.mem_cons_self)) path
  have hnormal := Path.normal_components_eq_walk habsolute
  rw [Path.walk_join hcomponents] at hnormal
  obtain ⟨names, hnames, hplace⟩ := (Path.is_place_of_components (root.join path)).reverse_eq
  have hsame : Component.root :: (path.walkFrom root.names).map .name = .root :: names.map .name := by
    rcases hplace with hplace | hplace
    · have htop : Component.root ∈ names.map Component.name := by
        rw [← hplace, ← Path.normalComponents, hnormal]
        exact List.mem_cons_self
      simp at htop
    · rw [← hnormal, Path.normalComponents, hplace]
  rw [(List.map_inj_right fun _ _ => Component.name.inj).mp (List.cons.inj hsame).2]
  exact hnames

/-- The end of a vacant path inside the root is resolved to itself, also from the way it is shown if no
name in it holds a backslash. -/
theorem resolve_end (hroot : tree.realPath root = .ok root) (hvacant : tree.Vacant root path)
    (hinside : root.names <+: path.walkFrom root.names) :
    (tree.storage root).resolve root (pathOf (path.walkFrom root.names)) =
        .ok (pathOf (path.walkFrom root.names)) ∧
      ((∀ name ∈ path.walkFrom root.names, '\\' ∉ name.toList) →
        (tree.storage root).resolve root ⟨(pathOf (path.walkFrom root.names)).shownBelow root⟩ =
          .ok (pathOf (path.walkFrom root.names))) := by
  obtain ⟨hcomponents, -, -⟩ := canonical_root hroot
  have hnames := names_of_walk hroot path
  have hend : (pathOf (path.walkFrom root.names)).components =
      .root :: (path.walkFrom root.names).map .name := Path.components_of_rooted hnames
  have hendAbsolute : (pathOf (path.walkFrom root.names)).isAbsolute = true :=
    Path.of_components_is_absolute _
  constructor
  · refine resolve_of_straight hroot hvacant hinside ?_
    rw [Path.join, if_pos hendAbsolute]
    exact (List.cons.inj ((Path.components_of_absolute hendAbsolute).symm.trans hend)).2
  · intro hplain
    obtain ⟨rest, hrest⟩ := id hinside
    have hbelow : ∀ name ∈ rest, name ∈ path.walkFrom root.names :=
      fun name hname => hrest ▸ List.mem_append_right _ hname
    have hshown : (pathOf (path.walkFrom root.names)).components =
        root.components ++ rest.map .name := by
      rw [hend, hcomponents, ← hrest, List.map_append, List.cons_append]
    have habsolute : root.isAbsolute = true :=
      Path.is_absolute_of_root_mem (hcomponents ▸ List.mem_cons_self)
    have hsegments : root.segments = root.names.map .name :=
      (List.cons.inj ((Path.components_of_absolute habsolute).symm.trans hcomponents)).2
    obtain ⟨hrelative, hrestSegments⟩ :=
      Path.segments_of_names fun name hname => hnames name (hbelow name hname)
    rw [Path.shown_below_eq hshown fun name hname => hplain name (hbelow name hname)]
    refine resolve_of_straight hroot hvacant hinside ?_
    rw [Path.segments_join hrelative, hrestSegments, hsegments, ← hrest, List.map_append]

/-- Guarding is a projection that goes by the spelling, where nothing on the path exists but the root
and what is above it. A path is refused exactly if walking along it from the root ends outside. Any
other leads to where the walk ends; that has the root as its first components and no dots, and is
resolved to itself, also from the way it is shown if no name in it holds a backslash. -/
theorem resolve_eq_of_vacant (hroot : tree.realPath root = .ok root) (hvacant : tree.Vacant root path) :
    ((∃ failure, (tree.storage root).resolve root path = .error failure) ↔
      ¬root.names <+: path.walkFrom root.names) ∧
    ∀ inside, (tree.storage root).resolve root path = .ok inside →
      root.components <+: inside.components ∧
      .current ∉ inside.components ∧ .parent ∉ inside.components ∧
      inside.names = path.walkFrom root.names ∧
      (tree.storage root).resolve root inside = .ok inside ∧
      ((∀ name ∈ inside.names, '\\' ∉ name.toList) →
        (tree.storage root).resolve root ⟨inside.shownBelow root⟩ = .ok inside) := by
  have hcomponents := (canonical_root hroot).1
  have hresolve := resolve_of_unlinked hcomponents fun early hearly =>
    unlinked_on_way hroot hvacant hearly
  by_cases hinside : root.names <+: path.walkFrom root.names
  · rw [hresolve, if_pos hinside]
    refine ⟨by simp [hinside], ?_⟩
    rintro inside ⟨⟩
    have hend : (pathOf (path.walkFrom root.names)).components =
        .root :: (path.walkFrom root.names).map .name :=
      Path.components_of_rooted (names_of_walk hroot path)
    have hnames := Path.names_of_components hend
    obtain ⟨hself, hshown⟩ := resolve_end hroot hvacant hinside
    refine ⟨?_, by simp [hend], by simp [hend], hnames, hself, ?_⟩
    · rw [hcomponents, hend]
      exact Path.prefix_of_names_iff.mpr hinside
    · rw [hnames]
      exact hshown
  · rw [hresolve, if_neg hinside]
    exact ⟨by simp [hinside], by simp⟩

/-- A tree with an empty directory `ws` at its top. -/
def emptyWorkspace : FileTree :=
  .directory [("ws", .directory [])]

/-- In an empty workspace a path that turns back from a directory that is not there leads to the file
beside it. -/
theorem resolve_in_empty_workspace :
    emptyWorkspace.realPath ⟨"/ws"⟩ = .ok ⟨"/ws"⟩ ∧ emptyWorkspace.Vacant ⟨"/ws"⟩ ⟨"x/../y.ts"⟩ ∧
      ∃ inside, (emptyWorkspace.storage ⟨"/ws"⟩).resolve ⟨"/ws"⟩ ⟨"x/../y.ts"⟩ = .ok inside ∧
        inside.names = ["ws", "y.ts"] ∧
        (emptyWorkspace.storage ⟨"/ws"⟩).resolve ⟨"/ws"⟩ ⟨inside.shownBelow ⟨"/ws"⟩⟩ = .ok inside := by
  have hsteps : steps ⟨"/ws"⟩ = [.current, .name "ws"] := by decide
  have hroot : emptyWorkspace.realPath ⟨"/ws"⟩ = .ok ⟨"/ws"⟩ := by
    simp [realPath, resolve, hsteps, resolveFrom, emptyWorkspace, at?, Except.map]
    rfl
  have hvacant : emptyWorkspace.Vacant ⟨"/ws"⟩ ⟨"x/../y.ts"⟩ := by
    have hcomponents : (⟨"x/../y.ts"⟩ : Path).components = [.name "x", .parent, .name "y.ts"] := by
      decide
    have hnames : (⟨"/ws"⟩ : Path).names = ["ws"] := by decide
    have hpassed : ∀ count ≤ [Component.name "x", .parent, .name "y.ts"].length,
        (emptyWorkspace.at? (([Component.name "x", .parent, .name "y.ts"].take count).foldl Path.walk
          ["ws"])).isSome = true →
        ([Component.name "x", .parent, .name "y.ts"].take count).foldl Path.walk ["ws"] <+: ["ws"] := by
      decide
    intro front hfront item hitem
    rw [hcomponents] at hfront
    rw [hnames, List.prefix_iff_eq_take.mp hfront] at hitem ⊢
    exact hpassed front.length hfront.length_le (by rw [hitem]; rfl)
  have hwalk : (⟨"x/../y.ts"⟩ : Path).walkFrom (⟨"/ws"⟩ : Path).names = ["ws", "y.ts"] := by decide
  obtain ⟨hrefused, hled⟩ := resolve_eq_of_vacant hroot hvacant
  rw [hwalk] at hrefused
  cases hresolve : (emptyWorkspace.storage ⟨"/ws"⟩).resolve ⟨"/ws"⟩ ⟨"x/../y.ts"⟩ with
  | error failure => exact absurd (by decide) (hrefused.mp ⟨failure, hresolve⟩)
  | ok inside =>
      obtain ⟨-, -, -, hnames, -, hshown⟩ := hled inside hresolve
      rw [hwalk] at hnames
      exact ⟨hroot, hvacant, inside, rfl, hnames, hshown (by rw [hnames]; decide)⟩

end Resolved

end FileTree

end CodeAtlas
