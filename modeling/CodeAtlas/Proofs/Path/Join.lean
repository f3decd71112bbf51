import CodeAtlas.Path.Plain

/-!
# Joined paths

What stands between the slashes of a path are its segments. An absolute path walks its segments from
the root, and below a directory the segments of a relative path follow those of the directory
(`segments_join`). So the place of a joined path is found by walking on from the place of the
directory: read `normal_components_join` first.
-/

namespace CodeAtlas.Path

/-- The components between the slashes of a path, without a leading slash or dot. -/
def segments (path : Path) : List Component :=
  (Text.splitBy (· = '/') path.text.toList).filterMap segmentComponent?

/-- A text with a slash in it is cut into the parts before and after the slash. -/
theorem split_by_slash (left right : Text) :
    Text.splitBy (· = '/') (left ++ '/' :: right) =
      Text.splitBy (· = '/') left ++ Text.splitBy (· = '/') right := by
  induction left with
  | nil => simp [Text.splitBy]
  | cons c rest ih =>
      rw [List.cons_append, Text.splitBy, Text.splitBy, ih]
      split
      · rfl
      · obtain ⟨part, parts, hrest⟩ := List.exists_cons_of_ne_nil (Text.split_by_ne_nil _ rest)
        rw [hrest]
        rfl

/-- A path starts with another one if its components do. -/
theorem starts_with_iff_components {path base : Path} :
    path.startsWith base = true ↔ base.components <+: path.components := by
  have hdrop : ∀ left right : List Component,
      (dropPrefix? left right).isSome = true ↔ left <+: right := by
    intro left right
    induction left generalizing right with
    | nil => simp [dropPrefix?]
    | cons a left ih =>
        cases right with
        | nil => simp [dropPrefix?]
        | cons b right =>
            rw [dropPrefix?, List.cons_prefix_cons]
            by_cases heq : a = b
            · simp [heq, ih]
            · simp [heq]
  exact hdrop _ _

/-- An absolute path starts with a slash. -/
theorem is_absolute_iff {path : Path} :
    path.isAbsolute = true ↔ ∃ rest, path.text.toList = '/' :: rest := by
  unfold isAbsolute
  cases path.text.toList <;> simp

/-- The components of an absolute path are its segments below the root. -/
theorem components_of_absolute {path : Path} (h : path.isAbsolute = true) :
    path.components = .root :: path.segments := by
  obtain ⟨rest, hrest⟩ := is_absolute_iff.mp h
  simp only [components, componentsOf, segments, hrest]

/-- What stands between the slashes of a path can follow another component. -/
theorem segments_are_inner (path : Path) : ∀ component ∈ path.segments, IsInner component := by
  intro component hcomponent
  obtain ⟨segment, hsegment, hcomponent⟩ := List.mem_filterMap.mp hcomponent
  exact is_inner_of_segment (not_mem_of_mem_split_by hsegment) hcomponent

/-- What stands between slashes is no root. -/
theorem root_not_mem_segments (path : Path) : .root ∉ path.segments := by
  intro h
  rcases path.segments_are_inner .root h with hroot | ⟨name, _, hroot⟩
  · contradiction
  · contradiction

/-- Only an absolute path has a root component. -/
theorem is_absolute_of_root_mem {path : Path} (h : .root ∈ path.components) :
    path.isAbsolute = true := by
  unfold components componentsOf at h
  dsimp only at h
  split at h
  · contradiction
  · next htext => exact is_absolute_iff.mpr ⟨_, htext⟩
  · -- A relative path has a dot and segments only.
    split at h
    · exact absurd ((List.mem_cons.mp h).resolve_left (by simp)) path.root_not_mem_segments
    · exact absurd h path.root_not_mem_segments

/-- A path that starts with an absolute one is absolute. -/
theorem is_absolute_of_starts_with {path base : Path} (hbase : base.isAbsolute = true)
    (h : path.startsWith base = true) : path.isAbsolute = true := by
  have hroot : .root ∈ base.components := by simp [components_of_absolute hbase]
  exact is_absolute_of_root_mem ((starts_with_iff_components.mp h).subset hroot)

/-- The spelling of components below the root is absolute. -/
theorem of_components_is_absolute (components : List Component) :
    (ofComponents (.root :: components)).isAbsolute = true := by
  simp [ofComponents, isAbsolute]

/-- Whatever is joined to an absolute path is absolute. -/
theorem join_is_absolute {directory : Path} (h : directory.isAbsolute = true) (path : Path) :
    (directory.join path).isAbsolute = true := by
  obtain ⟨rest, hrest⟩ := is_absolute_iff.mp h
  unfold join
  split
  · assumption
  · split <;> simp [isAbsolute, hrest]

/-- A parent of an absolute path is absolute. -/
theorem parent_is_absolute {path parent : Path} (h : path.isAbsolute = true)
    (hparent : path.parent? = some parent) : parent.isAbsolute = true := by
  unfold parent? at hparent
  rw [components_of_absolute h] at hparent
  split at hparent
  · contradiction
  · contradiction
  · next last above hnot heq =>
      obtain rfl := Option.some.inj hparent
      have hrev : .root :: path.segments = above.reverse ++ [last] := by
        simpa using congrArg List.reverse heq
      cases habove : above.reverse with
      | nil =>
          -- A root without anything below it has no parent.
          rw [habove] at hrev
          exact absurd (List.reverse_eq_nil_iff.mp habove) (hnot (List.cons.inj hrev).1.symm)
      | cons first rest =>
          rw [habove, List.cons_append] at hrev
          rw [← (List.cons.inj hrev).1]
          exact of_components_is_absolute rest

/-- Below a directory, the segments of a relative path follow those of the directory. -/
theorem segments_join {directory path : Path} (h : path.isAbsolute = false) :
    (directory.join path).segments = directory.segments ++ path.segments := by
  have hslash : ∀ left right : Text,
      (Text.splitBy (· = '/') (left ++ '/' :: right)).filterMap segmentComponent? =
        (Text.splitBy (· = '/') left).filterMap segmentComponent? ++
          (Text.splitBy (· = '/') right).filterMap segmentComponent? := by
    intro left right
    rw [split_by_slash, List.filterMap_append]
  unfold join segments
  rw [if_neg (by simp [h])]
  split
  · next hends =>
      rcases Bool.or_eq_true_iff.mp hends with hempty | hends
      · have htext : directory.text.toList = [] := by simpa using hempty
        simp [htext, Text.splitBy, segmentComponent?]
      · -- The slash at the end of the directory leaves an empty part, which is no component.
        obtain ⟨front, hfront⟩ := List.getLast?_eq_some_iff.mp (by simpa using hends)
        have hnone : (Text.splitBy (· = '/') ([] : Text)).filterMap segmentComponent? = [] := rfl
        rw [String.toList_append, hfront, List.append_assoc, List.singleton_append, hslash, hslash,
          hnone, List.append_nil]
  · rw [String.toList_append, String.toList_append, List.append_assoc,
      show "/".toList = ['/'] from rfl, List.singleton_append, hslash]

/-- An absolute path walks its segments from the root. -/
theorem normal_components_of_absolute {path : Path} (h : path.isAbsolute = true) :
    path.normalComponents = (path.segments.foldl step [.root]).reverse := by
  rw [normalComponents, components_of_absolute h]
  rfl

/-- From the place of a directory, a joined path walks on. -/
theorem normal_components_join {directory path : Path} (habsolute : directory.isAbsolute = true)
    (h : path.isAbsolute = false) :
    (directory.join path).normalComponents =
      (path.segments.foldl step directory.normalComponents.reverse).reverse := by
  rw [normal_components_of_absolute (join_is_absolute habsolute path),
    normal_components_of_absolute habsolute, segments_join h, List.foldl_append,
    List.reverse_reverse]

/-- The components of a path with its dots carried out are the names on the way. -/
theorem components_normalize (path : Path) : path.normalize.components = path.normalComponents :=
  (is_place_of_components path).components_eq

/-- The components of a plain path are those of its place. -/
theorem IsPlain.components_eq {path : Path} (h : path.IsPlain) :
    path.components = path.normalComponents := by
  rw [← components_normalize, h]

/-- Dots leave no trace in a path where they have been carried out. -/
theorem no_dots_of_plain {path : Path} (h : path.IsPlain) :
    .current ∉ path.components ∧ .parent ∉ path.components := by
  obtain ⟨names, _, hplace | hplace⟩ := (is_place_of_components path).reverse_eq
  · rw [h.components_eq, normalComponents, hplace]
    simp
  · rw [h.components_eq, normalComponents, hplace]
    simp

end CodeAtlas.Path
