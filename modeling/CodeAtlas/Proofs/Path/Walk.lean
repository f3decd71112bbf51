import CodeAtlas.Proofs.Path.Join

/-!
# Walking along a path

`walk` takes one step from a place that is given by its names from the top. It says nothing of what is
stored and nothing of spellings, so it is what carrying out the dots of a path is held to: read
`normalize_eq_walk` first. On the way to a place all the places above it are passed, or they lie above
the start (`prefix_of_walk`).
-/

namespace CodeAtlas.Path

/-- Take one step from the place at the end of a chain of names. There is nothing above the top. -/
def walk (place : List String) : Component → List String
  | .root => []
  | .current => place
  | .parent => place.dropLast
  | .name name => place ++ [name]

variable {components : List Component} {place : List String} {path : Path}

/-- A leading dot leads nowhere. -/
theorem foldl_walk_filter (components : List Component) (place : List String) :
    (components.filter (· ≠ .current)).foldl walk place = components.foldl walk place := by
  induction components generalizing place with
  | nil => rfl
  | cons component rest ih =>
      cases component with
      | current => exact ih place
      | root => exact ih []
      | parent => exact ih place.dropLast
      | name name => exact ih (place ++ [name])

/-- Names lead to the end of their chain. -/
theorem foldl_walk_names (names place : List String) :
    (names.map Component.name).foldl walk place = place ++ names := by
  induction names generalizing place with
  | nil => exact (List.append_nil _).symm
  | cons name rest ih =>
      rw [List.map_cons, List.foldl_cons, walk, ih, List.append_assoc, List.singleton_append]

/-- Carrying out dots from below the root is walking. -/
theorem foldl_step_eq_walk (hroot : .root ∉ components) (place : List String) :
    components.foldl step (place.reverse.map .name ++ [.root]) =
      (components.foldl walk place).reverse.map .name ++ [.root] := by
  induction components generalizing place with
  | nil => rfl
  | cons component rest ih =>
      obtain ⟨hcomponent, hrest⟩ := not_or.mp (mt List.mem_cons.mpr hroot)
      rw [List.foldl_cons, List.foldl_cons, ← ih hrest]
      congr 1
      cases component with
      | root => exact absurd rfl hcomponent
      | current => rfl
      | name name => simp [step, walk]
      | parent =>
          rcases List.eq_nil_or_concat place with rfl | ⟨front, last, rfl⟩
          · rfl
          · rw [List.concat_eq_append, walk, List.dropLast_concat, List.reverse_concat, List.map_cons,
              List.cons_append]
            cases front.reverse.map Component.name ++ [Component.root] <;> rfl

/-- The names on the way of an absolute path are those that it leads along from the top. -/
theorem normal_components_eq_walk (h : path.isAbsolute = true) :
    path.normalComponents = .root :: (path.segments.foldl walk []).map .name := by
  have hwalk := foldl_step_eq_walk path.root_not_mem_segments []
  rw [List.reverse_nil, List.map_nil, List.nil_append] at hwalk
  rw [normal_components_of_absolute h, hwalk]
  simp

/-- Carrying out the dots of an absolute path is walking along it from the top. -/
theorem normalize_eq_walk (h : path.isAbsolute = true) :
    path.normalize = ofComponents (.root :: (path.segments.foldl walk []).map .name) := by
  rw [normalize, normal_components_eq_walk h]

/-- The components of a relative path are its segments, behind a leading dot at most. -/
theorem components_of_relative (h : path.isAbsolute = false) :
    path.components = path.segments ∨ path.components = .current :: path.segments := by
  unfold components componentsOf segments
  dsimp only
  split
  · next htext =>
      rw [htext]
      exact Or.inl rfl
  · next htext =>
      rw [isAbsolute, htext] at h
      exact absurd h (by simp)
  · split
    · exact Or.inr rfl
    · exact Or.inl rfl

/-- A place that is above the one where a walk ends was passed on the way or is above the start. -/
theorem prefix_of_walk {above : List String} (h : above <+: components.foldl walk place) :
    above <+: place ∨ ∃ front, front <+: components ∧ above = front.foldl walk place := by
  induction components generalizing place with
  | nil => exact Or.inl h
  | cons component rest ih =>
      rcases ih h with hfirst | ⟨front, hfront, rfl⟩
      · cases component with
        | root => exact Or.inl (List.prefix_nil.mp hfirst ▸ List.nil_prefix)
        | current => exact Or.inl hfirst
        | parent => exact Or.inl (hfirst.trans (List.dropLast_prefix place))
        | name name =>
            refine (List.prefix_concat_iff.mp hfirst).symm.imp_right fun heq => ?_
            exact ⟨[.name name], List.cons_prefix_cons.mpr ⟨rfl, List.nil_prefix⟩, heq⟩
      · exact Or.inr ⟨component :: front, List.cons_prefix_cons.mpr ⟨rfl, hfront⟩, rfl⟩

end CodeAtlas.Path
