import CodeAtlas.Path

/-!
# Plain spellings

`Path.normalize` carries out the dots of a path, whatever is stored there. A path is plain if that
changes nothing, not even its spelling. Read `normalize_is_plain` first: a normalized path is plain.
Plain paths that name the same place are equal, so a collection of plain paths can be searched by
spelling.
-/

namespace CodeAtlas.Path

/-- Take one step from a place given by its components in reverse. There is nothing above the root.
-/
def step (place : List Component) (component : Component) : List Component :=
  match component with
  | .current => place
  | .parent =>
    match place with
    | [] | [.root] => place
    | _ :: above => above
  | _ => component :: place

/-- The components of a path with its dots carried out, whatever is stored there. -/
def normalComponents (path : Path) : List Component :=
  (path.components.foldl step []).reverse

/-- The path with its dots carried out, whatever is stored there. -/
def normalize (path : Path) : Path :=
  ofComponents path.normalComponents

/-- A path is plain if carrying out its dots leaves it as it is spelled. -/
def IsPlain (path : Path) : Prop :=
  path.normalize = path

instance (path : Path) : Decidable path.IsPlain :=
  inferInstanceAs (Decidable (path.normalize = path))

/-- A text is a name if it can stand between slashes and is read back from there. -/
def IsName (text : String) : Prop :=
  '/' ∉ text.toList ∧ segmentComponent? text.toList = some (.name text)

/-- The places that steps lead to, in reverse: names below the root, or below nothing. -/
inductive IsPlace : List Component → Prop where
  | start : IsPlace []
  | root : IsPlace [.root]
  | child {name : String} {place : List Component} :
      IsName name → IsPlace place → IsPlace (.name name :: place)

/-- No part of a cut text holds the character that cuts. -/
theorem not_mem_of_mem_split_by {text part : Text} (h : part ∈ Text.splitBy (· = '/') text) :
    '/' ∉ part := by
  induction text generalizing part with
  | nil => simp_all [Text.splitBy]
  | cons c rest ih =>
      by_cases hc : c = '/'
      · simp only [Text.splitBy, hc, decide_true, if_true, List.mem_cons] at h
        rcases h with rfl | h
        · simp
        · exact ih h
      · cases hrest : Text.splitBy (· = '/') rest with
        | nil =>
            simp only [Text.splitBy, hc, decide_false, Bool.false_eq_true, if_false, hrest,
              List.mem_singleton] at h
            simp [h, Ne.symm hc]
        | cons first parts =>
            simp only [Text.splitBy, hc, decide_false, Bool.false_eq_true, if_false, hrest,
              List.mem_cons] at h
            rcases h with rfl | h
            · have hfirst : '/' ∉ first := ih (by simp [hrest])
              simp [hfirst, Ne.symm hc]
            · exact ih (by simp [hrest, h])

/-- Parts that are joined by slashes are cut into the same parts. -/
theorem split_by_intercalate {parts : List String} (hparts : ∀ part ∈ parts, '/' ∉ part.toList)
    (hne : parts ≠ []) :
    Text.splitBy (· = '/') ("/".intercalate parts).toList = parts.map String.toList := by
  induction parts with
  | nil => exact False.elim (hne rfl)
  | cons name rest ih =>
      have hname : '/' ∉ name.toList := hparts name (by simp)
      cases rest with
      | nil => simpa using Text.split_by_of_not_mem hname
      | cons next rest =>
          have htail := ih (fun other h => hparts other (by simp [h])) (by simp)
          rw [String.intercalate_cons_cons]
          simp only [String.toList_append, List.append_assoc, List.map_cons]
          rw [show "/".toList = ['/'] from rfl, List.singleton_append,
            Text.split_by_append hname, htail]
          rfl

/-- A component that can follow another one in a path. -/
def IsInner (component : Component) : Prop :=
  component = .parent ∨ ∃ name, IsName name ∧ component = .name name

/-- A name can follow another component. -/
theorem IsName.is_inner {name : String} (h : IsName name) : IsInner (.name name) :=
  Or.inr ⟨name, h, rfl⟩

/-- What can follow another component is read back from its spelling. -/
theorem IsInner.segment_eq {component : Component} (h : IsInner component) :
    '/' ∉ component.spelling.toList ∧
      segmentComponent? component.spelling.toList = some component := by
  rcases h with rfl | ⟨name, hname, rfl⟩
  · exact ⟨by decide, rfl⟩
  · exact hname

/-- Inner components are read back from their spellings. -/
theorem filter_map_segments {components : List Component}
    (h : ∀ component ∈ components, IsInner component) :
    ((components.map Component.spelling).map String.toList).filterMap segmentComponent? =
      components := by
  induction components with
  | nil => rfl
  | cons component rest ih =>
      obtain ⟨hcomponent, hrest⟩ := List.forall_mem_cons.mp h
      rw [List.map_cons, List.map_cons, List.filterMap_cons_some hcomponent.segment_eq.2, ih hrest]

/-- A place is a chain of names, below the root or below nothing. -/
theorem IsPlace.reverse_eq {place : List Component} (h : IsPlace place) :
    ∃ names : List String, (∀ name ∈ names, IsName name) ∧
      (place.reverse = names.map .name ∨ place.reverse = .root :: names.map .name) := by
  induction h with
  | start => exact ⟨[], by simp, Or.inl rfl⟩
  | root => exact ⟨[], by simp, Or.inr rfl⟩
  | @child name place hname _ ih =>
      obtain ⟨names, hnames, hplace⟩ := ih
      refine ⟨names ++ [name], ?_, ?_⟩
      · intro other hother
        rcases List.mem_append.mp hother with hother | hother
        · exact hnames other hother
        · exact List.mem_singleton.mp hother ▸ hname
      · rcases hplace with hplace | hplace
        · exact Or.inl (by simp [hplace])
        · exact Or.inr (by simp [hplace])

/-- The spelling of a chain of names below nothing is read back. -/
theorem components_of_names {names : List String} (hnames : ∀ name ∈ names, IsName name) :
    (ofComponents (names.map .name)).components = names.map .name := by
  cases names with
  | nil => rfl
  | cons name rest =>
      obtain ⟨hslash, hname⟩ := hnames name (by simp)
      have hspellings : ((name :: rest).map .name).map Component.spelling = name :: rest := by
        simp [Component.spelling, Function.comp_def]
      have hspelled : ofComponents ((name :: rest).map .name) =
          ⟨"/".intercalate (name :: rest)⟩ :=
        congrArg (fun parts => (⟨"/".intercalate parts⟩ : Path)) hspellings
      have hsplit := split_by_intercalate (fun other h => (hnames other h).1) (by simp)
      have hinner : ∀ inner ∈ (name :: rest).map .name, IsInner inner := by
        intro inner hinner
        obtain ⟨other, hother, rfl⟩ := List.mem_map.mp hinner
        exact (hnames other hother).is_inner
      have hrest := filter_map_segments hinner
      rw [hspellings] at hrest
      rw [hspelled, components]
      cases htext : ("/".intercalate (name :: rest)).toList with
      | nil =>
          rw [htext] at hsplit
          simp only [Text.splitBy, List.map_cons, List.cons.injEq] at hsplit
          simp [← hsplit.1, segmentComponent?] at hname
      | cons c text =>
          have hc : c ≠ '/' := by
            rintro rfl
            rw [htext] at hsplit
            simp only [Text.splitBy, decide_true, if_true, List.map_cons, List.cons.injEq] at hsplit
            simp [← hsplit.1, segmentComponent?] at hname
          have hdot : name.toList ≠ ['.'] := by
            intro hdot
            simp [hdot, segmentComponent?] at hname
          rw [htext] at hsplit
          simp only [componentsOf, hsplit, hrest]
          split
          · contradiction
          · next h => exact False.elim (hc (List.cons.inj h).1)
          · simp [hdot]

/-- The spelling of inner components below the root is read back. -/
theorem components_of_inner {components : List Component}
    (h : ∀ component ∈ components, IsInner component) :
    (ofComponents (.root :: components)).components = .root :: components := by
  have hspelled : (ofComponents (.root :: components)).text.toList
      = '/' :: ("/".intercalate (components.map Component.spelling)).toList := by
    simp [ofComponents]
  rw [Path.components, hspelled]
  simp only [componentsOf, Text.splitBy, decide_true, if_true]
  rw [List.filterMap_cons_none rfl]
  cases components with
  | nil => rfl
  | cons component rest =>
      have hslash : ∀ part ∈ (component :: rest).map Component.spelling, '/' ∉ part.toList := by
        intro part hpart
        obtain ⟨inner, hinner, rfl⟩ := List.mem_map.mp hpart
        exact (h inner hinner).segment_eq.1
      rw [split_by_intercalate hslash (by simp), filter_map_segments h]

/-- The spelling of a chain of names below the root is read back. -/
theorem components_of_rooted {names : List String} (hnames : ∀ name ∈ names, IsName name) :
    (ofComponents (.root :: names.map .name)).components = .root :: names.map .name := by
  refine components_of_inner fun component hcomponent => ?_
  obtain ⟨name, hname, rfl⟩ := List.mem_map.mp hcomponent
  exact (hnames name hname).is_inner

/-- The spelling of a place is read back. -/
theorem IsPlace.components_eq {place : List Component} (h : IsPlace place) :
    (ofComponents place.reverse).components = place.reverse := by
  obtain ⟨names, hnames, hplace | hplace⟩ := h.reverse_eq
  · rw [hplace, components_of_names hnames]
  · rw [hplace, components_of_rooted hnames]

/-- Walking along a place ends there. -/
theorem IsPlace.foldl_step {place : List Component} (h : IsPlace place) :
    place.reverse.foldl step [] = place := by
  rw [List.foldl_reverse]
  induction h with
  | start | root => rfl
  | child _ _ ih =>
      rw [List.foldr_cons, ih]
      rfl

/-- A step leads from a place to a place. -/
theorem IsPlace.step {place : List Component} (h : IsPlace place) {component : Component}
    (hcomponent : IsInner component) : IsPlace (step place component) := by
  rcases hcomponent with rfl | ⟨name, hname, rfl⟩
  · cases h with
    | start => exact .start
    | root => exact .root
    | child hname hplace => exact hplace
  · exact .child hname h

/-- Inner components lead from a place to a place. -/
theorem IsPlace.foldl {place : List Component} (h : IsPlace place) {path : List Component}
    (hpath : ∀ component ∈ path, IsInner component) : IsPlace (path.foldl Path.step place) := by
  induction path generalizing place with
  | nil => exact h
  | cons component rest ih =>
      refine ih (h.step (hpath component (by simp))) fun other hother => ?_
      exact hpath other (by simp [hother])

/-- What a segment of a spelling stands for can follow another component. -/
theorem is_inner_of_segment {segment : Text} {component : Component} (hslash : '/' ∉ segment)
    (h : segmentComponent? segment = some component) : IsInner component := by
  unfold segmentComponent? at h
  split at h
  · contradiction
  · contradiction
  · exact Or.inl (Option.some.inj h).symm
  · next hnil hdot hdots =>
      refine Or.inr ⟨String.ofList segment, ⟨by simpa using hslash, ?_⟩, (Option.some.inj h).symm⟩
      unfold segmentComponent?
      simp only [String.toList_ofList]

/-- The dots of a path lead to a place. -/
theorem is_place_of_components (path : Path) : IsPlace (path.components.foldl step []) := by
  have hinner : ∀ component ∈ (Text.splitBy (· = '/') path.text.toList).filterMap segmentComponent?,
      IsInner component := by
    intro component hcomponent
    obtain ⟨segment, hsegment, hcomponent⟩ := List.mem_filterMap.mp hcomponent
    exact is_inner_of_segment (not_mem_of_mem_split_by hsegment) hcomponent
  unfold components componentsOf
  dsimp only
  split
  · exact .start
  · exact IsPlace.root.foldl hinner
  · split
    · rw [List.foldl_cons]
      exact IsPlace.start.foldl hinner
    · exact IsPlace.start.foldl hinner

/-- Carrying out the dots of a place changes nothing. -/
theorem IsPlace.is_plain {place : List Component} (h : IsPlace place) :
    (ofComponents place.reverse).IsPlain := by
  rw [IsPlain, normalize, normalComponents, h.components_eq, h.foldl_step]

/-- Names in reverse below the root are a place. -/
theorem IsPlace.of_names {names : List String} (hnames : ∀ name ∈ names, IsName name) :
    IsPlace (names.map .name ++ [.root]) := by
  induction names with
  | nil => exact .root
  | cons name rest ih =>
      exact .child (hnames name (by simp)) (ih fun other h => hnames other (by simp [h]))

/-- A chain of names below the root is spelled plainly. -/
theorem is_plain_of_rooted {names : List String} (hnames : ∀ name ∈ names, IsName name) :
    (ofComponents (.root :: names.map .name)).IsPlain := by
  have hplace : IsPlace (names.reverse.map .name ++ [.root]) :=
    .of_names fun name hname => hnames name (List.mem_reverse.mp hname)
  simpa using hplace.is_plain

/-- A normalized path is plain. -/
theorem normalize_is_plain (path : Path) : path.normalize.IsPlain :=
  (is_place_of_components path).is_plain

/-- Plain paths that name the same place are equal. -/
theorem IsPlain.eq_of_components {left right : Path} (hleft : left.IsPlain) (hright : right.IsPlain)
    (h : left.components = right.components) : left = right := by
  rw [← hleft, ← hright, normalize, normalize, normalComponents, normalComponents, h]

/-- Plain paths name the same place only if they are equal. -/
theorem IsPlain.same_iff {left right : Path} (hleft : left.IsPlain) (hright : right.IsPlain) :
    left.same right = true ↔ left = right := by
  rw [same, decide_eq_true_iff]
  exact ⟨hleft.eq_of_components hright, fun h => h ▸ rfl⟩

end CodeAtlas.Path
