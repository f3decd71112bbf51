import CodeAtlas.Graph.Cycle
import Mathlib.Data.List.Rotate

/-!
# Cycles written from their smallest path

`Graph.rotate` picks one list out of all rotations of a cycle. The main statement is
`eq_of_is_rotated`: of two cycles of distinct files that both start at their smallest path, either
they name the same places in the same order or neither is a rotation of the other.
-/

namespace CodeAtlas.Graph

/-- The places that a list of paths names, in order. -/
def places (paths : List Path) : List (List Component) :=
  paths.map Path.components

/-- No two paths of the list name the same place. -/
def Distinct (paths : List Path) : Prop :=
  paths.Pairwise fun left right => left.same right = false

/-- The list starts at a path that is no greater than any other of its paths. -/
def StartsSmallest (paths : List Path) : Prop :=
  ∀ first ∈ paths.head?, ∀ path ∈ paths, first.le path = true

/-- The smallest path of a list stands at the position that is looked up. -/
theorem smallest_index_spec {paths : List Path} (h : paths ≠ []) :
    ∃ first, paths[smallestIndex paths]? = some first ∧ ∀ path ∈ paths, first.le path = true := by
  induction paths with
  | nil => exact False.elim (h rfl)
  | cons head rest ih =>
      rw [smallestIndex]
      split
      · next hall =>
          refine ⟨head, rfl, ?_⟩
          intro path hpath
          rcases List.mem_cons.mp hpath with rfl | hpath
          · exact Path.le_iff.mpr Std.ReflCmp.isLE_rfl
          · exact List.all_eq_true.mp hall path hpath
      · next hall =>
          -- Some later path is below the head, and the smallest of the rest is below that one.
          obtain ⟨smaller, hsmaller, hnot⟩ : ∃ path ∈ rest, ¬ head.le path = true := by
            simpa using hall
          obtain ⟨first, hfirst, hle⟩ := ih (List.ne_nil_of_mem hsmaller)
          refine ⟨first, hfirst, ?_⟩
          intro path hpath
          rcases List.mem_cons.mp hpath with rfl | hpath
          · exact Path.le_trans (hle smaller hsmaller) (Path.le_of_not_le hnot)
          · exact hle path hpath

/-- The position of the smallest path lies inside the list. -/
theorem smallest_index_lt {paths : List Path} (h : paths ≠ []) :
    smallestIndex paths < paths.length := by
  obtain ⟨first, hfirst, _⟩ := smallest_index_spec h
  exact (List.getElem?_eq_some_iff.mp hfirst).1

/-- Writing a cycle from its smallest path on rotates it. -/
theorem rotate_eq (paths : List Path) : rotate paths = paths.rotate (smallestIndex paths) := by
  by_cases h : paths = []
  · subst h
    rfl
  · exact (List.rotate_eq_drop_append_take (smallest_index_lt h).le).symm

/-- The rotated cycle is a rotation of the cycle. -/
theorem rotate_is_rotated (paths : List Path) : paths.IsRotated (rotate paths) :=
  ⟨smallestIndex paths, (rotate_eq paths).symm⟩

/-- The rotated cycle starts at its smallest path. -/
theorem rotate_starts_smallest (paths : List Path) : StartsSmallest (rotate paths) := by
  intro first hfirst path hpath
  rw [rotate_eq] at hfirst hpath
  have hmem : path ∈ paths := List.mem_rotate.mp hpath
  have hne : paths ≠ [] := List.ne_nil_of_mem hmem
  obtain ⟨smallest, hsmallest, hle⟩ := smallest_index_spec hne
  rw [List.head?_rotate (smallest_index_lt hne), hsmallest] at hfirst
  obtain rfl : smallest = first := by simpa using hfirst
  exact hle path hmem

/-- Distinct paths name distinct places. -/
theorem Distinct.nodup_places {paths : List Path} (h : Distinct paths) : (places paths).Nodup := by
  refine List.pairwise_map.mpr (h.imp ?_)
  intro left right hsame heq
  rw [Path.same_iff.mpr heq] at hsame
  contradiction

/-- Two lists that agree in their places agree for the search. -/
theorem same_paths_iff {left right : List Path} :
    samePaths left right = true ↔ places left = places right := by
  induction left generalizing right with
  | nil => cases right <;> simp [samePaths, places]
  | cons a left ih =>
      cases right with
      | nil => simp [samePaths, places]
      | cons b right =>
          rw [samePaths, Bool.and_eq_true, ih, Path.same_iff]
          simp [places]

/-- A list without repeats that is rotated and still starts with the same entry is unchanged. -/
theorem eq_of_is_rotated_of_head {α : Type} {left right : List α} (hrotated : left.IsRotated right)
    (hnodup : left.Nodup) (hhead : left.head? = right.head?) : left = right := by
  obtain ⟨steps, hsteps⟩ := hrotated
  by_cases hne : left = []
  · simpa [hne] using hsteps
  · have hpos : 0 < left.length := List.length_pos_of_ne_nil hne
    rw [← List.rotate_mod] at hsteps
    have hlt : steps % left.length < left.length := Nat.mod_lt steps hpos
    rw [← hsteps, List.head?_rotate hlt, List.head?_eq_getElem?] at hhead
    have hzero : 0 = steps % left.length := by
      exact (List.getElem?_inj hpos hnodup).mp hhead
    rw [← hsteps, ← hzero, List.rotate_zero]

/-- Two cycles of distinct files that start at their smallest paths name the same places in the same
order if one is a rotation of the other. -/
theorem eq_of_is_rotated {left right : List Path} (hdistinct : Distinct left)
    (hleft : StartsSmallest left) (hright : StartsSmallest right)
    (h : (places left).IsRotated (places right)) : places left = places right := by
  refine eq_of_is_rotated_of_head h hdistinct.nodup_places ?_
  cases left with
  | nil => simpa [places, eq_comm] using h.perm.length_eq
  | cons a left =>
      cases right with
      | nil => simpa [places] using h.perm.length_eq
      | cons b right =>
          -- Each of the two first paths is among the places of the other list.
          obtain ⟨b', hb', hbb'⟩ : ∃ path ∈ a :: left, path.components = b.components :=
            List.mem_map.mp (h.mem_iff.mpr (by simp [places]))
          obtain ⟨a', ha', haa'⟩ : ∃ path ∈ b :: right, path.components = a.components :=
            List.mem_map.mp (h.mem_iff.mp (by simp [places]))
          have hab : a.le b = true := by
            have := hleft a rfl b' hb'
            rwa [Path.le, Path.compare, hbb'] at this
          have hba : b.le a = true := by
            have := hright b rfl a' ha'
            rwa [Path.le, Path.compare, haa'] at this
          simp [places, Path.same_iff.mp (Path.same_of_le_of_le hab hba)]

end CodeAtlas.Graph
