import CodeAtlas.Path

/-!
# The order of paths

`Path.compare` is a linear order on places: it is transitive, swapping its arguments swaps its
outcome, and it calls two paths equal exactly when they name the same place. A list that ascends in
it therefore names every place at most once.
-/

namespace CodeAtlas

namespace Component

/-- Components compare by kind first and by spelling among one kind. -/
theorem compare_eq_lex :
    Component.compare = compareLex (compareOn rank) (compareOn spelling) := by
  funext left right
  cases left <;> cases right <;>
    simp [Component.compare, compareLex, compareOn, rank, spelling] <;> rfl

instance : Std.TransCmp Component.compare := by
  rw [compare_eq_lex]
  have hrank : Std.TransCmp (compareOn rank) :=
    ⟨fun h h' => Std.TransOrd.isLE_trans h h'⟩
  have hspelling : Std.TransCmp (compareOn spelling) :=
    ⟨fun h h' => Std.TransOrd.isLE_trans h h'⟩
  infer_instance

instance : Std.LawfulEqCmp Component.compare where
  eq_of_compare {left right} h := by
    cases left <;> cases right <;> simp_all [Component.compare, rank]

end Component

namespace Path

/-- Component lists compare lexicographically. -/
theorem compare_components_eq_lex : compareComponents = List.compareLex Component.compare := by
  funext left right
  induction left generalizing right with
  | nil => cases right <;> rfl
  | cons a left ih =>
      cases right with
      | nil => rfl
      | cons b right =>
          rw [compareComponents, List.compareLex, ih]
          cases Component.compare a b <;> rfl

instance : Std.TransCmp Path.compare where
  eq_swap := by
    intro left right
    simp only [Path.compare, compare_components_eq_lex]
    exact Std.OrientedCmp.eq_swap
  isLE_trans := by
    intro left middle right
    simp only [Path.compare, compare_components_eq_lex]
    exact Std.TransCmp.isLE_trans

/-- Two paths name the same place when their components agree. -/
theorem same_iff {left right : Path} :
    left.same right = true ↔ left.components = right.components := by
  simp [same]

/-- The order calls two paths equal exactly when they name the same place. -/
theorem compare_eq_iff {left right : Path} :
    Path.compare left right = .eq ↔ left.same right = true := by
  rw [same_iff, Path.compare, compare_components_eq_lex]
  exact Std.LawfulEqCmp.compare_eq_iff_eq

@[simp] theorem same_refl (path : Path) : path.same path = true := by
  simp [same]

theorem same_comm {left right : Path} : left.same right = right.same left := by
  simp [same, eq_comm]

theorem same_trans {left middle right : Path} (h : left.same middle = true)
    (h' : middle.same right = true) : left.same right = true :=
  same_iff.mpr ((same_iff.mp h).trans (same_iff.mp h'))

/-- The order of paths as a truth value is that of their comparison. -/
theorem le_iff {left right : Path} :
    left.le right = true ↔ (Path.compare left right).isLE = true := by
  rw [le]
  cases Path.compare left right <;> decide

theorem le_trans {left middle right : Path} (h : left.le middle = true)
    (h' : middle.le right = true) : left.le right = true :=
  le_iff.mpr (Std.TransCmp.isLE_trans (le_iff.mp h) (le_iff.mp h'))

theorem le_of_not_le {left right : Path} (h : ¬ left.le right = true) : right.le left = true := by
  rw [le_iff] at h ⊢
  exact Ordering.isLE_of_eq_lt (Std.OrientedCmp.lt_of_not_isLE h)

/-- Of two places, each before or equal to the other, both are the same. -/
theorem same_of_le_of_le {left right : Path} (h : left.le right = true)
    (h' : right.le left = true) : left.same right = true :=
  compare_eq_iff.mp (Std.OrientedCmp.isLE_antisymm (le_iff.mp h) (le_iff.mp h'))

/-- `Path.Ascending paths` says that the paths are in strictly ascending order. -/
def Ascending (paths : List Path) : Prop :=
  paths.Pairwise fun left right => Path.compare left right = .lt

/-- Of two paths that come one before the other, neither names the place of the other. -/
theorem not_same_of_lt {left right : Path} (h : Path.compare left right = .lt) :
    left.same right = false := by
  rw [Bool.eq_false_iff, ne_eq, ← compare_eq_iff, h]
  decide

end Path

end CodeAtlas
