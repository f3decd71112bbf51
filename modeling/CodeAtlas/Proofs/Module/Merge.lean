import CodeAtlas.Module.Scan

/-!
# Findings in source order

Statements are looked for form by form, so what is found has to be sorted by offset. Sorting is stable:
what starts at one offset stays in the order in which it was found (`filter_merge_sort`), and a sorted
list is known from what starts at each offset (`eq_of_sorted`). Together they say what a list is sorted
to (`merge_sort_eq`).
-/

namespace CodeAtlas.Module

section Sorted

variable {α : Type} {key : α → Nat} {items others : List α}

/-- Sorting keeps the order of what has the same key. -/
theorem filter_merge_sort (key : α → Nat) (items : List α) (k : Nat) :
    (items.mergeSort fun a b => key a ≤ key b).filter (key · = k) = items.filter (key · = k) := by
  have hperm := List.mergeSort_perm items fun a b => key a ≤ key b
  have hequal : (items.filter (key · = k)).Pairwise fun a b => decide (key a ≤ key b) = true := by
    refine List.pairwise_of_forall_mem_list fun a ha b hb => ?_
    have hka := (List.mem_filter.mp ha).2
    have hkb := (List.mem_filter.mp hb).2
    simp only [decide_eq_true_eq] at hka hkb ⊢
    omega
  have hsub : (items.filter (key · = k)).Sublist (items.mergeSort fun a b => key a ≤ key b) := by
    refine List.sublist_mergeSort ?_ ?_ hequal List.filter_sublist
    · simpa using fun a b c => Nat.le_trans
    · simpa using fun a b => Nat.le_total (key a) (key b)
  have hfilter := hsub.filter (key · = k)
  rw [List.filter_filter] at hfilter
  simp only [Bool.and_self] at hfilter
  exact (hfilter.eq_of_length (hperm.filter _).length_eq.symm).symm

/-- The elements of a list are known from what has each key. -/
theorem mem_iff_of_filter (h : ∀ k, items.filter (key · = k) = others.filter (key · = k)) {a : α} :
    a ∈ items ↔ a ∈ others := by
  have ha := congrArg (a ∈ ·) (h (key a))
  simpa using ha

/-- A sorted list is known from what has each key. -/
theorem eq_of_sorted (hitems : items.Pairwise fun a b => key a ≤ key b)
    (hothers : others.Pairwise fun a b => key a ≤ key b)
    (h : ∀ k, items.filter (key · = k) = others.filter (key · = k)) : items = others := by
  induction items generalizing others with
  | nil =>
      cases others with
      | nil => rfl
      | cons b others => exact absurd ((mem_iff_of_filter h).mpr List.mem_cons_self) List.not_mem_nil
  | cons a items ih =>
      cases others with
      | nil => exact absurd ((mem_iff_of_filter h).mp List.mem_cons_self) List.not_mem_nil
      | cons b others =>
          obtain ⟨hfirst, htail⟩ := List.pairwise_cons.mp hitems
          obtain ⟨hleast, hback⟩ := List.pairwise_cons.mp hothers
          have hkey : key a = key b := by
            have hab : key a ≤ key b := by
              rcases List.mem_cons.mp ((mem_iff_of_filter h).mpr List.mem_cons_self) with heq | hb
              · exact Nat.le_of_eq (congrArg key heq.symm)
              · exact hfirst b hb
            have hba : key b ≤ key a := by
              rcases List.mem_cons.mp ((mem_iff_of_filter h).mp List.mem_cons_self) with heq | ha
              · exact Nat.le_of_eq (congrArg key heq.symm)
              · exact hleast a ha
            exact Nat.le_antisymm hab hba
          have hhead := h (key a)
          rw [List.filter_cons_of_pos (by simp), List.filter_cons_of_pos (by simp [hkey])] at hhead
          obtain ⟨rfl, -⟩ := List.cons.inj hhead
          have hrest : ∀ k, items.filter (key · = k) = others.filter (key · = k) := by
            intro k
            have hk := h k
            rw [List.filter_cons, List.filter_cons] at hk
            split at hk
            · exact (List.cons.inj hk).2
            · exact hk
          rw [ih htail hback hrest]

/-- A list is sorted to the sorted list that has the same with each key, in the same order. -/
theorem merge_sort_eq (hsorted : others.Pairwise fun a b => key a ≤ key b)
    (h : ∀ k, items.filter (key · = k) = others.filter (key · = k)) :
    (items.mergeSort fun a b => key a ≤ key b) = others := by
  have hitems : (items.mergeSort fun a b => key a ≤ key b).Pairwise fun a b => key a ≤ key b := by
    have hpairwise : (items.mergeSort fun a b => key a ≤ key b).Pairwise
        fun a b => decide (key a ≤ key b) = true :=
      List.pairwise_mergeSort (by simpa using fun a b c => Nat.le_trans)
        (by simpa using fun a b => Nat.le_total (key a) (key b)) items
    simpa using hpairwise
  exact eq_of_sorted hitems hsorted fun k => (filter_merge_sort key items k).trans (h k)

end Sorted

section Dedup

variable {α β : Type} [DecidableEq β] {parts : α → List β} {one? : α → Option β}

/-- Each item gives one value, once or several times, or none. -/
def Repeats (parts : α → List β) (one? : α → Option β) : Prop :=
  ∀ item, (one? item = none ∧ parts item = []) ∨
    ∃ value count, one? item = some value ∧ parts item = List.replicate (count + 1) value

/-- Without repetitions, it does not matter how often each item gives its value. -/
theorem erase_dups_flat_map (h : Repeats parts one?) (items : List α) :
    (items.flatMap parts).eraseDups = (items.filterMap one?).eraseDups := by
  -- What has been seen is filtered out, so the induction is over every filter.
  have hfilter : ∀ test : β → Bool, ((items.flatMap parts).filter test).eraseDups =
      ((items.filterMap one?).filter test).eraseDups := by
    induction items with
    | nil => intro test; rfl
    | cons item items ih =>
        intro test
        rw [List.flatMap_cons, List.filter_append]
        rcases h item with ⟨hnone, hnil⟩ | ⟨value, count, hsome, hparts⟩
        · rw [List.filterMap_cons_none hnone, hnil]
          exact ih test
        · rw [List.filterMap_cons_some hsome, hparts, List.filter_cons]
          split
          · next htest =>
              rw [List.filter_replicate_of_pos htest, List.replicate_succ, List.cons_append,
                List.eraseDups_cons, List.eraseDups_cons, List.filter_append,
                List.filter_replicate_of_neg (by simp), List.nil_append, List.filter_filter,
                List.filter_filter, ih]
          · next htest =>
              rw [List.filter_replicate_of_neg htest, List.nil_append]
              exact ih test
  have hall := hfilter fun _ => true
  rwa [List.filter_eq_self.mpr fun _ _ => rfl, List.filter_eq_self.mpr fun _ _ => rfl] at hall

end Dedup

end CodeAtlas.Module
