import CodeAtlas.Proofs.Text.Angled

/-!
# Parts joined by commas

Cutting at commas counts angle brackets and looks into literals, so parts that are joined by commas need
not be the pieces of the whole. `split_join_iff` says when they are: read it first. `depthUncut?`
carries the depth that cutting has reached from part to part.
-/

namespace CodeAtlas.Text

variable {previous : Option Char} {depth stop : Int} {part rest : Text} {parts : List Text}

/-- The depth that cutting at commas reaches after a part, if the part is not cut. -/
def depthUncut? : (previous : Option Char) → (depth : Int) → Text → Option Int
  | _, depth, [] => some depth
  | previous, depth, c :: rest =>
    if c = ',' ∧ depth ≤ 0 then none else depthUncut? (some c) (depth + depthChange previous c) rest

/-- A comma is no bracket. -/
theorem comma_is_flat : IsFlat ',' := by decide

/-- A part that is not cut is gone over. -/
theorem splits_over_of_depth_uncut (h : depthUncut? previous depth part = some stop) :
    SplitsOver ',' previous depth part stop := by
  induction part generalizing previous depth with
  | nil =>
      obtain rfl := Option.some.inj h
      exact fun rest piece pieces hrest => hrest
  | cons c part ih =>
      rw [depthUncut?] at h
      split at h
      · contradiction
      · next hcut =>
          have hchar : SplitsOver ',' previous depth [c] (depth + depthChange previous c) :=
            splits_over_char fun hle hc => hcut ⟨hc, hle⟩
          exact hchar.append (ih h)

/-- The first piece of a part that is cut is shorter than the part. -/
theorem exists_shorter_piece (h : depthUncut? previous depth part = none) (rest : Text) :
    ∃ piece pieces, splitTopLevelFrom ',' previous depth (part ++ rest) = piece :: pieces ∧
      piece.length < part.length := by
  induction part generalizing previous depth with
  | nil => contradiction
  | cons c part ih =>
      rw [depthUncut?] at h
      rw [List.cons_append, splitTopLevelFrom]
      split at h
      · next hcut =>
          obtain ⟨rfl, hle⟩ := hcut
          rw [if_pos (by simp [comma_is_flat.no_bracket.1, hle])]
          exact ⟨[], _, rfl, Nat.succ_pos _⟩
      · next hcut =>
          obtain ⟨piece, pieces, hpieces, hlength⟩ := ih h
          rw [if_neg (by simp only [Bool.and_eq_true, decide_eq_true_eq]; exact fun h => hcut ⟨h.1.2, h.2⟩),
            hpieces]
          exact ⟨c :: piece, pieces, rfl, Nat.succ_lt_succ hlength⟩

/-- Of the character before a part only matters whether it is an equals sign. -/
theorem depth_uncut_before (h : previous ≠ some '=') :
    depthUncut? previous depth part = depthUncut? none depth part := by
  cases part with
  | nil => rfl
  | cons c rest =>
      have hchange : depthChange previous c = depthChange none c := by
        simp [depthChange, h]
      rw [depthUncut?, depthUncut?, hchange]

/-- Whether cutting the parts, joined by commas and spaces, at commas gives the parts back: none is
cut, and no bracket seems to be open after any but the last. -/
def keepsParts : (depth : Int) → List Text → Bool
  | _, [] => true
  | depth, part :: rest =>
    match depthUncut? none depth part with
    | none => false
    | some stop => rest.isEmpty || (stop ≤ 0 && keepsParts stop rest)

/-- Parts joined by commas and spaces, as they are cut: a space stands in front of all but the first.
-/
def spaced : List Text → List Text
  | [] => []
  | part :: rest => part :: rest.map (' ' :: ·)

/-- A part that leaves no bracket open is cut off at the comma after it. -/
theorem split_off_part (h : depthUncut? previous depth part = some stop) (hstop : stop ≤ 0)
    {piece : Text} {pieces : List Text}
    (hrest : splitTopLevelFrom ',' (some ' ') stop rest = piece :: pieces) :
    splitTopLevelFrom ',' previous depth (part ++ ',' :: ' ' :: rest) =
      part :: (' ' :: piece) :: pieces := by
  have hspace : SplitsOver ',' (some ',') stop [' '] stop := splits_over_flat (by decide) (by decide)
  have hcut := splits_over_of_depth_uncut h _ _ _ (split_at_separator comma_is_flat hstop (' ' :: rest))
  rw [List.append_nil] at hcut
  exact hcut.trans (congrArg (part :: ·) (hspace rest piece pieces hrest))

/-- The first piece goes on after a part that leaves a bracket open. -/
theorem exists_longer_piece (h : depthUncut? previous depth part = some stop) (hstop : ¬stop ≤ 0)
    (rest : Text) :
    ∃ piece pieces, splitTopLevelFrom ',' previous depth (part ++ ',' :: rest) = piece :: pieces ∧
      part.length < piece.length := by
  have hne : splitTopLevelFrom ',' (some ',') (stop + depthChange (part.getLast?.or previous) ',') rest ≠
      [] := split_top_level_from_ne_nil _ _ _
  obtain ⟨piece, pieces, hpieces⟩ := List.exists_cons_of_ne_nil hne
  have hcomma : SplitsOver ',' (part.getLast?.or previous) stop [','] _ :=
    splits_over_char fun hle => absurd hle hstop
  refine ⟨_, pieces, splits_over_of_depth_uncut h _ _ _ (hcomma rest piece pieces hpieces), ?_⟩
  simp only [List.length_append, List.length_singleton]
  omega

/-- A first part, joined to the others. -/
theorem join_parts (part next : Text) (rest : List Text) :
    join ", ".toList (part :: next :: rest) =
      part ++ ',' :: ' ' :: join ", ".toList (next :: rest) := by
  rw [join, List.append_assoc]
  · rfl
  · simp

/-- Cutting parts joined by commas and spaces gives the parts back exactly if it keeps them. -/
theorem split_join_iff (hprevious : previous ≠ some '=') (hne : parts ≠ []) :
    splitTopLevelFrom ',' previous depth (join ", ".toList parts) = spaced parts ↔
      keepsParts depth parts = true := by
  induction parts generalizing previous depth with
  | nil => contradiction
  | cons part rest ih =>
      rw [keepsParts, ← depth_uncut_before hprevious, spaced]
      obtain ⟨tail, htail⟩ : ∃ tail, join ", ".toList (part :: rest) = part ++ tail := by
        cases rest with
        | nil => exact ⟨[], (List.append_nil part).symm⟩
        | cons next rest => exact ⟨_, join_parts part next rest⟩
      cases hpart : depthUncut? previous depth part with
      | none =>
          obtain ⟨piece, pieces, hpieces, hlength⟩ := exists_shorter_piece hpart tail
          refine iff_of_false (fun heq => ?_) (by simp)
          rw [htail, hpieces] at heq
          rw [(List.cons.inj heq).1] at hlength
          exact Nat.lt_irrefl _ hlength
      | some stop =>
          have hover := splits_over_of_depth_uncut hpart
          cases rest with
          | nil =>
              have hcut := hover [] [] [] rfl
              rw [List.append_nil] at hcut
              exact iff_of_true hcut rfl
          | cons next rest =>
              have hne : splitTopLevelFrom ',' (some ' ') stop (join ", ".toList (next :: rest)) ≠ [] :=
                split_top_level_from_ne_nil _ _ _
              obtain ⟨piece, pieces, hpieces⟩ := List.exists_cons_of_ne_nil hne
              have hkeeps : splitTopLevelFrom ',' (some ' ') stop (join ", ".toList (next :: rest)) =
                  spaced (next :: rest) ↔ keepsParts stop (next :: rest) = true :=
                ih (by decide) (by simp)
              rw [hpieces] at hkeeps
              simp only [join_parts, List.isEmpty_cons, Bool.false_or, Bool.and_eq_true,
                decide_eq_true_eq]
              by_cases hle : stop ≤ 0
              · rw [split_off_part hpart hle hpieces, ← hkeeps, spaced]
                simp [hle]
              · obtain ⟨longer, others, hlonger, hlength⟩ := exists_longer_piece hpart hle
                  (' ' :: join ", ".toList (next :: rest))
                refine iff_of_false (fun heq => ?_) fun h => hle h.1
                rw [hlonger] at heq
                rw [(List.cons.inj heq).1] at hlength
                exact Nat.lt_irrefl _ hlength

/-- Properly nested parts are so when they are joined. -/
theorem nested_join {parts : List Text} (h : ∀ part ∈ parts, isNested part = true) :
    isNested (join ", ".toList parts) = true := by
  induction parts with
  | nil => rfl
  | cons part rest ih =>
      obtain ⟨hpart, hrest⟩ := List.forall_mem_cons.mp h
      cases rest with
      | nil => exact hpart
      | cons next rest =>
          rw [join_parts]
          have hcomma : isNested [',', ' '] = true := by decide
          exact nested_append hpart (nested_append hcomma (ih hrest))

end CodeAtlas.Text
