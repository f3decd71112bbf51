import CodeAtlas.Proofs.Scanner.Declaration
import CodeAtlas.Proofs.Scanner.Module
import CodeAtlas.Proofs.Scanner.Hint

/-!
# No text makes a scan fail

The scans over declarations, modules, class headers and hints give a value for every text. A cut
outside a text or inside a character would make them give none, and so would running out of fuel, so
neither happens (`scans_never_fail`).
-/

namespace CodeAtlas

open Text (byteLength)

namespace Pattern

/-- A group of a match has a text if it took part. -/
theorem Match.IsIn.is_some_text {pattern : Pattern} {text : Text} {found : Match}
    (h : found.IsIn pattern text) (number : Nat) :
    (found.text? text number).isSome = (found.group? number).isSome := by
  cases hgroup : found.group? number with
  | none =>
      rw [Match.text?, hgroup]
      rfl
  | some extent =>
      obtain ⟨part, hpart, -⟩ := h.of_group hgroup
      rw [hpart]
      rfl

end Pattern

namespace Hint

/-- The type of a text is the step from the types of the shorter texts. -/
theorem infer_eq_step_of_shorter (text : Text) :
    infer? text = inferStep? (fun part =>
      if byteLength part < byteLength text then infer? part else none) text := by
  obtain ⟨type, hone, hother⟩ : Agree (inferStep? infer? text) (inferStep? (fun part =>
      if byteLength part < byteLength text then infer? part else none) text) :=
    infer_step_agrees fun part hpart => by
      rw [if_pos hpart]
      exact agree_of_is_some (infer_is_some part)
  rw [infer_eq_step, hone, hother]

end Hint

/-- No text makes a scan fail, and no symbol a hint. A type is inferred from the types of shorter
texts alone. Where a missing value means that something is not there, it never means that a cut
failed: every group that took part in a match has its text, and every delimiter that is closed has a
place after it. -/
theorem scans_never_fail :
    (∀ path content, (Declaration.scan? path content).isSome) ∧
    (∀ content, (Module.scan? content).isSome) ∧
    (∀ content, (Heritage.scan? content).isSome) ∧
    (∀ symbol content, (Hint.of? symbol content).isSome) ∧
    (∀ text, (Hint.infer? text).isSome ∧
      Hint.infer? text = Hint.inferStep? (fun part =>
        if byteLength part < byteLength text then Hint.infer? part else none) text) ∧
    (∀ (pattern : Pattern) text,
      ∀ found ∈ pattern.searchAll text ++ (pattern.matchStart? text).toList, ∀ number,
        (found.text? text number).isSome = (found.group? number).isSome) ∧
    (∀ content cursor,
      (Hint.afterCloser? ⟨content, Text.mask .all content⟩ cursor).isSome =
        (Hint.closerAt? ⟨content, Text.mask .all content⟩ cursor).isSome) := by
  refine ⟨fun path content => (Declaration.scan_yields path content).is_some,
    fun content => (Module.scan_yields content).is_some, Heritage.scan_is_some, Hint.of_is_some,
    fun text => ⟨Hint.infer_is_some text, Hint.infer_eq_step_of_shorter text⟩, ?_, ?_⟩
  · intro pattern text found hmem number
    rcases List.mem_append.mp hmem with hall | hstart
    · exact (Pattern.search_all_is_in hall).is_some_text number
    · exact (Pattern.match_start_is_in (Option.mem_toList.mp hstart)).1.is_some_text number
  · intro content cursor
    exact Bool.eq_iff_iff.mpr
      (Hint.after_closer_is_some_iff (Text.mask_same_layout .all content))

/-- A letter of two bytes that a group reads after a slash can be cut out. -/
theorem scans_never_fail_wide_letter :
    ∃ found ∈ (Pattern.group 1 (.literal "é")).searchAll "/é".toList ++
        ((Pattern.group 1 (.literal "é")).matchStart? "/é".toList).toList,
      found.group? 1 = some (1, 3) ∧ (found.text? "/é".toList 1).isSome = true := by
  have hall : (Pattern.group 1 (.literal "é")).searchAll "/é".toList =
      [{ start := 1, stop := 3, groups := [(1, 1, 3)] }] := rfl
  have hmem : { start := 1, stop := 3, groups := [(1, 1, 3)] } ∈
      (Pattern.group 1 (.literal "é")).searchAll "/é".toList ++
        ((Pattern.group 1 (.literal "é")).matchStart? "/é".toList).toList := by
    rw [hall]
    exact List.mem_cons_self
  exact ⟨_, hmem, rfl, scans_never_fail.2.2.2.2.2.1 _ _ _ hmem 1⟩

end CodeAtlas
