import CodeAtlas.Proofs.Scanner.Line
import CodeAtlas.Proofs.Text.Bracket

/-!
# Bodies enclose what is read in them

The lines of a body are told by the depth of braces, its end by pairing braces. Before the brace that
opens the body the depth stays below that of the body (`IsShallow`), so a line at the depth of the body
stands behind it, and one that is not below the last line of the body stands before the brace that closes
it (`Source.Reaches.le_of_line_le`). In a properly nested text a statement that starts in between ends in
between, since a statement stops at a bracket that closes more than it opened
(`Source.Reaches.statement_in_block`).
-/

namespace CodeAtlas.Declaration

open Text (StandsAt IsOpen byteLength isNested ended AreRows)

section Depth

variable {depth : Int} {line : Text}

/-- Without opening braces the depth does not rise. -/
theorem depth_after_le (h : '{' ∉ line) : depthAfter depth line ≤ depth := by
  induction line generalizing depth with
  | nil => exact Int.le_refl depth
  | cons c line ih =>
      rw [List.mem_cons, not_or] at h
      have hfirst : depthAfter depth [c] ≤ depth := by
        simp only [depthAfter, List.foldl_cons, List.foldl_nil, if_neg (Ne.symm h.1)]
        split <;> omega
      rw [← List.singleton_append, depth_after_append]
      exact Int.le_trans (ih h.2) hfirst

/-- A line feed leaves the depth as it is. -/
theorem depth_after_feed (depth : Int) (line : Text) :
    depthAfter depth (line ++ ['\n']) = depthAfter depth line := by
  rw [depth_after_append]
  rfl

end Depth

section Statement

variable {masked text rest : Text} {within outer : List Char} {index close : Nat}

/-- A statement that is read in an open block ends before the block does: `taken` are the closers that
the statement itself awaits. -/
theorem statement_from_in_block (taken : List Char) (seen : Text)
    (h : IsOpen (taken ++ within) outer text index close) :
    byteLength (statementFrom taken.length seen text) ≤ byteLength seen + (close - index) := by
  have hstop : byteLength seen.reverse ≤ byteLength seen + (close - index) := by
    rw [Text.byte_length_reverse]
    omega
  induction text generalizing taken seen index with
  | nil => exact hstop
  | cons c rest ih =>
      have hcloses : (c = ')' || c = ']' || c = '}') = Text.isCloser c := rfl
      rw [statementFrom, Text.opens_iff, hcloses]
      rcases h.step with ⟨hnil, rfl, -⟩ | ⟨within', hsteps, hopen⟩
      · obtain ⟨rfl, -⟩ := List.append_eq_nil_iff.mp hnil
        exact hstop
      · -- What is read after this character starts that much further on.
        have hle := Text.le_of_close_from hopen.closes
        have hlater : ∀ taken' : List Char,
            IsOpen (taken' ++ within) outer rest (index + c.utf8Size) close →
            byteLength (statementFrom taken'.length (c :: seen) rest) ≤
              byteLength seen + (close - index) := by
          intro taken' hopen
          have hrest := ih taken' (c :: seen) hopen (by
            rw [Text.byte_length_reverse]
            omega)
          rw [byteLength] at hrest
          omega
        cases hsteps with
        | @opens closer hawaits =>
            replace hawaits : Text.awaited? c = some closer := hawaits
            rw [hawaits, if_pos (by simp)]
            exact hlater (closer :: taken) hopen
        | @closes later hcloser hawaited =>
            replace hcloser : Text.isCloser c = true := hcloser
            rw [Text.awaited_of_closer hcloser, if_neg (by simp), if_pos hcloser]
            cases taken with
            | nil => exact hstop
            | cons d taken =>
                obtain ⟨-, rfl⟩ := List.cons.inj hawaited
                exact hlater taken hopen
        | other hnone hcloser =>
            replace hnone : Text.awaited? c = none := hnone
            replace hcloser : Text.isCloser c = false := hcloser
            rw [hnone, if_neg (by simp), if_neg (by simp [hcloser])]
            split
            · exact hstop
            · split
              · exact hstop
              · exact hlater taken hopen

end Statement

/-- The scan has come to a line: `above` are the lines before it, and `lines` those from it on. -/
structure Source.Reaches (source : Source) (above lines : List Text) (number offset : Nat)
    (depth : Int) : Prop where
  masked_eq : source.masked = ended above ++ Text.join ['\n'] lines
  above_rows : AreRows above
  rows : AreRows lines
  offset_eq : byteLength (ended above) = offset
  number_eq : above.length + 1 = number
  depth_eq : depthAfter 0 (ended above) = depth

/-- The depth of a body is not reached between the name of its declaration, at `start`, and the brace
that opens it. -/
def IsShallow (masked : Text) (start brace : Nat) (bodyDepth : Int) : Prop :=
  ∀ front back, masked = front ++ back → start ≤ byteLength front → byteLength front ≤ brace →
    depthAfter 0 front < bodyDepth

section Reaches

variable {source : Source} {above rest : List Text} {line : Text} {number offset : Nat} {depth : Int}

/-- The text from a line on. -/
theorem Source.Reaches.exists_tail (h : source.Reaches above (line :: rest) number offset depth) :
    ∃ tail, source.masked = ended above ++ (line ++ tail) := by
  have hjoin := Text.join_rows [] line rest
  rw [List.nil_append, ended, List.flatMap_nil, List.nil_append] at hjoin
  exact ⟨_, by rw [h.masked_eq, hjoin]⟩

/-- A line stands in the masked text. -/
theorem Source.Reaches.stands (h : source.Reaches above (line :: rest) number offset depth) :
    StandsAt source.masked offset line := by
  obtain ⟨tail, htail⟩ := h.exists_tail
  exact ⟨ended above, tail, htail, h.offset_eq⟩

/-- The scan goes on to the next line. -/
theorem Source.Reaches.next {later : Text}
    (h : source.Reaches above (line :: later :: rest) number offset depth) :
    source.Reaches (above ++ [line]) (later :: rest) (number + 1) (offset + byteLength line + 1)
      (depthAfter depth line) := by
  obtain ⟨hmasked, habove, hrows, hoffset, hnumber, hdepth⟩ := h
  obtain ⟨hline, hrows⟩ := List.forall_mem_cons.mp hrows
  have hended : ended (above ++ [line]) = ended above ++ (line ++ ['\n']) := by
    rw [Text.ended_append, Text.ended_singleton]
  have hfeed : byteLength ['\n'] = 1 := by decide
  refine ⟨?_, habove.append (by simpa [AreRows] using hline), hrows, ?_, by simpa using hnumber, ?_⟩
  · rw [hmasked, hended, Text.join_cons (List.cons_ne_nil later rest)]
    simp
  · rw [hended, Text.byte_length_append, Text.byte_length_append, hfeed]
    omega
  · rw [hended, depth_after_append, depth_after_feed, hdepth]

/-- An offset on a line is on the line of its number. -/
theorem Source.Reaches.line_of_offset (h : source.Reaches above (line :: rest) number offset depth)
    {place : Nat} (hge : offset ≤ place) (hle : place ≤ offset + byteLength line) :
    Text.lineOfOffset source.masked place = number := by
  obtain ⟨tail, htail⟩ := h.exists_tail
  obtain ⟨hline, -⟩ := List.forall_mem_cons.mp h.rows
  have hfirst := Text.line_of_row h.above_rows (show '\n' ∉ [] from List.not_mem_nil) (line ++ tail)
  have hlast := Text.line_of_row h.above_rows hline tail
  rw [List.nil_append, ← htail, h.offset_eq, h.number_eq] at hfirst
  rw [← htail, h.offset_eq, h.number_eq] at hlast
  have hlow := Text.line_of_offset_mono source.masked hge
  have hhigh := Text.line_of_offset_mono source.masked hle
  have hzero : offset + byteLength ([] : Text) = offset := rfl
  rw [hzero] at hfirst
  omega

/-- An offset that is not on an earlier line is not before the line. -/
theorem Source.Reaches.le_of_line_le (h : source.Reaches above (line :: rest) number offset depth)
    {place : Nat} (hle : number ≤ Text.lineOfOffset source.masked place) : offset ≤ place := by
  by_contra hlt
  obtain ⟨tail, htail⟩ := h.exists_tail
  obtain ⟨-, habove, -, hoffset, hnumber, -⟩ := h
  rcases List.eq_nil_or_concat above with rfl | ⟨outer, row, rfl⟩
  · rw [← hoffset] at hlt
    exact hlt (Nat.zero_le place)
  · rw [List.concat_eq_append] at htail habove hoffset hnumber
    obtain ⟨houter, hrow⟩ := List.forall_mem_append.mp habove
    have hended : ended (outer ++ [row]) = ended outer ++ (row ++ ['\n']) := by
      rw [Text.ended_append, Text.ended_singleton]
    have hfeed : byteLength ['\n'] = 1 := by decide
    rw [hended, Text.byte_length_append, Text.byte_length_append, hfeed] at hoffset
    have hlast := Text.line_of_row houter (hrow row List.mem_cons_self) ('\n' :: (line ++ tail))
    have hshape : ended outer ++ (row ++ '\n' :: (line ++ tail)) = source.masked := by
      rw [htail, hended]
      simp
    rw [hshape] at hlast
    have hmono := Text.line_of_offset_mono source.masked
      (show place ≤ byteLength (ended outer) + byteLength row by omega)
    rw [List.length_append, List.length_singleton] at hnumber
    omega

variable {inner brace stop : Nat}

/-- The body that a line opens is deeper than what stands before its brace. -/
theorem Source.Reaches.shallow (h : source.Reaches above (line :: rest) number offset depth)
    (hclear : IsClear line inner) (hblock : IsBlock source.masked (offset + inner) brace stop) :
    IsShallow source.masked (offset + inner) brace (depth + 1) := by
  obtain ⟨tail, htail⟩ := h.exists_tail
  obtain ⟨clear, more, rfl, rfl, hopen, -⟩ := hclear
  obtain ⟨between, ⟨outer, behind, houter, hlength⟩, hnone, rfl, -⟩ := hblock
  intro front back hfront hstart hend
  have hsplit : (ended above ++ clear) ++ (more ++ tail) = outer ++ (between ++ ['{'] ++ behind) := by
    rw [← houter, htail]
    simp
  have hlengths : byteLength (ended above ++ clear) = byteLength outer := by
    rw [Text.byte_length_append, h.offset_eq, hlength]
  obtain ⟨middle, rfl, -⟩ := Text.exists_between hsplit (Nat.le_of_eq hlengths)
  rw [Text.byte_length_append _ middle] at hlengths
  obtain rfl := Text.byte_length_eq_zero.mp (show byteLength middle = 0 by omega)
  -- The text up to the brace is `above`, then `clear`, then `between`.
  have hearly : front ++ back = ended above ++ (clear ++ between) ++ ('{' :: behind) := by
    rw [← hfront, houter]
    simp
  have hfar : ended above ++ (clear ++ between ++ ('{' :: behind)) = front ++ back := by
    rw [hearly]
    simp
  obtain ⟨later, hlater, -⟩ := Text.exists_between hearly (by
    rw [Text.byte_length_append, Text.byte_length_append, h.offset_eq]
    omega)
  obtain ⟨part, rfl, -⟩ := Text.exists_between hfar (by rw [h.offset_eq]; omega)
  rw [List.append_assoc] at hlater
  have hpart := List.append_cancel_left hlater
  have hnot : '{' ∉ part := fun hmem => by
    have hboth : '{' ∈ clear ++ between := hpart ▸ List.mem_append_left later hmem
    rcases List.mem_append.mp hboth with hmem | hmem
    · exact hopen hmem
    · exact hnone hmem
  rw [depth_after_append, h.depth_eq]
  have hdepth := @depth_after_le depth part hnot
  omega

/-- In a properly nested text, a statement that starts on a line within a block ends within it. -/
theorem Source.Reaches.statement_in_block {start : Nat} {text : Text}
    (h : source.Reaches above (line :: rest) number offset depth)
    (hnested : isNested source.masked = true) (hblock : IsBlock source.masked start brace stop)
    (hbrace : brace < offset) (hstop : offset ≤ stop) (hclear : IsClear line inner)
    (htext : Text.dropBytes? source.masked (offset + inner) = some text) :
    offset + inner + byteLength (statement text) ≤ stop := by
  obtain ⟨tail, htail⟩ := h.exists_tail
  obtain ⟨clear, more, rfl, rfl, -, hclose⟩ := hclear
  obtain ⟨between, hstands, -, rfl, hmatch⟩ := hblock
  obtain ⟨front, behind, hmasked, hfront⟩ := hstands.back
  have hopened : source.masked = front ++ '{' :: behind := hmasked
  rw [hopened] at hnested
  rw [← hfront, hopened] at hmatch
  obtain ⟨outer, hopen⟩ := Text.is_open_of_matching hnested hmatch
  have hsplit : (front ++ ['{']) ++ behind = ended above ++ (clear ++ more ++ tail) := by
    rw [← htail, hopened]
    simp
  have hbyte : byteLength ['{'] = 1 := by decide
  obtain ⟨middle, hmiddle, rfl⟩ := Text.exists_between hsplit (by
    rw [Text.byte_length_append, hbyte, h.offset_eq]
    omega)
  have hlength : byteLength front + 1 + byteLength middle = offset := by
    rw [← h.offset_eq, hmiddle, Text.byte_length_append, Text.byte_length_append, hbyte]
  obtain ⟨within, hwithin⟩ := hopen.inside middle (by omega)
  rw [hlength, List.append_assoc] at hwithin
  obtain ⟨inside, hinside⟩ := hwithin.clear hclose
  have hrest : text = more ++ tail := by
    have hhere : Text.dropBytes? source.masked (offset + byteLength clear) = some (more ++ tail) :=
      Text.drop_bytes_eq_some_iff.mpr ⟨ended above ++ clear, by rw [htail]; simp, by
        rw [Text.byte_length_append, h.offset_eq]⟩
    exact Option.some.inj (htext.symm.trans hhere)
  subst hrest
  have hle := Text.le_of_close_from hinside.closes
  have hends : byteLength (statement (more ++ tail)) ≤
      byteLength ([] : Text) + (stop - (offset + byteLength clear)) :=
    statement_from_in_block [] [] hinside
  rw [byteLength] at hends
  omega

end Reaches

end CodeAtlas.Declaration
