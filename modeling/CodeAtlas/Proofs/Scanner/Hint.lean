import CodeAtlas.Hint.Infer
import CodeAtlas.Proofs.Scanner.Expression

/-!
# Hints can always be given

A hint is read off a walk over the masked text, and the answers are cut out of the source at the
offsets of the walk. A cursor is `Firm` if it is at a boundary of both. A cursor before or after a
visible character of the masked text is firm (`firm_of_next`, `firm_after`), and so is one after
blanks, since it has passed all the spaces that stand for a character. Every cut is between two such
places, and every place where a walk ends is one (`WalkEnd`).
-/

namespace CodeAtlas.Hint

open Text (StandsAt IsBoundary SameLayout Cursor byteLength)

/-- A cursor in the masked text that is at a boundary of the source as well. -/
structure Firm (source : Source) (cursor : Cursor) : Prop where
  is_in : cursor.IsIn source.masked
  boundary : IsBoundary source.code cursor.offset

/-- A place where a walk over a text ends: its end or a character that is not a space. -/
def WalkEnd (text : Text) (stop : Nat) : Prop :=
  stop = byteLength text ∨ ∃ c, c ≠ ' ' ∧ StandsAt text stop [c]

/-- A closing delimiter of the masked text. -/
def ClosesAt (source : Source) (close : Nat) : Prop :=
  ∃ opener closer, (opener, closer) ∈ Text.bracketPairs ∧ StandsAt source.masked close [closer]

section Cursors

variable {source : Source} {cursor : Cursor}

/-- Where a walk over the masked text ends, the source has a boundary. -/
theorem WalkEnd.boundary (layout : SameLayout source.code source.masked) {stop : Nat}
    (h : WalkEnd source.masked stop) : IsBoundary source.code stop := by
  rcases h with rfl | ⟨c, hc, hstands⟩
  · rw [layout.byte_length_eq]
    exact Text.is_boundary_byte_length source.code
  · exact (layout.stands_at hc hstands).start_boundary

/-- Where a walk over what a cursor has left ends, a walk over the text ends. -/
theorem WalkEnd.of_rest (h : cursor.IsIn source.masked) {inner : Nat}
    (hinner : WalkEnd cursor.rest inner) : WalkEnd source.masked (cursor.offset + inner) := by
  rcases hinner with rfl | ⟨c, hc, hstands⟩
  · obtain ⟨front, htext, hlength⟩ := h
    left
    rw [htext, Text.byte_length_append, hlength]
  · exact Or.inr ⟨c, hc, h.stands_at.trans hstands⟩

/-- A cursor at the end or before a character that is not a space is firm. -/
theorem firm_of_next (layout : SameLayout source.code source.masked) (h : cursor.IsIn source.masked)
    (hnext : ∀ c, cursor.next? = some c → c ≠ ' ') : Firm source cursor := by
  refine ⟨h, ?_⟩
  have hend : WalkEnd cursor.rest 0 := by
    cases hrest : cursor.rest with
    | nil => exact Or.inl rfl
    | cons c rest =>
        have hc : c ≠ ' ' := hnext c (by rw [Cursor.next?, hrest]; rfl)
        exact Or.inr ⟨c, hc, Text.stands_at_of_begins ⟨rest, rfl⟩⟩
  exact (WalkEnd.of_rest h hend).boundary layout

/-- A cursor after a character that is not a space is firm. -/
theorem firm_after (layout : SameLayout source.code source.masked) (h : cursor.IsIn source.masked)
    {c : Char} (hnext : cursor.next? = some c) (hc : c ≠ ' ') : Firm source cursor.advance := by
  refine ⟨h.advance, ?_⟩
  obtain ⟨rest, hrest⟩ := List.head?_eq_some_iff.mp hnext
  have hstands : StandsAt source.masked cursor.offset ([c] ++ rest) := by
    rw [List.singleton_append, ← hrest]
    exact h.stands_at
  have hstop := (layout.stands_at hc hstands.front).stop_boundary
  rw [byteLength, byteLength, Nat.add_zero] at hstop
  rwa [Cursor.advance, hrest]

/-- A walk stops before a character that it does not pass. -/
theorem next_skip_while {test : Char → Bool} {c : Char}
    (h : (cursor.skipWhile test).next? = some c) : test c = false := by
  have hfrom : ∀ (before : Option Char) (offset : Nat) (rest : Text),
      (Cursor.skipWhileFrom test before offset rest).next? = some c → test c = false := by
    intro before offset rest
    induction rest generalizing before offset with
    | nil => exact fun h => nomatch h
    | cons d rest ih =>
        rw [Cursor.skipWhileFrom]
        split
        · exact ih _ _
        · next hd =>
            intro hnext
            obtain rfl : d = c := Option.some.inj hnext
            exact Bool.eq_false_iff.mpr hd
  exact hfrom _ _ _ h

/-- A walk that passes spaces ends at a firm cursor. -/
theorem firm_skip_blanks (layout : SameLayout source.code source.masked)
    (h : cursor.IsIn source.masked) : Firm source cursor.skipBlanks := by
  refine firm_of_next layout (h.skip_while _) fun c hc hspace => ?_
  have hblank : Text.isAsciiBlank ' ' = false := hspace ▸ next_skip_while hc
  exact absurd hblank (by decide)

/-- A boundary of the source that is one of the masked text is the place of a firm cursor. -/
theorem exists_firm (layout : SameLayout source.code source.masked) {offset : Nat}
    (h : IsBoundary source.code offset) :
    ∃ cursor, Cursor.seek? source.masked offset = some cursor ∧ cursor.offset = offset ∧
      Firm source cursor := by
  obtain ⟨cursor, hseek, hoffset, hin⟩ := Cursor.exists_seek (layout.is_boundary h)
  exact ⟨cursor, hseek, hoffset, hin, hoffset ▸ h⟩

/-- The delimiter that closes one is further on. -/
theorem closer_at_eq_some {close : Nat} (h : closerAt? source cursor = some close) :
    cursor.offset < close ∧ ClosesAt source close := by
  obtain ⟨opener, closer, hpair, -, hclose, hlt⟩ := Text.matching_delimiter_eq_some h
  exact ⟨hlt, opener, closer, hpair, hclose⟩

/-- Both ends of a closing delimiter are boundaries of the source. -/
theorem ClosesAt.boundaries (layout : SameLayout source.code source.masked) {close : Nat}
    (h : ClosesAt source close) :
    IsBoundary source.code close ∧ IsBoundary source.code (close + 1) := by
  obtain ⟨opener, closer, hpair, hclose⟩ := h
  obtain ⟨-, hsize, hspace⟩ := Text.bracket_of_mem hpair
  have hcode := layout.stands_at hspace hclose
  have hstop := hcode.stop_boundary
  rw [byteLength, byteLength, hsize] at hstop
  exact ⟨hcode.start_boundary, hstop⟩

/-- A word that starts before a closing delimiter ends before it. -/
theorem ClosesAt.word_before {word : Text} {offset close : Nat} (h : ClosesAt source close)
    (hident : word.all Text.isIdentChar = true) (hword : StandsAt source.masked offset word)
    (hlt : offset < close) : offset + byteLength word ≤ close := by
  obtain ⟨opener, closer, hpair, hclose⟩ := h
  refine hword.ends_before hclose (fun hmem => ?_) hlt
  have hletter := List.all_eq_true.mp hident closer hmem
  revert hpair
  simp only [Text.bracketPairs, List.mem_cons, Prod.mk.injEq, List.not_mem_nil, or_false]
  rintro (⟨-, rfl⟩ | ⟨-, rfl⟩ | ⟨-, rfl⟩ | ⟨-, rfl⟩) <;> exact absurd hletter (by decide)

/-- Past the delimiter that closes one there is a firm cursor. -/
theorem after_closer_firm (layout : SameLayout source.code source.masked) {close : Nat}
    (h : closerAt? source cursor = some close) :
    ∃ after, afterCloser? source cursor = some after ∧ after.offset = close + 1 ∧
      Firm source after := by
  have hboundary := ((closer_at_eq_some h).2.boundaries layout).2
  obtain ⟨after, hseek, hoffset, hfirm⟩ := exists_firm layout hboundary
  exact ⟨after, by rw [afterCloser?, h, Option.bind_some, hseek], hoffset, hfirm⟩

/-- There is a cursor past a closing delimiter just if there is one. -/
theorem after_closer_is_some_iff (layout : SameLayout source.code source.masked) :
    (afterCloser? source cursor).isSome ↔ (closerAt? source cursor).isSome := by
  cases h : closerAt? source cursor with
  | none =>
      rw [afterCloser?, h]
      rfl
  | some close =>
      obtain ⟨after, hafter, -⟩ := after_closer_firm layout h
      rw [hafter]
      rfl

/-- The cursor past a closing delimiter is further on. -/
theorem of_after_closer (layout : SameLayout source.code source.masked) {after : Cursor}
    (h : afterCloser? source cursor = some after) :
    cursor.offset < after.offset ∧ Firm source after := by
  obtain ⟨close, hclose, -⟩ := Option.bind_eq_some_iff.mp h
  obtain ⟨found, hfound, hoffset, hfirm⟩ := after_closer_firm layout hclose
  obtain rfl := Option.some.inj (h.symm.trans hfound)
  have hlt := (closer_at_eq_some hclose).1
  exact ⟨by omega, hfirm⟩

/-- Type parameters can be passed. -/
theorem is_in_skip_generics (layout : SameLayout source.code source.masked)
    (h : cursor.IsIn source.masked) : (skipGenerics source cursor).IsIn source.masked := by
  unfold skipGenerics
  split
  · cases hafter : afterCloser? source cursor with
    | none => exact h
    | some after => exact (of_after_closer layout hafter).2.is_in
  · exact h

/-- A cursor that has read a part stands after it. -/
theorem advance_by_length {part rest : Text} (hrest : cursor.rest = part ++ rest) :
    (cursor.advanceBy part.length).offset = cursor.offset + byteLength part ∧
      (cursor.advanceBy part.length).rest = rest := by
  induction part generalizing cursor with
  | nil => exact ⟨rfl, hrest⟩
  | cons c part ih =>
      have hadvance : cursor.advance = ⟨some c, cursor.offset + c.utf8Size, part ++ rest⟩ := by
        rw [Cursor.advance, hrest, List.cons_append]
      have hnext : cursor.advance.rest = part ++ rest := by rw [hadvance]
      obtain ⟨hoffset, hafter⟩ := ih hnext
      rw [List.length_cons, Cursor.advanceBy]
      refine ⟨?_, hafter⟩
      rw [hoffset, hadvance, byteLength, Nat.add_assoc]

end Cursors

section Ends

variable {text : Text}

/-- What stands after the first character. -/
theorem WalkEnd.cons {c : Char} {rest : Text} {stop : Nat} (h : WalkEnd rest stop) :
    WalkEnd (c :: rest) (c.utf8Size + stop) := by
  rcases h with rfl | ⟨d, hd, hstands⟩
  · exact Or.inl rfl
  · obtain ⟨front, back, rfl, rfl⟩ := hstands
    exact Or.inr ⟨d, hd, c :: front, back, rfl, rfl⟩

/-- A walk that ends at once, before a character that is not a space. -/
theorem walk_end_zero {c : Char} {rest : Text} (hc : c ≠ ' ') : WalkEnd (c :: rest) 0 :=
  Or.inr ⟨c, hc, Text.stands_at_of_begins ⟨rest, rfl⟩⟩

/-- The walk over an expression ends at the end or at a character that is not a space. -/
theorem expression_end_from {stops : List Char} (hstops : ' ' ∉ stops) (before : Option Char)
    (offset depth : Nat) (seen text : Text) :
    ∃ inner, expressionEndFrom stops before offset depth seen text = offset + inner ∧
      WalkEnd text inner := by
  induction text generalizing offset depth seen with
  | nil => exact ⟨0, rfl, Or.inl rfl⟩
  | cons c rest ih =>
      -- Either the walk ends before the character, or it goes on after it.
      have hgo : ∀ depth, ∃ inner,
          expressionEndFrom stops before (offset + c.utf8Size) depth (c :: seen) rest =
            offset + inner ∧ WalkEnd (c :: rest) inner := by
        intro depth
        obtain ⟨inner, hend, hwalk⟩ := ih (offset + c.utf8Size) depth (c :: seen)
        exact ⟨c.utf8Size + inner, by omega, hwalk.cons⟩
      have hstop : c ≠ ' ' → ∃ inner, offset = offset + inner ∧ WalkEnd (c :: rest) inner :=
        fun hc => ⟨0, rfl, walk_end_zero hc⟩
      rw [expressionEndFrom]
      dsimp only
      by_cases hopens : (c = '(' || c = '[' || c = '{') = true
      · rw [if_pos hopens]
        exact hgo _
      rw [if_neg hopens]
      by_cases hcloses : (c = ')' || c = ']' || c = '}') = true
      · have hc : c ≠ ' ' := by
          rintro rfl
          exact absurd hcloses (by decide)
        rw [if_pos hcloses]
        split
        · exact hstop hc
        · exact hgo _
      rw [if_neg hcloses]
      split
      · exact hgo _
      split
      · next heq =>
          split
          · exact hstop (heq ▸ by decide)
          · exact hgo _
      split
      · next hfeed =>
          split
          · exact hgo _
          · exact hstop (hfeed ▸ by decide)
      split
      · next hmem =>
          refine hstop fun hspace => hstops ?_
          exact hspace ▸ List.contains_iff_mem.mp hmem
      · exact hgo _

/-- The walk over a return type ends at the end or at a character that is not a space. -/
theorem return_type_end_from (before : Option Char) (offset : Nat) (depth : Int) (text : Text) :
    ∃ inner, returnTypeEndFrom before offset depth text = offset + inner ∧ WalkEnd text inner := by
  induction text generalizing before offset depth with
  | nil => exact ⟨0, rfl, Or.inl rfl⟩
  | cons c rest ih =>
      have hgo : ∀ depth, ∃ inner,
          returnTypeEndFrom (some c) (offset + c.utf8Size) depth rest = offset + inner ∧
            WalkEnd (c :: rest) inner := by
        intro depth
        obtain ⟨inner, hend, hwalk⟩ := ih (some c) (offset + c.utf8Size) depth
        exact ⟨c.utf8Size + inner, by omega, hwalk.cons⟩
      rw [returnTypeEndFrom]
      split
      · exact hgo _
      split
      · exact hgo _
      split
      · exact hgo _
      split
      · next hends =>
          refine ⟨0, rfl, walk_end_zero ?_⟩
          rintro rfl
          simp at hends
      split
      · next harrow =>
          refine ⟨0, rfl, walk_end_zero ?_⟩
          rintro rfl
          simp at harrow
      · exact hgo _

end Ends

section Cuts

variable {source : Source} {cursor : Cursor}

/-- The source can be cut between two boundaries. -/
theorem cut_is_some {start stop : Nat} (hle : start ≤ stop) (hstart : IsBoundary source.code start)
    (hstop : IsBoundary source.code stop) : (cut? source start stop).isSome := by
  rw [cut?, Option.isSome_map]
  exact Text.slice_is_some_iff.mpr ⟨hle, hstart, hstop⟩

/-- An expression ends after its start, at a boundary of the source. -/
theorem expression_end_boundary (layout : SameLayout source.code source.masked)
    (h : cursor.IsIn source.masked) {stops : List Char} (hstops : ' ' ∉ stops) :
    cursor.offset ≤ expressionEnd cursor stops ∧
      IsBoundary source.code (expressionEnd cursor stops) := by
  obtain ⟨inner, hend, hwalk⟩ :=
    expression_end_from hstops cursor.before cursor.offset 0 [] cursor.rest
  rw [expressionEnd, hend]
  exact ⟨Nat.le_add_right _ _, (WalkEnd.of_rest h hwalk).boundary layout⟩

/-- The expression at a firm cursor can be cut out. -/
theorem expression_is_some (layout : SameLayout source.code source.masked)
    (h : Firm source cursor) {stops : List Char} (hstops : ' ' ∉ stops) :
    (expression? source cursor stops).isSome := by
  obtain ⟨hle, hend⟩ := expression_end_boundary layout h.is_in hstops
  exact cut_is_some hle h.boundary hend

/-- The return type at a firm cursor can be cut out. -/
theorem return_type_is_some (layout : SameLayout source.code source.masked)
    (h : Firm source cursor) : (returnType? source cursor).isSome := by
  have hfirst : Firm source cursor.skipBlanks := firm_skip_blanks layout h.is_in
  have hle : cursor.offset ≤ cursor.skipBlanks.offset := by
    rw [Cursor.skipBlanks, Cursor.skip_while_offset]
    exact Nat.le_add_right _ _
  unfold returnType?
  dsimp only
  split
  · next close hclose =>
      split at hclose
      · obtain ⟨hlt, hcloses⟩ := closer_at_eq_some hclose
        exact cut_is_some (by omega) hfirst.boundary (hcloses.boundaries layout).2
      · cases hclose
  · obtain ⟨inner, hend, hwalk⟩ := return_type_end_from cursor.skipBlanks.before
      cursor.skipBlanks.offset 0 cursor.skipBlanks.rest
    rw [hend]
    exact cut_is_some (by omega) h.boundary ((WalkEnd.of_rest hfirst.is_in hwalk).boundary layout)

/-- A keyword comes next where it stands as a whole word. -/
theorem rest_of_keyword_at {keyword : String} (h : keywordAt cursor keyword = true) :
    ∃ rest, cursor.rest = keyword.toList ++ rest := by
  unfold keywordAt at h
  split at h
  · next rest hrest => exact ⟨rest, Text.drop_head_eq_some hrest⟩
  · simp at h

/-- Whether a function has a body can be told, and the cursor after it is further on. -/
theorem past_function_yields (layout : SameLayout source.code source.masked) {stop : Nat}
    (hstop : ClosesAt source stop) (hin : cursor.IsIn source.masked) (hlt : cursor.offset < stop) :
    Yields (fun past => ∀ after, past = some after →
        after.IsIn source.masked ∧ cursor.offset < after.offset)
      (pastFunction? source stop cursor) := by
  have hstopBoundary := layout.is_boundary (hstop.boundaries layout).1
  obtain ⟨within, hwithin⟩ := Option.isSome_iff_exists.mp
    (Text.slice_is_some_iff.mpr ⟨Nat.le_of_lt hlt, hin.is_boundary, hstopBoundary⟩)
  refine yields_bind_of_eq hwithin ?_
  split
  · next opening hopening =>
      obtain ⟨brace, -, hbrace⟩ := Text.find_char_eq_some hopening
      have hstands := (Text.slice_eq_some_iff.mp hwithin).1.trans hbrace
      obtain ⟨body, hseek, hoffset, -⟩ := Cursor.exists_seek hstands.start_boundary
      refine yields_bind_of_eq hseek (yields_pure fun after hafter => ?_)
      obtain ⟨hfurther, hfirm⟩ := of_after_closer layout hafter
      exact ⟨hfirm.is_in, by omega⟩
  · exact yields_pure fun after hafter => nomatch hafter

/-- The cursor after an arrow is further on. -/
theorem past_arrow_further (layout : SameLayout source.code source.masked)
    (hin : cursor.IsIn source.masked) (harrow : cursor.startsWith "=>" = true) :
    (pastArrow source cursor).IsIn source.masked ∧
      cursor.offset < (pastArrow source cursor).offset := by
  obtain ⟨rest, hrest⟩ := Text.starts_with_iff_begins.mp harrow
  have hoffset : (cursor.advanceBy 2).offset = cursor.offset + 2 := (advance_by_length hrest.symm).1
  have hpast : (cursor.advanceBy 2).IsIn source.masked ∧
      cursor.offset < (cursor.advanceBy 2).offset := ⟨hin.advance_by 2, by omega⟩
  have hbody : (cursor.advanceBy 2).offset ≤ (cursor.advanceBy 2).skipBlanks.offset := by
    rw [Cursor.skipBlanks, Cursor.skip_while_offset]
    exact Nat.le_add_right _ _
  unfold pastArrow
  dsimp only
  split
  · cases hafter : afterCloser? source (cursor.advanceBy 2).skipBlanks with
    | none => exact hpast
    | some after =>
        obtain ⟨hfurther, hfirm⟩ := of_after_closer layout hafter
        have hlt : cursor.offset < after.offset := by omega
        exact ⟨hfirm.is_in, hlt⟩
  · exact hpast

/-- The expression of a return statement can be cut out, and the cursor after it is further on: the
keyword ends before the delimiter that closes the body. -/
theorem returned_yields (layout : SameLayout source.code source.masked) {stop : Nat}
    (hstop : ClosesAt source stop) (hin : cursor.IsIn source.masked) (hlt : cursor.offset < stop)
    (hreturn : keywordAt cursor "return" = true) :
    Yields (fun found => found.2.IsIn source.masked ∧ cursor.offset < found.2.offset)
      (returned? source stop cursor) := by
  obtain ⟨rest, hrest⟩ := rest_of_keyword_at hreturn
  have hword : StandsAt source.masked cursor.offset "return".toList := by
    have hall := hin.stands_at
    rw [hrest] at hall
    exact hall.front
  have hbefore : cursor.offset + 6 ≤ stop := hstop.word_before (by decide) hword hlt
  have hsolid : Text.IsSolid "return".toList := ⟨by decide, by decide, by decide⟩
  have hoffset : (cursor.advanceBy 6).offset = cursor.offset + 6 := (advance_by_length hrest).1
  have hstart : IsBoundary source.code (cursor.offset + 6) :=
    (layout.touches (hsolid.touches_stop hword)).is_boundary
  obtain ⟨hle, hend⟩ := expression_end_boundary layout (hin.advance_by 6)
    (show ' ' ∉ [';'] from by decide)
  have hboundary :
      IsBoundary source.code (min (expressionEnd (cursor.advanceBy 6) [';']) stop) := by
    rcases Nat.le_total (expressionEnd (cursor.advanceBy 6) [';']) stop with hmin | hmin
    · rwa [Nat.min_eq_left hmin]
    · rw [Nat.min_eq_right hmin]
      exact (hstop.boundaries layout).1
  obtain ⟨after, hseek, hafter, hfirm⟩ := exists_firm layout hboundary
  obtain ⟨found, hfound⟩ := Option.isSome_iff_exists.mp
    (cut_is_some (by omega) (hoffset ▸ hstart) hboundary)
  have hfurther : cursor.offset < after.offset := by omega
  exact yields_bind_of_eq hfound (yields_bind_of_eq hseek (yields_pure ⟨hfirm.is_in, hfurther⟩))

/-- The return statements before a closing delimiter can be read: the fuel exceeds the characters
that are left, and every step passes some. -/
theorem return_expressions_from_is_some (layout : SameLayout source.code source.masked) {stop : Nat}
    (hstop : ClosesAt source stop) {fuel : Nat} (hin : cursor.IsIn source.masked)
    (hfuel : cursor.rest.length < fuel) :
    (returnExpressionsFrom? source stop fuel cursor).isSome := by
  induction fuel generalizing cursor with
  | zero => omega
  | succ fuel ih =>
      have hnext : ∀ after : Cursor, after.IsIn source.masked ∧ cursor.offset < after.offset →
          (returnExpressionsFrom? source stop fuel after).isSome := by
        intro after ⟨hafter, hlt⟩
        have hshorter := hin.rest_length_lt hafter hlt
        exact ih hafter (by omega)
      rw [returnExpressionsFrom?]
      split
      case isTrue => rfl
      next hmore =>
      simp only [Bool.or_eq_true, decide_eq_true_eq, not_or, Nat.not_le] at hmore
      obtain ⟨hlt, hne⟩ := hmore
      split
      case isTrue =>
        obtain ⟨past, hpast, hfurther⟩ := past_function_yields layout hstop hin hlt
        rw [hpast, Option.bind_eq_bind, Option.bind_some]
        cases past with
        | none => rfl
        | some after => exact hnext after (hfurther after rfl)
      split
      case isTrue harrow => exact hnext _ (past_arrow_further layout hin harrow)
      split
      case isTrue hreturn =>
        obtain ⟨found, hfound, hfurther⟩ := returned_yields layout hstop hin hlt hreturn
        rw [hfound, Option.bind_eq_bind, Option.bind_some]
        exact is_some_bind (hnext found.2 hfurther) fun later => rfl
      · exact hnext _ (hin.advance_further hne)

/-- The return statements of a body between its delimiters can be read. -/
theorem return_expressions_is_some (layout : SameLayout source.code source.masked)
    {start stop : Nat} (hstart : IsBoundary source.code start) (hstop : ClosesAt source stop) :
    (returnExpressions? source start stop).isSome := by
  obtain ⟨cursor, hseek, -, hfirm⟩ := exists_firm layout hstart
  rw [returnExpressions?, hseek, Option.bind_eq_bind, Option.bind_some]
  exact return_expressions_from_is_some layout hstop hfirm.is_in (Nat.lt_succ_self _)

end Cuts

section Hints

variable {source : Source} {cursor : Cursor} {symbol : Symbol}

/-- The expression after a character that is not a space can be cut out. -/
theorem expression_after_is_some (layout : SameLayout source.code source.masked)
    (h : cursor.IsIn source.masked) {c : Char} (hnext : cursor.next? = some c) (hc : c ≠ ' ')
    {stops : List Char} (hstops : ' ' ∉ stops) :
    (expression? source cursor.advance stops).isSome :=
  expression_is_some layout (firm_after layout h hnext hc) hstops

/-- A mark and the blanks after it can be passed. -/
theorem is_in_skip_mark (h : cursor.IsIn source.masked) (marks : List Char) :
    (skipMark cursor marks).IsIn source.masked := by
  unfold skipMark
  split
  · exact h.advance.skip_while _
  · exact h

/-- No space ends the type of a value. -/
theorem space_not_mem_type_stops (symbol : Symbol) : ' ' ∉ typeStops symbol := by
  unfold typeStops
  split <;> decide

/-- The hint for a value can be given. -/
theorem value_hint_is_some (layout : SameLayout source.code source.masked)
    (h : cursor.IsIn source.masked) : (valueHint? symbol source cursor).isSome := by
  have hat := is_in_skip_mark (h.skip_while Text.isAsciiBlank) ['?', '!']
  unfold valueHint?
  dsimp only
  split
  · next hcolon =>
      exact is_some_bind (expression_after_is_some layout hat hcolon (by decide)
        (space_not_mem_type_stops symbol)) fun _ => rfl
  · next hequals =>
      split
      · rfl
      · refine is_some_bind (expression_after_is_some layout hat hequals (by decide) (by decide))
          fun value => is_some_bind (infer_is_some value) fun type => ?_
        cases type <;> rfl
  · rfl

/-- The hint for an alias can be given. -/
theorem alias_hint_is_some (layout : SameLayout source.code source.masked)
    (h : cursor.IsIn source.masked) : (aliasHint? symbol source cursor).isSome := by
  have hat := is_in_skip_generics layout (h.skip_while Text.isAsciiBlank)
  unfold aliasHint?
  dsimp only
  split
  · next hequals =>
      exact is_some_bind
        (expression_after_is_some layout hat hequals (by decide) (by decide)) fun _ => rfl
  · rfl

/-- The hint for a member of an enumeration can be given. -/
theorem enum_member_hint_is_some (layout : SameLayout source.code source.masked)
    (h : cursor.IsIn source.masked) : (enumMemberHint? symbol source cursor).isSome := by
  have hat : cursor.skipBlanks.IsIn source.masked := h.skip_while _
  unfold enumMemberHint?
  dsimp only
  split
  · next hequals =>
      exact is_some_bind (expression_after_is_some layout hat hequals (by decide) (by decide))
        fun value => is_some_bind (infer_is_some value) fun _ => rfl
  · rfl

/-- The types of the values that are returned can be inferred. -/
theorem returned_types_is_some (values : List Text) : (values.mapM returnedType?).isSome := by
  have hvalue : ∀ value ∈ values, Yields (fun _ => True) (returnedType? value) := by
    intro value _
    exact yields_ite (fun _ => yields_some trivial)
      fun _ => yields_of_is_some (infer_is_some value)
  exact (yields_map_m hvalue).is_some

/-- The hint for a callable can be given from the brace that opens its body. -/
theorem returns_hint_is_some (layout : SameLayout source.code source.masked) {isAsync : Bool}
    (h : cursor.IsIn source.masked) (hnext : cursor.next? = some '{') :
    (returnsHint? symbol source isAsync cursor).isSome := by
  unfold returnsHint?
  split
  · next close hclose =>
      have hadvance : cursor.advance.offset = cursor.offset + 1 := by
        obtain ⟨rest, hrest⟩ := List.head?_eq_some_iff.mp hnext
        rw [Cursor.advance, hrest]
        rfl
      have hstart := (firm_after layout h hnext (by decide)).boundary
      rw [hadvance] at hstart
      refine is_some_bind (return_expressions_is_some layout hstart (closer_at_eq_some hclose).2)
        fun values => ?_
      split
      · rfl
      · exact is_some_bind (returned_types_is_some values) fun _ => rfl
  · rfl

/-- The hint for a callable can be given from the end of its parameters on. -/
theorem body_hint_is_some (layout : SameLayout source.code source.masked) {isAsync : Bool}
    (h : cursor.IsIn source.masked) : (bodyHint? symbol source isAsync cursor).isSome := by
  have hblanks := firm_skip_blanks layout h
  unfold bodyHint?
  dsimp only
  split
  case isTrue hcolon =>
    exact is_some_bind
      (return_type_is_some layout (firm_after layout hblanks.is_in hcolon (by decide))) fun _ => rfl
  generalize hbody : (if cursor.skipBlanks.startsWith "=>" = true then
    (cursor.skipBlanks.advanceBy 2).skipBlanks else cursor.skipBlanks) = body
  have hfirm : Firm source body := by
    rw [← hbody]
    split
    · exact firm_skip_blanks layout (hblanks.is_in.advance_by 2)
    · exact hblanks
  split
  · exact is_some_bind (expression_is_some layout hfirm (by decide)) fun value =>
      is_some_bind (infer_is_some value) fun _ => rfl
  split
  · rfl
  · next hbrace => exact returns_hint_is_some layout hfirm.is_in (by simpa using hbrace)

/-- The keywords of a function can be passed. -/
theorem is_in_skip_function_keywords (h : cursor.IsIn source.masked) :
    (skipFunctionKeywords cursor).1.IsIn source.masked := by
  unfold skipFunctionKeywords
  dsimp only
  generalize hafter : (if keywordAt cursor "async" = true then
    (cursor.advanceBy 5).skipBlanks else cursor) = after
  have hin : after.IsIn source.masked := by
    rw [← hafter]
    split
    · exact (h.advance_by 5).skip_while _
    · exact h
  split
  · have hmark := is_in_skip_mark ((hin.advance_by 8).skip_while Text.isAsciiBlank) ['*']
    exact (hmark.skip_while _).skip_while _
  · exact hin

/-- The hint for a callable can be given from its parameters on. -/
theorem parameters_hint_is_some (layout : SameLayout source.code source.masked) {isAsync : Bool}
    (h : cursor.IsIn source.masked) : (parametersHint? symbol source isAsync cursor).isSome := by
  have hat := (is_in_skip_generics layout h).skip_while Text.isAsciiBlank
  unfold parametersHint?
  dsimp only
  split
  · split
    · next after hafter => exact body_hint_is_some layout (of_after_closer layout hafter).2.is_in
    · rfl
  split
  · exact body_hint_is_some layout (hat.skip_while _)
  · rfl

/-- The hint for a function or method can be given. -/
theorem callable_hint_is_some (layout : SameLayout source.code source.masked)
    (h : cursor.IsIn source.masked) : (callableHint? symbol source cursor).isSome := by
  have hat := is_in_skip_mark (h.skip_while Text.isAsciiBlank) ['?']
  unfold callableHint?
  dsimp only
  split
  · next hcolon =>
      exact is_some_bind (expression_after_is_some layout hat hcolon (by decide) (by decide))
        fun _ => rfl
  split
  · exact parameters_hint_is_some layout
      (is_in_skip_function_keywords (hat.advance.skip_while Text.isAsciiBlank))
  · exact parameters_hint_is_some layout hat

end Hints

section Name

/-- A word occurs where it stands, counting offsets from `offset`. -/
theorem stands_at_of_mem_occurrences {word text : Text} {before : Option Char}
    {offset column skip : Nat} {found : Nat × Nat}
    (h : found ∈ Text.wordOccurrencesFrom word before offset column skip text) :
    ∃ inner, found.1 = offset + inner ∧ StandsAt text inner word := by
  induction text generalizing before offset column skip with
  | nil => simp [Text.wordOccurrencesFrom] at h
  | cons c rest ih =>
      have hlater : ∀ n, found ∈ Text.wordOccurrencesFrom word (some c) (offset + c.utf8Size)
          (column + 1) n rest → ∃ inner, found.1 = offset + inner ∧ StandsAt (c :: rest) inner word := by
        intro n hmem
        obtain ⟨inner, hoffset, front, back, hrest, hfront⟩ := ih hmem
        refine ⟨c.utf8Size + inner, by omega, c :: front, back, ?_, ?_⟩
        · rw [hrest, List.cons_append]
        · rw [byteLength, hfront]
      unfold Text.wordOccurrencesFrom at h
      split at h
      · exact hlater _ h
      split at h
      · exact hlater _ h
      · next after hafter =>
          split at h
          · exact hlater _ h
          · rcases List.mem_cons.mp h with rfl | hmem
            · exact ⟨0, rfl, Text.stands_at_of_begins ⟨after, (Text.drop_head_eq_some hafter).symm⟩⟩
            · exact hlater _ hmem

/-- The end of a symbol's name, where it is found, is a boundary. -/
theorem name_end_boundary {symbol : Symbol} {content : Text} {offset : Nat}
    (h : nameEnd? symbol content = some offset) : IsBoundary content offset := by
  unfold nameEnd? at h
  split at h
  · cases h
  obtain ⟨⟨start, line⟩, hline, h⟩ := Option.bind_eq_some_iff.mp h
  obtain ⟨⟨inner, column⟩, hhit, h⟩ := Option.bind_eq_some_iff.mp h
  have hstands : StandsAt content start line := by
    obtain ⟨begins, hstart, hbegins⟩ :=
      Text.stands_at_of_mem_with_offsets (show '\n'.utf8Size = 1 from by decide)
        (List.mem_of_getElem? hline)
    rw [Text.join_split_by] at hbegins
    rwa [hstart, Nat.zero_add]
  have hmem : (inner, column) ∈ Text.wordOccurrences line symbol.name.toList := by
    rcases Option.or_eq_some_iff.mp hhit with hanchored | ⟨-, hfirst⟩
    · obtain ⟨wanted, -, hfind⟩ := Option.bind_eq_some_iff.mp hanchored
      exact List.mem_of_find?_eq_some hfind
    · exact List.mem_of_head? hfirst
  unfold Text.wordOccurrences at hmem
  split at hmem
  · cases hmem
  obtain ⟨_, rfl, hword⟩ := stands_at_of_mem_occurrences hmem
  obtain rfl := Option.some.inj h
  simpa using (hstands.trans hword).stop_boundary

end Name

/-- A hint can be given for every symbol and every text. -/
theorem of_is_some (symbol : Symbol) (content : Text) : (of? symbol content).isSome := by
  have layout : SameLayout content (Text.mask .all content) := Text.mask_same_layout .all content
  unfold of?
  dsimp only
  split
  · next offset hoffset =>
      obtain ⟨after, hseek, -, hin⟩ :=
        Cursor.exists_seek (layout.is_boundary (name_end_boundary hoffset))
      rw [hseek, Option.bind_eq_bind, Option.bind_some]
      split
      all_goals first
        | rfl
        | exact alias_hint_is_some layout hin
        | exact enum_member_hint_is_some layout hin
        | exact callable_hint_is_some layout hin
        | exact value_hint_is_some layout hin
  · rfl

end CodeAtlas.Hint
