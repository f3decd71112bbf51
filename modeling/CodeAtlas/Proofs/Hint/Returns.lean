import CodeAtlas.Proofs.Hint.Ended
import CodeAtlas.Proofs.Scanner.Hint
import CodeAtlas.Proofs.Text.Behind

/-!
# The walk over return statements

The walk over a body looks for `return` statements and jumps over the bodies of nested functions. Read
`LeadsTo` first: the walk leads from one cursor to another one and finds some expressions on the way. One
lemma for each move says where it leads, and what a jump is where the brackets are properly nested
(`past_function_between`, `past_arrow_block`). A move looks at nothing in front of the cursor, so behind a
front the walk finds what it finds in the rest alone (`returns_behind`).
-/

namespace CodeAtlas.Hint

open Text (Cursor byteLength)

section Fuel

variable {source : Source} {stop fuel other : Nat} {cursor : Cursor} {values others : List Text}

/-- More fuel changes nothing. -/
theorem returns_of_le (hle : fuel ≤ other)
    (h : returnExpressionsFrom? source stop fuel cursor = some values) :
    returnExpressionsFrom? source stop other cursor = some values := by
  induction fuel generalizing other cursor values with
  | zero => cases h
  | succ fuel ih =>
      obtain ⟨other, rfl⟩ := Nat.exists_eq_succ_of_ne_zero (by omega : other ≠ 0)
      have hle' : fuel ≤ other := by omega
      rw [returnExpressionsFrom?] at h ⊢
      split at h
      · next hdone => rwa [if_pos hdone]
      next hdone =>
      rw [if_neg hdone]
      split at h
      · next hkeyword =>
          rw [if_pos hkeyword]
          obtain ⟨past, hpast, h⟩ := Option.bind_eq_some_iff.mp h
          rw [hpast, Option.bind_eq_bind, Option.bind_some]
          cases past with
          | none => exact h
          | some after => exact ih hle' h
      next hkeyword =>
      rw [if_neg hkeyword]
      split at h
      · next harrow =>
          rw [if_pos harrow]
          exact ih hle' h
      next harrow =>
      rw [if_neg harrow]
      split at h
      · next hreturn =>
          rw [if_pos hreturn]
          obtain ⟨found, hfound, h⟩ := Option.bind_eq_some_iff.mp h
          obtain ⟨later, hlater, h⟩ := Option.bind_eq_some_iff.mp h
          rw [hfound, Option.bind_eq_bind, Option.bind_some]
          dsimp only
          rw [ih hle' hlater]
          exact h
      · next hreturn =>
          rw [if_neg hreturn]
          exact ih hle' h

/-- Any two amounts of fuel that are enough find the same. -/
theorem returns_unique (h : returnExpressionsFrom? source stop fuel cursor = some values)
    (hother : returnExpressionsFrom? source stop other cursor = some others) : values = others := by
  have hmore := returns_of_le (Nat.le_max_left fuel other) h
  have hmore' := returns_of_le (Nat.le_max_right fuel other) hother
  exact Option.some.inj (hmore.symm.trans hmore')

end Fuel

/-- The walk leads from one cursor to another one: what it finds from the first one on are some
expressions and what it finds from the second one on. -/
def LeadsTo (source : Source) (stop : Nat) (cursor : Cursor) (found : List Text) (after : Cursor) :
    Prop :=
  ∀ fuel values, returnExpressionsFrom? source stop fuel cursor = some values →
    ∃ fuel' later, returnExpressionsFrom? source stop fuel' after = some later ∧
      values = found ++ later

section Moves

variable {source : Source} {stop : Nat} {cursor middle after : Cursor} {found later : List Text}

/-- The walk leads on from where it has been led. -/
theorem LeadsTo.trans (h : LeadsTo source stop cursor found middle)
    (hlater : LeadsTo source stop middle later after) :
    LeadsTo source stop cursor (found ++ later) after := by
  intro fuel values hvalues
  obtain ⟨fuel', rest, hrest, rfl⟩ := h fuel values hvalues
  obtain ⟨fuel'', last, hlast, rfl⟩ := hlater fuel' rest hrest
  exact ⟨fuel'', last, hlast, by rw [List.append_assoc]⟩

/-- What the moves of the walk from a cursor have in common: it is before the end. -/
theorem returns_cons {values : List Text} {fuel : Nat} (hlt : cursor.offset < stop)
    (hne : cursor.rest ≠ []) (h : returnExpressionsFrom? source stop fuel cursor = some values) :
    ∃ less, fuel = less + 1 ∧ (do
      if keywordAt cursor "function" then
        let some after ← pastFunction? source stop cursor | return []
        return ← returnExpressionsFrom? source stop less after
      if cursor.startsWith "=>" then
        return ← returnExpressionsFrom? source stop less (pastArrow source cursor)
      if keywordAt cursor "return" then
        let (found, after) ← returned? source stop cursor
        return found :: (← returnExpressionsFrom? source stop less after)
      returnExpressionsFrom? source stop less cursor.advance) = some values := by
  cases fuel with
  | zero => cases h
  | succ less =>
      have hmore : ¬(decide (cursor.offset ≥ stop) || cursor.rest.isEmpty) = true := by
        simp only [Bool.or_eq_true, decide_eq_true_eq, List.isEmpty_iff, not_or, Nat.not_le]
        exact ⟨hlt, hne⟩
      rw [returnExpressionsFrom?, if_neg hmore] at h
      exact ⟨less, rfl, h⟩

/-- A keyword has something after the cursor. -/
theorem rest_ne_nil_of_keyword_at {keyword : String} (hkeyword : keyword.toList ≠ [])
    (h : keywordAt cursor keyword = true) : cursor.rest ≠ [] := by
  obtain ⟨rest, hrest⟩ := rest_of_keyword_at h
  rw [hrest]
  exact fun hnil => hkeyword (List.append_eq_nil_iff.mp hnil).1

/-- The walk jumps over the body of a function. -/
theorem leads_past_function (hlt : cursor.offset < stop)
    (hkeyword : keywordAt cursor "function" = true)
    (hpast : pastFunction? source stop cursor = some (some after)) :
    LeadsTo source stop cursor [] after := by
  intro fuel values h
  obtain ⟨less, -, h⟩ := returns_cons hlt (rest_ne_nil_of_keyword_at (by decide) hkeyword) h
  rw [if_pos hkeyword, hpast] at h
  exact ⟨less, values, h, rfl⟩

/-- The walk jumps over the body of an arrow function. -/
theorem leads_past_arrow (hlt : cursor.offset < stop)
    (hkeyword : keywordAt cursor "function" = false) (harrow : cursor.startsWith "=>" = true) :
    LeadsTo source stop cursor [] (pastArrow source cursor) := by
  intro fuel values h
  have hne : cursor.rest ≠ [] := by
    intro hnil
    rw [Cursor.startsWith, hnil] at harrow
    cases harrow
  obtain ⟨less, -, h⟩ := returns_cons hlt hne h
  rw [if_neg (by rw [hkeyword]; decide), if_pos harrow] at h
  exact ⟨less, values, h, rfl⟩

/-- At a `return` the walk finds an expression and goes on after it. -/
theorem leads_past_return (hlt : cursor.offset < stop)
    (hkeyword : keywordAt cursor "function" = false) (harrow : cursor.startsWith "=>" = false)
    (hreturn : keywordAt cursor "return" = true) {last : Nat}
    (hlast : min (expressionEnd (cursor.advanceBy 6) [';']) stop = last)
    (hseek : Cursor.seek? source.masked last = some after) :
    LeadsTo source stop cursor [(cut? source (cursor.advanceBy 6).offset last).getD []] after := by
  intro fuel values h
  obtain ⟨less, -, h⟩ := returns_cons hlt (rest_ne_nil_of_keyword_at (by decide) hreturn) h
  rw [if_neg (by rw [hkeyword]; decide), if_neg (by rw [harrow]; decide), if_pos hreturn] at h
  obtain ⟨⟨value, next⟩, hvalue, h⟩ := Option.bind_eq_some_iff.mp h
  obtain ⟨later, hlater, h⟩ := Option.bind_eq_some_iff.mp h
  obtain rfl := Option.some.inj h
  unfold returned? at hvalue
  dsimp only at hvalue
  rw [hlast, hseek] at hvalue
  obtain ⟨part, hpart, hvalue⟩ := Option.bind_eq_some_iff.mp hvalue
  obtain ⟨rfl, rfl⟩ := Prod.mk.inj (Option.some.inj hvalue)
  exact ⟨less, later, hlater, by rw [hpart]; rfl⟩

/-- Elsewhere the walk goes on over one character. -/
theorem leads_on (hlt : cursor.offset < stop) (hne : cursor.rest ≠ [])
    (hkeyword : keywordAt cursor "function" = false) (harrow : cursor.startsWith "=>" = false)
    (hreturn : keywordAt cursor "return" = false) :
    LeadsTo source stop cursor [] cursor.advance := by
  intro fuel values h
  obtain ⟨less, -, h⟩ := returns_cons hlt hne h
  rw [if_neg (by rw [hkeyword]; decide), if_neg (by rw [harrow]; decide),
    if_neg (by rw [hreturn]; decide)] at h
  exact ⟨less, values, h, rfl⟩

end Moves

section Blocks

variable {source : Source} {stop : Nat} {left part blank body rest : Text}

/-- The cursor after a block is behind its braces. -/
theorem after_closer_between (hmasked : source.masked = left ++ '{' :: (body ++ '}' :: rest))
    (hbody : Text.isNested body = true) :
    afterCloser? source (Cursor.between left ('{' :: (body ++ '}' :: rest))) =
      some (Cursor.between (left ++ '{' :: (body ++ ['}'])) rest) := by
  have hclose : closerAt? source (Cursor.between left ('{' :: (body ++ '}' :: rest))) =
      some (byteLength left + 1 + byteLength body) := by
    rw [closerAt?, hmasked]
    exact Text.matching_block left hbody rest
  have hbytes : byteLength left + 1 + byteLength body + 1 =
      byteLength (left ++ '{' :: (body ++ ['}'])) := by
    have hsize : '{'.utf8Size = 1 ∧ byteLength ['}'] = 1 := by decide
    rw [Text.byte_length_append, byteLength, Text.byte_length_append, hsize.1, hsize.2]
    omega
  have hsplit : source.masked = left ++ '{' :: (body ++ ['}']) ++ rest := by
    rw [hmasked]
    simp
  rw [afterCloser?, hclose, Option.bind_some, hbytes, hsplit]
  exact Cursor.seek_between _ _

/-- The body of a function is the first block that follows its keyword. -/
theorem past_function_between
    (hmasked : source.masked = left ++ (part ++ '{' :: (body ++ '}' :: rest))) (hpart : '{' ∉ part)
    (hbody : Text.isNested body = true) (hstop : Text.IsBoundary source.masked stop)
    (hlt : byteLength (left ++ part) < stop) :
    pastFunction? source stop (Cursor.between left (part ++ '{' :: (body ++ '}' :: rest))) =
      some (some (Cursor.between (left ++ (part ++ '{' :: (body ++ ['}']))) rest)) := by
  obtain ⟨within, hwithin⟩ : ∃ within, Text.slice? source.masked (byteLength left) stop =
      some (part ++ '{' :: within) := by
    obtain ⟨front, back, hfront, rfl⟩ := hstop
    rw [hmasked, ← List.append_assoc] at hfront
    obtain ⟨middle, rfl, hmiddle⟩ := Text.exists_between hfront (Nat.le_of_lt hlt)
    cases middle with
    | nil => simp at hlt
    | cons c middle =>
        obtain ⟨rfl, -⟩ := List.cons.inj hmiddle
        refine ⟨middle, Text.slice_eq_some_iff.mpr ⟨⟨left, back, ?_, rfl⟩, ?_⟩⟩
        · rw [hmasked, ← List.append_assoc, hfront]
          simp
        · rw [List.append_assoc, Text.byte_length_append]
  have hfind : Text.findChar? (part ++ '{' :: within) (· = '{') = some (byteLength part) := by
    refine Text.find_char_append (fun c hc => decide_eq_false ?_) rfl _
    rintro rfl
    exact hpart hc
  have hsplit : source.masked = left ++ part ++ '{' :: (body ++ '}' :: rest) := by
    rw [hmasked, List.append_assoc]
  have hseek := Cursor.seek_between (left ++ part) ('{' :: (body ++ '}' :: rest))
  rw [← hsplit, Text.byte_length_append] at hseek
  have hafter := after_closer_between hsplit hbody
  rw [List.append_assoc] at hafter
  rw [pastFunction?]
  change (Text.slice? source.masked (byteLength left) stop).bind _ = _
  rw [hwithin, Option.bind_some, hfind]
  change (Cursor.seek? source.masked (byteLength left + byteLength part)).bind _ = _
  rw [hseek, Option.bind_some, hafter]
  rfl

/-- An arrow and the block that follows it are passed over. -/
theorem past_arrow_block
    (hmasked : source.masked = left ++ ("=>".toList ++ (blank ++ '{' :: (body ++ '}' :: rest))))
    (hblank : ∀ c ∈ blank, Text.isAsciiBlank c = true) (hbody : Text.isNested body = true) :
    pastArrow source (Cursor.between left ("=>".toList ++ (blank ++ '{' :: (body ++ '}' :: rest)))) =
      Cursor.between (left ++ ("=>".toList ++ (blank ++ '{' :: (body ++ ['}'])))) rest := by
  have hskip : Cursor.skipBlanks ((Cursor.between left
      ("=>".toList ++ (blank ++ '{' :: (body ++ '}' :: rest)))).advanceBy 2) =
        Cursor.between (left ++ "=>".toList ++ blank) ('{' :: (body ++ '}' :: rest)) := by
    rw [show 2 = "=>".toList.length from rfl, Cursor.advance_by_between]
    exact Cursor.skip_while_between hblank (fun c hc => by cases hc; rfl) _
  have hsplit : source.masked = left ++ "=>".toList ++ blank ++ '{' :: (body ++ '}' :: rest) := by
    rw [hmasked]
    simp only [List.append_assoc]
  have hnext : Cursor.next? (Cursor.between (left ++ "=>".toList ++ blank)
      ('{' :: (body ++ '}' :: rest))) = some '{' := rfl
  rw [pastArrow, hskip, if_pos hnext, after_closer_between hsplit hbody]
  simp only [Option.getD_some, List.append_assoc]

/-- An arrow that no block follows is passed over alone. -/
theorem past_arrow_other (hblank : ∀ c ∈ blank, Text.isAsciiBlank c = true)
    (hrest : ∀ c, rest.head? = some c → Text.isAsciiBlank c = false ∧ c ≠ '{') :
    pastArrow source (Cursor.between left ("=>".toList ++ (blank ++ rest))) =
      Cursor.between (left ++ "=>".toList) (blank ++ rest) := by
  have harrow : (Cursor.between left ("=>".toList ++ (blank ++ rest))).advanceBy 2 =
      Cursor.between (left ++ "=>".toList) (blank ++ rest) := by
    rw [show 2 = "=>".toList.length from rfl, Cursor.advance_by_between]
  have hskip : Cursor.skipBlanks (Cursor.between (left ++ "=>".toList) (blank ++ rest)) =
      Cursor.between (left ++ "=>".toList ++ blank) rest :=
    Cursor.skip_while_between hblank (fun c hc => (hrest c hc).1) _
  have hnext : Cursor.next? (Cursor.between (left ++ "=>".toList ++ blank) rest) ≠ some '{' :=
    fun hbrace => (hrest _ hbrace).2 rfl
  rw [pastArrow, harrow, hskip, if_neg hnext]

end Blocks

section Behind

variable {code front : Text} {cursor : Cursor}

/-- A source behind fronts that have as many bytes. -/
def Source.behind (code front : Text) (source : Source) : Source :=
  ⟨code ++ source.code, front ++ source.masked⟩

/-- A front that does not end in a word makes no difference to the keywords behind it. -/
theorem keyword_behind (hfront : front.getLast?.any isWordPart = false) (keyword : String) :
    keywordAt (cursor.behind front) keyword = keywordAt cursor keyword := by
  have hbefore : (cursor.behind front).before.any isWordPart = cursor.before.any isWordPart := by
    change (cursor.before.or front.getLast?).any isWordPart = _
    cases hbefore : cursor.before with
    | none => rw [Option.none_or, hfront]; rfl
    | some c => rw [Option.some_or]
  rw [keywordAt, keywordAt, hbefore]
  rfl

/-- A bracket behind a front is closed where it is in what stands behind it. -/
theorem closer_behind (source : Source) :
    closerAt? (source.behind code front) (cursor.behind front) =
      (closerAt? source cursor).map (byteLength front + ·) :=
  Text.matching_behind front source.masked cursor.offset

/-- The cursor after a bracket that is closed behind a front. -/
theorem after_closer_behind (source : Source) :
    afterCloser? (source.behind code front) (cursor.behind front) =
      (afterCloser? source cursor).map (Cursor.behind front) := by
  rw [afterCloser?, afterCloser?, closer_behind]
  cases closerAt? source cursor with
  | none => rfl
  | some close =>
      change Cursor.seek? (front ++ source.masked) (byteLength front + close + 1) = _
      rw [Nat.add_assoc]
      exact Cursor.seek_behind front source.masked (close + 1)

/-- The body of a function behind a front. -/
theorem past_function_behind (source : Source) (stop : Nat) :
    pastFunction? (source.behind code front) (byteLength front + stop) (cursor.behind front) =
      (pastFunction? source stop cursor).map (Option.map (Cursor.behind front)) := by
  have hslice : Text.slice? (source.behind code front).masked (cursor.behind front).offset
      (byteLength front + stop) = Text.slice? source.masked cursor.offset stop :=
    Text.slice_behind front source.masked cursor.offset stop
  have hseek : ∀ opening, Cursor.seek? (source.behind code front).masked
      ((cursor.behind front).offset + opening) =
        (Cursor.seek? source.masked (cursor.offset + opening)).map (Cursor.behind front) := by
    intro opening
    change Cursor.seek? (front ++ source.masked) (byteLength front + cursor.offset + opening) = _
    rw [Nat.add_assoc]
    exact Cursor.seek_behind front source.masked (cursor.offset + opening)
  rw [pastFunction?, pastFunction?, hslice]
  cases Text.slice? source.masked cursor.offset stop with
  | none => rfl
  | some within =>
      rw [Option.bind_eq_bind, Option.bind_some, Option.bind_eq_bind, Option.bind_some]
      cases Text.findChar? within (· = '{') with
      | none => rfl
      | some opening =>
          simp only [hseek]
          cases Cursor.seek? source.masked (cursor.offset + opening) with
          | none => rfl
          | some body => simp [after_closer_behind]

/-- An arrow behind a front. -/
theorem past_arrow_behind (source : Source) :
    pastArrow (source.behind code front) (cursor.behind front) =
      (pastArrow source cursor).behind front := by
  have hbody : ((cursor.behind front).advanceBy 2).skipBlanks =
      (cursor.advanceBy 2).skipBlanks.behind front := by
    rw [Cursor.advance_by_behind]
    exact Cursor.skip_while_behind _ _ _
  rw [pastArrow, pastArrow, hbody, after_closer_behind, Cursor.advance_by_behind]
  change (if (cursor.advanceBy 2).skipBlanks.next? = some '{' then _ else _) = _
  split
  · cases afterCloser? source (cursor.advanceBy 2).skipBlanks <;> rfl
  · rfl

/-- The expression of a `return` statement behind a front. -/
theorem returned_behind (source : Source) (hcode : byteLength code = byteLength front) (stop : Nat) :
    returned? (source.behind code front) (byteLength front + stop) (cursor.behind front) =
      (returned? source stop cursor).map fun found => (found.1, found.2.behind front) := by
  have hend : expressionEnd ((cursor.behind front).advanceBy 6) [';'] =
      byteLength front + expressionEnd (cursor.advanceBy 6) [';'] := by
    rw [Cursor.advance_by_behind]
    exact expression_end_further rfl _ _ _ _ _ _ _
  have hcut : ∀ last, cut? (source.behind code front) ((cursor.behind front).advanceBy 6).offset
      (byteLength front + last) = cut? source (cursor.advanceBy 6).offset last := by
    intro last
    rw [Cursor.advance_by_behind]
    change (Text.slice? (code ++ source.code) (byteLength front + (cursor.advanceBy 6).offset) _).map _ = _
    rw [← hcode, Text.slice_behind]
    rfl
  rw [returned?, returned?, hend, Nat.add_min_add_left, hcut]
  cases cut? source (cursor.advanceBy 6).offset
      (min (expressionEnd (cursor.advanceBy 6) [';']) stop) with
  | none => rfl
  | some part =>
      have hseek : Cursor.seek? (source.behind code front).masked (byteLength front +
          min (expressionEnd (cursor.advanceBy 6) [';']) stop) =
            (Cursor.seek? source.masked (min (expressionEnd (cursor.advanceBy 6) [';']) stop)).map
              (Cursor.behind front) := Cursor.seek_behind front source.masked _
      rw [Option.bind_eq_bind, Option.bind_some, Option.bind_eq_bind, Option.bind_some, hseek]
      cases Cursor.seek? source.masked (min (expressionEnd (cursor.advanceBy 6) [';']) stop) <;> rfl

/-- The walk behind a front that does not end in a word finds what it finds in the rest alone. -/
theorem returns_behind (source : Source) (hcode : byteLength code = byteLength front)
    (hfront : front.getLast?.any isWordPart = false) (stop fuel : Nat) :
    returnExpressionsFrom? (source.behind code front) (byteLength front + stop) fuel
        (cursor.behind front) =
      returnExpressionsFrom? source stop fuel cursor := by
  induction fuel generalizing cursor with
  | zero => rfl
  | succ fuel ih =>
      have hdone : (decide ((cursor.behind front).offset ≥ byteLength front + stop) ||
          (cursor.behind front).rest.isEmpty) =
            (decide (cursor.offset ≥ stop) || cursor.rest.isEmpty) := by
        change (decide (byteLength front + cursor.offset ≥ byteLength front + stop) || _) = _
        rw [decide_eq_decide.mpr (Nat.add_le_add_iff_left (n := byteLength front))]
        rfl
      rw [returnExpressionsFrom?, returnExpressionsFrom?, hdone, keyword_behind hfront,
        keyword_behind hfront, past_function_behind, past_arrow_behind, returned_behind source hcode,
        Cursor.advance_behind, ih, ih]
      change (if _ then _ else if _ then _ else if (Cursor.startsWith cursor "=>") = true then _ else _) = _
      split
      · rfl
      split
      · cases pastFunction? source stop cursor with
        | none => rfl
        | some past =>
            cases past with
            | none => rfl
            | some after => exact ih
      split
      · rfl
      split
      · cases returned? source stop cursor with
        | none => rfl
        | some found =>
            change (do return found.1 :: (← returnExpressionsFrom? _ _ fuel (found.2.behind front))) = _
            rw [ih]
            rfl
      · rfl

end Behind

end CodeAtlas.Hint
