import CodeAtlas.Proofs.Hint.Returns
import CodeAtlas.Proofs.Text.Trim

/-!
# What the walk over return statements finds in front of a block

A `Frame` is what stands around a block in braces that a source has in common with others. The walk comes
to the block through the front. There it makes the same moves whatever stands in the block, since no
keyword reaches into it (`keyword_before_space`), a block that opens in the front is closed there, and the
expression of a `return` statement ends there (`IsPassed`). So it finds the same expressions
(`finds_of_passed`), one lemma for each move and then by induction on the length of the front.
-/

namespace CodeAtlas.Hint

open Text (Cursor byteLength isNested isNestedFrom)

section Spaced

variable {left front rest : Text} {word : String}

/-- A word without spaces that stands in front of a space ends there. -/
theorem drop_head_before_space {word : Text} (hword : ' ' ∉ word) (front rest : Text) :
    Text.dropHead? (front ++ ' ' :: rest) word = (Text.dropHead? front word).map (· ++ ' ' :: rest) := by
  induction front generalizing word with
  | nil =>
      cases word with
      | nil => rfl
      | cons d word =>
          rw [List.mem_cons, not_or] at hword
          have hnone : Text.dropHead? (' ' :: rest) (d :: word) = none := by
            rw [Text.dropHead?, if_neg hword.1]
          exact hnone
  | cons c front ih =>
      cases word with
      | nil => rfl
      | cons d word =>
          rw [List.cons_append, Text.dropHead?, Text.dropHead?,
            ih fun hmem => hword (List.mem_cons_of_mem d hmem)]
          split <;> rfl

/-- A keyword stands between a text that it does not go on from and a text that does not go on from it. -/
theorem keyword_at_between (left front : Text) (word : String) :
    keywordAt (Cursor.between left front) word = (!left.getLast?.any isWordPart &&
      (Text.dropHead? front word.toList).any fun after => !after.head?.any isWordPart) := by
  have hrest : (Cursor.between left front).rest = front := rfl
  rw [keywordAt, hrest]
  cases Text.dropHead? front word.toList <;> rfl

/-- Whether a keyword stands in front of a space does not depend on what follows the space. -/
theorem keyword_before_space (hword : ' ' ∉ word.toList) (left front rest : Text) :
    keywordAt (Cursor.between left (front ++ ' ' :: rest)) word =
      keywordAt (Cursor.between left front) word := by
  rw [keyword_at_between, keyword_at_between, drop_head_before_space hword]
  cases Text.dropHead? front word.toList with
  | none => rfl
  | some after => cases after <;> rfl

/-- Whether a word comes next in front of a space does not depend on what follows the space. -/
theorem starts_with_before_space (hword : ' ' ∉ word.toList) (left front rest : Text) :
    (Cursor.between left (front ++ ' ' :: rest)).startsWith word =
      (Cursor.between left front).startsWith word := by
  have hhead : ∀ text : Text,
      Text.startsWith text word.toList = (Text.dropHead? text word.toList).isSome := by
    intro text
    rw [Bool.eq_iff_iff, Text.starts_with_iff, Text.drop_head_eq]
    split <;> simp_all
  rw [Cursor.startsWith, Cursor.startsWith]
  change Text.startsWith (front ++ ' ' :: rest) word.toList = Text.startsWith front word.toList
  rw [hhead, hhead, drop_head_before_space hword, Option.isSome_map]

end Spaced

/-- What the walk passes in front of a nested function, after `left`: its brackets are properly nested
from some place on, and the expression of every `return` statement ends in it. -/
structure IsPassed (left front : Text) : Prop where
  nested : ∃ awaited, isNestedFrom awaited front = true
  ended : ∀ before after, front = before ++ ("return".toList ++ after) →
    (left ++ before).getLast?.any isWordPart = false → after.head?.any isWordPart = false →
    endsWithin 0 after = true

/-- What stands around a block in braces: a front, in the source and in its masked form, then a space and
a link to the block, and a tail. -/
structure Frame where
  code : Text
  front : Text
  link : Text
  tail : Text
  layout : byteLength code = byteLength front
  link_ne_nil : link ≠ []
  link_visible : ∀ c, link.head? = some c → Text.isAsciiBlank c = false
  link_unbraced : '{' ∉ link

/-- The masked form from the end of the front on, around a block. -/
def Frame.rest (frame : Frame) (inner : Text) : Text :=
  ' ' :: (frame.link ++ '{' :: (inner ++ '}' :: frame.tail))

/-- The cursor after the block. -/
def Frame.after (frame : Frame) (inner : Text) : Cursor :=
  Cursor.between (frame.front ++ ' ' :: (frame.link ++ '{' :: (inner ++ ['}']))) frame.tail

/-- A frame stands around a block of a source, and from the link on the walk passes the block. -/
structure Frame.Surrounds (frame : Frame) (inner : Text) (source : Source) (stop : Nat) : Prop where
  code : ∃ rest, source.code = frame.code ++ rest
  masked : source.masked = frame.front ++ frame.rest inner
  nested : isNested inner = true
  stop_boundary : Text.IsBoundary source.masked stop
  before_stop : byteLength (frame.front ++ ' ' :: frame.link) < stop
  passed : LeadsTo source stop (Cursor.between (frame.front ++ [' ']) (frame.rest inner).tail) []
    (frame.after inner)

/-- After `left`, what the walk finds up to the end of the block does not depend on what stands in it. -/
def Frame.Finds (frame : Frame) (left middle : Text) : Prop :=
  ∃ found, ∀ {inner source stop}, frame.Surrounds inner source stop →
    LeadsTo source stop (Cursor.between left (middle ++ frame.rest inner)) found (frame.after inner)

section Front

variable {frame : Frame} {left middle right inner : Text} {source : Source} {stop : Nat}

/-- What is left of a front is passed. -/
theorem IsPassed.suffix (h : IsPassed left (middle ++ right)) : IsPassed (left ++ middle) right where
  nested := by
    obtain ⟨awaited, hawaited⟩ := h.nested
    exact Text.exists_awaited middle hawaited
  ended := by
    rintro before after rfl hbefore hafter
    rw [List.append_assoc] at hbefore
    exact h.ended (middle ++ before) after (by rw [List.append_assoc]) hbefore hafter

/-- A block that opens in a front ends in it. -/
theorem IsPassed.exists_block {part block : Text} (h : IsPassed left (part ++ '{' :: block)) :
    ∃ inner back, block = inner ++ '}' :: back ∧ isNested inner = true := by
  obtain ⟨awaited, hawaited⟩ := h.nested
  obtain ⟨outer, houter⟩ := Text.exists_awaited part hawaited
  rw [Text.nested_from_brace] at houter
  exact Text.exists_block_end (show isNestedFrom ([] ++ '}' :: outer) block = true from houter)

/-- The keywords in a front do not depend on the block. -/
theorem Frame.keyword_at (frame : Frame) {word : String} (hword : ' ' ∉ word.toList)
    (left middle inner : Text) :
    keywordAt (Cursor.between left (middle ++ frame.rest inner)) word =
      keywordAt (Cursor.between left middle) word :=
  keyword_before_space hword left middle _

/-- The arrows in a front do not depend on the block. -/
theorem Frame.starts_with (frame : Frame) {word : String} (hword : ' ' ∉ word.toList)
    (left middle inner : Text) :
    (Cursor.between left (middle ++ frame.rest inner)).startsWith word =
      (Cursor.between left middle).startsWith word :=
  starts_with_before_space hword left middle _

/-- The walk is not at its end as long as it is in the front. -/
theorem Frame.Surrounds.lt (h : frame.Surrounds inner source stop)
    (hsplit : frame.front = left ++ middle) : byteLength left < stop := by
  have hbefore := h.before_stop
  rw [hsplit, Text.byte_length_append, Text.byte_length_append] at hbefore
  omega

/-- The masked form is cut where the walk stands in the front. -/
theorem Frame.Surrounds.masked_eq (h : frame.Surrounds inner source stop)
    (hsplit : frame.front = left ++ middle) : source.masked = left ++ (middle ++ frame.rest inner) := by
  rw [h.masked, hsplit, List.append_assoc]

/-- A move over a part of the front that is the same whatever stands in the block, and then what is
found after the part. -/
theorem Frame.Finds.of_move {part : Text} (first : List Text)
    (hlater : frame.Finds (left ++ part) right)
    (hmove : ∀ {inner source stop}, frame.Surrounds inner source stop →
      LeadsTo source stop (Cursor.between left (part ++ right ++ frame.rest inner)) first
        (Cursor.between (left ++ part) (right ++ frame.rest inner))) :
    frame.Finds left (part ++ right) := by
  obtain ⟨found, hfound⟩ := hlater
  exact ⟨first ++ found, fun h => (hmove h).trans (hfound h)⟩

/-- From the keyword of a function the walk goes on after the first block: it is one of the front, or the
one that the frame surrounds. -/
theorem finds_past_function (hsplit : frame.front = left ++ middle) (hpassed : IsPassed left middle)
    (hlater : ∀ part right, middle = part ++ right → part ≠ [] → frame.Finds (left ++ part) right)
    (hkeyword : keywordAt (Cursor.between left middle) "function" = true) : frame.Finds left middle := by
  have hsame : ∀ inner, keywordAt (Cursor.between left (middle ++ frame.rest inner)) "function" = true :=
    fun inner => (frame.keyword_at (by decide) left middle _).trans hkeyword
  obtain ⟨after, hafter⟩ := rest_of_keyword_at hkeyword
  replace hafter : middle = "function".toList ++ after := hafter
  by_cases hmem : '{' ∈ after
  · obtain ⟨part, block, rfl, hclear⟩ := List.eq_append_cons_of_mem hmem
    rw [← List.append_assoc] at hafter
    subst hafter
    obtain ⟨body, back, rfl, hbody⟩ := hpassed.exists_block
    have hcut : "function".toList ++ part ++ '{' :: (body ++ '}' :: back) =
        ("function".toList ++ part ++ '{' :: (body ++ ['}'])) ++ back := by simp
    have hback := hlater _ back hcut (by simp)
    rw [hcut] at hsame ⊢
    refine hback.of_move [] fun {inner source stop} h => ?_
    have hrest : "function".toList ++ part ++ '{' :: (body ++ ['}']) ++ back ++ frame.rest inner =
        "function".toList ++ part ++ '{' :: (body ++ '}' :: (back ++ frame.rest inner)) := by simp
    have hpart : byteLength (left ++ ("function".toList ++ part)) < stop :=
      h.lt (hsplit.trans (List.append_assoc left _ _).symm)
    have hpast := past_function_between (hrest ▸ h.masked_eq (hsplit.trans (by rw [hcut])))
      (by simp [hclear]) hbody h.stop_boundary hpart
    rw [← hrest] at hpast
    exact leads_past_function (h.lt hsplit) (hsame inner) hpast
  · refine ⟨[], fun {inner source stop} h => ?_⟩
    have hrest : middle ++ frame.rest inner = middle ++ ' ' :: frame.link ++
        '{' :: (inner ++ '}' :: frame.tail) := by simp [Frame.rest]
    have hbefore := h.before_stop
    rw [hsplit, List.append_assoc] at hbefore
    have hpast := past_function_between (hrest ▸ h.masked_eq hsplit)
      (by simp [hafter, hmem, frame.link_unbraced]) h.nested h.stop_boundary hbefore
    rw [← hrest] at hpast
    have hmove := leads_past_function (h.lt hsplit) (hsame inner) hpast
    have hend : left ++ (middle ++ ' ' :: frame.link ++ '{' :: (inner ++ ['}'])) =
        frame.front ++ ' ' :: (frame.link ++ '{' :: (inner ++ ['}'])) := by simp [hsplit]
    rwa [hend] at hmove

/-- An arrow with only blanks behind it in the front is not followed by a block: the space and the link of
the frame come next. -/
theorem past_arrow_before_link {blank : Text} (hblank : ∀ c ∈ blank, Text.isAsciiBlank c = true) :
    pastArrow source (Cursor.between left ("=>".toList ++ (blank ++ frame.rest inner))) =
      Cursor.between (left ++ "=>".toList) (blank ++ frame.rest inner) := by
  have hrest : blank ++ frame.rest inner =
      blank ++ [' '] ++ (frame.link ++ '{' :: (inner ++ '}' :: frame.tail)) := by simp [Frame.rest]
  rw [hrest]
  refine past_arrow_other (List.forall_mem_append.mpr ⟨hblank, by decide⟩) fun c hc => ?_
  obtain ⟨d, link, hlink⟩ := List.exists_cons_of_ne_nil frame.link_ne_nil
  rw [hlink] at hc
  obtain rfl : d = c := Option.some.inj hc
  have hbrace := frame.link_unbraced
  rw [hlink, List.mem_cons, not_or] at hbrace
  exact ⟨frame.link_visible d (by rw [hlink]; rfl), Ne.symm hbrace.1⟩

/-- From an arrow in the front the walk goes on after the block that follows it, or after the arrow. -/
theorem finds_past_arrow (hsplit : frame.front = left ++ middle) (hpassed : IsPassed left middle)
    (hlater : ∀ part right, middle = part ++ right → part ≠ [] → frame.Finds (left ++ part) right)
    (hkeyword : keywordAt (Cursor.between left middle) "function" = false)
    (harrow : (Cursor.between left middle).startsWith "=>" = true) : frame.Finds left middle := by
  have hmove : ∀ {inner source stop}, frame.Surrounds inner source stop →
      LeadsTo source stop (Cursor.between left (middle ++ frame.rest inner)) []
        (pastArrow source (Cursor.between left (middle ++ frame.rest inner))) := by
    intro inner source stop h
    exact leads_past_arrow (h.lt hsplit) ((frame.keyword_at (by decide) left middle _).trans hkeyword)
      ((frame.starts_with (by decide) left middle _).trans harrow)
  obtain ⟨after, hafter⟩ := Text.starts_with_iff_begins.mp harrow
  obtain rfl : middle = "=>".toList ++ after := hafter.symm
  have hother : (∀ inner source,
      pastArrow source (Cursor.between left ("=>".toList ++ (after ++ frame.rest inner))) =
        Cursor.between (left ++ "=>".toList) (after ++ frame.rest inner)) →
      frame.Finds left ("=>".toList ++ after) := by
    intro hpast
    refine (hlater "=>".toList after rfl (by decide)).of_move [] fun {inner source stop} h => ?_
    have hstep := hmove h
    rwa [List.append_assoc, hpast] at hstep
  have hblank : ∀ c ∈ after.takeWhile Text.isAsciiBlank, Text.isAsciiBlank c = true :=
    fun c hc => List.mem_takeWhile_imp hc
  have htake : after.takeWhile Text.isAsciiBlank ++ after.dropWhile Text.isAsciiBlank = after :=
    List.takeWhile_append_dropWhile
  generalize after.takeWhile Text.isAsciiBlank = blank at hblank htake
  cases hdrop : after.dropWhile Text.isAsciiBlank with
  | nil =>
      rw [hdrop, List.append_nil] at htake
      subst htake
      exact hother fun inner source => past_arrow_before_link hblank
  | cons d block =>
      have hvisible := Text.head_drop_while hdrop
      rw [hdrop] at htake
      subst htake
      by_cases hbrace : d = '{'
      · subst hbrace
        rw [← List.append_assoc] at hpassed
        obtain ⟨body, back, rfl, hbody⟩ := hpassed.exists_block
        have hcut : "=>".toList ++ (blank ++ '{' :: (body ++ '}' :: back)) =
            "=>".toList ++ (blank ++ '{' :: (body ++ ['}'])) ++ back := by simp
        have hback := hlater _ back hcut (by simp)
        rw [hcut]
        refine hback.of_move [] fun {inner source stop} h => ?_
        have hstep := hmove h
        have hrest : "=>".toList ++ (blank ++ '{' :: (body ++ '}' :: back)) ++ frame.rest inner =
            "=>".toList ++ (blank ++ '{' :: (body ++ '}' :: (back ++ frame.rest inner))) := by simp
        have hpast := past_arrow_block (hrest ▸ h.masked_eq hsplit) hblank hbody
        rw [← hrest] at hpast
        rw [hpast] at hstep
        rwa [hcut] at hstep
      · refine hother fun inner source => ?_
        rw [List.append_assoc]
        refine past_arrow_other hblank fun c hc => ?_
        obtain rfl : d = c := Option.some.inj hc
        exact ⟨hvisible, hbrace⟩

/-- The expression of a `return` statement in the front ends in it. -/
theorem finds_past_return (hsplit : frame.front = left ++ middle) (hpassed : IsPassed left middle)
    (hlater : ∀ part right, middle = part ++ right → part ≠ [] → frame.Finds (left ++ part) right)
    (hkeyword : keywordAt (Cursor.between left middle) "function" = false)
    (harrow : (Cursor.between left middle).startsWith "=>" = false)
    (hreturn : keywordAt (Cursor.between left middle) "return" = true) : frame.Finds left middle := by
  obtain ⟨after, hafter⟩ := rest_of_keyword_at hreturn
  replace hafter : middle = "return".toList ++ after := hafter
  subst hafter
  obtain ⟨hbefore, hword⟩ : left.getLast?.any isWordPart = false ∧ after.head?.any isWordPart = false := by
    rw [keyword_at_between, Text.drop_head_eq, List.take_left, if_pos rfl, List.drop_left] at hreturn
    simpa using hreturn
  obtain ⟨value, back, rfl, hback, hends⟩ := expression_end_within
    (hpassed.ended [] after rfl (by rwa [List.append_nil]) hword) []
  have hcut : "return".toList ++ (value ++ back) = "return".toList ++ value ++ back :=
    (List.append_assoc _ _ _).symm
  have hread : frame.front = left ++ ("return".toList ++ value) ++ back := by
    rw [hsplit, hcut, List.append_assoc left]
  have hback := hlater ("return".toList ++ value) back hcut (by simp)
  rw [hcut] at hkeyword harrow hreturn ⊢
  refine hback.of_move [(cut? ⟨frame.code, []⟩ (byteLength (left ++ "return".toList))
    (byteLength (left ++ ("return".toList ++ value)))).getD []] fun {inner source stop} h => ?_
  have hadvance : (Cursor.between left ("return".toList ++ value ++ back ++ frame.rest inner)).advanceBy
      6 = Cursor.between (left ++ "return".toList) (value ++ back ++ frame.rest inner) := by
    rw [List.append_assoc, List.append_assoc, show 6 = "return".toList.length from rfl,
      Cursor.advance_by_between, List.append_assoc]
  have hlast : min (expressionEnd ((Cursor.between left ("return".toList ++ value ++ back ++
      frame.rest inner)).advanceBy 6) [';']) stop = byteLength (left ++ ("return".toList ++ value)) := by
    have hend : expressionEnd (Cursor.between (left ++ "return".toList)
        (value ++ back ++ frame.rest inner)) [';'] = byteLength (left ++ ("return".toList ++ value)) := by
      rw [← List.append_assoc, Text.byte_length_append]
      exact hends _ _ _
    rw [hadvance, hend]
    exact Nat.min_eq_left (Nat.le_of_lt (h.lt hread))
  have hseek := Cursor.seek_between (left ++ ("return".toList ++ value)) (back ++ frame.rest inner)
  rw [← h.masked_eq hread] at hseek
  have hmove := leads_past_return (h.lt (hsplit.trans (by rw [hcut])))
    ((frame.keyword_at (by decide) left _ inner).trans hkeyword)
    ((frame.starts_with (by decide) left _ inner).trans harrow)
    ((frame.keyword_at (by decide) left _ inner).trans hreturn) hlast hseek
  -- The expression is cut out of the front of the source.
  have hsame : cut? source (byteLength (left ++ "return".toList))
      (byteLength (left ++ ("return".toList ++ value))) =
        cut? ⟨frame.code, []⟩ (byteLength (left ++ "return".toList))
          (byteLength (left ++ ("return".toList ++ value))) := by
    obtain ⟨rest, hrest⟩ := h.code
    rw [cut?, cut?, hrest, Text.slice_before]
    rw [frame.layout, hread, Text.byte_length_append (left ++ _)]
    exact Nat.le_add_right _ _
  rw [hadvance] at hmove
  change LeadsTo source stop _ [(cut? source (byteLength (left ++ "return".toList)) _).getD []] _ at hmove
  rwa [hsame] at hmove

/-- Elsewhere in the front the walk goes on over one character. -/
theorem finds_on (hsplit : frame.front = left ++ middle)
    (hlater : ∀ part right, middle = part ++ right → part ≠ [] → frame.Finds (left ++ part) right)
    (hkeyword : keywordAt (Cursor.between left middle) "function" = false)
    (harrow : (Cursor.between left middle).startsWith "=>" = false)
    (hreturn : keywordAt (Cursor.between left middle) "return" = false) : frame.Finds left middle := by
  have hmove : ∀ {inner source stop}, frame.Surrounds inner source stop →
      LeadsTo source stop (Cursor.between left (middle ++ frame.rest inner)) []
        (Cursor.between left (middle ++ frame.rest inner)).advance := by
    intro inner source stop h
    exact leads_on (h.lt hsplit) (by simp [Cursor.between, Frame.rest])
      ((frame.keyword_at (by decide) left middle _).trans hkeyword)
      ((frame.starts_with (by decide) left middle _).trans harrow)
      ((frame.keyword_at (by decide) left middle _).trans hreturn)
  cases middle with
  | nil =>
      refine ⟨[], fun {inner source stop} h => ?_⟩
      have hstep := hmove h
      have hpassed := h.passed
      rw [List.nil_append, Frame.rest, Cursor.advance_between] at hstep
      rw [hsplit, List.append_nil] at hpassed
      exact hstep.trans hpassed
  | cons c right =>
      refine (hlater [c] right rfl (List.cons_ne_nil _ _)).of_move [] fun {inner source stop} h => ?_
      have hstep := hmove h
      rwa [List.cons_append, Cursor.advance_between] at hstep

/-- What the walk finds from the front to the end of the block does not depend on what stands in it. -/
theorem finds_of_passed (hsplit : frame.front = left ++ middle) (hpassed : IsPassed left middle) :
    frame.Finds left middle := by
  induction hlength : middle.length using Nat.strong_induction_on generalizing left middle with
  | _ n ih =>
  have hlater : ∀ part right, middle = part ++ right → part ≠ [] →
      frame.Finds (left ++ part) right := by
    rintro part right rfl hpart
    have hpos := List.length_pos_iff.mpr hpart
    rw [List.length_append] at hlength
    exact ih _ (by omega) (by rw [hsplit, List.append_assoc]) hpassed.suffix rfl
  cases hkeyword : keywordAt (Cursor.between left middle) "function" with
  | true => exact finds_past_function hsplit hpassed hlater hkeyword
  | false =>
  cases harrow : (Cursor.between left middle).startsWith "=>" with
  | true => exact finds_past_arrow hsplit hpassed hlater hkeyword harrow
  | false =>
  cases hreturn : keywordAt (Cursor.between left middle) "return" with
  | true => exact finds_past_return hsplit hpassed hlater hkeyword harrow hreturn
  | false => exact finds_on hsplit hlater hkeyword harrow hreturn

end Front

end CodeAtlas.Hint
