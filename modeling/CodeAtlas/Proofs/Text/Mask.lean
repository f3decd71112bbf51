import CodeAtlas.Proofs.Text.Cut
import CodeAtlas.Text.Mask
import CodeAtlas.Text.Position

/-!
# The layout of a masked text

`SameLayout` says what masking may do to a text: each character stays, or spaces of as many bytes
take its place. Read it first. Whatever follows from it holds of both modes: lengths, boundaries and
lines of the masked text are those of the source, and a character of the masked text that is no
space stands in the source at the same offset (`SameLayout.stands_at`). That no comment is left to
open is a fact about the masking machine itself (`mask_keeps_layout` has both).
-/

namespace CodeAtlas.Text

/-- A text with some characters blanked out: each stays or, if it is no line feed, becomes as many
spaces as it has bytes. -/
inductive SameLayout : Text → Text → Prop
  | nil : SameLayout [] []
  | keep {c : Char} {text masked : Text} (rest : SameLayout text masked) :
      SameLayout (c :: text) (c :: masked)
  | blank {c : Char} {text masked : Text} (hfeed : c ≠ '\n') (rest : SameLayout text masked) :
      SameLayout (c :: text) (List.replicate c.utf8Size ' ' ++ masked)

/-- Masking keeps the layout, in whatever state it starts. -/
theorem mask_from_same_layout (mode : MaskMode) (state : MaskState) (text : Text) :
    SameLayout text (maskFrom mode state text) := by
  induction text generalizing state with
  | nil => exact .nil
  | cons c rest ih =>
      rw [maskFrom]
      by_cases hkeep : state.keeps mode c rest.head? = true
      · rw [if_pos hkeep]
        exact .keep (ih _)
      · rw [if_neg hkeep, blank]
        by_cases hfeed : c = '\n'
        · rw [if_pos hfeed, hfeed]
          exact .keep (ih _)
        · rw [if_neg hfeed]
          exact .blank hfeed (ih _)

/-- Masking keeps the layout. -/
theorem mask_same_layout (mode : MaskMode) (text : Text) : SameLayout text (mask mode text) :=
  mask_from_same_layout mode .code text

/-- A row of spaces has one byte each. -/
theorem byte_length_spaces (count : Nat) : byteLength (List.replicate count ' ') = count := by
  have hspace : ' '.utf8Size = 1 := by decide
  induction count with
  | zero => rfl
  | succ n ih => rw [List.replicate_succ, byteLength, ih, hspace, Nat.add_comm]

/-- There are no line feeds among no bytes. -/
theorem line_feeds_before_zero (text : Text) : lineFeedsBefore text 0 = 0 := by
  cases text <;> rfl

/-- There are no line feeds in a row of spaces. -/
theorem line_feeds_before_spaces (count : Nat) (rest : Text) (offset : Nat) :
    lineFeedsBefore (List.replicate count ' ' ++ rest) offset =
      lineFeedsBefore rest (offset - count) := by
  have hsize : ' '.utf8Size = 1 := by decide
  induction count generalizing offset with
  | zero => rfl
  | succ n ih =>
      rw [List.replicate_succ, List.cons_append, lineFeedsBefore, ih, hsize]
      by_cases hzero : offset = 0
      · rw [if_pos hzero, hzero, Nat.zero_sub, line_feeds_before_zero]
      · rw [if_neg hzero, if_neg (by decide), Nat.zero_add, Nat.sub_sub, Nat.add_comm]

namespace SameLayout

variable {text masked : Text}

/-- Both texts have as many bytes. -/
theorem byte_length_eq (layout : SameLayout text masked) : byteLength masked = byteLength text := by
  induction layout with
  | nil => rfl
  | keep _ ih => rw [byteLength, byteLength, ih]
  | blank _ _ ih => rw [byte_length_append, byte_length_spaces, byteLength, ih]

/-- Where the source splits, the masked text splits. -/
theorem split (layout : SameLayout text masked) {front back : Text} (htext : text = front ++ back) :
    ∃ front' back', masked = front' ++ back' ∧ byteLength front' = byteLength front ∧
      SameLayout back back' := by
  induction layout generalizing front with
  | nil =>
      obtain ⟨rfl, rfl⟩ := List.append_eq_nil_iff.mp htext.symm
      exact ⟨[], [], rfl, rfl, .nil⟩
  | @keep c text masked rest ih =>
      cases front with
      | nil =>
          rw [List.nil_append] at htext
          exact ⟨[], c :: masked, rfl, rfl, htext ▸ .keep rest⟩
      | cons d front =>
          simp only [List.cons_append, List.cons.injEq] at htext
          obtain ⟨rfl, htext⟩ := htext
          obtain ⟨front', back', rfl, hlength, hback⟩ := ih htext
          exact ⟨c :: front', back', rfl, by rw [byteLength, byteLength, hlength], hback⟩
  | @blank c text masked hfeed rest ih =>
      cases front with
      | nil =>
          rw [List.nil_append] at htext
          exact ⟨[], _, rfl, rfl, htext ▸ .blank hfeed rest⟩
      | cons d front =>
          simp only [List.cons_append, List.cons.injEq] at htext
          obtain ⟨rfl, htext⟩ := htext
          obtain ⟨front', back', rfl, hlength, hback⟩ := ih htext
          refine ⟨List.replicate c.utf8Size ' ' ++ front', back', by simp, ?_, hback⟩
          rw [byte_length_append, byte_length_spaces, byteLength, hlength]

/-- A boundary of the source is one of the masked text. -/
theorem is_boundary (layout : SameLayout text masked) {offset : Nat} (h : IsBoundary text offset) :
    IsBoundary masked offset := by
  obtain ⟨front, back, htext, rfl⟩ := h
  obtain ⟨front', back', hmasked, hlength, -⟩ := layout.split htext
  exact ⟨front', back', hmasked, hlength⟩

/-- A character of the source stands in the masked text as well, or spaces do. -/
theorem char_cases (layout : SameLayout text masked) {offset : Nat} {c : Char}
    (h : StandsAt text offset [c]) :
    StandsAt masked offset [c] ∨
      (c ≠ '\n' ∧ StandsAt masked offset (List.replicate c.utf8Size ' ')) := by
  obtain ⟨front, back, htext, rfl⟩ := h
  obtain ⟨front', back', rfl, hlength, hback⟩ := layout.split htext
  cases hback with
  | keep _ => exact Or.inl ⟨front', _, rfl, hlength⟩
  | blank hfeed _ => exact Or.inr ⟨hfeed, front', _, rfl, hlength⟩

/-- A character of the masked text that is no space stands in the source. -/
theorem stands_at (layout : SameLayout text masked) {offset : Nat} {c : Char} (hc : c ≠ ' ')
    (h : StandsAt masked offset [c]) : StandsAt text offset [c] := by
  obtain ⟨front, back, hmasked, rfl⟩ := h
  rw [List.singleton_append] at hmasked
  induction layout generalizing front with
  | nil => simp at hmasked
  | @keep d text masked rest ih =>
      cases front with
      | nil =>
          simp only [List.nil_append, List.cons.injEq] at hmasked
          obtain ⟨rfl, -⟩ := hmasked
          exact ⟨[], text, rfl, rfl⟩
      | cons e front =>
          simp only [List.cons_append, List.cons.injEq] at hmasked
          obtain ⟨rfl, hmasked⟩ := hmasked
          obtain ⟨left, right, rfl, hlength⟩ := ih front hmasked
          exact ⟨d :: left, right, rfl, by rw [byteLength, byteLength, hlength]⟩
  | @blank d text masked hfeed rest ih =>
      -- The character is none of the spaces, so it comes after all of them.
      rcases List.append_eq_append_iff.mp hmasked with ⟨middle, rfl, htail⟩ | ⟨middle, hspaces, htail⟩
      · obtain ⟨left, right, rfl, hlength⟩ := ih middle htail
        refine ⟨d :: left, right, rfl, ?_⟩
        rw [byteLength, hlength, byte_length_append, byte_length_spaces]
      · cases middle with
        | nil =>
            obtain ⟨left, right, rfl, hlength⟩ := ih [] (by simpa using htail.symm)
            refine ⟨d :: left, right, rfl, ?_⟩
            rw [List.append_nil] at hspaces
            rw [byteLength, hlength, ← hspaces, byte_length_spaces, byteLength, Nat.add_zero]
        | cons e middle =>
            simp only [List.cons_append, List.cons.injEq] at htail
            have hmem : c ∈ List.replicate d.utf8Size ' ' := by simp [hspaces, htail.1]
            exact absurd (List.eq_of_mem_replicate hmem) hc

/-- A part of the masked text without spaces stands in the source. -/
theorem part_stands_at (layout : SameLayout text masked) {offset : Nat} {part : Text}
    (hspace : ' ' ∉ part) (h : StandsAt masked offset part) (hne : part ≠ []) :
    StandsAt text offset part := by
  induction part generalizing offset with
  | nil => exact absurd rfl hne
  | cons c part ih =>
      rw [List.mem_cons, not_or] at hspace
      have hfirst : StandsAt masked offset ([c] ++ part) := h
      have hc := layout.stands_at (Ne.symm hspace.1) hfirst.front
      cases part with
      | nil => exact hc
      | cons d part => exact hc.cons (ih hspace.2 h.tail (List.cons_ne_nil d part))

/-- Among as many first bytes there are as many line feeds. -/
theorem line_feeds_before_eq (layout : SameLayout text masked) (offset : Nat) :
    lineFeedsBefore masked offset = lineFeedsBefore text offset := by
  induction layout generalizing offset with
  | nil => rfl
  | keep _ ih => rw [lineFeedsBefore, lineFeedsBefore, ih]
  | @blank c text masked hfeed _ ih =>
      rw [line_feeds_before_spaces, ih, lineFeedsBefore, if_neg hfeed, Nat.zero_add]
      by_cases hzero : offset = 0
      · rw [if_pos hzero, hzero, Nat.zero_sub, line_feeds_before_zero]
      · rw [if_neg hzero]

end SameLayout

/-- A text whose front does not hold the first character of a part contains the part just where the
rest does. -/
theorem contains_append {c : Char} {front rest tail : Text} (hfront : c ∉ front) :
    contains (front ++ rest) (c :: tail) = contains rest (c :: tail) := by
  induction front with
  | nil => rfl
  | cons d front ih =>
      simp only [List.mem_cons, not_or] at hfront
      rw [List.cons_append, contains, startsWith, ih hfront.2, decide_eq_false (Ne.symm hfront.1)]
      rfl

/-- A blanked character holds no slash. -/
theorem slash_not_mem_blank (c : Char) : '/' ∉ blank c := by
  rw [blank]
  split
  · decide
  · intro hmem
    exact absurd (List.eq_of_mem_replicate hmem) (by decide)

namespace MaskState

/-- A state fits the character that follows it: after the first character of a comment's opening or
closing comes the second one, and literals are in quotes. -/
def Fits : MaskState → Option Char → Prop
  | .opening block, following => following = some (if block then '*' else '/')
  | .closing, following => following = some '/'
  | .literal quote, _ | .escaped quote, _ => quote = '\'' ∨ quote = '"' ∨ quote = '`'
  | _, _ => True

variable {state : MaskState} {c : Char} {following : Option Char}

/-- The state after a character fits what follows it. -/
theorem Fits.next (hstate : state.Fits (some c)) (following : Option Char) :
    (state.next c following).Fits following := by
  cases state with
  | code =>
      rw [MaskState.next]
      split
      · next hopens =>
          show following = some '/'
          exact of_decide_eq_true (Bool.and_eq_true_iff.mp hopens).2
      · split
        · next hopens =>
            show following = some '*'
            exact of_decide_eq_true (Bool.and_eq_true_iff.mp hopens).2
        · split
          · next hquote => simpa [Fits, or_assoc] using hquote
          · trivial
  | opening block => cases block <;> trivial
  | lineComment =>
      rw [MaskState.next]
      split <;> trivial
  | blockComment =>
      rw [MaskState.next]
      split
      · next hcloses =>
          show following = some '/'
          exact of_decide_eq_true (Bool.and_eq_true_iff.mp hcloses).2
      · trivial
  | closing => trivial
  | literal quote =>
      rw [MaskState.next]
      split
      · exact hstate
      · split
        · trivial
        · split
          · trivial
          · exact hstate
  | escaped quote => exact hstate

/-- Where literals are blanked out, a character that is no quote is kept in code only. -/
theorem Fits.code_of_keeps (hstate : state.Fits (some c))
    (hquote : c ≠ '\'' ∧ c ≠ '"' ∧ c ≠ '`') (hkeep : state.keeps .all c following = true) :
    state = .code := by
  cases state with
  | code => rfl
  | literal quote =>
      have heq : c = quote := by simpa [keeps] using hkeep
      rw [heq] at hquote
      rcases hstate with h | h | h
      · exact absurd h hquote.1
      · exact absurd h hquote.2.1
      · exact absurd h hquote.2.2
  | _ => simp [keeps] at hkeep

/-- A character that is blanked out right before code is the end of a comment or a line feed. -/
theorem Fits.of_next_code (hstate : state.Fits (some c))
    (hnext : state.next c following = .code) (hkeep : ¬state.keeps .all c following = true) :
    c = '/' ∨ c = '\n' := by
  cases state with
  | code =>
      simp only [keeps, Bool.not_eq_true', Bool.not_eq_false, Bool.and_eq_true] at hkeep
      exact Or.inl (of_decide_eq_true hkeep.1)
  | opening block => cases block <;> cases hnext
  | lineComment =>
      rw [MaskState.next] at hnext
      split at hnext
      · next hfeed => exact Or.inr hfeed
      · cases hnext
  | blockComment =>
      rw [MaskState.next] at hnext
      split at hnext <;> cases hnext
  | closing => exact Or.inl (Option.some.inj hstate)
  | literal quote =>
      simp only [keeps, reduceCtorEq, decide_false, Bool.false_or, decide_eq_true_eq] at hkeep
      rw [MaskState.next, if_neg hkeep] at hnext
      split at hnext
      · cases hnext
      · split at hnext
        · next hfeed => exact Or.inr (of_decide_eq_true (Bool.and_eq_true_iff.mp hfeed).1)
        · cases hnext
  | escaped quote => cases hnext

end MaskState

/-- In code, a character that does not open a comment is kept. -/
theorem head_mask_from_code (mode : MaskMode) {c : Char} (hc : c ≠ '/') (rest : Text) :
    (maskFrom mode .code (c :: rest)).head? = some c := by
  rw [maskFrom, if_pos (by simp [MaskState.keeps, hc])]
  rfl

/-- Where literals are blanked out, no comment is left to open. -/
theorem mask_from_contains_no_opening {state : MaskState} {text : Text}
    (hstate : state.Fits text.head?) {d : Char} (hd : d = '/' ∨ d = '*') :
    contains (maskFrom .all state text) ['/', d] = false := by
  induction text generalizing state with
  | nil => rfl
  | cons c rest ih =>
      have hrest := ih (hstate.next rest.head?)
      rw [maskFrom]
      split
      · next hkeep =>
          by_cases hslash : c = '/'
          · subst hslash
            obtain rfl := hstate.code_of_keeps (by decide) hkeep
            obtain ⟨hline, hblock⟩ : rest.head? ≠ some '/' ∧ rest.head? ≠ some '*' := by
              simpa [MaskState.keeps] using hkeep
            have hnext : MaskState.next .code '/' rest.head? = .code := by
              simp [MaskState.next, hline, hblock]
            rw [hnext] at hrest ⊢
            rw [List.singleton_append, contains, hrest, Bool.or_false, startsWith]
            cases rest with
            | nil => rfl
            | cons e rest =>
                have hslash : e ≠ '/' := fun heq => hline (by rw [heq]; rfl)
                have hstar : e ≠ '*' := fun heq => hblock (by rw [heq]; rfl)
                obtain ⟨tail, htail⟩ := List.head?_eq_some_iff.mp
                  (head_mask_from_code .all hslash rest)
                have hne : e ≠ d := by
                  rcases hd with rfl | rfl
                  · exact hslash
                  · exact hstar
                rw [htail, startsWith, decide_eq_false hne]
                simp
          · rw [contains_append (by simpa using Ne.symm hslash), hrest]
      · rw [contains_append (slash_not_mem_blank c), hrest]

/-- A character that is blanked out takes its own number of bytes. -/
theorem byte_length_blank (c : Char) : byteLength (blank c) = c.utf8Size := by
  rw [blank]
  split
  · next hc => rw [hc]; rfl
  · exact byte_length_spaces _

/-- Spaces and line feeds are all that is left of a character that is blanked out. -/
theorem of_mem_blank {c d : Char} (h : d ∈ blank c) : d = ' ' ∨ d = '\n' := by
  rw [blank] at h
  split at h
  · exact Or.inr (List.mem_singleton.mp h)
  · exact Or.inl (List.eq_of_mem_replicate h)

section Letter

variable {state : MaskState} {text back : Text} {offset : Nat} {c : Char}

/-- An identifier character is none of the characters that are not. -/
theorem ne_of_ident (hc : isIdentChar c = true) {d : Char} (hd : isIdentChar d = false) : c ≠ d := by
  rintro rfl
  rw [hc] at hd
  cases hd

/-- An identifier character is not blanked out. -/
theorem not_mem_blank (hc : isIdentChar c = true) (d : Char) : c ∉ blank d := by
  intro hmem
  rcases of_mem_blank hmem with hspace | hfeed
  · exact ne_of_ident hc (by decide) hspace
  · exact ne_of_ident hc (by decide) hfeed

/-- Where literals are blanked out, an identifier character comes first only in code. -/
theorem code_of_mask_from (hstate : state.Fits text.head?) (hc : isIdentChar c = true)
    (h : maskFrom .all state text = c :: back) :
    state = .code ∧ ∃ rest, text = c :: rest ∧ back = maskFrom .all .code rest := by
  cases text with
  | nil => cases h
  | cons d rest =>
      rw [maskFrom] at h
      split at h
      · next hkeep =>
          simp only [List.singleton_append, List.cons.injEq] at h
          obtain ⟨rfl, hback⟩ := h
          have hquote : d ≠ '\'' ∧ d ≠ '"' ∧ d ≠ '`' :=
            ⟨ne_of_ident hc (by decide), ne_of_ident hc (by decide), ne_of_ident hc (by decide)⟩
          obtain rfl := hstate.code_of_keeps hquote hkeep
          have hslash : d ≠ '/' := ne_of_ident hc (by decide)
          have hnext : MaskState.next .code d rest.head? = .code := by
            simp [MaskState.next, hslash, hquote]
          rw [hnext] at hback
          exact ⟨rfl, rest, rfl, hback.symm⟩
      · exfalso
        have hpos := Char.utf8Size_pos d
        have hlength := byte_length_blank d
        cases hblank : blank d with
        | nil =>
            rw [hblank, byteLength] at hlength
            omega
        | cons e tail =>
            rw [hblank, List.cons_append, List.cons.injEq] at h
            have hmem : c ∈ blank d := by simp [hblank, h.1]
            exact not_mem_blank hc d hmem

/-- A space that comes first in code stands for a character of one byte. -/
theorem one_byte_of_mask_from_code (h : maskFrom .all .code text = ' ' :: back) :
    ∃ d rest, text = d :: rest ∧ d.utf8Size = 1 := by
  cases text with
  | nil => cases h
  | cons d rest =>
      refine ⟨d, rest, rfl, ?_⟩
      rw [maskFrom] at h
      split at h
      · simp only [List.singleton_append, List.cons.injEq] at h
        rw [h.1]
        rfl
      · next hkeep =>
          have hslash : d = '/' := by
            simp only [MaskState.keeps, Bool.not_eq_true', Bool.not_eq_false,
              Bool.and_eq_true] at hkeep
            exact of_decide_eq_true hkeep.1
          rw [hslash]
          rfl

/-- A part of a masked text stands in what follows the first character, or starts with the end of
what that character has become. -/
theorem mask_from_cases {d : Char} {rest part : Text}
    (h : StandsAt (maskFrom .all state (d :: rest)) offset part) :
    (d.utf8Size ≤ offset ∧
        StandsAt (maskFrom .all (state.next d rest.head?) rest) (offset - d.utf8Size) part) ∨
      ∃ front middle tail,
        (if state.keeps .all d rest.head? = true then [d] else blank d) = front ++ middle ∧
          middle ≠ [] ∧ byteLength front = offset ∧ offset < d.utf8Size ∧
          middle ++ maskFrom .all (state.next d rest.head?) rest = part ++ tail := by
  have hlength : byteLength (if state.keeps .all d rest.head? = true then [d] else blank d) =
      d.utf8Size := by
    split
    · rfl
    · exact byte_length_blank d
  rw [maskFrom] at h
  rcases Nat.lt_or_ge offset d.utf8Size with hlt | hle
  · obtain ⟨front, middle, tail, hpiece, hne, hfront, hsplit⟩ := h.of_append_lt (by omega)
    exact Or.inr ⟨front, middle, tail, hpiece, hne, hfront, hlt, hsplit⟩
  · have hrest := h.of_append_le (by omega)
    rw [hlength] at hrest
    exact Or.inl ⟨hle, hrest⟩

/-- A space right before a letter of code is one byte of the source as well. -/
theorem boundary_before_letter (hstate : state.Fits text.head?) (hc : isIdentChar c = true)
    (h : StandsAt (maskFrom .all state text) offset [' ', c]) : IsBoundary text offset := by
  induction text generalizing state offset with
  | nil =>
      obtain ⟨front, tail, hsplit, -⟩ := h
      simp [maskFrom] at hsplit
  | cons d rest ih =>
      rcases mask_from_cases h with ⟨hle, hlater⟩ | ⟨front, middle, tail, hpiece, hne, hfront, hlt, hsplit⟩
      · have hboundary := (ih (hstate.next rest.head?) hlater).cons d
        rwa [Nat.add_sub_cancel' hle] at hboundary
      · by_cases hzero : offset = 0
        · exact hzero ▸ is_boundary_zero _
        · -- The space would be the last one of several that stand for one character. But right
          -- before code only characters of one byte are blanked out.
          exfalso
          have hsmall : d.utf8Size ≠ 1 := by omega
          obtain ⟨e, middle, rfl⟩ := List.exists_cons_of_ne_nil hne
          split at hpiece
          · cases front with
            | nil => exact hzero hfront.symm
            | cons f front => simp at hpiece
          · next hkeep =>
              simp only [List.cons_append, List.cons.injEq] at hsplit
              have hmiddle : middle = [] := by
                by_contra hsome
                obtain ⟨f, middle, rfl⟩ := List.exists_cons_of_ne_nil hsome
                simp only [List.cons_append, List.cons.injEq] at hsplit
                have hmem : c ∈ blank d := by simp [hpiece, hsplit.2.1]
                exact not_mem_blank hc d hmem
              rw [hmiddle] at hsplit
              obtain ⟨hcode, -⟩ := code_of_mask_from (hstate.next rest.head?) hc hsplit.2
              rcases hstate.of_next_code hcode hkeep with hslash | hfeed
              · exact hsmall (hslash ▸ rfl)
              · exact hsmall (hfeed ▸ rfl)

/-- A space right after a letter of code is one byte of the source as well. -/
theorem boundary_after_letter (hstate : state.Fits text.head?) (hc : isIdentChar c = true)
    (h : StandsAt (maskFrom .all state text) offset [c, ' ']) :
    IsBoundary text (offset + c.utf8Size + 1) := by
  induction text generalizing state offset with
  | nil =>
      obtain ⟨front, tail, hsplit, -⟩ := h
      simp [maskFrom] at hsplit
  | cons d rest ih =>
      rcases mask_from_cases h with ⟨hle, hlater⟩ | ⟨front, middle, tail, hpiece, hne, hfront, hlt, hsplit⟩
      · have hboundary := (ih (hstate.next rest.head?) hlater).cons d
        have hsum : d.utf8Size + (offset - d.utf8Size + c.utf8Size + 1) =
            offset + c.utf8Size + 1 := by
          omega
        exact hsum ▸ hboundary
      · obtain ⟨e, middle, rfl⟩ := List.exists_cons_of_ne_nil hne
        simp only [List.cons_append, List.cons.injEq] at hsplit
        split at hpiece
        · next hkeep =>
            cases front with
            | cons f front => simp at hpiece
            | nil =>
                simp only [List.nil_append, List.cons.injEq] at hpiece
                obtain ⟨rfl, rfl⟩ := hpiece
                obtain ⟨rfl, hrest⟩ := hsplit
                rw [byteLength] at hfront
                have hmask : maskFrom .all state (d :: rest) = d :: ' ' :: tail := by
                  rw [maskFrom, if_pos hkeep]
                  exact congrArg (d :: ·) hrest
                obtain ⟨-, rest', hcons, hspace⟩ := code_of_mask_from hstate hc hmask
                obtain rfl := (List.cons.inj hcons).2
                obtain ⟨f, rest, rfl, hone⟩ := one_byte_of_mask_from_code hspace.symm
                exact ⟨[d, f], rest, rfl, by simp [byteLength, hone, ← hfront]⟩
        · next hkeep =>
            have hmem : c ∈ blank d := by simp [hpiece, hsplit.1]
            exact absurd hmem (not_mem_blank hc d)

end Letter

/-- Masking keeps the layout. The masked text has as many bytes; each character stands at its own
byte offset as it is or, if it is no line feed, as that many spaces; lines and boundaries are where
they were; and with the contents of literals blanked out too, nothing opens a comment any more. -/
theorem mask_keeps_layout (mode : MaskMode) (text : Text) :
    byteLength (mask mode text) = byteLength text ∧
    (∀ offset c, StandsAt text offset [c] →
      StandsAt (mask mode text) offset [c] ∨
        (c ≠ '\n' ∧ StandsAt (mask mode text) offset (List.replicate c.utf8Size ' '))) ∧
    (∀ offset, lineOfOffset (mask mode text) offset = lineOfOffset text offset) ∧
    (∀ offset, IsBoundary text offset → IsBoundary (mask mode text) offset) ∧
    contains (mask .all text) "//".toList = false ∧
    contains (mask .all text) "/*".toList = false := by
  have layout := mask_same_layout mode text
  have hcode : MaskState.Fits .code text.head? := trivial
  refine ⟨layout.byte_length_eq, fun offset c => layout.char_cases, fun offset => ?_,
    fun offset => layout.is_boundary, ?_, ?_⟩
  · rw [lineOfOffset, lineOfOffset, layout.line_feeds_before_eq]
  · exact mask_from_contains_no_opening hcode (Or.inl rfl)
  · exact mask_from_contains_no_opening hcode (Or.inr rfl)

/-- In a text with an accented letter in a literal, a comment and a second line, the letter is two
spaces wide and the line feed stays at byte 7. -/
theorem mask_keeps_layout_two_lines :
    StandsAt "'é'//x\ny".toList 1 ['é'] ∧ IsBoundary "'é'//x\ny".toList 7 ∧
      StandsAt (mask .all "'é'//x\ny".toList) 1 [' ', ' '] ∧
      StandsAt (mask .all "'é'//x\ny".toList) 7 ['\n'] ∧
      IsBoundary (mask .all "'é'//x\ny".toList) 7 := by
  have hletter : StandsAt "'é'//x\ny".toList 1 ['é'] :=
    ⟨['\''], "'//x\ny".toList, by decide, by decide⟩
  have hfeed : StandsAt "'é'//x\ny".toList 7 ['\n'] :=
    ⟨"'é'//x".toList, ['y'], by decide, by decide⟩
  obtain ⟨-, hchars, -, hboundaries, -⟩ := mask_keeps_layout .all "'é'//x\ny".toList
  refine ⟨hletter, hfeed.start_boundary, ?_, ?_, hboundaries 7 hfeed.start_boundary⟩
  · rcases hchars 1 'é' hletter with hkept | ⟨-, hspaces⟩
    · obtain ⟨front, back, hmasked, -⟩ := hkept
      have hmem : 'é' ∈ mask .all "'é'//x\ny".toList := by
        rw [hmasked]
        simp
      exact absurd hmem (by decide)
    · exact hspaces
  · rcases hchars 7 '\n' hfeed with hkept | ⟨hfeed, -⟩
    · exact hkept
    · exact absurd rfl hfeed

end CodeAtlas.Text
