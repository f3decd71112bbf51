import CodeAtlas.Proofs.Text.Mask

/-!
# The literals of a text

The masking machine says where literals are. `MaskState.after` is the state it has reached after a
front of the text; `InCode` and `IsLiteral` say with it where code is and which parts stand between
the quotes of a literal. A part without the quote that opened it is enclosed by its quotes just if it
is whole, which can be read off the part alone (`encloses_iff`). Literals are kept when comments are
blanked out, so a part of one is found in the source as it stands (`part_of_mask_from_literal`), and
the first quote after a place in code opens a literal (`opens_of_mask_from`).
-/

namespace CodeAtlas.Text

/-- The quotes that open literals. -/
def IsQuote (c : Char) : Prop :=
  c = '\'' ∨ c = '"' ∨ c = '`'

/-- A part without the quotes that open literals. -/
def IsUnquoted (part : Text) : Prop :=
  ∀ c ∈ part, ¬IsQuote c

instance (part : Text) : Decidable (IsUnquoted part) :=
  inferInstanceAs (Decidable (∀ c ∈ part, ¬(_ ∨ _)))

/-- The state after `front`, when `back` follows it. -/
def MaskState.after : MaskState → Text → Text → MaskState
  | state, [], _ => state
  | state, c :: front, back => (state.next c (front ++ back).head?).after front back

/-- The masking machine stands in code at a byte offset. -/
def InCode (text : Text) (offset : Nat) : Prop :=
  ∃ front back, text = front ++ back ∧ byteLength front = offset ∧
    MaskState.code.after front back = .code

/-- From a state on, the machine is not in code while it reads `part`. -/
def StaysOut (state : MaskState) (part back : Text) : Prop :=
  ∀ left right, part = left ++ right → state.after left (right ++ back) ≠ .code

/-- A literal opened by `quote` goes on over `part` and is ready to be closed after it. -/
def Encloses (quote : Char) (part back : Text) : Prop :=
  StaysOut (.literal quote) part back ∧
    (MaskState.literal quote).after part back = .literal quote

/-- `part` is all that stands between the quotes of a literal, which is neither in a comment nor in
another literal. It starts at byte offset `start`. -/
def IsLiteral (text : Text) (start : Nat) (part : Text) : Prop :=
  ∃ front quote back, text = front ++ quote :: (part ++ quote :: back) ∧
    byteLength front + quote.utf8Size = start ∧ IsQuote quote ∧
    MaskState.code.after front (quote :: (part ++ quote :: back)) = .code ∧
    Encloses quote part (quote :: back)

/-- Whether every backslash has the character after it and every line feed follows a backslash. -/
def isWhole : Text → Bool
  | [] => true
  | ['\\'] => false
  | '\\' :: _ :: rest => isWhole rest
  | c :: rest => c ≠ '\n' && isWhole rest

section After

variable {state : MaskState} {front middle back part : Text} {c quote : Char}

/-- What is read in two goes is read in one. -/
theorem after_append (state : MaskState) (front middle back : Text) :
    state.after (front ++ middle) back = (state.after front (middle ++ back)).after middle back := by
  induction front generalizing state with
  | nil => rfl
  | cons c front ih => rw [List.cons_append, MaskState.after, MaskState.after, ih, List.append_assoc]

/-- Masking a text masks its front and goes on in the state reached there. -/
theorem mask_from_append (mode : MaskMode) (state : MaskState) (front back : Text) :
    ∃ masked, maskFrom mode state (front ++ back) =
        masked ++ maskFrom mode (state.after front back) back ∧
      byteLength masked = byteLength front := by
  induction front generalizing state with
  | nil => exact ⟨[], rfl, rfl⟩
  | cons c front ih =>
      obtain ⟨masked, hmasked, hlength⟩ := ih (state.next c (front ++ back).head?)
      rw [List.cons_append, maskFrom, hmasked, ← List.append_assoc]
      refine ⟨_, rfl, ?_⟩
      rw [byte_length_append, byteLength, hlength]
      split
      · rfl
      · rw [byte_length_blank]

/-- The machine is not in code while it reads a part if it is not there before the first character
and while it reads the others. -/
theorem stays_out_cons : StaysOut state (c :: part) back ↔
    state ≠ .code ∧ StaysOut (state.next c (part ++ back).head?) part back := by
  constructor
  · intro h
    refine ⟨h [] (c :: part) rfl, fun left right hpart => ?_⟩
    have hlater := h (c :: left) right (by rw [hpart, List.cons_append])
    rwa [MaskState.after, ← List.append_assoc, ← hpart] at hlater
  · rintro ⟨hstate, hlater⟩ left right hpart
    cases left with
    | nil => exact hstate
    | cons d left =>
        obtain ⟨rfl, rfl⟩ := List.cons.inj hpart
        rw [MaskState.after, ← List.append_assoc]
        exact hlater left right rfl

/-- A literal goes on over an escaped character. -/
theorem encloses_escape (c : Char) :
    Encloses quote ('\\' :: c :: part) back ↔ Encloses quote part back := by
  have hnext : ∀ following,
      ((MaskState.literal quote).next '\\' following) = .escaped quote := fun _ => rfl
  rw [Encloses, stays_out_cons, hnext, stays_out_cons, MaskState.after, hnext, MaskState.after]
  simp [MaskState.next, Encloses]

/-- A literal goes on over any other character that neither closes it nor ends its line. -/
theorem encloses_cons (hslash : c ≠ '\\') (hclose : c ≠ quote) (hback : quote ≠ '`') :
    Encloses quote (c :: part) back ↔ c ≠ '\n' ∧ Encloses quote part back := by
  have hnext : ∀ following, (MaskState.literal quote).next c following =
      if c = '\n' then .code else .literal quote := by
    intro following
    simp [MaskState.next, hslash, hclose, hback]
  rw [Encloses, stays_out_cons, MaskState.after, hnext]
  by_cases hfeed : c = '\n'
  · rw [if_pos hfeed]
    refine iff_of_false ?_ fun h => h.1 hfeed
    rintro ⟨⟨-, hout⟩, -⟩
    exact hout [] part rfl rfl
  · rw [if_neg hfeed]
    simp [hfeed, Encloses]

/-- Where the quotes of a part are those of one line, it is enclosed by them just if it is whole. -/
theorem encloses_iff (hmem : quote ∉ part) (hback : quote ≠ '`') :
    Encloses quote part back ↔ isWhole part = true := by
  induction part using isWhole.induct with
  | case1 =>
      refine iff_of_true ⟨?_, rfl⟩ rfl
      rintro left right hnil
      obtain ⟨rfl, -⟩ := List.append_eq_nil_iff.mp hnil.symm
      exact fun h => by cases h
  | case2 =>
      refine iff_of_false ?_ (by decide)
      rintro ⟨-, hready⟩
      cases hready
  | case3 c rest ih =>
      simp only [List.mem_cons, not_or] at hmem
      rw [encloses_escape, ih hmem.2.2]
      rfl
  | case4 c rest hlone hescape ih =>
      have hslash : c ≠ '\\' := by
        rintro rfl
        cases rest with
        | nil => exact hlone rfl rfl
        | cons d rest => exact hescape d rest rfl rfl
      simp only [List.mem_cons, not_or] at hmem
      rw [encloses_cons hslash (Ne.symm hmem.1) hback, ih hmem.2, isWhole]
      · simp
      · exact hlone
      · exact hescape

end After

section Masked

variable {state : MaskState} {text left part tail : Text} {c quote : Char}

/-- The machine is in code or in a comment. -/
def MaskState.IsOutside : MaskState → Prop
  | .literal _ | .escaped _ => False
  | _ => True

/-- Code is outside literals. -/
theorem is_outside_code : MaskState.code.IsOutside :=
  trivial

/-- Only a quote leads from outside the literals into one. -/
theorem is_outside_next {following : Option Char} (hstate : state.IsOutside)
    (hquote : state = .code → ¬IsQuote c) : (state.next c following).IsOutside := by
  cases state with
  | code =>
      have hnot : ¬(c = '\'' ∨ c = '"' ∨ c = '`') := hquote rfl
      simp only [MaskState.next, Bool.or_eq_true, decide_eq_true_eq, or_assoc, if_neg hnot]
      split
      · trivial
      · split <;> trivial
  | opening block => cases block <;> trivial
  | lineComment => rw [MaskState.next]; split <;> trivial
  | blockComment => rw [MaskState.next]; split <;> trivial
  | closing => trivial
  | literal _ => cases hstate
  | escaped _ => cases hstate

/-- Outside literals, only code is kept. -/
theorem code_of_keeps_outside {following : Option Char} (hstate : state.IsOutside)
    (hkeep : state.keeps .comments c following = true) : state = .code := by
  cases state with
  | code => rfl
  | literal _ => cases hstate
  | escaped _ => cases hstate
  | _ => cases hkeep

/-- A quote is not blanked out where it opens a literal. -/
theorem is_quote_kept {following : Option Char} (hquote : IsQuote c) :
    MaskState.code.keeps .comments c following = true := by
  rcases hquote with rfl | rfl | rfl <;> rfl

/-- A quote in code opens a literal. -/
theorem next_of_is_quote {following : Option Char} (hquote : IsQuote c) :
    MaskState.code.next c following = .literal c := by
  rcases hquote with rfl | rfl | rfl <;> rfl

/-- With the comments blanked out, the first quote after a place outside literals opens one. -/
theorem opens_of_mask_from (hstate : state.IsOutside) (hleft : IsUnquoted left)
    (hquote : IsQuote quote) (h : maskFrom .comments state text = left ++ quote :: tail) :
    ∃ inner rest, text = inner ++ quote :: rest ∧ byteLength inner = byteLength left ∧
      state.after inner (quote :: rest) = .code ∧ tail = maskFrom .comments (.literal quote) rest := by
  induction text generalizing state left with
  | nil => simp [maskFrom] at h
  | cons d rest ih =>
      rw [maskFrom] at h
      split at h
      · next hkeep =>
          obtain rfl := code_of_keeps_outside hstate hkeep
          rw [List.singleton_append] at h
          cases left with
          | nil =>
              rw [List.nil_append, List.cons.injEq] at h
              obtain ⟨rfl, htail⟩ := h
              rw [next_of_is_quote hquote] at htail
              exact ⟨[], rest, rfl, rfl, rfl, htail.symm⟩
          | cons e left =>
              rw [List.cons_append, List.cons.injEq] at h
              obtain ⟨rfl, hlater⟩ := h
              have hd : ¬IsQuote d := hleft d List.mem_cons_self
              obtain ⟨inner, after, rfl, hlength, hafter, htail⟩ :=
                ih (is_outside_next hstate fun _ => hd)
                  (fun c hc => hleft c (List.mem_cons_of_mem d hc)) hlater
              exact ⟨d :: inner, after, rfl, by rw [byteLength, byteLength, hlength], hafter, htail⟩
      · next hkeep =>
          -- What stands for the character holds no quote, so the front goes on after all of it.
          have hblank : ∀ e ∈ blank d, ¬IsQuote e := by
            intro e he
            rcases of_mem_blank he with rfl | rfl <;> simp [IsQuote]
          have hnext : (state.next d rest.head?).IsOutside := by
            refine is_outside_next hstate ?_
            rintro rfl hd
            exact hkeep (is_quote_kept hd)
          rcases List.append_eq_append_iff.mp h with ⟨later, rfl, hlater⟩ | ⟨later, hpiece, hlater⟩
          · obtain ⟨inner, rest, rfl, hlength, hafter, htail⟩ :=
              ih hnext (fun c hc => hleft c (List.mem_append_right _ hc)) hlater
            refine ⟨d :: inner, rest, rfl, ?_, hafter, htail⟩
            rw [byteLength, hlength, byte_length_append, byte_length_blank]
          · cases later with
            | nil =>
                rw [List.append_nil] at hpiece
                have hnone : IsUnquoted [] := fun c hc => absurd hc List.not_mem_nil
                obtain ⟨inner, after, rfl, hlength, hafter, htail⟩ := ih hnext hnone hlater.symm
                refine ⟨d :: inner, after, rfl, ?_, hafter, htail⟩
                rw [byteLength, hlength, ← hpiece, byte_length_blank]
                rfl
            | cons e later =>
                obtain ⟨rfl, -⟩ := List.cons.inj hlater
                exact absurd hquote (hblank _ (by simp [hpiece]))

/-- With the comments blanked out, a whole part of a literal is as it stands in the source. -/
theorem part_of_mask_from_literal (hmem : quote ∉ part) (hwhole : isWhole part = true)
    (h : maskFrom .comments (.literal quote) text = part ++ c :: tail) :
    ∃ rest, text = part ++ c :: rest := by
  have hkept : ∀ {state : MaskState} {text read : Text} {d : Char},
      state = .literal quote ∨ state = .escaped quote →
      maskFrom .comments state text = d :: read →
      ∃ rest, text = d :: rest ∧ read = maskFrom .comments (state.next d rest.head?) rest := by
    rintro state text read d hstate h
    cases text with
    | nil => cases h
    | cons e rest =>
        rw [maskFrom, if_pos (by rcases hstate with rfl | rfl <;> simp [MaskState.keeps])] at h
        obtain ⟨rfl, rfl⟩ := List.cons.inj h
        exact ⟨rest, rfl, rfl⟩
  induction part using isWhole.induct generalizing text with
  | case1 =>
      obtain ⟨rest, rfl, -⟩ := hkept (Or.inl rfl) h
      exact ⟨rest, rfl⟩
  | case2 => cases hwhole
  | case3 d part ih =>
      simp only [List.mem_cons, not_or] at hmem
      obtain ⟨escaped, rfl, hescaped⟩ := hkept (Or.inl rfl) h
      obtain ⟨later, rfl, hlater⟩ := hkept (Or.inr rfl) hescaped.symm
      obtain ⟨rest, rfl⟩ := ih hmem.2.2 hwhole hlater.symm
      exact ⟨rest, rfl⟩
  | case4 d part hlone hescape ih =>
      have hslash : d ≠ '\\' := by
        rintro rfl
        cases part with
        | nil => exact hlone rfl rfl
        | cons e part => exact hescape e part rfl rfl
      simp only [List.mem_cons, not_or] at hmem
      obtain ⟨hfeed, hwhole⟩ : d ≠ '\n' ∧ isWhole part = true := by
        rw [isWhole] at hwhole
        · simpa using hwhole
        · exact hlone
        · exact hescape
      obtain ⟨later, rfl, hlater⟩ := hkept (Or.inl rfl) h
      have hnext : (MaskState.literal quote).next d later.head? = .literal quote := by
        simp [MaskState.next, hslash, Ne.symm hmem.1, hfeed]
      rw [hnext] at hlater
      obtain ⟨rest, rfl⟩ := ih hmem.2 hwhole hlater.symm
      exact ⟨rest, rfl⟩

/-- At one offset stands one character. -/
theorem StandsAt.char_eq {offset : Nat} {d : Char} (hc : StandsAt text offset [c])
    (hd : StandsAt text offset [d]) : c = d := by
  obtain ⟨back, hback⟩ := stands_at_iff_drop_bytes.mp hc
  obtain ⟨back', hback'⟩ := stands_at_iff_drop_bytes.mp hd
  have heq := Option.some.inj (hback.symm.trans hback')
  exact (List.cons.inj heq).1

/-- From a place in code on, the masked text is what the machine makes of the rest. -/
theorem InCode.exists_rest {offset : Nat} (hcode : InCode text offset)
    (hpart : StandsAt (mask .comments text) offset part) :
    ∃ front back tail, text = front ++ back ∧ byteLength front = offset ∧
      MaskState.code.after front back = .code ∧ maskFrom .comments .code back = part ++ tail := by
  obtain ⟨front, back, rfl, hfront, hafter⟩ := hcode
  obtain ⟨masked, hmasked, hlength⟩ := mask_from_append .comments .code front back
  obtain ⟨tail, htail⟩ := stands_at_iff_drop_bytes.mp hpart
  refine ⟨front, back, tail, rfl, hfront, hafter, ?_⟩
  have hdrop : dropBytes? (mask .comments (front ++ back)) offset =
      some (maskFrom .comments .code back) :=
    drop_bytes_eq_some_iff.mpr ⟨masked, hafter ▸ hmasked, hlength.trans hfront⟩
  exact Option.some.inj (hdrop.symm.trans htail)

/-- After a place in code, the first quote of the masked text opens a literal. -/
theorem InCode.first_quote {offset : Nat} (hcode : InCode text offset) (hleft : IsUnquoted left)
    (hquote : IsQuote quote) (h : StandsAt (mask .comments text) offset (left ++ quote :: part)) :
    InCode text (offset + byteLength left) := by
  obtain ⟨front, back, tail, rfl, rfl, hafter, hback⟩ := hcode.exists_rest h
  rw [List.append_assoc, List.cons_append] at hback
  obtain ⟨inner, rest, rfl, hlength, hinner, -⟩ :=
    opens_of_mask_from is_outside_code hleft hquote hback
  refine ⟨front ++ inner, quote :: rest, by simp, by rw [byte_length_append, hlength], ?_⟩
  rw [after_append, hafter, hinner]

/-- A part between two quotes of the masked text is a literal of the source just if its first quote
stands in code, its last one is the same and the part is whole. -/
theorem is_literal_iff {opening closing : Char} {offset : Nat}
    (hopening : opening = '\'' ∨ opening = '"')
    (hclosing : closing = '\'' ∨ closing = '"')
    (hpart : '\'' ∉ part ∧ '"' ∉ part)
    (h : StandsAt (mask .comments text) offset (opening :: (part ++ [closing]))) :
    IsLiteral text (offset + 1) part ↔
      InCode text offset ∧ opening = closing ∧ isWhole part = true := by
  have layout := mask_same_layout .comments text
  have hmem : opening ∉ part := by
    rcases hopening with rfl | rfl
    · exact hpart.1
    · exact hpart.2
  have hback : opening ≠ '`' := by rcases hopening with rfl | rfl <;> decide
  have hone : byteLength [opening] = 1 := by rcases hopening with rfl | rfl <;> rfl
  have hsplit : StandsAt (mask .comments text) offset ([opening] ++ (part ++ [closing])) := h
  have hfirst := hsplit.front
  have hlast : StandsAt (mask .comments text) (offset + 1 + byteLength part) [closing] :=
    hone ▸ hsplit.back.back
  constructor
  · rintro ⟨front, quote, back, rfl, hoffset, hquote, hafter, henclosed⟩
    have hsize : quote.utf8Size = 1 := by rcases hquote with rfl | rfl | rfl <;> rfl
    have hfront : byteLength front = offset := by omega
    have hat : StandsAt (front ++ quote :: (part ++ quote :: back)) offset
        ([quote] ++ (part ++ [quote])) := ⟨front, back, by simp, hfront⟩
    have hopen : opening = quote :=
      (layout.stands_at (by rcases hopening with rfl | rfl <;> decide) hfirst).char_eq hat.front
    have hclose : closing = quote := by
      have hsource := hat.back.back
      rw [byteLength, byteLength, hsize] at hsource
      exact (layout.stands_at (by rcases hclosing with rfl | rfl <;> decide) hlast).char_eq hsource
    refine ⟨⟨front, _, rfl, hfront, hafter⟩, hopen.trans hclose.symm, ?_⟩
    subst hopen
    exact (encloses_iff hmem hback).mp henclosed
  · rintro ⟨hcode, rfl, hwhole⟩
    obtain ⟨front, back, tail, rfl, hfront, hafter, hmasked⟩ := hcode.exists_rest h
    have hquote : IsQuote opening := by
      rcases hopening with rfl | rfl
      · exact Or.inl rfl
      · exact Or.inr (Or.inl rfl)
    have hnone : IsUnquoted [] := fun c hc => absurd hc List.not_mem_nil
    rw [List.cons_append, List.append_assoc, List.singleton_append] at hmasked
    obtain ⟨inner, rest, rfl, hinner, -, htail⟩ :=
      opens_of_mask_from is_outside_code hnone hquote hmasked
    obtain rfl := byte_length_eq_zero.mp hinner
    obtain ⟨rest, rfl⟩ := part_of_mask_from_literal hmem hwhole htail.symm
    refine ⟨front, opening, rest, rfl, ?_, hquote, hafter, (encloses_iff hmem hback).mpr hwhole⟩
    rw [hfront, ← hone, byteLength, byteLength, Nat.add_zero]

end Masked

section Behind

variable {mode : MaskMode} {state : MaskState} {front rest : Text} {following : Option Char}

/-- A character that neither a slash nor a star follows is read as the last one of a text is. -/
theorem read_as_last (mode : MaskMode) (state : MaskState) (c : Char)
    (h : ∀ d, following = some d → d ≠ '/' ∧ d ≠ '*') :
    state.next c following = state.next c none ∧
      state.keeps mode c following = state.keeps mode c none := by
  have hslash : following ≠ some '/' := fun heq => (h _ heq).1 rfl
  have hstar : following ≠ some '*' := fun heq => (h _ heq).2 rfl
  cases state with
  | opening block => cases block <;> exact ⟨rfl, rfl⟩
  | _ => simp [MaskState.next, MaskState.keeps, hslash, hstar]

/-- Masking does not look behind a part that neither a slash nor a star follows. -/
theorem mask_from_before (h : ∀ d, rest.head? = some d → d ≠ '/' ∧ d ≠ '*') :
    maskFrom mode state (front ++ rest) =
      maskFrom mode state front ++ maskFrom mode (state.after front []) rest := by
  induction front generalizing state with
  | nil => rfl
  | cons c front ih =>
      have hread : state.next c (front ++ rest).head? = state.next c front.head? ∧
          state.keeps mode c (front ++ rest).head? = state.keeps mode c front.head? := by
        cases front with
        | nil => exact read_as_last mode state c h
        | cons d front => exact ⟨rfl, rfl⟩
      rw [List.cons_append, maskFrom, maskFrom, MaskState.after, hread.1, hread.2, ih, List.append_nil,
        List.append_assoc]

end Behind

section Kept

variable {mode : MaskMode} {part : Text} {quote : Char}

/-- A character that neither opens a comment nor a literal. -/
def IsPlain (c : Char) : Prop :=
  c ≠ '/' ∧ ¬IsQuote c

/-- Plain code is kept. -/
theorem mask_from_plain (mode : MaskMode) (hpart : ∀ c ∈ part, IsPlain c) (rest : Text) :
    maskFrom mode .code (part ++ rest) = part ++ maskFrom mode .code rest := by
  induction part with
  | nil => rfl
  | cons c part ih =>
      obtain ⟨hslash, hquote⟩ := hpart c List.mem_cons_self
      have hnext : ∀ following, MaskState.code.next c following = .code := by
        intro following
        have hnot : ¬(c = '\'' ∨ c = '"' ∨ c = '`') := hquote
        simp only [MaskState.next, Bool.or_eq_true, decide_eq_true_eq, or_assoc, if_neg hnot]
        simp [hslash]
      rw [List.cons_append, maskFrom, if_pos (by simp [MaskState.keeps, hslash]), hnext,
        ih fun d hd => hpart d (List.mem_cons_of_mem c hd)]
      rfl

/-- Code without quotes and without the start of a comment is kept, unless what follows it makes one of
its last slash. -/
theorem mask_from_uncommented (mode : MaskMode) (hquote : IsUnquoted part)
    (hline : ¬['/', '/'] <:+: part) (hblock : ¬['/', '*'] <:+: part) {rest : Text}
    (hrest : ∀ c, rest.head? = some c → c ≠ '/' ∧ c ≠ '*') :
    maskFrom mode .code (part ++ rest) = part ++ maskFrom mode .code rest := by
  induction part with
  | nil => rfl
  | cons c part ih =>
      have hno : ¬(c = '/' ∧ ((part ++ rest).head? = some '/' ∨ (part ++ rest).head? = some '*')) := by
        rintro ⟨rfl, hnext⟩
        cases part with
        | nil =>
            rcases hnext with hnext | hnext
            · exact (hrest _ hnext).1 rfl
            · exact (hrest _ hnext).2 rfl
        | cons d part =>
            rcases hnext with hnext | hnext
            · obtain rfl : d = '/' := Option.some.inj hnext
              exact hline ⟨[], part, rfl⟩
            · obtain rfl : d = '*' := Option.some.inj hnext
              exact hblock ⟨[], part, rfl⟩
      have hliteral : ¬(c = '\'' ∨ c = '"' ∨ c = '`') := hquote c List.mem_cons_self
      have hnext : MaskState.code.next c (part ++ rest).head? = .code := by
        simp only [MaskState.next, Bool.or_eq_true, Bool.and_eq_true, decide_eq_true_eq, or_assoc,
          if_neg hliteral]
        rw [if_neg fun h => hno ⟨h.1, Or.inl h.2⟩, if_neg fun h => hno ⟨h.1, Or.inr h.2⟩]
      have hkeeps : MaskState.code.keeps mode c (part ++ rest).head? = true := by
        simp only [MaskState.keeps, Bool.not_eq_true', Bool.eq_false_iff, ne_eq, Bool.and_eq_true,
          Bool.or_eq_true, decide_eq_true_eq]
        exact hno
      rw [List.cons_append, maskFrom, if_pos hkeeps, hnext,
        ih (fun d hd => hquote d (List.mem_cons_of_mem c hd))
          (fun h => hline (h.trans (List.suffix_cons c part).isInfix))
          fun h => hblock (h.trans (List.suffix_cons c part).isInfix)]
      rfl

/-- The contents of a literal after masking: kept, or as many spaces as bytes. -/
def maskedPart (mode : MaskMode) (part : Text) : Text :=
  match mode with
  | .comments => part
  | .all => List.replicate (byteLength part) ' '

/-- The contents of a literal are kept or blanked out, and its quotes are kept. -/
theorem mask_from_literal (mode : MaskMode) (hquote : IsQuote quote) (hback : quote ≠ '`')
    (hpart : ∀ c ∈ part, c ≠ quote ∧ c ≠ '\\' ∧ c ≠ '\n') (rest : Text) :
    maskFrom mode .code (quote :: (part ++ quote :: rest)) =
      quote :: (maskedPart mode part ++ quote :: maskFrom mode .code rest) := by
  have hinside : maskFrom mode (.literal quote) (part ++ quote :: rest) =
      maskedPart mode part ++ quote :: maskFrom mode .code rest := by
    induction part with
    | nil =>
        have hslash : quote ≠ '\\' := by rcases hquote with rfl | rfl | rfl <;> decide
        have hclose : ∀ following, (MaskState.literal quote).next quote following = .code := by
          intro following
          simp [MaskState.next, hslash]
        rw [List.nil_append, maskFrom, if_pos (by simp [MaskState.keeps]), hclose]
        cases mode <;> rfl
    | cons c part ih =>
        obtain ⟨hclose, hslash, hfeed⟩ := hpart c List.mem_cons_self
        have hnext : ∀ following, (MaskState.literal quote).next c following = .literal quote := by
          intro following
          simp [MaskState.next, hslash, hclose, hfeed]
        rw [List.cons_append, maskFrom, hnext, ih fun d hd => hpart d (List.mem_cons_of_mem c hd)]
        cases mode with
        | comments => rfl
        | all =>
            rw [if_neg (by simp [MaskState.keeps, hclose]), blank, if_neg hfeed, maskedPart,
              maskedPart, byteLength, ← List.append_assoc, List.replicate_append_replicate]
  have hkeep : MaskState.code.keeps mode quote (part ++ quote :: rest).head? = true := by
    rcases hquote with rfl | rfl | rfl <;> rfl
  rw [maskFrom, if_pos hkeep, next_of_is_quote hquote, hinside]
  rfl

end Kept

end CodeAtlas.Text
