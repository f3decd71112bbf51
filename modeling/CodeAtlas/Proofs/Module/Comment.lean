import CodeAtlas.Module.Scan
import CodeAtlas.Proofs.Scanner.Module
import CodeAtlas.Proofs.Text.Literal

/-!
# Comments do not matter to module syntax

A text whose comments are blanked out has no comments left and the same literals: a run of the masking
machine over it goes in step with the run over the text itself, in code wherever that one is in a
comment (`mask_from_blanked`). So masking it gives what masking the text gives. What blanking leaves of a
text is what stands outside comments and the line feeds, each at its offset (`mask_from_eq_spread`), and
so is the same for all texts that agree there (`SameButComments`).
-/

namespace CodeAtlas.Text

/-- Whether the character read in a state belongs to a comment, its opening and closing included. -/
def MaskState.inComment (state : MaskState) (c : Char) (following : Option Char) : Bool :=
  match state with
  | .code => c = '/' && (following = some '/' || following = some '*')
  | .opening _ | .lineComment | .blockComment | .closing => true
  | .literal _ | .escaped _ => false

/-- Where the machine is in a text with blanks in place of comments while it is in `state` in the text
itself. -/
def MaskState.blanked : MaskState → MaskState
  | .literal quote => .literal quote
  | .escaped quote => .escaped quote
  | _ => .code

/-- The characters outside comments and the line feeds of a text that is read from a state on, each with
its byte offset, counted from `offset`. -/
def landmarks : MaskState → (offset : Nat) → Text → List (Nat × Char)
  | _, _, [] => []
  | state, offset, c :: rest =>
    let later := landmarks (state.next c rest.head?) (offset + c.utf8Size) rest
    if state.inComment c rest.head? && c != '\n' then later else (offset, c) :: later

/-- Two texts differ only in the text of comments: they are as long, have their line feeds at the same
offsets, and have the same characters outside comments at the same offsets. -/
structure SameButComments (text other : Text) : Prop where
  length_eq : byteLength other = byteLength text
  landmarks_eq : landmarks .code 0 other = landmarks .code 0 text

section Blanked

variable {state : MaskState} {c : Char} {following : Option Char} {rest : Text}

/-- With comments blanked out, the characters that stay are those outside comments. -/
theorem keeps_comments_eq : state.keeps .comments c following = !state.inComment c following := by
  cases state <;> simp [MaskState.keeps, MaskState.inComment]

/-- What is in a comment is blanked out whatever else is. -/
theorem not_keeps_of_in_comment (mode : MaskMode) (h : state.inComment c following = true) :
    state.keeps mode c following = false := by
  cases state with
  | code => rw [MaskState.inComment] at h; rw [MaskState.keeps, h, Bool.not_true]
  | literal _ | escaped _ => cases h
  | _ => rfl

/-- After a character of a comment there are only blanks until code comes. -/
theorem blanked_of_in_comment (h : state.inComment c following = true) :
    state.blanked = .code ∧ (state.next c following).blanked = .code := by
  cases state with
  | code =>
      simp only [MaskState.inComment, Bool.and_eq_true, Bool.or_eq_true, decide_eq_true_eq] at h
      rcases h with ⟨rfl, rfl | rfl⟩ <;> exact ⟨rfl, rfl⟩
  | opening block => cases block <;> exact ⟨rfl, rfl⟩
  | lineComment =>
      refine ⟨rfl, ?_⟩
      rw [MaskState.next]
      split <;> rfl
  | blockComment =>
      refine ⟨rfl, ?_⟩
      rw [MaskState.next]
      split <;> rfl
  | closing => exact ⟨rfl, rfl⟩
  | literal _ | escaped _ => cases h

/-- Blanks are kept in code and lead nowhere else. -/
theorem mask_from_blank (mode : MaskMode) (c : Char) (rest : Text) :
    maskFrom mode .code (blank c ++ rest) = blank c ++ maskFrom mode .code rest := by
  have hblank : ∀ d, d = ' ' ∨ d = '\n' → ∀ rest,
      maskFrom mode .code (d :: rest) = d :: maskFrom mode .code rest := by
    rintro d (rfl | rfl) rest <;> rfl
  have hall : ∀ d ∈ blank c, d = ' ' ∨ d = '\n' := fun d hd => of_mem_blank hd
  generalize blank c = blanks at hall
  induction blanks with
  | nil => rfl
  | cons d blanks ih =>
      obtain ⟨hd, hall⟩ := List.forall_mem_cons.mp hall
      rw [List.cons_append, hblank d hd, ih hall, List.cons_append]

/-- In code, a character outside comments is read as before when the comments after it are blanked out.
A slash that opens no comment must not get another slash or a star behind it. -/
theorem next_code_of_masked (h : MaskState.code.inComment c rest.head? = false) (mode : MaskMode) :
    let masked := maskFrom .comments (MaskState.code.next c rest.head?) rest
    MaskState.code.keeps mode c masked.head? = true ∧
      MaskState.code.next c masked.head? = MaskState.code.next c rest.head? := by
  by_cases hslash : c = '/'
  · subst hslash
    obtain ⟨hline, hblock⟩ : rest.head? ≠ some '/' ∧ rest.head? ≠ some '*' := by
      simpa [MaskState.inComment] using h
    have hnext : MaskState.code.next '/' rest.head? = .code := by
      simp [MaskState.next, hline, hblock]
    have hhead : (maskFrom .comments .code rest).head? = rest.head? := by
      cases rest with
      | nil => rfl
      | cons d rest => exact head_mask_from_code .comments (fun heq => hline (by rw [heq]; rfl)) rest
    rw [hnext]
    simp [hhead, MaskState.keeps, MaskState.next, hline, hblock]
  · simp [MaskState.keeps, MaskState.next, hslash]

/-- Outside comments, a character is read as before when the comments after it are blanked out. -/
theorem next_of_masked (h : state.inComment c rest.head? = false) (mode : MaskMode) :
    let masked := maskFrom .comments (state.next c rest.head?) rest
    state.blanked = state ∧
      state.keeps mode c masked.head? = state.keeps mode c rest.head? ∧
      state.next c masked.head? = state.next c rest.head? ∧
      (state.next c rest.head?).blanked = state.next c rest.head? := by
  cases state with
  | code =>
      obtain ⟨hkeep, hnext⟩ := next_code_of_masked h mode
      have hbefore : MaskState.code.keeps mode c rest.head? = true := by
        rw [MaskState.inComment] at h
        rw [MaskState.keeps, h, Bool.not_false]
      refine ⟨rfl, hkeep.trans hbefore.symm, hnext, ?_⟩
      simp only [MaskState.inComment, Bool.and_eq_false_iff, Bool.or_eq_false_iff,
        decide_eq_false_iff_not] at h
      rw [MaskState.next]
      split
      · next hopens =>
          simp only [Bool.and_eq_true, decide_eq_true_eq] at hopens
          exact absurd hopens.2 (h.resolve_left (not_not_intro hopens.1)).1
      · split
        · next hopens =>
            simp only [Bool.and_eq_true, decide_eq_true_eq] at hopens
            exact absurd hopens.2 (h.resolve_left (not_not_intro hopens.1)).2
        · split <;> rfl
  | literal quote =>
      refine ⟨rfl, rfl, rfl, ?_⟩
      rw [MaskState.next]
      split
      · rfl
      · split
        · rfl
        · split <;> rfl
  | escaped quote => exact ⟨rfl, rfl, rfl, rfl⟩
  | _ => cases h

/-- Masking a text with its comments blanked out is masking the text: both runs go in step. -/
theorem mask_from_blanked (mode : MaskMode) (state : MaskState) (text : Text) :
    maskFrom mode state.blanked (maskFrom .comments state text) = maskFrom mode state text := by
  induction text generalizing state with
  | nil => rfl
  | cons c rest ih =>
      have hlater := ih (state.next c rest.head?)
      by_cases hcomment : state.inComment c rest.head? = true
      · obtain ⟨hhere, hnext⟩ := blanked_of_in_comment hcomment
        rw [hnext] at hlater
        rw [maskFrom, maskFrom, if_neg (by simp [keeps_comments_eq, hcomment]),
          if_neg (by simp [not_keeps_of_in_comment mode hcomment]), hhere, mask_from_blank, hlater]
      · rw [Bool.not_eq_true] at hcomment
        obtain ⟨hhere, hkeeps, hnext, hblanked⟩ := next_of_masked hcomment mode
        rw [hblanked] at hlater
        rw [maskFrom, if_pos (by simp [keeps_comments_eq, hcomment]), List.singleton_append, hhere,
          maskFrom, hkeeps, hnext, hlater, maskFrom]

end Blanked

section Landmarks

/-- A text of `stop - offset` bytes with given characters at given offsets and spaces elsewhere. -/
def spread (stop : Nat) : (offset : Nat) → List (Nat × Char) → Text
  | offset, [] => List.replicate (stop - offset) ' '
  | offset, (start, c) :: rest =>
    List.replicate (start - offset) ' ' ++ c :: spread stop (start + c.utf8Size) rest

/-- Landmarks lie where their text does. -/
theorem le_of_head_landmarks {state : MaskState} {offset : Nat} {text : Text} {entry : Nat × Char}
    (h : (landmarks state offset text).head? = some entry) : offset ≤ entry.1 := by
  induction text generalizing state offset with
  | nil => cases h
  | cons c rest ih =>
      rw [landmarks] at h
      split at h
      · exact Nat.le_of_add_right_le (ih h)
      · obtain rfl := Option.some.inj h
        exact Nat.le_refl _

/-- Spaces in front of what is spread further on. -/
theorem spread_of_le {stop offset count : Nat} {entries : List (Nat × Char)}
    (hstop : offset + count ≤ stop)
    (hentries : ∀ entry, entries.head? = some entry → offset + count ≤ entry.1) :
    spread stop offset entries =
      List.replicate count ' ' ++ spread stop (offset + count) entries := by
  cases entries with
  | nil =>
      rw [spread, spread, List.replicate_append_replicate]
      congr 1
      omega
  | cons entry rest =>
      have hle : offset + count ≤ entry.1 := hentries entry rfl
      rw [spread, spread, ← List.append_assoc, List.replicate_append_replicate]
      congr 2
      omega

/-- A text with its comments blanked out is known from its landmarks. -/
theorem mask_from_eq_spread (state : MaskState) (offset : Nat) (text : Text) :
    maskFrom .comments state text =
      spread (offset + byteLength text) offset (landmarks state offset text) := by
  induction text generalizing state offset with
  | nil => simp [maskFrom, landmarks, spread, byteLength]
  | cons c rest ih =>
      have hlater := ih (state.next c rest.head?) (offset + c.utf8Size)
      rw [Nat.add_assoc] at hlater
      rw [maskFrom, landmarks, byteLength, hlater, keeps_comments_eq]
      by_cases hcomment : state.inComment c rest.head? = true
      · by_cases hfeed : c = '\n'
        · subst hfeed
          simp [hcomment, blank, spread]
        · rw [if_neg (by simp [hcomment]), if_pos (by simp [hcomment, hfeed]), blank, if_neg hfeed]
          exact (spread_of_le (by omega) fun entry hentry => le_of_head_landmarks hentry).symm
      · simp [hcomment, spread]

/-- Texts that differ only in comments are the same with their comments blanked out. -/
theorem SameButComments.mask_eq {text other : Text} (h : SameButComments text other) :
    mask .comments other = mask .comments text := by
  rw [mask, mask, mask_from_eq_spread _ 0, mask_from_eq_spread _ 0, h.length_eq, h.landmarks_eq]

end Landmarks

end CodeAtlas.Text

namespace CodeAtlas.Module

open Text (mask SameButComments)

/-- Imports and exports are read from what masking leaves, so a text with its comments blanked out has
those of the text. -/
theorem scan_masked (content : Text) : scan? (mask .comments content) = scan? content := by
  have hmask : ∀ mode, mask mode (mask .comments content) = mask mode content :=
    fun mode => Text.mask_from_blanked mode .code content
  rw [scan?, hmask, hmask, scan?]

/-- Comments never matter to module syntax. Blanking them out once more changes nothing, blanking out
literals too gives what it gives on the text itself, and the imports, exports and binding ranges are those
of the text without its comments. So they are those of every text that differs from it only in
comments. -/
theorem scan_ignores_comments (content : Text) :
    mask .comments (mask .comments content) = mask .comments content ∧
      mask .all (mask .comments content) = mask .all content ∧
      ∃ found, scan? content = some found ∧
        scan? (mask .comments content) = some found ∧
        ∀ other, SameButComments content other → scan? other = some found := by
  obtain ⟨found, hsyntax, -⟩ := scan_yields content
  refine ⟨Text.mask_from_blanked _ .code _, Text.mask_from_blanked _ .code _, found, hsyntax,
    (scan_masked content).trans hsyntax, fun other hother => ?_⟩
  calc scan? other = scan? (mask .comments other) := (scan_masked other).symm
    _ = scan? (mask .comments content) := by rw [hother.mask_eq]
    _ = some found := (scan_masked content).trans hsyntax

/-- An export commented out, and in its place a commented import that would be read as one. -/
theorem scan_ignores_comments_reworded :
    let content := "import a from 'm'; // é '\nexport const b = a; /* export const c = 1; */".toList
    let other := "import a from 'm'; /* \" */\nexport const b = a; // import x from \"y\"; too".toList
    SameButComments content other ∧ scan? other = scan? content := by
  intro content other
  have hsame : SameButComments content other := ⟨by decide, by decide⟩
  obtain ⟨-, -, found, hcontent, -, hothers⟩ := scan_ignores_comments content
  exact ⟨hsame, (hothers other hsame).trans hcontent.symm⟩

end CodeAtlas.Module
