import CodeAtlas.Proofs.Text.Awaited

/-!
# Brackets that are properly nested

A text is properly nested if each closing bracket closes the last round, square or curly bracket that is
still open, and none is open at the end. Braces are paired by counting braces alone; in a properly nested
text the brace that closes a block is the one that was awaited for it (`matching_block`), and between the
two its closer stays awaited (`IsOpen.inside`).
-/

namespace CodeAtlas.Text

/-- The bracket that closes a round, square or curly one. -/
def awaited? (c : Char) : Option Char :=
  if c = '(' then some ')' else if c = '[' then some ']' else if c = '{' then some '}' else none

/-- A closing bracket, other than an angle bracket. -/
def isCloser (c : Char) : Bool :=
  c = ')' || c = ']' || c = '}'

section Table

variable {c closer : Char}

/-- The opening brackets are those that await one. -/
theorem opens_iff (c : Char) : (c = '(' || c = '[' || c = '{') = (awaited? c).isSome := by
  unfold awaited?
  split
  · next h => simp [h]
  · next hround =>
      split
      · next h => simp [h]
      · next hsquare =>
          split
          · next h => simp [h]
          · next hcurly => simp [hround, hsquare, hcurly]

/-- What is awaited closes what awaits it. -/
theorem pair_of_awaited (h : awaited? c = some closer) : (c, closer) ∈ bracketPairs := by
  have hopens := opens_iff c
  rw [h, Option.isSome_some] at hopens
  simp only [Bool.or_eq_true, decide_eq_true_eq] at hopens
  rcases hopens with (rfl | rfl) | rfl <;> exact Option.some.inj h ▸ (by decide)

/-- A closing bracket is the second one of a pair. -/
theorem closer_mem_pairs (h : isCloser c = true) : c ∈ bracketPairs.map (·.2) := by
  simp only [isCloser, Bool.or_eq_true, decide_eq_true_eq] at h
  rcases h with (rfl | rfl) | rfl <;> decide

end Table

/-- The brackets of code. -/
def Brackets.ofCode : Brackets where
  closer? := awaited?
  closes := fun _ c => isCloser c
  pairs := pair_of_awaited
  closing := closer_mem_pairs

/-- Whether brackets are properly nested when the given closers are awaited, innermost first. -/
def isNestedFrom (awaited : List Char) (text : Text) : Bool :=
  Brackets.ofCode.awaitedAfter? awaited none text = some []

/-- Whether round, square and curly brackets are properly nested. -/
def isNested (text : Text) : Bool :=
  isNestedFrom [] text

section Nest

variable {awaited later within outer : List Char} {before : Option Char} {c : Char}
  {front back rest text : Text}

/-- A closing bracket opens nothing. -/
theorem awaited_of_closer (h : isCloser c = true) : awaited? c = none :=
  have hcloses : Brackets.ofCode.closes none c = true := h
  Brackets.closer_of_closes hcloses

/-- In code the character before a bracket does not matter. -/
theorem nested_from_iff (before : Option Char) :
    isNestedFrom awaited text = true ↔ Brackets.ofCode.awaitedAfter? awaited before text = some [] := by
  rw [isNestedFrom, decide_eq_true_iff]
  exact Eq.congr_left (Brackets.awaited_after_congr fun _ => rfl)

/-- At the end of a properly nested text nothing is awaited. -/
theorem nested_from_nil : isNestedFrom awaited [] = true ↔ awaited = [] := by
  rw [nested_from_iff none, Brackets.awaitedAfter?, Option.some.injEq]

/-- A properly nested text goes on properly nested after each character. -/
theorem exists_steps (h : isNestedFrom awaited (c :: rest) = true) :
    ∃ later, Brackets.ofCode.Steps awaited none c later ∧ isNestedFrom later rest = true := by
  obtain ⟨later, hsteps, hlater⟩ := Brackets.awaited_after_cons.mp ((nested_from_iff none).mp h)
  exact ⟨later, hsteps, (nested_from_iff _).mpr hlater⟩

/-- A properly nested text is properly nested from each place on. -/
theorem exists_awaited (front : Text) {back : Text}
    (h : isNestedFrom awaited (front ++ back) = true) :
    ∃ later, isNestedFrom later back = true := by
  obtain ⟨later, -, hlater⟩ := Brackets.awaited_after_append.mp ((nested_from_iff none).mp h)
  exact ⟨later, (nested_from_iff _).mpr hlater⟩

/-- What follows a text is read with the closers that are awaited after it. -/
theorem nested_from_after (h : Brackets.ofCode.awaitedAfter? awaited none front = some later)
    (back : Text) : isNestedFrom awaited (front ++ back) = isNestedFrom later back := by
  rw [Bool.eq_iff_iff, nested_from_iff none, Brackets.awaited_after_append, nested_from_iff]
  constructor
  · rintro ⟨mid, hmid, hback⟩
    exact Option.some.inj (hmid.symm.trans h) ▸ hback
  · exact fun hback => ⟨later, h, hback⟩

/-- A properly nested front leaves awaited what is awaited further out. -/
theorem nested_from_append (h : isNestedFrom awaited front = true) :
    isNestedFrom (awaited ++ outer) (front ++ back) = isNestedFrom outer back :=
  nested_from_after (Brackets.awaited_after_frame ((nested_from_iff none).mp h) outer) back

/-- Properly nested texts one after the other. -/
theorem nested_append (hfront : isNested front = true) (hback : isNested back = true) :
    isNested (front ++ back) = true :=
  (nested_from_append (show isNestedFrom [] front = true from hfront)).trans hback

/-- An opening brace awaits a closing one. -/
theorem nested_from_brace (awaited : List Char) (rest : Text) :
    isNestedFrom awaited ('{' :: rest) = isNestedFrom ('}' :: awaited) rest :=
  have hopens : Brackets.ofCode.awaitedAfter? awaited none ['{'] = some ('}' :: awaited) := rfl
  nested_from_after hopens rest

/-- A block that is open in a properly nested text ends in it, after a properly nested part. -/
theorem exists_block_end (h : isNestedFrom (within ++ '}' :: outer) text = true) :
    ∃ inner back, text = inner ++ '}' :: back ∧ isNestedFrom within inner = true := by
  obtain ⟨inner, back, hsplit, hinner, -⟩ :=
    Brackets.exists_block ((nested_from_iff none).mp h) (Nat.zero_le _)
  exact ⟨inner, back, hsplit, (nested_from_iff none).mpr hinner⟩

end Nest

section Brace

variable {within outer : List Char} {c : Char} {front back inner rest : Text} {index depth close : Nat}

/-- Braces are paired. -/
theorem braces_mem_pairs : ('{', '}') ∈ bracketPairs := by decide

/-- An opening brace is counted. -/
theorem close_from_open :
    closeFrom? 0x7B 0x7D (bytes ('{' :: rest)) index depth =
      closeFrom? 0x7B 0x7D (bytes rest) (index + 1) (depth + 1) :=
  (Brackets.close_from_char braces_mem_pairs index depth).trans (if_pos rfl)

/-- The closer is found at the place searched from or further on. -/
theorem le_of_close_from (h : closeFrom? 0x7B 0x7D (bytes rest) index depth = some close) :
    index ≤ close := by
  obtain ⟨inner, rfl, -⟩ := close_from_eq_some h
  exact Nat.le_add_right _ _

/-- A block around a properly nested part ends after it. -/
theorem matching_block (front : Text) (h : isNested inner = true) (back : Text) :
    matchingDelimiter? (front ++ '{' :: (inner ++ '}' :: back)) (byteLength front) =
      some (byteLength front + 1 + byteLength inner) :=
  have hopener : Brackets.ofCode.closer? '{' = some '}' := rfl
  Brackets.matching_of_balanced hopener ((nested_from_iff _).mp h) (fun _ _ _ => rfl) front back

/-- A block is open: its closer is awaited, below the closers `within` of what is open in it, and it is
found at `close`. -/
structure IsOpen (within outer : List Char) (text : Text) (index close : Nat) : Prop where
  nested : isNestedFrom (within ++ '}' :: outer) text = true
  closes : closeFrom? 0x7B 0x7D (bytes text) index (within.count '}' + 1) = some close

/-- After a character that does not end a block, the block is still open. -/
theorem IsOpen.step (h : IsOpen within outer (c :: rest) index close) :
    (within = [] ∧ c = '}' ∧ close = index) ∨
      ∃ within', Brackets.ofCode.Steps within none c within' ∧
        IsOpen within' outer rest (index + c.utf8Size) close := by
  obtain ⟨hnested, hclose⟩ := h
  obtain ⟨later, hsteps, hlater⟩ := exists_steps hnested
  rcases hsteps.inside with ⟨rfl, rfl, -, -⟩ | ⟨within', hinside, rfl⟩
  · have hfound := (Brackets.close_from_char braces_mem_pairs index 1).symm.trans hclose
    rw [if_neg (by decide), if_pos rfl, if_pos rfl] at hfound
    exact Or.inl ⟨rfl, rfl, (Option.some.inj hfound).symm⟩
  · have hcloses : c = '}' → Brackets.ofCode.closes none c = true := by
      rintro rfl
      rfl
    have hopener : Brackets.ofCode.closer? '{' = some '}' := rfl
    exact Or.inr ⟨within', hinside, hlater,
      (Brackets.close_from_step hopener hinside hcloses).symm.trans hclose⟩

/-- Up to its end, a block stays open. -/
theorem IsOpen.inside (front : Text)
    (h : IsOpen within outer (front ++ back) index close) (hle : index + byteLength front ≤ close) :
    ∃ within', IsOpen within' outer back (index + byteLength front) close := by
  induction front generalizing within index with
  | nil => exact ⟨within, h⟩
  | cons c front ih =>
      have hpos := Char.utf8Size_pos c
      rw [byteLength] at hle ⊢
      rcases h.step with ⟨-, -, hend⟩ | ⟨within', -, hopen⟩
      · omega
      · rw [← Nat.add_assoc]
        exact ih hopen (by omega)

/-- A block does not end in a part without closing braces. -/
theorem IsOpen.clear
    (h : IsOpen within outer (front ++ back) index close) (hfront : '}' ∉ front) :
    ∃ within', IsOpen within' outer back (index + byteLength front) close := by
  induction front generalizing within index with
  | nil => exact ⟨within, h⟩
  | cons c front ih =>
      rw [List.mem_cons, not_or] at hfront
      rcases h.step with ⟨-, hbrace, -⟩ | ⟨within', -, hopen⟩
      · exact absurd hbrace.symm hfront.1
      · rw [byteLength, ← Nat.add_assoc]
        exact ih hopen hfront.2

/-- A brace of a properly nested text that has a partner opens a block. -/
theorem is_open_of_matching (hnested : isNested (front ++ '{' :: rest) = true)
    (hclose : matchingDelimiter? (front ++ '{' :: rest) (byteLength front) = some close) :
    ∃ outer, IsOpen [] outer rest (byteLength front + 1) close := by
  obtain ⟨awaited, hawaited⟩ := exists_awaited front hnested
  refine ⟨awaited, (nested_from_brace awaited rest).symm.trans hawaited, ?_⟩
  have hcons : bytes ('{' :: rest) = 0x7B :: bytes rest := bytes_ascii (by decide) rest
  rw [matchingDelimiter?, drop_bytes_append, hcons] at hclose
  change closeFrom? 0x7B 0x7D (0x7B :: bytes rest) (byteLength front) 0 = some close at hclose
  rwa [← hcons, close_from_open] at hclose

end Brace

end CodeAtlas.Text
