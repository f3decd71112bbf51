import CodeAtlas.Proofs.Text.Walk

/-!
# Parts between white space

What trimming leaves and what the words of a text are. `IsTight` says what a part that has been
trimmed looks like; such a part is what is left wherever white space stands around it
(`trim_around`). A text without words is blank (`words_eq_nil_iff`), and words that white space ends
are read one by one (`words_word`).
-/

namespace CodeAtlas.Text

/-- White space only. -/
def IsBlank (text : Text) : Prop :=
  ∀ c ∈ text, isWhiteSpace c = true

/-- Neither the first nor the last character is white space, and there is one. -/
def IsTight (part : Text) : Prop :=
  (∃ c, part.head? = some c ∧ isWhiteSpace c = false) ∧
    ∃ c, part.getLast? = some c ∧ isWhiteSpace c = false

variable {text part front back : Text}

/-- A text between white space is not empty. -/
theorem IsTight.ne_nil (h : IsTight part) : part ≠ [] := by
  rintro rfl
  obtain ⟨⟨c, hc, -⟩, -⟩ := h
  cases hc

/-- A front that satisfies a test is dropped. -/
theorem drop_while_append {test : Char → Bool} (h : ∀ c ∈ front, test c = true) :
    (front ++ text).dropWhile test = text.dropWhile test := by
  rw [List.dropWhile_append, List.dropWhile_eq_nil_iff.mpr h]
  rfl

/-- Nothing is dropped before a character that fails the test. -/
theorem drop_while_of_head {test : Char → Bool} (h : ∀ c, text.head? = some c → test c = false) :
    text.dropWhile test = text := by
  cases text with
  | nil => rfl
  | cons c rest => rw [List.dropWhile_cons_of_neg (by simp [h c rfl])]

/-- What is left after dropping starts with a character that fails the test. -/
theorem head_drop_while {test : Char → Bool} {c : Char} {rest : Text}
    (h : text.dropWhile test = c :: rest) : test c = false := by
  have hne : text.dropWhile test ≠ [] := by simp [h]
  have hhead := List.head_dropWhile_not test hne
  simpa [h] using hhead

/-- A text without its trailing white space is its front, and what follows is blank. -/
theorem exists_of_trim_end (text : Text) :
    ∃ tail, text = trimEnd text ++ tail ∧ IsBlank tail := by
  refine ⟨(text.reverse.takeWhile isWhiteSpace).reverse, ?_, ?_⟩
  · rw [trimEnd, dropEndWhile, ← List.reverse_append, List.takeWhile_append_dropWhile,
      List.reverse_reverse]
  · intro c hc
    exact List.mem_takeWhile_imp (List.mem_reverse.mp hc)

/-- What trimming leaves stands between white space. -/
theorem exists_of_trim (text : Text) :
    ∃ front back, text = front ++ trim text ++ back ∧ IsBlank front ∧ IsBlank back := by
  obtain ⟨back, hback, hblank⟩ := exists_of_trim_end (trimStart text)
  refine ⟨text.takeWhile isWhiteSpace, back, ?_, ?_, hblank⟩
  · rw [List.append_assoc, trim, ← hback, trimStart, List.takeWhile_append_dropWhile]
  · exact fun c hc => List.mem_takeWhile_imp hc

/-- Nothing is left of white space. -/
theorem trim_eq_nil_iff : trim text = [] ↔ IsBlank text := by
  constructor
  · intro hnil c hc
    obtain ⟨front, back, htext, hfront, hback⟩ := exists_of_trim text
    rw [htext, hnil, List.append_nil] at hc
    rcases List.mem_append.mp hc with hc | hc
    · exact hfront c hc
    · exact hback c hc
  · intro hblank
    rw [trim, trimStart, List.dropWhile_eq_nil_iff.mpr hblank]
    rfl

/-- White space in front of a text is trimmed. -/
theorem trim_cons {c : Char} (hc : isWhiteSpace c = true) (text : Text) :
    trim (c :: text) = trim text := by
  rw [trim, trim, trimStart, List.dropWhile_cons_of_pos hc]
  rfl

/-- A tight part is left as it is. -/
theorem trim_of_tight (h : IsTight part) : trim part = part := by
  obtain ⟨⟨c, hc, hfirst⟩, d, hd, hlast⟩ := h
  have hstart : trimStart part = part :=
    drop_while_of_head fun e he => by rwa [← Option.some.inj (hc.symm.trans he)]
  rw [trim, hstart, trimEnd, dropEndWhile, drop_while_of_head, List.reverse_reverse]
  intro e he
  rw [List.head?_reverse] at he
  rwa [← Option.some.inj (hd.symm.trans he)]

/-- A tight part is what trimming leaves of it and the white space around it. -/
theorem trim_around (hfront : IsBlank front) (h : IsTight part) (hback : IsBlank back) :
    trim (front ++ part ++ back) = part := by
  obtain ⟨⟨c, hc, hfirst⟩, -⟩ := id h
  have hstart : trimStart (front ++ part ++ back) = part ++ back := by
    rw [trimStart, List.append_assoc, drop_while_append hfront]
    refine drop_while_of_head fun e he => ?_
    rw [List.head?_append, hc, Option.some_or] at he
    rwa [← Option.some.inj he]
  rw [trim, hstart, trimEnd, dropEndWhile, List.reverse_append, drop_while_append]
  · have htrim := trim_of_tight h
    rwa [trim, trimStart, drop_while_of_head, trimEnd, dropEndWhile] at htrim
    intro e he
    rwa [← Option.some.inj (hc.symm.trans he)]
  · exact fun e he => hback e (List.mem_reverse.mp he)

/-- What trimming leaves is nothing or tight. -/
theorem is_tight_trim (h : trim text ≠ []) : IsTight (trim text) := by
  obtain ⟨back, hback, -⟩ := exists_of_trim_end (trimStart text)
  constructor
  · obtain ⟨c, rest, hcons⟩ := List.exists_cons_of_ne_nil h
    have hstart : trimStart text = c :: (rest ++ back) := by
      rw [hback]
      exact congrArg (· ++ back) hcons
    exact ⟨c, by rw [hcons]; rfl, head_drop_while hstart⟩
  · have hne : (trimStart text).reverse.dropWhile isWhiteSpace ≠ [] := by
      intro hnil
      exact h (by rw [trim, trimEnd, dropEndWhile, hnil]; rfl)
    obtain ⟨c, rest, hcons⟩ := List.exists_cons_of_ne_nil hne
    refine ⟨c, ?_, head_drop_while hcons⟩
    rw [trim, trimEnd, dropEndWhile, hcons, List.getLast?_reverse]
    rfl

/-- A word: characters other than white space. -/
def IsWordText (word : Text) : Prop :=
  word ≠ [] ∧ ∀ c ∈ word, isWhiteSpace c = false

/-- A word that white space ends is the first one. -/
theorem words_word {word : Text} {c : Char} (hword : IsWordText word) (hc : isWhiteSpace c = true) :
    words (word ++ c :: text) = word :: words text := by
  obtain ⟨hne, hword⟩ := hword
  rw [words, split_by_part hword hc, List.filter_cons_of_pos (by simpa using hne), words]

/-- A word alone is the only one. -/
theorem words_of_word {word : Text} (hword : IsWordText word) : words word = [word] := by
  obtain ⟨hne, hword⟩ := hword
  rw [words, split_by_whole hword, List.filter_cons_of_pos (by simpa using hne), List.filter_nil]

/-- Each part that a text is cut into is as long as no character of it cuts. -/
theorem split_by_cons_of_not {test : Char → Bool} {c : Char} (hc : test c = false) (text : Text) :
    ∃ part parts, splitBy test text = part :: parts ∧
      splitBy test (c :: text) = (c :: part) :: parts := by
  obtain ⟨part, parts, hsplit⟩ := List.exists_cons_of_ne_nil (split_by_ne_nil test text)
  exact ⟨part, parts, hsplit, by rw [splitBy, if_neg (by simp [hc]), hsplit]⟩

/-- The characters that do not cut are those of the parts. -/
theorem exists_mem_split_by_iff {test : Char → Bool} (good : Char → Bool) :
    (∃ part ∈ splitBy test text, ∃ c ∈ part, good c = true) ↔
      ∃ c ∈ text, test c = false ∧ good c = true := by
  induction text with
  | nil => simp [splitBy]
  | cons c rest ih =>
      by_cases hc : test c = true
      · rw [split_by_cut hc]
        simp [ih, hc]
      · rw [Bool.not_eq_true] at hc
        obtain ⟨part, parts, hsplit, hcons⟩ := split_by_cons_of_not hc rest
        rw [hsplit] at ih
        rw [hcons]
        simp only [List.mem_cons, exists_eq_or_imp, hc, true_and] at ih ⊢
        rw [or_assoc, ih]

/-- A text without words is blank. -/
theorem words_eq_nil_iff : words text = [] ↔ IsBlank text := by
  have hparts : words text = [] ↔ ¬∃ part ∈ splitBy isWhiteSpace text, ∃ c ∈ part, true = true := by
    rw [words, List.filter_eq_nil_iff]
    constructor
    · rintro h ⟨part, hpart, c, hc, -⟩
      have hempty := h part hpart
      simp only [Bool.not_eq_true', Bool.not_eq_false, List.isEmpty_iff] at hempty
      simp [hempty] at hc
    · intro h part hpart hne
      obtain ⟨c, rest, rfl⟩ := List.exists_cons_of_ne_nil (by simpa using hne : part ≠ [])
      exact h ⟨_, hpart, c, List.mem_cons_self, rfl⟩
  rw [hparts, exists_mem_split_by_iff fun _ => true]
  simp [IsBlank]

section Word

variable {word : Text} {c : Char}

/-- The code points of white space. -/
theorem code_of_white_space (h : isWhiteSpace c = true) :
    c.toNat ∈ List.range' 9 5 ++ [0x20, 0x85, 0xA0, 0x1680] ++ List.range' 0x2000 11 ++
      [0x2028, 0x2029, 0x202F, 0x205F, 0x3000] := by
  simp only [isWhiteSpace, Bool.or_eq_true, Bool.and_eq_true, decide_eq_true_eq] at h
  simp only [List.mem_append, List.mem_range'_1, List.mem_cons, List.not_mem_nil, or_false]
  omega

/-- An identifier character is no white space. -/
theorem not_white_space_of_ident_char (h : isIdentChar c = true) : isWhiteSpace c = false := by
  have hcodes : ∀ code ∈ List.range' 9 5 ++ [0x20, 0x85, 0xA0, 0x1680] ++ List.range' 0x2000 11 ++
      [0x2028, 0x2029, 0x202F, 0x205F, 0x3000], isIdentChar (Char.ofNat code) = false := by
    decide +kernel
  by_contra hblank
  have hcode := hcodes c.toNat (code_of_white_space (Bool.of_not_eq_false hblank))
  rw [Char.ofNat_toNat, h] at hcode
  cases hcode

/-- An identifier is tight. -/
theorem IsWord.is_tight (h : IsWord word) : IsTight word :=
  ⟨⟨_, List.head?_eq_some_head h.ne_nil,
      not_white_space_of_ident_char (h.ident _ (List.head_mem h.ne_nil))⟩,
    _, List.getLast?_eq_some_getLast h.ne_nil,
      not_white_space_of_ident_char (h.ident _ (List.getLast_mem h.ne_nil))⟩

/-- Nothing of an identifier is trimmed. -/
theorem trim_word (h : IsWord word) : trim word = word :=
  trim_of_tight h.is_tight

end Word

end CodeAtlas.Text
