import CodeAtlas.Proofs.Text.Trim

/-!
# Words of ASCII characters

The names and keywords of a program are made of letters, digits and underscores. No such character is
white space, so a name is cut off from what follows it in one way only (`name_append_inj`), and so is
the white space in front of a visible character (`blank_append_inj`).
-/

namespace CodeAtlas.Text

/-- An ASCII character that words are made of. -/
def isNameChar (c : Char) : Bool :=
  isAsciiLetter c || isAsciiDigit c || c = '_'

/-- The words that are no names in any program. -/
def reservedWords : List String :=
  ["break", "case", "catch", "class", "const", "continue", "debugger", "default", "delete", "do",
    "else", "enum", "export", "extends", "false", "finally", "for", "function", "if", "import", "in",
    "instanceof", "new", "null", "return", "super", "switch", "this", "throw", "true", "try",
    "typeof", "var", "void", "while", "with"]

/-- The words that are no names in modules either. -/
def strictWords : List String :=
  ["await", "implements", "interface", "let", "package", "private", "protected", "public", "static",
    "yield"]

/-- A word of ASCII characters. -/
structure IsName (word : Text) : Prop where
  ne_nil : word ≠ []
  chars : ∀ c ∈ word, isNameChar c = true

variable {c d : Char} {word other blank before after rest : Text}

/-- What holds of a character holds of the head of a text that starts with it. -/
theorem head_of_cons {p : Char → Prop} (h : p c) (rest : Text) :
    ∀ d, (c :: rest).head? = some d → p d := by
  intro d hd
  obtain rfl : c = d := Option.some.inj hd
  exact h

/-- The code points of the characters of names. -/
theorem code_of_name_char (h : isNameChar c = true) :
    (97 ≤ c.toNat ∧ c.toNat ≤ 122) ∨ (65 ≤ c.toNat ∧ c.toNat ≤ 90) ∨
      (48 ≤ c.toNat ∧ c.toNat ≤ 57) ∨ c.toNat = 95 := by
  simp only [isNameChar, isAsciiLetter, isAsciiDigit, Bool.or_eq_true, Bool.and_eq_true,
    decide_eq_true_eq, Char.le_def, UInt32.le_iff_toNat_le] at h
  rcases h with ((hlower | hupper) | hdigit) | rfl
  · exact Or.inl hlower
  · exact Or.inr (Or.inl hupper)
  · exact Or.inr (Or.inr (Or.inl hdigit))
  · exact Or.inr (Or.inr (Or.inr rfl))

/-- A character of a name is a word character. -/
theorem is_word_char_of_name_char (h : isNameChar c = true) : isWordChar c = true := by
  have hcode := code_of_name_char h
  rw [isWordChar, if_pos (by omega)]
  exact h

/-- A character of a name is an identifier character. -/
theorem is_ident_char_of_name_char (h : isNameChar c = true) : isIdentChar c = true := by
  have hcode := code_of_name_char h
  simp only [isNameChar, Bool.or_eq_true, decide_eq_true_eq] at h
  simp only [isIdentChar, isAlphanumeric, isAlphabetic, isNumeric, Bool.or_eq_true,
    decide_eq_true_eq]
  rw [if_pos (by omega), if_pos (by omega)]
  exact Or.inl h

/-- A character of a name that is no digit starts an identifier. -/
theorem is_ident_start_of_name_char (h : isNameChar c = true) (hdigit : isAsciiDigit c = false) :
    isIdentStart c = true := by
  have hcode := code_of_name_char h
  rw [isNameChar, hdigit, Bool.or_false] at h
  rw [isIdentStart, isAlphabetic, if_pos (by omega), h, Bool.true_or]

/-- A character of a name is no white space. -/
theorem not_white_space_of_name_char (h : isNameChar c = true) : isWhiteSpace c = false := by
  have hcode := code_of_name_char h
  simp only [isWhiteSpace, Bool.or_eq_false_iff, Bool.and_eq_false_iff, decide_eq_false_iff_not]
  omega

/-- A name is a word between white space. -/
theorem IsName.is_word_text (h : IsName word) : IsWordText word :=
  ⟨h.ne_nil, fun c hc => not_white_space_of_name_char (h.chars c hc)⟩

/-- An ASCII character that identifiers are made of. -/
def isNamePart (c : Char) : Bool :=
  isNameChar c || c = '$'

/-- A character of a name is one of identifiers. -/
theorem name_part_of_name_char (h : isNameChar c = true) : isNamePart c = true := by
  rw [isNamePart, h, Bool.true_or]

/-- A character of an identifier has one byte. -/
theorem ascii_of_name_part (h : isNamePart c = true) : c.toNat < 128 := by
  rw [isNamePart, Bool.or_eq_true, decide_eq_true_eq] at h
  rcases h with hname | rfl
  · have hcode := code_of_name_char hname
    omega
  · decide

/-- A character of an identifier is no white space. -/
theorem not_white_space_of_name_part (h : isNamePart c = true) : isWhiteSpace c = false := by
  rw [isNamePart, Bool.or_eq_true, decide_eq_true_eq] at h
  rcases h with hname | rfl
  · exact not_white_space_of_name_char hname
  · decide

/-- A character of an identifier is an identifier character. -/
theorem is_ident_char_of_name_part (h : isNamePart c = true) : isIdentChar c = true := by
  rw [isNamePart, Bool.or_eq_true, decide_eq_true_eq] at h
  rcases h with hname | rfl
  · exact is_ident_char_of_name_char hname
  · decide

/-- A character of an identifier that is no digit starts an identifier. -/
theorem is_ident_start_of_name_part (h : isNamePart c = true) (hdigit : isAsciiDigit c = false) :
    isIdentStart c = true := by
  rw [isNamePart, Bool.or_eq_true, decide_eq_true_eq] at h
  rcases h with hname | rfl
  · exact is_ident_start_of_name_char hname hdigit
  · decide

/-- A stretch of characters that pass a test is cut off from one that does not in one way only. -/
theorem span_append_inj (test : Char → Bool) (hword : ∀ c ∈ word, test c = true)
    (hother : ∀ c ∈ other, test c = true) (hafter : ∀ c, after.head? = some c → test c = false)
    (hrest : ∀ c, rest.head? = some c → test c = false) (h : word ++ after = other ++ rest) :
    word = other ∧ after = rest := by
  have hcut : ∀ {front back : Text}, (∀ c ∈ front, test c = true) →
      (∀ c, back.head? = some c → test c = false) → (front ++ back).dropWhile test = back := by
    intro front back hfront hback
    rw [drop_while_append hfront, drop_while_of_head hback]
  have hrests : after = rest := by
    rw [← hcut hword hafter, h, hcut hother hrest]
  exact ⟨List.append_cancel_right (hrests ▸ h), hrests⟩

/-- A name is cut off from what follows in one way only. -/
theorem name_append_inj (hword : IsName word) (hother : IsName other)
    (hafter : ∀ c, after.head? = some c → isNameChar c = false)
    (hrest : ∀ c, rest.head? = some c → isNameChar c = false) (h : word ++ after = other ++ rest) :
    word = other ∧ after = rest :=
  span_append_inj isNameChar hword.chars hother.chars hafter hrest h

/-- White space is cut off from a visible character in one way only. -/
theorem blank_append_inj (hblank : IsBlank blank) (hbefore : IsBlank before)
    (hc : isWhiteSpace c = false) (hd : isWhiteSpace d = false)
    (h : blank ++ c :: after = before ++ d :: rest) : blank = before ∧ c = d ∧ after = rest := by
  obtain ⟨hfront, hback⟩ :=
    span_append_inj isWhiteSpace hblank hbefore (by simpa using hc) (by simpa using hd) h
  obtain ⟨rfl, rfl⟩ := List.cons.inj hback
  exact ⟨hfront, rfl, rfl⟩

end CodeAtlas.Text
