import CodeAtlas.Proofs.Pattern.Passes
import CodeAtlas.Proofs.Text.Name

/-!
# Words and white space in patterns

What patterns made of words and white space read. A repetition may end after any of its rounds, so
that the whole pattern fails only if what follows fails at every such end: `LeadsNowhere` says this,
and is shown round by round (`leads_nowhere_words`). Words that are not among those of a repetition
end it at once (`fails_words`).
-/

namespace CodeAtlas.Pattern

open Text (isWhiteSpace isNamePart IsBlank)

section Passes

variable {before : Option Char} {offset least : Nat} {rest : Text}

/-- White space is passed over where there is none. -/
theorem passes_blanks (h : ∀ c, rest.head? = some c → isWhiteSpace c = false) :
    Passes blanks before offset [] rest [] :=
  passes_chars (by simp) (Nat.zero_le _) h

/-- One space is passed over. -/
theorem passes_blank (hleast : least ≤ 1) (h : ∀ c, rest.head? = some c → isWhiteSpace c = false) :
    Passes (.rounds false least none (.char .space)) before offset [' '] rest [] :=
  passes_chars (by decide) hleast h

/-- A keyword and a space are read. -/
theorem passes_keyword (text : String) (h : ∀ c, rest.head? = some c → isWhiteSpace c = false) :
    Passes (keyword text) before offset (text.toList ++ [' ']) rest [] :=
  (passes_literal text _).seq (passes_blank (Nat.le_refl 1) h)

/-- A pattern that may be left out is so in front of a character that it does not start with. -/
theorem passes_left_out {body : Pattern} {c : Char} (hsome : body.readsSome = true)
    (hc : body.mayStart c = false) : Passes (optional body) before offset [] (c :: rest) [] :=
  passes_no_round (fails_of_may_start hsome hc)

/-- The characters of names may stand in identifiers. -/
theorem ident_part_of_name_part {c : Char} (h : isNamePart c = true) :
    CharSet.identPart.contains c = true := by
  rw [isNamePart, Bool.or_eq_true, decide_eq_true_eq] at h
  rcases h with hname | rfl
  · simp [CharSet.identPart, CharSet.contains, Text.is_word_char_of_name_char hname]
  · decide

/-- Those of them that are no digits may start one. -/
theorem ident_start_of_name_part {c : Char} (h : isNamePart c = true)
    (hdigit : Text.isAsciiDigit c = false) : CharSet.identStart.contains c = true := by
  rw [isNamePart, Text.isNameChar, hdigit, Bool.or_false, Bool.or_eq_true, Bool.or_eq_true,
    Text.isAsciiLetter, Bool.or_eq_true, decide_eq_true_eq, decide_eq_true_eq] at h
  simp only [CharSet.identStart, CharSet.oneOf, CharSet.contains, List.foldr_cons, List.foldr_nil,
    Bool.or_eq_true, decide_eq_true_eq]
  rcases h with ((hlower | hupper) | hscore) | hdollar
  · exact Or.inr (Or.inl hlower)
  · exact Or.inl hupper
  · exact Or.inr (Or.inr (Or.inl hscore))
  · exact Or.inr (Or.inr (Or.inr (Or.inl hdollar)))

/-- An identifier is read up to a character that cannot stand in it. -/
theorem passes_identifier {c : Char} {tail : Text} (hstart : CharSet.identStart.contains c = true)
    (hpart : ∀ d ∈ c :: tail, CharSet.identPart.contains d = true)
    (h : ∀ d, rest.head? = some d → CharSet.identPart.contains d = false) :
    Passes identifier before offset (c :: tail) rest [] :=
  (passes_char hstart).seq (passes_chars (fun d hd => hpart d (List.mem_cons_of_mem c hd))
    (Nat.zero_le _) h)

/-- Before a word and after none there is a boundary. -/
theorem at_word_boundary (hbefore : before.any Text.isWordChar = false)
    (hc : rest.head?.any Text.isWordChar = true) :
    Pattern.atWordBoundary ⟨before, offset, rest⟩ = true := by
  rw [Pattern.atWordBoundary, hbefore, hc]
  rfl

end Passes

section Fails

variable {first second body : Pattern} {rest : Text} {text : String}

/-- What a repetition of white space reads is blank. -/
theorem CanRead.is_blank {least : Nat} {read : Text}
    (h : CanRead (.rounds false least none (.char .space)) read) :
    least ≤ read.length ∧ IsBlank read :=
  h.of_chars

/-- What one of several words reads. -/
theorem CanRead.of_choice {words : List String} {read : Text}
    (h : CanRead (choice (words.map literal)) read) : String.ofList read ∈ words := by
  induction words with
  | nil =>
      obtain ⟨c, hc, -⟩ := h.of_char
      simp [CharSet.none, CharSet.contains] at hc
  | cons word words ih =>
      cases words with
      | nil =>
          obtain rfl := h.of_literal
          simp
      | cons other words =>
          rcases h.of_alt with hword | hlater
          · obtain rfl := hword.of_literal
            simp
          · exact List.mem_cons_of_mem word (ih hlater)

/-- A pattern fails if its first part does. -/
theorem Fails.seq (h : Fails first rest) : Fails (.seq first second) rest := by
  intro α before offset groups next
  rw [run]
  exact h α before offset groups _

/-- A choice fails if both of its sides do. -/
theorem Fails.alt (hfirst : Fails first rest) (hsecond : Fails second rest) :
    Fails (.alt first second) rest := by
  intro α before offset groups next
  rw [run, hfirst α before offset groups next]
  exact hsecond α before offset groups next

/-- A group fails if its pattern does. -/
theorem Fails.group {number : Nat} (h : Fails first rest) : Fails (.group number first) rest := by
  intro α before offset groups next
  rw [run]
  exact h α before offset groups _

/-- It does not matter how three patterns are grouped. -/
theorem Fails.assoc {last : Pattern} (h : Fails (.seq first (.seq second last)) rest) :
    Fails (.seq (.seq first second) last) rest := by
  intro α before offset groups next
  have hfails := h α before offset groups next
  rw [run] at hfails
  rw [run, run]
  exact hfails

/-- Wherever the first pattern can end, the second one fails. -/
def LeadsNowhere (first second : Pattern) (rest : Text) : Prop :=
  ∀ read after, CanRead first read → rest = read ++ after → Fails second after

/-- Two patterns fail if the first one leads nowhere. -/
theorem LeadsNowhere.fails (h : LeadsNowhere first second rest) : Fails (.seq first second) rest := by
  intro α before offset groups next
  by_contra hsome
  obtain ⟨result, hresult⟩ := Option.ne_none_iff_exists'.mp hsome
  rw [run] at hresult
  obtain ⟨read, newer, mid, after, hrest, hread, hnext⟩ := run_goes_on first _ _ _ _ hresult
  exact Option.some_ne_none result
    (hnext.symm.trans (h read after ⟨_, _, hread⟩ hrest α mid _ (newer ++ groups) next))

/-- A group leads nowhere if what it records does not. -/
theorem LeadsNowhere.group {number : Nat} (h : LeadsNowhere first second rest) :
    LeadsNowhere (.group number first) second rest :=
  fun read after hread => h read after hread.of_group

/-- A repetition leads nowhere if neither its start nor any of its rounds leads anywhere. -/
theorem leads_nowhere_many (hnow : Fails second rest)
    (hround : ∀ read after, CanRead body read → rest = read ++ after →
      LeadsNowhere (many body) second after) : LeadsNowhere (many body) second rest := by
  intro read after hread hrest
  rcases hread.of_rounds with ⟨-, rfl⟩ | ⟨left, right, rfl, hleft, hright⟩
  · rwa [hrest] at hnow
  · rw [List.append_assoc] at hrest
    exact hround left (right ++ after) hleft hrest right after hright rfl

end Fails

section Words

variable {second : Pattern} {words : List String} {word rest later blank : Text} {text : String}

/-- White space that is taken in front of a visible character is all that there is, or some of it is
left. -/
theorem blank_append_cases {white after : Text} (hwhite : IsBlank white)
    (hrest : ∃ c tail, rest = c :: tail ∧ isWhiteSpace c = false) (h : blank ++ rest = white ++ after) :
    (white = blank ∧ after = rest) ∨ ∃ c tail, after = c :: tail ∧ c ∈ blank := by
  rcases List.append_eq_append_iff.mp h with ⟨middle, rfl, rfl⟩ | ⟨middle, rfl, rfl⟩
  · -- More white space than there is would take the visible character.
    obtain ⟨c, tail, htail, hc⟩ := hrest
    cases middle with
    | nil => exact Or.inl ⟨List.append_nil _, rfl⟩
    | cons d middle =>
        obtain ⟨rfl, -⟩ := List.cons.inj htail
        rw [hwhite d (by simp)] at hc
        cases hc
  · cases middle with
    | nil => exact Or.inl ⟨(List.append_nil _).symm, rfl⟩
    | cons d middle => exact Or.inr ⟨d, middle ++ rest, rfl, by simp⟩

/-- What is read of an identifier by one of several words and white space after it. -/
theorem CanRead.of_word {read after : Text} (hword : ∀ c ∈ word, isNamePart c = true)
    (hrest : ∀ c, rest.head? = some c → isNamePart c = false)
    (hwords : ∀ other ∈ words, ∀ c ∈ other.toList, isNamePart c = true)
    (h : CanRead (.seq (choice (words.map literal)) blanks1) read)
    (heq : word ++ rest = read ++ after) :
    String.ofList word ∈ words ∧
      ∃ white, 1 ≤ white.length ∧ IsBlank white ∧ read = word ++ white ∧ rest = white ++ after := by
  obtain ⟨other, white, rfl, hother, hwhite⟩ := h.of_seq
  obtain ⟨hlength, hblank⟩ := hwhite.is_blank
  have hmem := hother.of_choice
  obtain ⟨c, white, rfl⟩ := List.exists_cons_of_ne_nil (List.length_pos_iff.mp hlength)
  have hspace : isNamePart c = false := by
    by_contra hname
    have hvisible := Text.not_white_space_of_name_part (Bool.not_eq_false _ ▸ hname)
    rw [hblank c List.mem_cons_self] at hvisible
    cases hvisible
  rw [List.append_assoc] at heq
  obtain ⟨rfl, hlater⟩ := Text.span_append_inj isNamePart hword
    (fun d hd => hwords _ hmem d (by simpa using hd)) hrest (by simpa using hspace) heq
  exact ⟨hmem, c :: white, hlength, hblank, rfl, hlater⟩

/-- Words other than the one that stands there are not read. -/
theorem fails_words (hword : ∀ c ∈ word, isNamePart c = true)
    (hrest : ∀ c, rest.head? = some c → isNamePart c = false)
    (hwords : ∀ other ∈ words, ∀ c ∈ other.toList, isNamePart c = true)
    (hnot : String.ofList word ∉ words) :
    Fails (.seq (choice (words.map literal)) blanks1) (word ++ rest) := by
  refine fails_of_cannot_read fun read hread => ?_
  rintro ⟨after, hafter⟩
  exact hnot (hread.of_word hword hrest hwords hafter.symm).1

/-- A word fails where another one stands that it does not begin. -/
theorem fails_literal (hrest : ∀ c, rest.head? = some c → isNamePart c = false)
    (htext : ∀ c ∈ text.toList, isNamePart c = true) (h : ¬text.toList <+: word) :
    Fails (literal text) (word ++ rest) := by
  refine fails_of_cannot_read fun read hread => ?_
  obtain rfl := hread.of_literal
  rintro ⟨after, hafter⟩
  rcases List.append_eq_append_iff.mp hafter with ⟨middle, hword, -⟩ | ⟨middle, hword, rfl⟩
  · exact h ⟨middle, hword.symm⟩
  · cases middle with
    | nil => exact h ⟨[], by rw [List.append_nil, hword, List.append_nil]⟩
    | cons c middle =>
        have hc := hrest c rfl
        rw [htext c (by simp [hword])] at hc
        cases hc

/-- A keyword other than the word that stands there is not read. -/
theorem fails_keyword (hword : ∀ c ∈ word, isNamePart c = true)
    (hrest : ∀ c, rest.head? = some c → isNamePart c = false)
    (htext : ∀ c ∈ text.toList, isNamePart c = true) (hne : String.ofList word ≠ text) :
    Fails (keyword text) (word ++ rest) :=
  fails_words hword hrest (List.forall_mem_singleton.mpr htext)
    (by simpa using hne)

/-- Words lead nowhere at a word that leads nowhere itself. -/
theorem leads_nowhere_words (hword : ∀ c ∈ word, isNamePart c = true)
    (hrest : ∀ c, rest.head? = some c → isNamePart c = false)
    (hwords : ∀ other ∈ words, ∀ c ∈ other.toList, isNamePart c = true)
    (hnow : Fails second (word ++ rest))
    (hround : String.ofList word ∈ words → ∃ c tail, rest = ' ' :: c :: tail ∧
      isWhiteSpace c = false ∧ LeadsNowhere (keywords words) second (c :: tail)) :
    LeadsNowhere (keywords words) second (word ++ rest) := by
  refine leads_nowhere_many hnow fun read after hread heq => ?_
  obtain ⟨hmem, white, hlength, hblank, -, hlater⟩ := hread.of_word hword hrest hwords heq
  obtain ⟨c, tail, rfl, hc, hleads⟩ := hround hmem
  -- At least one space is taken, and there is no other.
  obtain ⟨d, white, rfl⟩ := List.exists_cons_of_ne_nil (List.length_pos_iff.mp hlength)
  obtain ⟨rfl, htail⟩ := List.cons.inj hlater
  cases white with
  | nil =>
      obtain rfl : c :: tail = after := htail
      exact hleads
  | cons e white =>
      obtain ⟨rfl, -⟩ := List.cons.inj htail
      rw [hblank c (by simp)] at hc
      cases hc

/-- White space leads nowhere in front of a part where nothing more is read. -/
theorem fails_blanks (hrest : ∃ c tail, rest = c :: tail ∧ isWhiteSpace c = false)
    (hspace : ∀ c ∈ blank, second.mayStart c = false) (hsome : second.readsSome = true)
    (h : Fails second rest) : Fails (.seq blanks second) (blank ++ rest) := by
  refine LeadsNowhere.fails fun white after hread heq => ?_
  rcases blank_append_cases hread.is_blank.2 hrest heq with ⟨-, rfl⟩ | ⟨c, tail, rfl, hc⟩
  · exact h
  · exact fails_of_may_start hsome (hspace c hc)

end Words

end CodeAtlas.Pattern
