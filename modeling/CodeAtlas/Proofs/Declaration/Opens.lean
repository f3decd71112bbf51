import CodeAtlas.Proofs.Declaration.Listing
import CodeAtlas.Proofs.Pattern.Word

/-!
# Which patterns a line does not match

The first pattern that matches a line decides what it declares, so the line of a listing must be
matched by none that is tried before its own. The patterns of declarations start with modifiers, which
may be words of the line as well; `Opens` collects what keeps such a pattern from lines of other forms
(`Opens.fails_row`), from the ends of bodies and from empty lines.
-/

namespace CodeAtlas.Declaration

open Pattern (Passes Fails LeadsNowhere passes_identifier ident_part_of_name_part
  ident_start_of_name_part fails_of_may_start fails_nil match_start_of_fails fails_literal
  fails_keyword fails_blanks leads_nowhere_words literal keywords blanks blanks1 optional choice
  identifier)
open Text (byteLength isWhiteSpace isNamePart)

section Name

variable {before : Option Char} {offset : Nat} {rest : Text}

/-- An ASCII identifier, a special word or not. -/
structure IsPlainWord (word : Text) : Prop where
  ne_nil : word ≠ []
  chars : ∀ c ∈ word, isNamePart c = true
  no_digit : ∀ c ∈ word.head?, Text.isAsciiDigit c = false

namespace IsPlainWord

variable {word : Text}

/-- The characters of an identifier may stand in one. -/
theorem ident_part (h : IsPlainWord word) : ∀ c ∈ word, CharSet.identPart.contains c = true :=
  fun c hc => ident_part_of_name_part (h.chars c hc)

/-- The first character of an identifier may start one. -/
theorem exists_head (h : IsPlainWord word) : ∃ c tail, word = c :: tail ∧ isNamePart c = true ∧
    Text.isAsciiDigit c = false ∧ CharSet.identStart.contains c = true := by
  obtain ⟨c, tail, htext⟩ := List.exists_cons_of_ne_nil h.ne_nil
  have hpart := h.chars c (by simp [htext])
  have hdigit := h.no_digit c (by simp [htext])
  exact ⟨c, tail, htext, hpart, hdigit, ident_start_of_name_part hpart hdigit⟩

/-- An identifier starts with a visible character. -/
theorem visible (h : IsPlainWord word) (rest : Text) :
    ∃ c tail, word ++ rest = c :: tail ∧ isWhiteSpace c = false := by
  obtain ⟨c, tail, htext, hpart, -⟩ := h.exists_head
  exact ⟨c, tail ++ rest, by rw [htext, List.cons_append], Text.not_white_space_of_name_part hpart⟩

/-- An identifier is read as one. -/
theorem passes (hword : IsPlainWord word)
    (h : ∀ c, rest.head? = some c → CharSet.identPart.contains c = false) :
    Passes identifier before offset word rest [] := by
  obtain ⟨c, tail, htext, -, -, hstart⟩ := hword.exists_head
  have hpart := hword.ident_part
  rw [htext] at hpart ⊢
  exact passes_identifier hstart hpart h

/-- A mark that is no part of an identifier does not stand in front of one. -/
theorem fails_mark (h : IsPlainWord word) {mark : Char} (hmark : isNamePart mark = false) :
    Fails (.char (.one mark)) (word ++ rest) := by
  obtain ⟨c, tail, htext, hpart, -⟩ := h.exists_head
  have hne : (CharSet.one mark).contains c = false := by
    rw [CharSet.contains, decide_eq_false_iff_not]
    rintro rfl
    rw [hmark] at hpart
    cases hpart
  rw [htext, List.cons_append]
  exact fails_of_may_start rfl hne

/-- An identifier holds no mark and no line feed. -/
theorem not_mem (h : IsPlainWord word) {c : Char} (hc : isNamePart c = false) : c ∉ word := by
  intro hmem
  rw [h.chars c hmem] at hc
  cases hc

end IsPlainWord

/-- A name is an ASCII identifier. -/
theorem Name.is_plain_word (name : Name) : IsPlainWord name.text :=
  ⟨name.ne_nil, name.chars, name.no_digit⟩

/-- The characters of a name may stand in an identifier. -/
theorem Name.ident_part (name : Name) :
    ∀ c ∈ name.text, CharSet.identPart.contains c = true :=
  name.is_plain_word.ident_part

/-- The first character of a name may start an identifier. -/
theorem Name.exists_head (name : Name) : ∃ c tail, name.text = c :: tail ∧ isNamePart c = true ∧
    Text.isAsciiDigit c = false ∧ CharSet.identStart.contains c = true :=
  name.is_plain_word.exists_head

/-- A name starts with a visible character. -/
theorem Name.visible (name : Name) (rest : Text) :
    ∃ c tail, name.text ++ rest = c :: tail ∧ isWhiteSpace c = false :=
  name.is_plain_word.visible rest

/-- A name is read as an identifier. -/
theorem Name.passes (name : Name)
    (h : ∀ c, rest.head? = some c → CharSet.identPart.contains c = false) :
    Passes identifier before offset name.text rest [] :=
  name.is_plain_word.passes h

/-- A mark that is no part of a name does not stand in front of one. -/
theorem Name.fails_mark (name : Name) {mark : Char} (hmark : isNamePart mark = false) :
    Fails (.char (.one mark)) (name.text ++ rest) :=
  name.is_plain_word.fails_mark hmark

/-- A name holds no mark and no line feed. -/
theorem Name.not_mem (name : Name) {c : Char} (hc : isNamePart c = false) : c ∉ name.text :=
  name.is_plain_word.not_mem hc

/-- In front of a line there are only spaces. -/
theorem not_mem_indentation {c : Char} (indent : Nat) (hc : c ≠ ' ') : c ∉ indentation indent :=
  fun hmem => hc (List.eq_of_mem_replicate hmem)

/-- In front of a line there is only white space. -/
theorem is_blank_indentation (indent : Nat) : Text.IsBlank (indentation indent) := by
  intro c hc
  rw [List.eq_of_mem_replicate hc]
  decide

/-- A character that none of its parts holds is not on a line. -/
theorem not_mem_row {c : Char} {indent : Nat} {front tail : Text} {name : Name} (hspace : c ≠ ' ')
    (hfront : c ∉ front) (hpart : isNamePart c = false) (htail : c ∉ tail) :
    c ∉ rowOf indent front name tail := by
  simp only [rowOf, List.mem_append, not_or]
  exact ⟨not_mem_indentation indent hspace, hfront, name.not_mem hpart, htail⟩

/-- The first character of a part is visible. -/
theorem head_visible (h : ∃ c tail, rest = c :: tail ∧ isWhiteSpace c = false) :
    ∀ c, rest.head? = some c → isWhiteSpace c = false := by
  obtain ⟨c, tail, rfl, hc⟩ := h
  intro d hd
  obtain rfl : c = d := Option.some.inj hd
  exact hc

end Name

section Modified

variable {listed heads : List String} {second : Pattern} {indent : Nat} {exported : Bool}
  {keyword : String} {name : Name} {rest tail : Text}

/-- The bytes of the white space in front of a line. -/
theorem byte_length_indentation (indent : Nat) : byteLength (indentation indent) = indent := by
  induction indent with
  | zero => rfl
  | succ n ih =>
      show byteLength (' ' :: indentation n) = n + 1
      rw [byteLength, ih, Nat.add_comm]
      rfl

/-- The words that declarations start with. -/
def declarationWords : List String :=
  ["class", "interface", "enum", "namespace", "function", "type", "const", "let"]

/-- The keyword of a declaration on one line is such a word. -/
theorem Statement.keyword_mem (form : Statement) : form.keyword ∈ declarationWords := by
  cases form <;> decide

/-- The keyword of a declaration with a body is such a word. -/
theorem FrameKind.keyword_mem (kind : FrameKind) : kind.keyword ∈ declarationWords := by
  cases kind <;> decide

/-- Such a word is made of letters. -/
theorem declaration_words_part (h : keyword ∈ declarationWords) :
    ∀ c ∈ keyword.toList, isNamePart c = true := by
  revert h keyword
  decide

/-- What stands in front of the name of a declaration. -/
theorem words_chars (hkeyword : keyword ∈ declarationWords) :
    ∀ c ∈ words exported keyword, isNamePart c = true ∨ c = ' ' := by
  refine List.forall_mem_append.mpr ⟨?_, List.forall_mem_append.mpr
    ⟨fun c hc => Or.inl (declaration_words_part hkeyword c hc), by simp⟩⟩
  cases exported <;> decide

/-- Such a word starts with a visible character. -/
theorem declaration_words_visible (h : keyword ∈ declarationWords) (rest : Text) :
    ∃ c tail, keyword.toList ++ rest = c :: tail ∧ isWhiteSpace c = false := by
  have hne : ∀ word ∈ declarationWords, word.toList ≠ [] := by decide
  obtain ⟨c, tail, htext⟩ := List.exists_cons_of_ne_nil (hne keyword h)
  refine ⟨c, tail ++ rest, by rw [htext, List.cons_append], ?_⟩
  exact Text.not_white_space_of_name_part (declaration_words_part h c (by simp [htext]))

/-- No word goes on with a space. -/
theorem space_ends_word : ∀ c, (' ' :: rest).head? = some c → isNamePart c = false :=
  Text.head_of_cons (by decide) rest

/-- A pattern of modifiers out of `listed` and a part that starts with one of `heads`. -/
structure Opens (listed heads : List String) (second : Pattern) : Prop where
  parts : ∀ word ∈ listed, ∀ c ∈ word.toList, isNamePart c = true
  reads : second.readsSome = true
  space : (Pattern.seq (.group 1 (keywords listed)) second).mayStart ' ' = false
  brace : (Pattern.seq (.group 1 (keywords listed)) second).mayStart '}' = false
  no_export : ∀ head ∈ heads, ¬head.toList <+: "export".toList
  fails : ∀ word rest, (∀ head ∈ heads, ¬head.toList <+: word) → Fails second (word ++ ' ' :: rest)

/-- Such a pattern reads something. -/
theorem Opens.reads_some (h : Opens listed heads second) :
    (Pattern.seq (.group 1 (keywords listed)) second).readsSome = true := by
  rw [Pattern.readsSome, h.reads, Bool.or_true]

/-- White space in front of a line does not matter. -/
theorem Opens.fails_indented (h : Opens listed heads second)
    (hrest : ∃ c tail, rest = c :: tail ∧ isWhiteSpace c = false)
    (hfails : Fails (.seq (.group 1 (keywords listed)) second) rest) :
    Fails (.seq (Line.modified listed) second) (indentation indent ++ rest) := by
  refine (fails_blanks hrest (fun c hc => ?_) h.reads_some hfails).assoc
  rw [List.eq_of_mem_replicate hc]
  exact h.space

/-- Such a pattern fails on a line that starts with another word. -/
theorem Opens.fails_row (h : Opens listed heads second) (hkeyword : keyword ∈ declarationWords)
    (hother : ∀ head ∈ heads, ¬head.toList <+: keyword.toList)
    (hround : keyword ∈ listed → LeadsNowhere (keywords listed) second (name.text ++ tail)) :
    Fails (.seq (Line.modified listed) second)
      (rowOf indent (words exported keyword) name tail) := by
  have hplain : LeadsNowhere (keywords listed) second
      (keyword.toList ++ ' ' :: (name.text ++ tail)) := by
    refine leads_nowhere_words (declaration_words_part hkeyword) space_ends_word h.parts
      (h.fails _ _ hother) fun hmem => ?_
    obtain ⟨c, more, htext, hc⟩ := name.visible tail
    refine ⟨c, more, by rw [htext], hc, htext ▸ hround (by simpa using hmem)⟩
  have hvisible := declaration_words_visible hkeyword (' ' :: (name.text ++ tail))
  cases exported with
  | false =>
      have hrow : rowOf indent (words false keyword) name tail =
          indentation indent ++ (keyword.toList ++ ' ' :: (name.text ++ tail)) := by
        simp [rowOf, words, lead]
      rw [hrow]
      exact h.fails_indented hvisible hplain.group.fails
  | true =>
      have hrow : rowOf indent (words true keyword) name tail = indentation indent ++
          ("export".toList ++ ' ' :: (keyword.toList ++ ' ' :: (name.text ++ tail))) := by
        simp only [rowOf, words, lead, if_true, List.append_assoc, List.cons_append, List.nil_append]
      have hexport : ∀ c ∈ "export".toList, isNamePart c = true := by decide
      rw [hrow]
      refine h.fails_indented ⟨'e', _, rfl, by decide⟩ (LeadsNowhere.group ?_).fails
      refine leads_nowhere_words hexport space_ends_word h.parts (h.fails _ _ h.no_export)
        fun _ => ?_
      obtain ⟨c, more, htext, hc⟩ := hvisible
      exact ⟨c, more, by rw [htext], hc, htext ▸ hplain⟩

/-- Such a pattern fails on the line that closes a body. -/
theorem Opens.fails_closing (h : Opens listed heads second) :
    Fails (.seq (Line.modified listed) second) (closingRow indent) :=
  h.fails_indented ⟨'}', [], rfl, by decide⟩ (fails_of_may_start h.reads_some h.brace)

/-- Such a pattern fails on an empty line. -/
theorem Opens.fails_empty (h : Opens listed heads second) :
    Fails (.seq (Line.modified listed) second) [] :=
  fails_nil (by rw [Pattern.readsSome, h.reads, Bool.or_true])

end Modified

section Statements

/-- The pattern of classes. -/
theorem class_opens : Opens ["export", "default", "declare", "abstract"] ["class"]
    (.seq (literal "class") (optional (.seq blanks1 (.group 2 identifier)))) where
  parts := by decide
  reads := rfl
  space := by decide
  brace := by decide
  no_export := by decide
  fails _ _ h := (fails_literal space_ends_word (by decide) (h _ List.mem_cons_self)).seq

/-- The pattern of interfaces. -/
theorem interface_opens : Opens ["export", "declare"] ["interface"]
    (.seq (Pattern.keyword "interface") (.group 2 identifier)) where
  parts := by decide
  reads := rfl
  space := by decide
  brace := by decide
  no_export := by decide
  fails _ _ h := (fails_literal space_ends_word (by decide) (h _ List.mem_cons_self)).seq.seq

/-- The pattern of enumerations. -/
theorem enum_opens : Opens ["export", "declare", "const"] ["enum"]
    (.seq (Pattern.keyword "enum") (.group 2 identifier)) where
  parts := by decide
  reads := rfl
  space := by decide
  brace := by decide
  no_export := by decide
  fails _ _ h := (fails_literal space_ends_word (by decide) (h _ List.mem_cons_self)).seq.seq

/-- The pattern of namespaces. -/
theorem namespace_opens : Opens ["export", "declare"] ["namespace", "module"]
    (.seq (.group 2 (.alt (literal "namespace") (literal "module"))) (.seq blanks1
      (.group 3 (.seq (.char .identStart) (Pattern.many (.char (.union .identPart (.one '.')))))))) where
  parts := by decide
  reads := rfl
  space := by decide
  brace := by decide
  no_export := by decide
  fails _ _ h := ((fails_literal space_ends_word (by decide) (h _ List.mem_cons_self)).alt
    (fails_literal space_ends_word (by decide)
      (h _ (List.mem_cons_of_mem _ List.mem_cons_self)))).group.seq

/-- The pattern of type aliases. -/
theorem type_opens : Opens ["export", "declare"] ["type"]
    (Pattern.sequence [Pattern.keyword "type", .group 2 identifier, blanks,
      optional (Pattern.sequence [literal "<", Pattern.many (.char (.notIn "=")), literal ">"]),
      blanks, literal "="]) where
  parts := by decide
  reads := rfl
  space := by decide
  brace := by decide
  no_export := by decide
  fails _ _ h := (fails_literal space_ends_word (by decide) (h _ List.mem_cons_self)).seq.seq

/-- The pattern of functions. -/
theorem function_opens : Opens ["export", "default", "declare", "async"] ["function"]
    (Pattern.sequence [literal "function", .wordBoundary, blanks, optional (literal "*"), blanks,
      optional (.group 2 identifier), blanks, .char (.ofString "(<")]) where
  parts := by decide
  reads := rfl
  space := by decide
  brace := by decide
  no_export := by decide
  fails _ _ h := (fails_literal space_ends_word (by decide) (h _ List.mem_cons_self)).seq

/-- The pattern of variables. -/
theorem variable_opens : Opens ["export", "declare"] ["const", "let", "var"]
    (.seq (.group 2 (choice [literal "const", literal "let", literal "var"])) blanks1) where
  parts := by decide
  reads := rfl
  space := by decide
  brace := by decide
  no_export := by decide
  fails word rest h := by
    have hword : ∀ text, text ∈ ["const", "let", "var"] → Fails (literal text) (word ++ ' ' :: rest) := by
      intro text hmem
      refine fails_literal space_ends_word ?_ (h text hmem)
      revert hmem text
      decide
    exact ((hword "const" (by decide)).alt
      ((hword "let" (by decide)).alt (hword "var" (by decide)))).group.seq

/-- Lines that start with another word are not matched. -/
theorem Opens.unmatched {listed heads : List String} {second : Pattern}
    (h : Opens listed heads second) {keyword : String} {indent : Nat} {exported : Bool} {name : Name}
    {tail : Text} (hkeyword : keyword ∈ declarationWords ∧ keyword ∉ listed ∧
      ∀ head ∈ heads, ¬head.toList <+: keyword.toList) :
    (Pattern.seq (Line.modified listed) second).matchStart?
      (rowOf indent (words exported keyword) name tail) = none :=
  match_start_of_fails
    (h.fails_row hkeyword.1 hkeyword.2.2 fun hmem => absurd hmem hkeyword.2.1)

/-- A name is none of the words that start a declaration or may stand in front of it. -/
theorem Name.word_not_mem (name : Name) {listed : List String}
    (h : ∀ word ∈ listed, word ∈ Text.reservedWords ∨ word ∈ Language.memberModifiers) :
    String.ofList name.text ∉ listed := fun hmem =>
  (h _ hmem).elim name.not_reserved name.not_modifier

/-- Lines after those of enumerations are not matched as enumerations. The keyword of a constant counts
as a modifier there, so the name is what tells such a line from an enumeration. -/
theorem enum_unmatched (keyword : String) (indent : Nat) (exported : Bool) (name : Name)
    {tail : Text} (htail : ∀ c, tail.head? = some c → isNamePart c = false)
    (hkeyword : keyword ∈ declarationWords ∧ ∀ head ∈ ["enum"], ¬head.toList <+: keyword.toList) :
    Line.enumLine.matchStart? (rowOf indent (words exported keyword) name tail) = none := by
  have hname : Fails (.seq (Pattern.keyword "enum") (.group 2 identifier)) (name.text ++ tail) := by
    refine (fails_keyword name.chars htail (by decide) fun heq => ?_).seq
    exact name.not_reserved (heq ▸ by decide)
  exact match_start_of_fails (enum_opens.fails_row hkeyword.1 hkeyword.2 fun _ =>
    leads_nowhere_words name.chars htail enum_opens.parts hname
      fun hmem => absurd hmem (name.word_not_mem (by decide)))

/-- A declaration without a body is matched as none with a body. -/
theorem Statement.no_block (form : Statement) (indent : Nat) (exported : Bool) (name : Name) :
    let row := rowOf indent (words exported form.keyword) name form.tail
    Line.classLine.matchStart? row = none ∧ Line.interfaceLine.matchStart? row = none ∧
      Line.enumLine.matchStart? row = none ∧ Line.namespaceLine.matchStart? row = none := by
  have htail : ∀ c, form.tail.head? = some c → isNamePart c = false := by
    intro c hc
    cases form <;> (obtain rfl := Option.some.inj hc; decide)
  refine ⟨class_opens.unmatched ?_, interface_opens.unmatched ?_,
    enum_unmatched _ indent exported name htail ?_, namespace_opens.unmatched ?_⟩ <;>
  cases form <;> decide

end Statements

end CodeAtlas.Declaration
