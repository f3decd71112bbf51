import CodeAtlas.Proofs.Module.Literal
import CodeAtlas.Proofs.Pattern.Search

/-!
# The words that statements are led by

Each statement form starts with a word, or with one of a few, and goes on with one of few characters.
An import with bindings has a clause up to its first quote (`import_from_reads`), a bound variable one
up to its first equals sign (`require_binding_reads`).
-/

namespace CodeAtlas.Module

open Pattern (Led CanRead keyword literal led_of_keyword led_of_keyword_marks led_of_blanks
  led_of_mark led_of_reads)
open Text (isWhiteSpace isNameChar IsName IsBlank)

variable {read : Text}

/-- A text with a visible character starts with white space and one such character. -/
theorem exists_visible {text : Text} {c : Char} (hmem : c ∈ text) (hc : isWhiteSpace c = false) :
    ∃ blank d tail, text = blank ++ d :: tail ∧ IsBlank blank ∧ isWhiteSpace d = false := by
  have hne : text.dropWhile isWhiteSpace ≠ [] := by
    intro hnil
    rw [List.dropWhile_eq_nil_iff] at hnil
    rw [hnil c hmem] at hc
    cases hc
  obtain ⟨d, tail, hdrop⟩ := List.exists_cons_of_ne_nil hne
  refine ⟨text.takeWhile isWhiteSpace, d, tail, ?_, fun e he => List.mem_takeWhile_imp he,
    Text.head_drop_while hdrop⟩
  rw [← hdrop, List.takeWhile_append_dropWhile]

/-- What may stand in a clause. -/
abbrev clauseSet : CharSet :=
  .notIn ";'\"`()"

/-- What an import with bindings reads: its first word, then white space, a clause and the word `from`
without a mark that a clause has not, then a quote. -/
theorem import_from_reads (h : CanRead Statement.importFrom read) : ∃ c middle quote tail,
    read = "import".toList ++ c :: (middle ++ quote :: tail) ∧ isWhiteSpace c = true ∧
      'f' ∈ middle ∧ (∀ d ∈ c :: middle, clauseSet.contains d = true) ∧
        (quote = '\'' ∨ quote = '"') := by
  have hset : ∀ {pattern : Pattern} {part : Text}, CanRead pattern part →
      (∀ d ∈ ";'\"`()".toList, pattern.readsNo d = true) →
      ∀ d ∈ part, clauseSet.contains d = true := by
    intro pattern part hpart hno d hd
    exact Pattern.contains_not_in_iff.mpr fun hmark => hpart.not_mem (hno d hmark) hd
  obtain ⟨none, right, rfl, hnone, hright⟩ := h.of_seq
  obtain ⟨front, right, rfl, hfront, hright⟩ := hright.of_seq
  obtain ⟨type, right, rfl, htype, hright⟩ := hright.of_seq
  obtain ⟨clause, right, rfl, hclause, hright⟩ := hright.of_seq
  obtain ⟨space, right, rfl, hspace, hright⟩ := hright.of_seq
  obtain ⟨empty, right, rfl, hempty, hright⟩ := hright.of_seq
  obtain ⟨word, right, rfl, hword, hright⟩ := hright.of_seq
  obtain ⟨gap, right, rfl, hgap, hright⟩ := hright.of_seq
  obtain ⟨opening, right, rfl, hopening, -⟩ := hright.of_seq
  obtain ⟨quote, hquote, rfl⟩ := hopening.of_char
  obtain ⟨start, blank, rfl, hstart, hblank⟩ := hfront.of_seq
  obtain rfl := hnone.of_word_boundary
  obtain rfl := hempty.of_word_boundary
  obtain rfl := hstart.of_literal
  obtain ⟨hlength, hwhite⟩ := hblank.is_blank
  obtain ⟨c, blank, rfl⟩ := List.exists_cons_of_ne_nil (List.length_pos_iff.mp hlength)
  have hfrom := hword.of_literal
  refine ⟨c, blank ++ (type ++ (clause ++ (space ++ (word ++ gap)))), quote, right, by simp,
    hwhite c List.mem_cons_self, ?_, ?_, quote_cases hquote⟩
  · simp [hfrom]
  · rw [← List.cons_append]
    simp only [List.forall_mem_append]
    exact ⟨hset hblank (by decide), hset htype (by decide), hset hclause (by decide),
      hset hspace (by decide), hset hword (by decide), hset hgap (by decide)⟩

/-- `import` is a word. -/
theorem import_is_name : IsName "import".toList :=
  ⟨by decide, by decide⟩

/-- Imports with bindings are led by their first word. -/
theorem import_from_led : Led ["import".toList] clauseSet.contains Statement.importFrom := by
  refine led_of_reads (by simpa using import_is_name) fun read hread => ?_
  obtain ⟨c, middle, quote, tail, rfl, hc, hmem, hset, -⟩ := import_from_reads hread.after_boundary
  obtain ⟨blank, d, rest, hmiddle, hblank, hd⟩ :=
    exists_visible (List.mem_cons_of_mem c hmem) (by decide)
  refine ⟨_, List.mem_singleton_self _, blank, d, rest ++ quote :: tail, ?_, hblank, hd,
    hset d (by simp [hmiddle]), ?_⟩
  · rw [← List.cons_append, hmiddle, List.append_assoc, List.cons_append]
  · rintro rfl
    obtain ⟨rfl, -⟩ := List.cons.inj hmiddle
    rw [hc] at hd
    cases hd

/-- Imports for their side effects are led by their first word. -/
theorem side_effect_led : Led ["import".toList] (CharSet.ofString "'\"").contains
    Statement.importSideEffect := by
  refine led_of_blanks import_is_name rfl fun c hc => ?_
  have hquote : (CharSet.ofString "'\"").contains c = true := by
    simpa [Statement.specifier, Pattern.sequence, Pattern.mayStart, Statement.quote,
      Pattern.readsSome] using hc
  rcases quote_cases hquote with rfl | rfl <;> exact ⟨by decide, by decide, by decide⟩

/-- An identifier starts with a character of names or a dollar sign. -/
theorem ident_start_cases {c : Char} (h : CharSet.identStart.contains c = true) :
    isNameChar c = true ∨ c = '$' := by
  simp only [CharSet.identStart, CharSet.oneOf, CharSet.none, CharSet.contains, List.foldr_cons,
    List.foldr_nil, Bool.or_eq_true, Bool.not_true, Bool.false_eq_true, or_false,
    decide_eq_true_eq] at h
  simp only [isNameChar, Text.isAsciiLetter, Bool.or_eq_true, decide_eq_true_eq]
  rcases h with h | h | h | h <;> simp [h]

/-- Imports by assignment are led by their first word. -/
theorem import_require_led : Led ["import".toList] CharSet.identStart.contains
    Statement.importRequire := by
  refine led_of_keyword import_is_name rfl fun c hc => ?_
  have hstart : CharSet.identStart.contains c = true := by
    simpa [Pattern.sequence, Pattern.mayStart, Pattern.identifier, Pattern.readsSome] using hc
  refine ⟨?_, hstart⟩
  rcases ident_start_cases hstart with hname | rfl
  · exact Text.not_white_space_of_name_char hname
  · decide

/-- Calls of `require` are led by it. -/
theorem require_any_led : Led ["require".toList] (· == '(') Statement.requireAny := by
  refine led_of_mark ⟨by decide, by decide⟩ rfl (by decide) fun c hc => ?_
  simpa [Pattern.sequence, Pattern.mayStart, literal, CharSet.contains, Pattern.readsSome] using hc

/-- Import expressions are led by their first word. -/
theorem import_call_led : Led ["import".toList] (· == '(') Statement.importCall := by
  refine led_of_mark import_is_name rfl (by decide) fun c hc => ?_
  simpa [Pattern.sequence, Pattern.mayStart, literal, CharSet.contains, Pattern.readsSome] using hc

/-- `export` is a word. -/
theorem export_is_name : IsName "export".toList :=
  ⟨by decide, by decide⟩

/-- Re-exports of whole modules are led by their first word. -/
theorem export_star_led : Led ["export".toList] (['t', '*'].contains ·) Statement.exportStar := by
  refine led_of_keyword_marks export_is_name rfl (by decide) fun c hc => ?_
  simpa [Pattern.sequence, Pattern.mayStart, Pattern.optional, keyword, literal, CharSet.contains,
    Pattern.readsSome] using hc

/-- Export lists are led by their first word. -/
theorem export_list_led : Led ["export".toList] (['t', '{'].contains ·) Statement.exportList := by
  refine led_of_keyword_marks export_is_name rfl (by decide) fun c hc => ?_
  simpa [Pattern.sequence, Pattern.mayStart, Pattern.optional, keyword, literal, CharSet.contains,
    Pattern.readsSome] using hc

/-- Default exports are led by their first word. -/
theorem export_default_led : Led ["export".toList] (· == 'd') Statement.exportDefault := by
  refine led_of_keyword export_is_name rfl fun c hc => ?_
  obtain rfl : c = 'd' := by
    simpa [Pattern.sequence, Pattern.mayStart, keyword, literal, CharSet.contains,
      Pattern.readsSome] using hc
  exact ⟨by decide, by decide⟩

/-- Exported declarations are led by their first word. -/
theorem export_declaration_led : Led ["export".toList] isNameChar Statement.exportDeclaration := by
  refine led_of_keyword export_is_name rfl fun c hc => ?_
  have hcases : c = 'd' ∨ c = 'a' ∨ c = 'c' ∨ c = 'i' ∨ c = 'c' ∨ c = 'e' ∨ c = 't' ∨ c = 'n' ∨
      c = 'm' ∨ c = 'f' ∨ c = 'c' ∨ c = 'l' ∨ c = 'v' := by
    simpa [Pattern.sequence, Pattern.choice, Pattern.mayStart, Pattern.optional, keyword, literal,
      CharSet.contains, Pattern.readsSome] using hc
  rcases hcases with rfl | rfl | rfl | rfl | rfl | rfl | rfl | rfl | rfl | rfl | rfl | rfl | rfl <;>
    exact ⟨by decide, by decide⟩

/-- Exports by assignment are led by their first word. -/
theorem export_assign_led : Led ["export".toList] (· == '=') Statement.exportAssign := by
  refine led_of_mark export_is_name rfl (by decide) fun c hc => ?_
  simpa [Pattern.sequence, Pattern.mayStart, literal, CharSet.contains, Pattern.readsSome] using hc

/-- The words that bind variables. -/
def bindingWords : List Text :=
  ["const".toList, "let".toList, "var".toList]

/-- What a variable bound to a required module reads: a word, something up to the first equals sign, and
`require` after it. -/
theorem require_binding_reads (h : CanRead Statement.requireBinding read) :
    ∃ word ∈ bindingWords, ∃ c middle blank tail,
      read = word ++ c :: (middle ++ '=' :: (blank ++ ("require".toList ++ tail))) ∧
        isWhiteSpace c = true ∧ middle ≠ [] ∧ (∀ d ∈ c :: middle, d ≠ '=' ∧ d ≠ ';') ∧
          IsBlank blank := by
  have hset : ∀ {pattern : Pattern} {part : Text}, CanRead pattern part →
      pattern.readsNo '=' = true → pattern.readsNo ';' = true → ∀ d ∈ part, d ≠ '=' ∧ d ≠ ';' := by
    intro pattern part hpart hequals hend d hd
    constructor
    · rintro rfl
      exact hpart.not_mem hequals hd
    · rintro rfl
      exact hpart.not_mem hend hd
  obtain ⟨none, right, rfl, hnone, hright⟩ := h.of_seq
  obtain ⟨word, right, rfl, hword, hright⟩ := hright.of_seq
  obtain ⟨gap, right, rfl, hgap, hright⟩ := hright.of_seq
  obtain ⟨clause, right, rfl, hclause, hright⟩ := hright.of_seq
  obtain ⟨space, right, rfl, hspace, hright⟩ := hright.of_seq
  obtain ⟨sign, right, rfl, hsign, hright⟩ := hright.of_seq
  obtain ⟨blank, right, rfl, hblank, hright⟩ := hright.of_seq
  obtain ⟨call, tail, rfl, hcall, -⟩ := hright.of_seq
  obtain rfl := hnone.of_word_boundary
  obtain rfl : sign = ['='] := hsign.of_literal
  obtain rfl := hcall.of_literal
  obtain ⟨hlength, hwhite⟩ := hgap.is_blank
  obtain ⟨c, gap, rfl⟩ := List.exists_cons_of_ne_nil (List.length_pos_iff.mp hlength)
  have hne : clause ≠ [] := hclause.ne_nil rfl
  refine ⟨word, ?_, c, gap ++ (clause ++ space), blank, tail, by simp,
    hwhite c List.mem_cons_self, by simp [hne], ?_, hblank.is_blank.2⟩
  · rcases hword.of_alt with hconst | hword
    · simp [bindingWords, hconst.of_literal]
    · rcases hword.of_alt with hlet | hvar
      · simp [bindingWords, hlet.of_literal]
      · have hvar : CanRead (literal "var") word := hvar
        simp [bindingWords, hvar.of_literal]
  · rw [← List.cons_append]
    simp only [List.forall_mem_append]
    exact ⟨hset hgap (by decide) (by decide), hset hclause (by decide) (by decide),
      hset hspace (by decide) (by decide)⟩

/-- Variables bound to required modules are led by the words that bind variables. -/
theorem require_binding_led : Led bindingWords (fun _ => true) Statement.requireBinding := by
  have hwords : ∀ word ∈ bindingWords, IsName word := by
    have hchars : ∀ word ∈ bindingWords, word ≠ [] ∧ ∀ c ∈ word, isNameChar c = true := by decide
    exact fun word hword => ⟨(hchars word hword).1, (hchars word hword).2⟩
  refine led_of_reads hwords fun read hread => ?_
  obtain ⟨word, hword, c, middle, blank, tail, rfl, hc, -⟩ :=
    require_binding_reads hread.after_boundary
  have hmem : '=' ∈ c :: (middle ++ '=' :: (blank ++ ("require".toList ++ tail))) := by simp
  obtain ⟨space, d, rest, htext, hspace, hd⟩ := exists_visible hmem (by decide)
  refine ⟨word, hword, space, d, rest, by rw [htext], hspace, hd, rfl, ?_⟩
  rintro rfl
  obtain ⟨rfl, -⟩ := List.cons.inj htext
  rw [hc] at hd
  cases hd

end CodeAtlas.Module
