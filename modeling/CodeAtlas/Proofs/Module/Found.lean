import CodeAtlas.Proofs.Module.Line
import CodeAtlas.Proofs.Module.Literal

/-!
# A line is found as its statement

Each form of line is matched by the pattern of its own form, from its first character up to the
semicolon, with the groups where the line has its clause and its specifier (`Line.passes`). The one
thing to see is where a lazy clause ends: at the word `from` or the equals sign after it, and not
before, since nothing but white space may stand between.
-/

namespace CodeAtlas.Module

open Pattern (Passes Fails Groups passes_identifier ident_part_of_name_part
  ident_start_of_name_part passes_char passes_chars passes_literal passes_no_round passes_lazy
  passes_blanks passes_blank passes_keyword at_word_boundary fails_of_cannot_read
  fails_of_may_start keyword literal blanks)
open Text (byteLength isWhiteSpace isNameChar IsName IsBlank)

section Parts

variable {before : Option Char} {offset number least : Nat} {read rest : Text} {c : Char}
  {groups : Groups}

/-- A specifier in quotes is read. -/
theorem passes_specifier (source : Specifier) :
    Passes (Statement.specifier number) before offset source.quoted rest
      [(number, offset + 1, offset + 1 + byteLength source.text)] := by
  have hpart : ∀ c ∈ source.text, (CharSet.notIn "'\"").contains c = true := by
    intro c hc
    obtain ⟨hsingle, hdouble, -⟩ := source.plain c hc
    exact Pattern.contains_not_in_iff.mpr (by simp [hsingle, hdouble])
  have hquote : (CharSet.ofString "'\"").contains '\'' = true := by decide
  have hend : ∀ c, ('\'' :: rest).head? = some c → (CharSet.notIn "'\"").contains c = false := by
    intro c hc
    obtain rfl : '\'' = c := Option.some.inj hc
    decide
  have hne := List.length_pos_iff.mpr source.ne_nil
  exact (passes_char hquote).seq ((passes_chars hpart hne hend).group.seq (passes_char hquote))

/-- A call of `require` is read. -/
theorem passes_call (source : Specifier) :
    Passes (Statement.requireCall number) before offset source.call rest
      [(number, offset + 9, offset + 9 + byteLength source.text)] := by
  have hword : "require(".toList = "require".toList ++ "(".toList := rfl
  have hclose : ")".toList = [')'] := rfl
  have hrequire : byteLength "require".toList = 7 := rfl
  have hopen : byteLength "(".toList = 1 := rfl
  have hnil : byteLength [] = 0 := rfl
  refine ((passes_literal "require" _).seq ((passes_blanks ?_).seq ((passes_literal "(" _).seq
    ((passes_blanks ?_).seq ((passes_specifier source).seq ((passes_blanks ?_).seq
      (passes_literal ")" _))))))).cast ?_ ?_
  · intro c hc
    obtain rfl : '(' = c := Option.some.inj hc
    decide
  · intro c hc
    obtain rfl : '\'' = c := Option.some.inj hc
    decide
  · intro c hc
    obtain rfl : ')' = c := Option.some.inj hc
    decide
  · unfold Specifier.call
    simp only [hword, hclose, List.nil_append, List.append_assoc]
  · simp only [hrequire, hopen, hnil, List.nil_append, List.append_nil]

/-- The characters of a name may stand in an identifier. -/
theorem Name.ident_part (name : Name) :
    ∀ c ∈ name.text, CharSet.identPart.contains c = true :=
  fun c hc => ident_part_of_name_part (Text.name_part_of_name_char (name.is_name.chars c hc))

/-- The first character of a name may start an identifier. -/
theorem Name.exists_head (name : Name) : ∃ c tail, name.text = c :: tail ∧
    isNameChar c = true ∧ CharSet.identStart.contains c = true := by
  obtain ⟨c, tail, htext⟩ := List.exists_cons_of_ne_nil name.is_name.ne_nil
  have hc := name.is_name.chars c (by simp [htext])
  have hdigit := name.no_digit c (by simp [htext])
  exact ⟨c, tail, htext, hc, ident_start_of_name_part (Text.name_part_of_name_char hc) hdigit⟩

/-- A name is read as an identifier. -/
theorem Name.passes (name : Name)
    (h : ∀ c, rest.head? = some c → CharSet.identPart.contains c = false) :
    Passes Pattern.identifier before offset name.text rest [] := by
  obtain ⟨c, tail, htext, -, hstart⟩ := name.exists_head
  have hpart := name.ident_part
  rw [htext] at hpart ⊢
  exact passes_identifier hstart hpart h

/-- A name starts with a visible character. -/
theorem Name.visible (name : Name) :
    ∀ c, (name.text ++ rest).head? = some c → isWhiteSpace c = false := by
  obtain ⟨d, tail, htext, hname, -⟩ := name.exists_head
  intro c hc
  rw [htext] at hc
  obtain rfl : d = c := Option.some.inj hc
  exact Text.not_white_space_of_name_char hname

/-- A word stands in front of a space and something visible. -/
theorem passes_leading {pattern : Pattern} {inner : Nat} (text : String)
    (hword : text.toList.head?.any Text.isWordChar = true)
    (hbefore : before.any Text.isWordChar = false)
    (hvisible : ∀ c, (read ++ rest).head? = some c → isWhiteSpace c = false)
    (h : Passes pattern (some ' ') inner read rest groups)
    (hinner : inner = offset + byteLength text.toList + 1) :
    Passes (.seq .wordBoundary (.seq (keyword text) pattern)) before offset
      (text.toList ++ ' ' :: read) rest groups := by
  have hhead : (text.toList ++ ' ' :: (read ++ rest)).head?.any Text.isWordChar = true := by
    cases htext : text.toList with
    | nil => rw [htext] at hword; cases hword
    | cons c tail => rw [htext] at hword; exact hword
  have hlast : (text.toList ++ [' ']).getLast?.or before = some ' ' := by simp
  have hlength : offset + byteLength text.toList + 1 =
      offset + byteLength (text.toList ++ [' ']) := by
    rw [Text.byte_length_append, Nat.add_assoc]
    rfl
  rw [hinner, ← hlast, hlength] at h
  refine (Passes.after_boundary ?_ ((passes_keyword text hvisible).seq h)).cast ?_ ?_
  · refine at_word_boundary hbefore ?_
    rwa [List.append_assoc, List.append_assoc]
  · rw [List.append_assoc]
    rfl
  · simp

end Parts

section Clause

variable {text front back rest : Text} {number : Nat}

/-- The last character is visible. -/
def EndsVisible (text : Text) : Prop :=
  ∃ c, text.getLast? = some c ∧ isWhiteSpace c = false

/-- What ends a text that ends visibly does so too. -/
theorem EndsVisible.suffix (h : EndsVisible (front ++ back)) (hne : back ≠ []) :
    EndsVisible back := by
  obtain ⟨c, hlast, hc⟩ := h
  refine ⟨c, ?_, hc⟩
  rwa [List.getLast?_append, List.getLast?_eq_some_getLast hne, Option.some_or,
    ← List.getLast?_eq_some_getLast hne] at hlast

/-- A text ends visibly if what ends it does. -/
theorem EndsVisible.append (h : EndsVisible back) : EndsVisible (front ++ back) := by
  obtain ⟨c, hlast, hc⟩ := h
  exact ⟨c, by rw [List.getLast?_append, hlast, Option.some_or], hc⟩

/-- A name ends visibly. -/
theorem Name.ends_visible (name : Name) : EndsVisible name.text := by
  have hne := name.is_name.ne_nil
  exact ⟨_, List.getLast?_eq_some_getLast hne,
    Text.not_white_space_of_name_char (name.is_name.chars _ (List.getLast_mem hne))⟩

/-- Items in braces end visibly. -/
theorem braces_end_visible (style : Renaming) (first : Item) (others : List Item) :
    EndsVisible (bracesText style first others) :=
  ⟨'}', by rw [bracesText, ← List.cons_append, List.getLast?_concat], by decide⟩

/-- A clause ends visibly. -/
theorem Clause.ends_visible (clause : Clause) : EndsVisible clause.text := by
  cases clause with
  | default name => exact name.ends_visible
  | whole name => exact name.ends_visible.append
  | named first others => exact braces_end_visible _ first others
  | defaultNamed name first others => exact (braces_end_visible _ first others).append
  | defaultWhole name other => exact other.ends_visible.append

/-- A binding ends visibly. -/
theorem Binding.ends_visible (binding : Binding) : EndsVisible binding.text := by
  cases binding with
  | plain name => exact name.ends_visible
  | items first others => exact braces_end_visible _ first others

/-- Nothing but white space may stand in front of the word `from` and a specifier. -/
theorem fails_before_from (source : Specifier) (hvisible : EndsVisible back)
    (hquote : ∀ c ∈ back, c ≠ '\'' ∧ c ≠ '"') :
    Fails (Pattern.sequence [blanks, .wordBoundary, literal "from", blanks,
      Statement.specifier number]) (back ++ (" from ".toList ++ source.quoted ++ rest)) := by
  refine fails_of_cannot_read fun read hread => ?_
  rintro ⟨later, hlater⟩
  obtain ⟨blank, right, rfl, hblank, hright⟩ := hread.of_seq
  obtain ⟨none, right, rfl, hnone, hright⟩ := hright.of_seq
  obtain ⟨word, right, rfl, hword, hright⟩ := hright.of_seq
  obtain ⟨gap, right, rfl, hgap, hright⟩ := hright.of_seq
  obtain ⟨opening, right, rfl, hopening, -⟩ := hright.of_seq
  obtain ⟨quote, hquoted, rfl⟩ := hopening.of_char
  obtain rfl := hnone.of_word_boundary
  obtain rfl := hword.of_literal
  have hblank := hblank.is_blank.2
  have hgap := hgap.is_blank.2
  -- Both sides are cut at their first quote.
  let test (c : Char) : Bool := c != '\'' && c != '"'
  have hspace : ∀ {part : Text}, IsBlank part → ∀ c ∈ part, test c = true := by
    intro part hpart c hc
    have hwhite := hpart c hc
    by_contra hnot
    have hor : c = '\'' ∨ c = '"' := by
      by_contra hneither
      obtain ⟨hsingle, hdouble⟩ := not_or.mp hneither
      exact hnot (by simp [test, hsingle, hdouble])
    rcases hor with rfl | rfl <;> (revert hwhite; decide)
  have hend : test quote = false := by
    rcases quote_cases hquoted with rfl | rfl <;> rfl
  have heq : (blank ++ ("from".toList ++ gap)) ++ quote :: (right ++ later) =
      (back ++ " from ".toList) ++ '\'' :: (source.text ++ '\'' :: rest) := by
    rw [Specifier.quoted] at hlater
    simpa using hlater
  have hleft : ∀ c ∈ blank ++ ("from".toList ++ gap), test c = true :=
    List.forall_mem_append.mpr ⟨hspace hblank,
      List.forall_mem_append.mpr ⟨by decide, hspace hgap⟩⟩
  have hright : ∀ c ∈ back ++ " from ".toList, test c = true := by
    refine List.forall_mem_append.mpr ⟨fun c hc => ?_, by decide⟩
    obtain ⟨hsingle, hdouble⟩ := hquote c hc
    simp [test, hsingle, hdouble]
  have hcut := (Text.span_append_inj test hleft hright (by simpa using hend)
    (fun c hc => by obtain rfl : '\'' = c := Option.some.inj hc; rfl) heq).1
  have hreverse : gap.reverse ++ 'm' :: ("orf".toList ++ blank.reverse) =
      [' '] ++ 'm' :: ("orf".toList ++ ' ' :: back.reverse) := by
    simpa using congrArg List.reverse hcut
  obtain ⟨-, -, hword⟩ := Text.blank_append_inj (fun c hc => hgap c (List.mem_reverse.mp hc))
    (by simp [IsBlank, Text.isWhiteSpace]) (by decide) (by decide) hreverse
  have hback := List.append_cancel_left hword
  obtain ⟨c, hlast, hc⟩ := hvisible
  have hmem : c ∈ blank := by
    rw [← List.mem_reverse, hback]
    exact List.mem_cons_of_mem _ (List.mem_reverse.mpr (List.mem_of_mem_getLast? hlast))
  rw [hblank c hmem] at hc
  cases hc

/-- Nothing but white space may stand in front of an equals sign and a call of `require`. -/
theorem fails_before_equals (hvisible : EndsVisible back) (hequals : '=' ∉ back) :
    Fails (Pattern.sequence [blanks, literal "=", blanks, Statement.requireCall number])
      (back ++ ' ' :: '=' :: rest) := by
  refine fails_of_cannot_read fun read hread => ?_
  rintro ⟨later, hlater⟩
  obtain ⟨blank, right, rfl, hblank, hright⟩ := hread.of_seq
  obtain ⟨sign, right, rfl, hsign, -⟩ := hright.of_seq
  obtain rfl : sign = ['='] := hsign.of_literal
  have hblank := hblank.is_blank.2
  have heq : blank ++ '=' :: (right ++ later) = (back ++ [' ']) ++ '=' :: rest := by
    simpa using hlater
  have hleft : ∀ c ∈ blank, (c != '=') = true := by
    intro c hc
    have hwhite := hblank c hc
    by_contra hnot
    obtain rfl : c = '=' := by simpa using hnot
    revert hwhite
    decide
  have hright : ∀ c ∈ back ++ [' '], (c != '=') = true := by
    refine List.forall_mem_append.mpr ⟨fun c hc => ?_, by decide⟩
    simpa using fun heq : c = '=' => hequals (heq ▸ hc)
  have hcut := (Text.span_append_inj (· != '=') hleft hright (by simp) (by simp) heq).1
  obtain ⟨c, hlast, hc⟩ := hvisible
  have hmem : c ∈ blank := by
    rw [hcut]
    exact List.mem_append_left _ (List.mem_of_mem_getLast? hlast)
  rw [hblank c hmem] at hc
  cases hc

/-- A word other than a name is not read where the name stands. -/
theorem Name.fails_keyword (name : Name) {text : String} (htext : IsName text.toList)
    (hne : name.text ≠ text.toList) (h : ∀ c, rest.head? = some c → isNameChar c = false) :
    Fails (keyword text) (name.text ++ rest) := by
  refine fails_of_cannot_read fun read hread => ?_
  rintro ⟨later, hlater⟩
  obtain ⟨word, blank, rfl, hword, hblank⟩ := hread.of_seq
  obtain rfl := hword.of_literal
  obtain ⟨hlength, hblank⟩ := hblank.is_blank
  obtain ⟨c, blank, rfl⟩ := List.exists_cons_of_ne_nil (List.length_pos_iff.mp hlength)
  have hspace : isNameChar c = false := by
    by_contra hname
    have hwhite := hblank c List.mem_cons_self
    rw [Text.not_white_space_of_name_char (by simpa using hname)] at hwhite
    cases hwhite
  rw [List.append_assoc] at hlater
  exact hne (Text.name_append_inj htext name.is_name (by simpa using hspace) h hlater).1.symm

/-- No clause starts with the word `type`. -/
theorem Clause.fails_type (clause : Clause) :
    Fails (keyword "type") (clause.text ++ (" from ".toList ++ rest)) := by
  have hword : IsName "type".toList := ⟨by decide, by decide⟩
  have hspace : ∀ c, (' ' :: rest).head? = some c → isNameChar c = false := by
    intro c hc
    obtain rfl : ' ' = c := Option.some.inj hc
    decide
  have hcomma : ∀ c, (',' :: rest).head? = some c → isNameChar c = false := by
    intro c hc
    obtain rfl : ',' = c := Option.some.inj hc
    decide
  have hname : ∀ name : Name, name.text ≠ "type".toList := by
    intro name heq
    exact name.not_type (by rw [heq, String.ofList_toList])
  cases clause with
  | default name => exact name.fails_keyword hword (hname name) hspace
  | whole name => exact fails_of_may_start rfl (by decide)
  | named first others => exact fails_of_may_start rfl (by decide)
  | defaultNamed name first others =>
      unfold Clause.text
      rw [List.append_assoc, List.append_assoc]
      exact name.fails_keyword hword (hname name) hcomma
  | defaultWhole name other =>
      unfold Clause.text
      rw [List.append_assoc, List.append_assoc]
      exact name.fails_keyword hword (hname name) hcomma

end Clause

section Line

variable {before : Option Char} {offset : Nat} {rest : Text}

/-- A specifier after a space starts with its quote. -/
theorem Specifier.visible (source : Specifier) :
    ∀ c, (source.quoted ++ rest).head? = some c → isWhiteSpace c = false := by
  intro c hc
  obtain rfl : '\'' = c := Option.some.inj hc
  decide

/-- A word and a specifier after it are read, where no word ends in front of them. -/
theorem passes_named (word : String) (number : Nat) (source : Specifier)
    (hword : word.toList.head?.any Text.isWordChar = true)
    (hbefore : before.any Text.isWordChar = false) :
    Passes (Pattern.sequence [.wordBoundary, literal word, blanks, Statement.specifier number])
      before offset (word.toList ++ ([' '] ++ source.quoted)) rest
      [(number, offset + byteLength word.toList + 2,
        offset + byteLength word.toList + 2 + byteLength source.text)] := by
  have hhead : ((word.toList ++ ([' '] ++ source.quoted)) ++ rest).head?.any Text.isWordChar =
      true := by
    cases htext : word.toList with
    | nil => simp [htext] at hword
    | cons c tail => rwa [htext] at hword
  exact Passes.after_boundary (at_word_boundary hbefore hhead) ((passes_literal word _).seq
    ((passes_blank (Nat.zero_le 1) source.visible).seq (passes_specifier source)))

/-- An import for its side effects is found. -/
theorem side_effect_passes (source : Specifier) (hbefore : before.any Text.isWordChar = false) :
    Passes Statement.importSideEffect before offset (Line.sideEffect source).text rest
      [(1, offset + 8, offset + 8 + byteLength source.text)] :=
  passes_named "import" 1 source (by decide) hbefore

/-- A character of clauses is none of some marks that no clause has. -/
theorem in_set_of_clause_char {marks : String} {c : Char} (hc : isClauseChar c = true)
    (hmarks : ∀ d ∈ marks.toList, isClauseChar d = false) :
    (CharSet.notIn marks).contains c = true := by
  refine Pattern.contains_not_in_iff.mpr fun hmark => ?_
  rw [hmarks c hmark] at hc
  cases hc

/-- What a clause has before its `from` may stand in a clause. -/
theorem Clause.in_set (clause : Clause) :
    ∀ c ∈ clause.text, (CharSet.notIn ";'\"`()").contains c = true :=
  fun c hc => in_set_of_clause_char (clause.clause_chars c hc) (by decide)

/-- A clause starts with a visible character. -/
theorem Clause.visible (clause : Clause) :
    ∀ c, (clause.text ++ rest).head? = some c → isWhiteSpace c = false := by
  cases clause with
  | default name => exact name.visible
  | whole name =>
      intro c hc
      obtain rfl : '*' = c := Option.some.inj hc
      decide
  | named first others =>
      intro c hc
      obtain rfl : '{' = c := Option.some.inj hc
      decide
  | defaultNamed name first others =>
      unfold Clause.text
      rw [List.append_assoc, List.append_assoc]
      exact name.visible
  | defaultWhole name other =>
      unfold Clause.text
      rw [List.append_assoc, List.append_assoc]
      exact name.visible

/-- From the word `from` on, a specifier is read. -/
theorem passes_from (number : Nat) (source : Specifier) {before : Option Char}
    (hbefore : before.any Text.isWordChar = false) :
    Passes (Pattern.sequence [.wordBoundary, literal "from", blanks, Statement.specifier number])
      before offset ("from ".toList ++ source.quoted) rest
      [(number, offset + 6, offset + 6 + byteLength source.text)] :=
  passes_named "from" number source (by decide) hbefore

/-- An import with bindings is found. -/
theorem import_from_passes (clause : Clause) (source : Specifier)
    (hbefore : before.any Text.isWordChar = false) :
    Passes Statement.importFrom before offset (Line.importFrom clause source).text rest
      [(2, offset + 7 + byteLength clause.text + 7,
          offset + 7 + byteLength clause.text + 7 + byteLength source.text),
        (1, offset + 7, offset + 7 + byteLength clause.text)] := by
  have hword : " from ".toList = [' '] ++ "from ".toList := rfl
  have himport : "import ".toList = "import".toList ++ [' '] := rfl
  have hlength : byteLength "import".toList = 6 := rfl
  have hspace : byteLength [' '] = 1 := rfl
  have hquote : ∀ c ∈ clause.text, c ≠ '\'' ∧ c ≠ '"' := fun c hc =>
    ⟨ne_of_part_char (clause.clause_chars c hc) (by decide),
      ne_of_part_char (clause.clause_chars c hc) (by decide)⟩
  have hfrom : Passes (Pattern.sequence [blanks, .wordBoundary, literal "from", blanks,
      Statement.specifier 2]) (clause.text.getLast?.or (some ' '))
      (offset + 7 + byteLength clause.text) (" from ".toList ++ source.quoted) rest
      [(2, offset + 7 + byteLength clause.text + 7,
        offset + 7 + byteLength clause.text + 7 + byteLength source.text)] := by
    have hvisible : ∀ c, ("from ".toList ++ source.quoted ++ rest).head? = some c →
        isWhiteSpace c = false := by
      intro c hc
      obtain rfl : 'f' = c := Option.some.inj hc
      decide
    refine ((passes_blank (Nat.zero_le 1) hvisible).seq (passes_from 2 source rfl)).cast ?_ ?_
    · rw [hword, List.append_assoc]
    · simp only [hspace, List.append_nil]
  have hclause : Passes (.seq (.group 1 (.rounds true 0 none (.char (.notIn ";'\"`()")))) _) (some ' ')
      (offset + 7) _ rest _ := passes_lazy clause.in_set (Nat.zero_le _)
    (fun front back heq _ hne => fails_before_from source
      (EndsVisible.suffix (heq ▸ clause.ends_visible) hne)
      fun c hc => hquote c (heq ▸ List.mem_append_right _ hc)) hfrom
  have htype : Passes (Pattern.optional (keyword "type")) (some ' ') (offset + 7) []
      (clause.text ++ (" from ".toList ++ source.quoted) ++ rest) [] := by
    refine passes_no_round ?_
    rw [List.append_assoc, List.append_assoc]
    exact clause.fails_type
  refine (passes_leading "import" (by decide) hbefore ?_ (htype.seq hclause) rfl).cast ?_ ?_
  · rw [List.nil_append, List.append_assoc]
    exact clause.visible
  · show "import ".toList ++ clause.text ++ " from ".toList ++ source.quoted = _
    rw [himport, List.nil_append, List.append_assoc, List.append_assoc, List.append_assoc]
    rfl
  · rfl

/-- An equals sign and a call of `require` are read. -/
theorem passes_equals (number : Nat) (source : Specifier) :
    Passes (Pattern.sequence [blanks, literal "=", blanks, Statement.requireCall number])
      before offset (" = ".toList ++ source.call) rest
      [(number, offset + 12, offset + 12 + byteLength source.text)] := by
  have hequals : " = ".toList = [' '] ++ ("=".toList ++ [' ']) := rfl
  have hsign : byteLength "=".toList = 1 := rfl
  have hspace : byteLength [' '] = 1 := rfl
  refine ((passes_blank (Nat.zero_le 1) ?_).seq ((passes_literal "=" _).seq
    ((passes_blank (Nat.zero_le 1) ?_).seq (passes_call source)))).cast ?_ ?_
  · intro c hc
    obtain rfl : '=' = c := Option.some.inj hc
    decide
  · intro c hc
    obtain rfl : 'r' = c := Option.some.inj hc
    decide
  · simp only [hequals, List.append_assoc]
  · simp only [hsign, hspace, List.append_nil]

/-- An import by assignment is found. -/
theorem import_require_passes (name : Name) (source : Specifier)
    (hbefore : before.any Text.isWordChar = false) :
    Passes Statement.importRequire before offset (Line.importRequire name source).text rest
      [(2, offset + 7 + byteLength name.text + 12,
          offset + 7 + byteLength name.text + 12 + byteLength source.text),
        (1, offset + 7, offset + 7 + byteLength name.text)] := by
  have himport : "import ".toList = "import".toList ++ [' '] := rfl
  have hname : Passes Pattern.identifier (some ' ') (offset + 7) name.text
      (" = ".toList ++ source.call ++ rest) [] := by
    refine name.passes fun c hc => ?_
    obtain rfl : ' ' = c := Option.some.inj hc
    decide
  refine (passes_leading "import" (by decide) hbefore ?_
    (hname.group.seq (passes_equals 2 source)) rfl).cast ?_ ?_
  · rw [List.append_assoc]
    exact name.visible
  · show "import ".toList ++ name.text ++ " = ".toList ++ source.call = _
    rw [himport, List.append_assoc, List.append_assoc, List.append_assoc]
    rfl
  · rfl

/-- A binding may stand in front of an equals sign. -/
theorem Binding.in_set (binding : Binding) :
    ∀ c ∈ binding.text, (CharSet.notIn "=;").contains c = true :=
  fun c hc => in_set_of_clause_char (binding.clause_chars c hc) (by decide)

/-- A binding starts with a visible character. -/
theorem Binding.visible (binding : Binding) :
    ∀ c, (binding.text ++ rest).head? = some c → isWhiteSpace c = false := by
  cases binding with
  | plain name => exact name.visible
  | items first others =>
      intro c hc
      obtain rfl : '{' = c := Option.some.inj hc
      decide

/-- A variable bound to a required module is found. -/
theorem require_binding_passes (binding : Binding) (source : Specifier)
    (hbefore : before.any Text.isWordChar = false) :
    Passes Statement.requireBinding before offset (Line.requireBinding binding source).text rest
      [(2, offset + 6 + byteLength binding.text + 12,
          offset + 6 + byteLength binding.text + 12 + byteLength source.text),
        (1, offset + 6, offset + 6 + byteLength binding.text)] := by
  have hconst : "const ".toList = "const".toList ++ [' '] := rfl
  have hlength : 1 ≤ binding.text.length := by
    obtain ⟨c, hlast, -⟩ := binding.ends_visible
    exact List.length_pos_of_mem (List.mem_of_getLast? hlast)
  have hequals : '=' ∉ binding.text := fun hmem =>
    ne_of_part_char (binding.clause_chars _ hmem) (by decide : isClauseChar '=' = false) rfl
  have hbinding : Passes (.seq (.group 1 (.rounds true 1 none (.char (.notIn "=;")))) _) (some ' ')
      (offset + 6) _ rest _ := passes_lazy binding.in_set hlength (fun front back heq _ hne => by
      rw [List.append_assoc]
      exact fails_before_equals (EndsVisible.suffix (heq ▸ binding.ends_visible) hne)
        fun hmem => hequals (heq ▸ List.mem_append_right _ hmem))
    (passes_equals 2 source)
  have hword : Passes (Pattern.choice [literal "const", literal "let", literal "var"]) before offset
      "const".toList ([' '] ++ (binding.text ++ (" = ".toList ++ source.call)) ++ rest) [] :=
    (passes_literal "const" _).alt_first
  have hvisible : ∀ c, (binding.text ++ (" = ".toList ++ source.call) ++ rest).head? = some c →
      isWhiteSpace c = false := by
    rw [List.append_assoc]
    exact binding.visible
  refine (Passes.after_boundary (at_word_boundary hbefore rfl) (hword.seq
    ((passes_blank (Nat.le_refl 1) hvisible).seq hbinding))).cast ?_ ?_
  · show "const ".toList ++ binding.text ++ " = ".toList ++ source.call = _
    rw [hconst, List.append_assoc, List.append_assoc, List.append_assoc]
  · rfl

/-- A re-export of a whole module is found. -/
theorem export_star_passes (source : Specifier) (hbefore : before.any Text.isWordChar = false) :
    Passes Statement.exportStar before offset (Line.exportStar source).text rest
      [(2, offset + 15, offset + 15 + byteLength source.text)] := by
  have hexport : "export * from ".toList =
      "export".toList ++ ' ' :: ("*".toList ++ ([' '] ++ ("from".toList ++ [' ']))) := rfl
  have htype : Passes (Pattern.optional (keyword "type")) (some ' ') (offset + 7) []
      ("*".toList ++ ([' '] ++ ([] ++ ("from".toList ++ ([' '] ++ source.quoted)))) ++ rest) [] :=
    passes_no_round (fails_of_may_start rfl (by decide))
  refine (passes_leading "export" (by decide) hbefore ?_ (htype.seq ((passes_literal "*" _).seq
    ((passes_blank (Nat.zero_le 1) ?_).seq ((passes_no_round
      (fails_of_may_start rfl (by decide))).seq ((passes_literal "from" _).seq
        ((passes_blank (Nat.zero_le 1) source.visible).seq (passes_specifier source))))))) rfl).cast
          ?_ ?_
  · intro c hc
    obtain rfl : '*' = c := Option.some.inj hc
    decide
  · intro c hc
    obtain rfl : 'f' = c := Option.some.inj hc
    decide
  · show "export * from ".toList ++ source.quoted = _
    rw [hexport]
    simp only [List.nil_append, List.append_assoc, List.cons_append]
  · rfl

/-- A re-export of items is found. -/
theorem export_list_passes (first : Item) (others : List Item) (source : Specifier)
    (hbefore : before.any Text.isWordChar = false) :
    Passes Statement.exportList before offset (Line.exportList first others source).text rest
      [(2, offset + 8 + byteLength (listText .byWord first others) + 8,
          offset + 8 + byteLength (listText .byWord first others) + 8 + byteLength source.text),
        (1, offset + 8, offset + 8 + byteLength (listText .byWord first others))] := by
  have hexport : "export ".toList = "export".toList ++ [' '] := rfl
  have hfrom : " from ".toList = [' '] ++ ("from".toList ++ [' ']) := rfl
  have htype : Passes (Pattern.optional (keyword "type")) (some ' ') (offset + 7) []
      (['{'] ++ (listText .byWord first others ++ (['}'] ++ ([' '] ++ ("from".toList ++
        ([' '] ++ source.quoted))))) ++ rest) [] :=
    passes_no_round (fails_of_may_start rfl (by decide))
  have hlist : Passes (Pattern.many (.char (.complement (.one '}')))) (some '{') (offset + 8)
      (listText .byWord first others)
      (['}'] ++ ([' '] ++ ("from".toList ++ ([' '] ++ source.quoted))) ++ rest) [] := by
    refine passes_chars (fun c hc => ?_) (Nat.zero_le _) fun c hc => ?_
    · have hne : c ≠ '}' :=
        ne_of_part_char (list_chars .byWord first others c hc) (by decide)
      simpa [CharSet.contains] using hne
    · obtain rfl : '}' = c := Option.some.inj hc
      rfl
  have hsource : Passes (Pattern.optional (Pattern.sequence [blanks, literal "from", blanks,
      Statement.specifier 2])) (some '}') (offset + 8 + byteLength (listText .byWord first others) + 1)
      ([' '] ++ ("from".toList ++ ([' '] ++ source.quoted))) rest
      [(2, offset + 8 + byteLength (listText .byWord first others) + 8,
        offset + 8 + byteLength (listText .byWord first others) + 8 + byteLength source.text)] := by
    refine Passes.optional ((passes_blank (Nat.zero_le 1) ?_).seq ((passes_literal "from" _).seq
      ((passes_blank (Nat.zero_le 1) source.visible).seq (passes_specifier source)))) (by simp)
    intro c hc
    obtain rfl : 'f' = c := Option.some.inj hc
    decide
  have hopen : (CharSet.one '{').contains '{' = true := by decide
  have hclose : (CharSet.one '}').contains '}' = true := by decide
  refine (passes_leading "export" (by decide) hbefore ?_ (htype.seq ((passes_char hopen).seq
    (hlist.group.seq (Passes.seq (passes_char hclose) hsource)))) rfl).cast ?_ ?_
  · intro c hc
    obtain rfl : '{' = c := Option.some.inj hc
    decide
  · show "export ".toList ++ bracesText .byWord first others ++ " from ".toList ++ source.quoted = _
    rw [hexport, hfrom, bracesText]
    simp only [List.nil_append, List.append_assoc, List.cons_append]
  · rfl

/-- The form of a line. -/
def Line.form : Line → Form
  | .sideEffect _ => .sideEffect
  | .importFrom _ _ => .importFrom
  | .importRequire _ _ => .importRequire
  | .requireBinding _ _ => .requireBinding
  | .exportStar _ => .exportStar
  | .exportList _ _ _ => .exportList

/-- Where a line that starts at an offset has its specifier. -/
def Line.specifierStart (offset : Nat) : Line → Nat
  | .sideEffect _ => offset + 8
  | .importFrom clause _ => offset + 7 + byteLength clause.text + 7
  | .importRequire name _ => offset + 7 + byteLength name.text + 12
  | .requireBinding binding _ => offset + 6 + byteLength binding.text + 12
  | .exportStar _ => offset + 15
  | .exportList first others _ => offset + 8 + byteLength (listText .byWord first others) + 8

/-- The specifier of a line. -/
def Line.source : Line → Specifier
  | .sideEffect source | .importFrom _ source | .importRequire _ source | .requireBinding _ source
  | .exportStar source | .exportList _ _ source => source

/-- Where a line that starts at an offset has its clause, and the clause. -/
def Line.clause? (offset : Nat) : Line → Option (Nat × Text)
  | .sideEffect _ | .exportStar _ => none
  | .importFrom clause _ => some (offset + 7, clause.text)
  | .importRequire name _ => some (offset + 7, name.text)
  | .requireBinding binding _ => some (offset + 6, binding.text)
  | .exportList first others _ => some (offset + 8, listText .byWord first others)

/-- The groups of a line that starts at an offset: its specifier and its clause, if it has one. -/
def Line.groups (offset : Nat) (line : Line) : Groups :=
  (line.form.specifierGroup, line.specifierStart offset,
      line.specifierStart offset + byteLength line.source.text) ::
    ((line.clause? offset).map fun (start, clause) => (1, start, start + byteLength clause)).toList

/-- A line is matched by the pattern of its form. -/
theorem Line.passes (line : Line) (hbefore : before.any Text.isWordChar = false) :
    Passes line.form.pattern before offset line.text rest (line.groups offset) := by
  cases line with
  | sideEffect source => exact side_effect_passes source hbefore
  | importFrom clause source => exact import_from_passes clause source hbefore
  | importRequire name source => exact import_require_passes name source hbefore
  | requireBinding binding source => exact require_binding_passes binding source hbefore
  | exportStar source => exact export_star_passes source hbefore
  | exportList first others source => exact export_list_passes first others source hbefore

end Line

end CodeAtlas.Module
