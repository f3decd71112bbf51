import CodeAtlas.Proofs.Declaration.Tells
import CodeAtlas.Proofs.Module.Led
import CodeAtlas.Proofs.Pattern.Ahead
import CodeAtlas.Proofs.Text.Trim

/-!
# Exported declarations as a scan of the module reads them

A scan of a module looks for exported declarations up to their names, wherever they stand. The line of
an exported declaration is matched up to its name (`declaration_passes`), though `const` also starts
the keyword of a constant enumeration, and the name is what is read after the match
(`Statement.offers`, `FrameKind.offers`).
-/

namespace CodeAtlas.Declaration

open Pattern (Match Passes PassesInto Stuck Fails fails_of_may_start fails_literal fails_keyword
  passes_literal passes_keyword passes_blank passes_no_round literal blanks blanks1 optional choice)
open Text (byteLength isWhiteSpace isNamePart head_of_cons)

section Keywords

variable {keyword : String} {before : Option Char} {offset : Nat} {rest : Text}

/-- The keywords that an exported declaration may have. -/
def offeredKeywords : List Pattern :=
  [literal "class", literal "interface", .seq (Pattern.keyword "const") (literal "enum"),
    literal "enum", literal "type", literal "namespace", literal "module",
    .sequence [literal "function", blanks, optional (literal "*")], literal "const", literal "let",
    literal "var"]

/-- Keywords that start with another letter are not read. -/
theorem stuck_of_letter {front : List Pattern} {second : Pattern} {c : Char}
    (hfront : ∀ other ∈ front, other.readsSome = true ∧ other.mayStart c = false) :
    ∀ other ∈ front, Stuck other second (c :: rest) :=
  fun other hother => (fails_of_may_start (hfront other hother).1 (hfront other hother).2).stuck

/-- In front of a name, `const` does not start the keyword of a constant enumeration. -/
theorem Name.stuck_const_enum (name : Name) (hrest : ∀ c, rest.head? = some c → isNamePart c = false) :
    Stuck (.seq (Pattern.keyword "const") (literal "enum")) blanks1
      ("const".toList ++ ' ' :: (name.text ++ rest)) := by
  refine Pattern.LeadsNowhere.stuck fun read after hread heq => ?_
  obtain ⟨front, word, rfl, hfront, hword⟩ := hread.of_seq
  obtain ⟨const, white, rfl, hconst, hwhite⟩ := hfront.of_seq
  obtain rfl := hconst.of_literal
  obtain rfl := hword.of_literal
  obtain ⟨hlength, hblank⟩ := hwhite.is_blank
  simp only [List.append_assoc] at heq
  have hspace : [' '] ++ (name.text ++ rest) = white ++ ("enum".toList ++ after) :=
    List.append_cancel_left heq
  obtain ⟨rfl, hname⟩ | ⟨c, tail, htail, hc⟩ :=
    Pattern.blank_append_cases hblank (name.visible rest) hspace
  · refine Pattern.fails_of_cannot_read fun gap hgap hprefix => ?_
    obtain ⟨hpos, hgap⟩ := hgap.is_blank
    obtain ⟨d, gap, rfl⟩ := List.exists_cons_of_ne_nil (List.length_pos_iff.mp hpos)
    obtain ⟨later, rfl⟩ := hprefix
    have hd : isNamePart d = false := by
      by_contra hpart
      have hvisible := Text.not_white_space_of_name_part (Bool.not_eq_false _ ▸ hpart)
      rw [hgap d List.mem_cons_self] at hvisible
      cases hvisible
    -- The name would be the word, which is reserved.
    obtain ⟨htext, -⟩ := Text.span_append_inj isNamePart name.chars (by decide) hrest
      (head_of_cons hd _) hname.symm
    exact name.not_reserved (by rw [htext, String.ofList_toList]; decide)
  · obtain rfl : c = 'e' := (List.cons.inj htail).1.symm
    exact absurd hc (by decide)

/-- The white space in front of a name may not be read as part of the keyword of a function. -/
theorem Name.passes_into_star (name : Name) :
    PassesInto (.seq blanks (optional (literal "*"))) blanks1 before offset []
      (' ' :: (name.text ++ rest)) [] := by
  have hnone : Passes (optional (literal "*")) before offset [] (' ' :: (name.text ++ rest)) [] :=
    Pattern.passes_left_out rfl (by decide)
  refine hnone.into.no_round fun space after hspace heq => ?_
  obtain ⟨c, -, rfl⟩ := hspace.of_char
  obtain ⟨-, rfl⟩ := List.cons.inj heq
  intro read after hread heq
  obtain ⟨d, tail, htext, hvisible⟩ := name.visible rest
  have hread : read = [] := by
    cases read with
    | nil => rfl
    | cons e read =>
        -- Neither white space nor a star starts a name.
        have hstart := hread.may_start
        obtain ⟨c, more, hname, hpart, -⟩ := name.exists_head
        obtain rfl : c = e := by
          rw [hname] at heq
          exact (List.cons.inj heq).1
        have hcases : isWhiteSpace c = true ∨ c = '*' := by
          simpa [Pattern.mayStart, blanks, Pattern.many, Pattern.optional, literal,
            Pattern.sequence, CharSet.contains, Pattern.readsSome] using hstart
        rcases hcases with hwhite | rfl
        · rw [Text.not_white_space_of_name_part hpart] at hwhite
          cases hwhite
        · exact absurd hpart (by decide)
  subst hread
  rw [← show name.text ++ rest = after from heq, htext]
  refine fails_of_may_start rfl ?_
  simpa [Pattern.mayStart, blanks1, Pattern.many1, CharSet.contains] using hvisible

/-- The keyword of a declaration is read as such in front of a name. -/
theorem keyword_passes_into (hkeyword : keyword ∈ declarationWords) (name : Name)
    (hrest : ∀ c, rest.head? = some c → isNamePart c = false) :
    PassesInto (choice offeredKeywords) blanks1 before offset keyword.toList
      (' ' :: (name.text ++ rest)) [] := by
  simp only [declarationWords, List.mem_cons, List.not_mem_nil, or_false] at hkeyword
  rcases hkeyword with rfl | rfl | rfl | rfl | rfl | rfl | rfl | rfl
  · exact .choice [] _ nofun (passes_literal "class" _).into
  · exact .choice (offeredKeywords.take 1) _ (stuck_of_letter (c := 'i') (by decide))
      (passes_literal "interface" _).into
  · exact .choice (offeredKeywords.take 3) _ (stuck_of_letter (c := 'e') (by decide))
      (passes_literal "enum" _).into
  · exact .choice (offeredKeywords.take 5) _ (stuck_of_letter (c := 'n') (by decide))
      (passes_literal "namespace" _).into
  · refine .choice (offeredKeywords.take 7) _ (stuck_of_letter (c := 'f') (by decide)) ?_
    rw [← List.append_nil "function".toList]
    exact .after (passes_literal "function" _) name.passes_into_star
  · exact .choice (offeredKeywords.take 4) _ (stuck_of_letter (c := 't') (by decide))
      (passes_literal "type" _).into
  · have hclass : Fails (literal "class") ("const".toList ++ ' ' :: (name.text ++ rest)) :=
      fails_literal space_ends_word (by decide) (by decide)
    have hother : ∀ other ∈ (offeredKeywords.take 8).drop 3,
        Stuck other blanks1 ("const".toList ++ ' ' :: (name.text ++ rest)) :=
      stuck_of_letter (c := 'c') (by decide)
    have hinterface : ∀ other ∈ [literal "interface"],
        Stuck other blanks1 ("const".toList ++ ' ' :: (name.text ++ rest)) :=
      stuck_of_letter (c := 'c') (by decide)
    refine .choice (offeredKeywords.take 8) _ ?_ (passes_literal "const" _).into
    exact List.forall_mem_cons.mpr ⟨hclass.stuck, List.forall_mem_cons.mpr
      ⟨hinterface _ (List.mem_singleton_self _),
        List.forall_mem_cons.mpr ⟨name.stuck_const_enum hrest, hother⟩⟩⟩
  · exact .choice (offeredKeywords.take 9) _ (stuck_of_letter (c := 'l') (by decide))
      (passes_literal "let" _).into

/-- The line of an exported declaration is matched up to its name. -/
theorem declaration_passes (hkeyword : keyword ∈ declarationWords) (name : Name)
    (hrest : ∀ c, rest.head? = some c → isNamePart c = false)
    (hbefore : before.any Text.isWordChar = false) :
    Passes Module.Statement.exportDeclaration before offset (words true keyword) (name.text ++ rest)
      [(1, offset + byteLength (lead true),
        offset + byteLength (lead true) + byteLength keyword.toList)] := by
  have hvisible : ∀ c, ((keyword.toList ++ [' ']) ++ (name.text ++ rest)).head? = some c →
      isWhiteSpace c = false := by
    rw [List.append_assoc]
    exact head_visible (declaration_words_visible hkeyword _)
  have hnone : ∀ (word : String), (∀ c ∈ word.toList, isNamePart c = true) →
      word ∉ declarationWords → ∀ before offset, Passes (optional (Pattern.keyword word)) before offset
        [] ((keyword.toList ++ [' ']) ++ (name.text ++ rest)) [] := by
    intro word hparts hword before offset
    rw [List.append_assoc]
    exact passes_no_round (fails_keyword (declaration_words_part hkeyword) space_ends_word hparts
      fun heq => hword (by rwa [← heq, String.ofList_toList]))
  have hgroup : ∀ before offset, Passes (.seq (.group 1 (choice offeredKeywords)) blanks1) before offset
      (keyword.toList ++ [' ']) (name.text ++ rest)
      ([] ++ [(1, offset, offset + byteLength keyword.toList)]) := fun before offset =>
    (keyword_passes_into hkeyword name hrest).group.seq
      (passes_blank (Nat.le_refl 1) (head_visible (name.visible rest)))
  refine Passes.after_boundary (Pattern.at_word_boundary hbefore rfl) ?_
  exact ((passes_keyword "export" hvisible).seq
    ((hnone "declare" (by decide) (by decide) _ _).seq
      ((hnone "abstract" (by decide) (by decide) _ _).seq
        ((hnone "async" (by decide) (by decide) _ _).seq (hgroup _ _))))).cast rfl rfl

end Keywords

section Names

variable {keyword : String} {rest : Text}

/-- A name has no white space around it. -/
theorem Name.is_tight (name : Name) : Text.IsTight name.text := by
  have hvisible : ∀ c ∈ name.text, isWhiteSpace c = false := fun c hc =>
    Text.not_white_space_of_name_part (name.chars c hc)
  exact ⟨⟨name.text.head name.ne_nil, List.head?_eq_some_head _, hvisible _ (List.head_mem _)⟩,
    name.text.getLast name.ne_nil, List.getLast?_eq_some_getLast _, hvisible _ (List.getLast_mem _)⟩

/-- What stands behind the keyword of any other declaration is read up to the end of its name. -/
theorem Name.declared (name : Name) {word : Text}
    (hword : ["const".toList, "let".toList, "var".toList].contains word = false)
    (hrest : ∀ c, rest.head? = some c → CharSet.identPart.contains c = false) :
    Module.declaredNames? word (name.text ++ rest) = some [name.word] := by
  have htake : Text.takeBytes? (name.text ++ rest) (byteLength name.text) = some name.text :=
    Text.take_bytes_eq_some_iff.mpr ⟨rest, rfl, rfl⟩
  rw [Module.declaredNames?, hword, if_neg Bool.false_ne_true,
    Pattern.match_start_of_passes (name.passes hrest)]
  simp only [htake, Option.map_some]
  rfl

/-- A declarator with a plain value binds its name. -/
theorem Name.declarator_names (name : Name) :
    Module.declaratorNames (name.text ++ " = 1".toList) = [name.word] := by
  obtain ⟨c, tail, htext, hpart, -⟩ := name.exists_head
  have hnothing : Text.IsBlank [] := nofun
  have htrim : Text.trim (name.text ++ [' ']) = name.text :=
    Text.trim_around hnothing name.is_tight (by simp [Text.IsBlank, isWhiteSpace])
  have hbrace : c ≠ '{' ∧ c ≠ '[' ∧ c ≠ '.' := by
    refine ⟨?_, ?_, ?_⟩ <;> (rintro rfl; exact absurd hpart (by decide))
  have hcolon : ∀ d ∈ name.text, (!decide (d = ':')) = true := fun d hd => by
    rw [Bool.not_eq_true', decide_eq_false_iff_not]
    rintro rfl
    exact name.not_mem (by decide) hd
  have hbefore : Module.before (· = ':') name.text = name.text := List.takeWhile_eq_self_iff.mpr hcolon
  have hafter : Module.afterLast (· = ':') name.text = name.text := by
    rw [Module.afterLast, List.takeWhile_eq_self_iff.mpr fun d hd => hcolon d (List.mem_reverse.mp hd),
      List.reverse_reverse]
  have hsplit : Text.splitBy (· = ',') name.text = [name.text] :=
    Text.split_by_of_not_mem (name.not_mem (by decide))
  have hdots : Text.dropHead? name.text "...".toList = none := by
    rw [htext]
    exact if_neg hbrace.2.2
  rw [Module.declaratorNames, name.split_value, List.headD_cons]
  simp only [htrim]
  split
  · next heq => exact absurd (List.cons.inj (htext.symm.trans heq)).1 hbrace.1
  · next heq => exact absurd (List.cons.inj (htext.symm.trans heq)).1 hbrace.2.1
  · simp only [hbefore, hsplit, List.filterMap_cons, List.filterMap_nil, hafter,
      Text.trim_of_tight name.is_tight, hdots, Option.getD_none, name.is_identifier, if_true]
    rfl

/-- A declaration goes up to its semicolon. -/
theorem declaration_head_of_part {part : Text} (h : ∀ c ∈ part, c ≠ ';' ∧ c ≠ '\n') (rest : Text) :
    Module.declarationHead [] (part ++ ';' :: rest) = part := by
  have hfrom : ∀ seen, Module.declarationHead seen (part ++ ';' :: rest) = seen.reverse ++ part := by
    induction part with
    | nil =>
        intro seen
        simp [Module.declarationHead]
    | cons c part ih =>
        obtain ⟨⟨hend, hfeed⟩, hpart⟩ := List.forall_mem_cons.mp h
        intro seen
        rw [List.cons_append, Module.declarationHead, if_neg hend, decide_eq_false hfeed,
          Bool.false_and, if_neg Bool.false_ne_true, ih hpart]
        simp
  rw [hfrom]
  rfl

/-- What stands behind the keyword of a variable is read as its declarator. -/
theorem Name.declared_value (name : Name) {word : Text}
    (hword : ["const".toList, "let".toList, "var".toList].contains word = true) :
    Module.declaredNames? word (name.text ++ (" = 1;".toList ++ rest)) = some [name.word] := by
  have hvalue : name.text ++ (" = 1;".toList ++ rest) = (name.text ++ " = 1".toList) ++ ';' :: rest := by
    rw [List.append_assoc]
    rfl
  have hpart : ∀ c ∈ name.text ++ " = 1".toList, c ≠ ';' ∧ c ≠ '\n' := fun c hc =>
    ⟨fun heq => name.value_not_mem (by decide) (by decide) (heq ▸ hc),
      fun heq => name.value_not_mem (by decide) (by decide) (heq ▸ hc)⟩
  rw [Module.declaredNames?, hword, if_pos rfl, hvalue, declaration_head_of_part hpart,
    Text.split_top_level_whole (name.value_not_mem (by decide) (by decide)), List.flatMap_singleton,
    name.declarator_names]

/-- A match of an exported declaration is read as one name. -/
def Declares (code : Text) (found : Match) (name : String) : Prop :=
  ∃ keyword rest, found.text? code 1 = some keyword ∧ Text.dropBytes? code found.stop = some rest ∧
    Module.declaredNames? (Text.dropEndWhile keyword fun c => c = '*' || c = ' ') rest = some [name]

/-- The name of a declaration on one line is read after its keyword. -/
theorem Statement.declared (form : Statement) (name : Name) (rest : Text) :
    Module.declaredNames? (Text.dropEndWhile form.keyword.toList fun c => c = '*' || c = ' ')
      (name.text ++ (form.tail ++ rest)) = some [name.word] := by
  cases form with
  | function => exact name.declared (by decide) (head_of_cons (by decide) _)
  | typeAlias => exact name.declared (by decide) (head_of_cons (by decide) _)
  | constant => exact name.declared_value (by decide)
  | variableDef => exact name.declared_value (by decide)

/-- The name of a declaration with a body is read after its keyword. -/
theorem FrameKind.declared (kind : FrameKind) (name : Name) (rest : Text) :
    Module.declaredNames? (Text.dropEndWhile kind.keyword.toList fun c => c = '*' || c = ' ')
      (name.text ++ ([' ', '{'] ++ rest)) = some [name.word] := by
  cases kind <;> exact name.declared (by decide) (head_of_cons (by decide) _)

/-- The match of an exported declaration is read as its name. -/
theorem declares_of_declared {front after : Text} {name : Name} (keyword : String)
    (h : Module.declaredNames? (Text.dropEndWhile keyword.toList fun c => c = '*' || c = ' ') after =
      some [name.word]) :
    Declares (front ++ (words true keyword ++ after))
      ⟨byteLength front, byteLength front + byteLength (words true keyword),
        [(1, byteLength front + byteLength (lead true),
          byteLength front + byteLength (lead true) + byteLength keyword.toList)]⟩ name.word := by
  refine ⟨keyword.toList, after, ?_, ?_, h⟩
  · refine Text.slice_eq_some_iff.mpr ⟨⟨front ++ lead true, ' ' :: after, ?_, ?_⟩, rfl⟩
    · simp only [words, List.append_assoc, List.cons_append, List.nil_append]
    · rw [Text.byte_length_append]
  · refine Text.drop_bytes_eq_some_iff.mpr ⟨front ++ words true keyword, ?_, ?_⟩
    · rw [List.append_assoc]
    · rw [Text.byte_length_append]

end Names

end CodeAtlas.Declaration
