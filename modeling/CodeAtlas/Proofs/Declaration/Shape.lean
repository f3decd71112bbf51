import CodeAtlas.Proofs.Declaration.Opens

/-!
# Which pattern a line matches

Each line of a listing is matched by the pattern of its own form, and the groups of the match stand
where its modifiers (`leadSpot`) and its name (`nameSpot`) do. A pattern of declarations matches if what
follows the modifiers is read (`matches_row`).
-/

namespace CodeAtlas.Declaration

open Pattern (Passes Fails Groups passes_char passes_chars passes_literal passes_no_round
  passes_left_out passes_blanks passes_blank passes_keyword fails_of_may_start fails_of_cannot_read
  fails_words fails_literal fails_keyword fails_blanks literal keyword blanks blanks1 optional choice
  identifier)
open Text (byteLength isWhiteSpace isNamePart head_of_cons)

section Modified

variable {listed : List String} {indent : Nat} {exported : Bool} {rest : Text}

/-- Where the modifiers of a line stand. -/
def leadSpot (indent : Nat) (exported : Bool) : Nat × Nat × Nat :=
  (1, indent, indent + byteLength (lead exported))

/-- Where the name of a line stands, as the group with a number. -/
def nameSpot (number indent : Nat) (front : Text) (name : Name) : Nat × Nat × Nat :=
  (number, indent + byteLength front, indent + byteLength front + byteLength name.text)

/-- The white space in front of a line is read. -/
theorem passes_indentation (hvisible : ∃ c tail, rest = c :: tail ∧ isWhiteSpace c = false) :
    Passes blanks none 0 (indentation indent) rest [] :=
  passes_chars (is_blank_indentation indent) (Nat.zero_le _) (head_visible hvisible)

/-- White space is read where no modifier follows. -/
theorem passes_unmodified (hvisible : ∃ c tail, rest = c :: tail ∧ isWhiteSpace c = false)
    (hfails : Fails (.seq (choice (listed.map literal)) blanks1) rest) :
    Passes (Line.modified listed) none 0 (indentation indent) rest [leadSpot indent false] := by
  have hblanks : Passes blanks none 0 (indentation indent) ([] ++ rest) [] :=
    passes_indentation hvisible
  refine (hblanks.seq (passes_no_round hfails).group).cast (List.append_nil _).symm ?_
  rw [byte_length_indentation, Nat.zero_add]
  rfl

/-- White space and the modifiers of a declaration are read. -/
theorem passes_modified {other : String} {more : List String}
    (hvisible : ∃ c tail, rest = c :: tail ∧ isWhiteSpace c = false)
    (hfails : Fails (.seq (choice (("export" :: other :: more).map literal)) blanks1) rest) :
    Passes (Line.modified ("export" :: other :: more)) none 0 (indentation indent ++ lead exported)
      rest [leadSpot indent exported] := by
  cases exported with
  | false => exact (passes_unmodified hvisible hfails).cast (List.append_nil _) rfl
  | true =>
      have hblanks : Passes blanks none 0 (indentation indent) (lead true ++ rest) [] :=
        passes_indentation ⟨'e', _, rfl, by decide⟩
      have hexport : Passes (.seq (choice (("export" :: other :: more).map literal)) blanks1)
          ((indentation indent).getLast?.or none) (0 + byteLength (indentation indent))
          (lead true) rest [] :=
        (passes_literal "export" _).alt_first.seq
          (passes_blank (Nat.le_refl 1) (head_visible hvisible))
      have hne : lead true ≠ [] := by decide
      refine (hblanks.seq (hexport.one_round hne hfails).group).cast rfl ?_
      rw [byte_length_indentation, Nat.zero_add]
      rfl

end Modified

section Statements

variable {keyword : String} {indent : Nat} {exported : Bool} {name : Name} {tail : Text}

/-- The name of a declaration stands a space after its keyword. -/
theorem name_spot_words (number : Nat) (name : Name) :
    nameSpot number indent (words exported keyword) name =
      (number, indent + byteLength (lead exported) + byteLength keyword.toList + byteLength [' '],
        indent + byteLength (lead exported) + byteLength keyword.toList + byteLength [' '] +
          byteLength name.text) := by
  rw [nameSpot, words, Text.byte_length_append, Text.byte_length_append]
  simp only [Nat.add_assoc]

/-- A pattern matches a line if its second part reads what follows the modifiers. -/
theorem matches_row {other : String} {more : List String} {second : Pattern} (read after : Text)
    (newer : Groups) (hkeyword : keyword ∈ declarationWords)
    (hlisted : keyword ∉ "export" :: other :: more)
    (hparts : ∀ word ∈ "export" :: other :: more, ∀ c ∈ word.toList, isNamePart c = true)
    (hread : keyword.toList ++ ' ' :: (name.text ++ tail) = read ++ after)
    (hsecond : ∀ before, Passes second before (indent + byteLength (lead exported)) read after newer) :
    (Pattern.seq (Line.modified ("export" :: other :: more)) second).matchStart?
        (rowOf indent (words exported keyword) name tail) =
      some ⟨0, indent + byteLength (lead exported) + byteLength read,
        newer ++ [leadSpot indent exported]⟩ := by
  have hrow : rowOf indent (words exported keyword) name tail =
      (indentation indent ++ lead exported) ++ read ++ after := by
    rw [List.append_assoc, ← hread]
    simp only [rowOf, words, List.append_assoc, List.cons_append, List.nil_append]
  have hlength : byteLength (indentation indent ++ lead exported) =
      indent + byteLength (lead exported) := by
    rw [Text.byte_length_append, byte_length_indentation]
  have hvisible := declaration_words_visible hkeyword (' ' :: (name.text ++ tail))
  have hfails := fails_words (declaration_words_part hkeyword)
    (@space_ends_word (name.text ++ tail)) hparts (by simpa using hlisted)
  rw [hread] at hvisible hfails
  have hsecond := hsecond ((indentation indent ++ lead exported).getLast?.or none)
  rw [← hlength, ← Nat.zero_add (byteLength _)] at hsecond
  rw [hrow, Pattern.match_start_of_passes ((passes_modified hvisible hfails).seq hsecond),
    Text.byte_length_append, hlength]

/-- A name is read after a space. -/
theorem Name.passes_after_space {before : Option Char} {offset : Nat} {rest : Text} (name : Name)
    (number : Nat) (h : ∀ c, rest.head? = some c → CharSet.identPart.contains c = false) :
    Passes (.seq blanks1 (.group number identifier)) before offset ([' '] ++ name.text) rest
      [(number, offset + byteLength [' '], offset + byteLength [' '] + byteLength name.text)] :=
  (passes_blank (Nat.le_refl 1) (head_visible (name.visible rest))).seq (name.passes h).group

/-- A name is read after a keyword. -/
theorem Name.passes_after_keyword {before : Option Char} {offset : Nat} {rest : Text} (name : Name)
    (number : Nat) (word : String)
    (h : ∀ c, rest.head? = some c → CharSet.identPart.contains c = false) :
    Passes (.seq (Pattern.keyword word) (.group number identifier)) before offset
      ((word.toList ++ [' ']) ++ name.text) rest
      [(number, offset + byteLength (word.toList ++ [' ']),
        offset + byteLength (word.toList ++ [' ']) + byteLength name.text)] :=
  (passes_keyword word (head_visible (name.visible rest))).seq (name.passes h).group

/-- The name of a declaration stands after its keyword. -/
theorem name_spot_keyword (number : Nat) (name : Name) :
    nameSpot number indent (words exported keyword) name =
      (number, indent + byteLength (lead exported) + byteLength (keyword.toList ++ [' ']),
        indent + byteLength (lead exported) + byteLength (keyword.toList ++ [' ']) +
          byteLength name.text) := by
  rw [nameSpot, words, Text.byte_length_append]
  simp only [Nat.add_assoc]

/-- The line of a class is matched. -/
theorem class_matches (indent : Nat) (exported : Bool) (name : Name) :
    ∃ stop, Line.classLine.matchStart? (rowOf indent (words exported "class") name [' ', '{']) =
      some ⟨0, stop, [nameSpot 2 indent (words exported "class") name, leadSpot indent exported]⟩ := by
  have hne : [' '] ++ name.text ≠ [] := by simp
  refine ⟨_, matches_row ("class".toList ++ ([' '] ++ name.text)) [' ', '{']
    [nameSpot 2 indent (words exported "class") name] (by decide) (by decide) (by decide)
    (by simp) fun before => ?_⟩
  have hname : ∀ before offset, Passes (optional (.seq blanks1 (.group 2 identifier))) before offset
      ([' '] ++ name.text) [' ', '{'] _ := fun before offset =>
    (name.passes_after_space 2 (head_of_cons (by decide) ['{'])).optional hne
  refine ((passes_literal "class" _).seq (hname _ _)).cast rfl ?_
  rw [name_spot_words]
  rfl

/-- Modifiers, a keyword and a name match the line of a block with that keyword. -/
theorem keyword_matches {other : String} {more : List String} (indent : Nat) (exported : Bool)
    (name : Name) (hkeyword : keyword ∈ declarationWords)
    (hlisted : keyword ∉ "export" :: other :: more)
    (hparts : ∀ word ∈ "export" :: other :: more, ∀ c ∈ word.toList, isNamePart c = true) :
    ∃ stop, (Pattern.sequence [Line.modified ("export" :: other :: more), Pattern.keyword keyword,
        .group 2 identifier]).matchStart? (rowOf indent (words exported keyword) name [' ', '{']) =
      some ⟨0, stop, [nameSpot 2 indent (words exported keyword) name, leadSpot indent exported]⟩ := by
  refine ⟨_, matches_row ((keyword.toList ++ [' ']) ++ name.text) [' ', '{']
    [nameSpot 2 indent (words exported keyword) name] hkeyword hlisted hparts (by simp)
    fun before => ?_⟩
  rw [name_spot_keyword]
  exact name.passes_after_keyword 2 keyword (head_of_cons (by decide) _)

/-- The line of an interface is matched. -/
theorem interface_matches (indent : Nat) (exported : Bool) (name : Name) :
    ∃ stop, Line.interfaceLine.matchStart?
        (rowOf indent (words exported "interface") name [' ', '{']) =
      some ⟨0, stop,
        [nameSpot 2 indent (words exported "interface") name, leadSpot indent exported]⟩ :=
  keyword_matches indent exported name (by decide) (by decide) (by decide)

/-- The line of an enumeration is matched. -/
theorem enum_matches (indent : Nat) (exported : Bool) (name : Name) :
    ∃ stop, Line.enumLine.matchStart? (rowOf indent (words exported "enum") name [' ', '{']) =
      some ⟨0, stop, [nameSpot 2 indent (words exported "enum") name, leadSpot indent exported]⟩ :=
  keyword_matches indent exported name (by decide) (by decide) (by decide)

/-- Where the keyword of a line stands, as the second group. -/
def keywordSpot (indent : Nat) (exported : Bool) (keyword : String) : Nat × Nat × Nat :=
  (2, indent + byteLength (lead exported),
    indent + byteLength (lead exported) + byteLength keyword.toList)

/-- The line of a namespace is matched. -/
theorem namespace_matches (indent : Nat) (exported : Bool) (name : Name) :
    ∃ stop, Line.namespaceLine.matchStart?
        (rowOf indent (words exported "namespace") name [' ', '{']) =
      some ⟨0, stop, [nameSpot 3 indent (words exported "namespace") name,
        keywordSpot indent exported "namespace", leadSpot indent exported]⟩ := by
  refine ⟨_, matches_row ("namespace".toList ++ ([' '] ++ name.text)) [' ', '{']
    [nameSpot 3 indent (words exported "namespace") name, keywordSpot indent exported "namespace"]
    (by decide) (by decide) (by decide) (by simp) fun before => ?_⟩
  have hname : ∀ {before : Option Char} {offset : Nat},
      Passes (.seq (.char .identStart) (Pattern.many (.char (.union .identPart (.one '.')))))
        before offset name.text [' ', '{'] [] := by
    intro before offset
    obtain ⟨c, rest, htext, -, -, hstart⟩ := name.exists_head
    have hpart := name.ident_part
    rw [htext] at hpart ⊢
    refine (passes_char hstart).seq (passes_chars (fun d hd => ?_) (Nat.zero_le _) fun d hd => ?_)
    · rw [CharSet.contains, hpart d (List.mem_cons_of_mem c hd), Bool.true_or]
    · obtain rfl : ' ' = d := Option.some.inj hd
      decide
  refine ((passes_literal "namespace" _).alt_first.group.seq ((passes_blank (Nat.le_refl 1)
    (head_visible (name.visible _))).seq hname.group)).cast rfl ?_
  rw [name_spot_words]
  rfl

/-- What follows the name of a type alias, up to the equals sign. -/
theorem passes_type_tail (before : Option Char) (offset : Nat) :
    Passes (Pattern.sequence [blanks,
      optional (Pattern.sequence [literal "<", Pattern.many (.char (.notIn "=")), literal ">"]),
      blanks, literal "="]) before offset ([' '] ++ ([] ++ ([] ++ "=".toList))) " string;".toList
      [] := by
  have hequals := head_of_cons (p := (isWhiteSpace · = false)) (c := '=') (by decide) " string;".toList
  have hangle : ∀ before offset, Passes (optional (Pattern.sequence [literal "<",
      Pattern.many (.char (.notIn "=")), literal ">"])) before offset [] ('=' :: " string;".toList)
      [] := fun _ _ => passes_left_out rfl (by decide)
  exact ((passes_blank (Nat.zero_le 1) hequals).seq ((hangle _ _).seq ((passes_blanks hequals).seq
    (passes_literal "=" _)))).cast rfl rfl

/-- The line of a type alias is matched. -/
theorem type_matches (indent : Nat) (exported : Bool) (name : Name) :
    ∃ stop, Line.typeLine.matchStart? (rowOf indent (words exported "type") name " = string;".toList) =
      some ⟨0, stop, [nameSpot 2 indent (words exported "type") name, leadSpot indent exported]⟩ := by
  have htail : " = string;".toList = [' '] ++ ("=".toList ++ " string;".toList) := rfl
  have hvisible : ∀ c, ((name.text ++ ([' '] ++ ([] ++ ([] ++ "=".toList)))) ++
      " string;".toList).head? = some c → isWhiteSpace c = false := by
    rw [List.append_assoc]
    exact head_visible (name.visible _)
  refine ⟨_, matches_row (("type".toList ++ [' ']) ++ (name.text ++ ([' '] ++ "=".toList)))
    " string;".toList [nameSpot 2 indent (words exported "type") name] (by decide) (by decide)
    (by decide) ?_ fun before => ?_⟩
  · simp only [htail, List.append_assoc, List.cons_append, List.nil_append]
  refine ((passes_keyword "type" hvisible).seq ((name.passes (head_of_cons (by decide) _)).group.seq
    (passes_type_tail _ _))).cast rfl ?_
  rw [name_spot_keyword]
  rfl

/-- The line of a function is matched. -/
theorem function_matches (indent : Nat) (exported : Bool) (name : Name) :
    ∃ stop, Line.functionLine.matchStart?
        (rowOf indent (words exported "function") name Statement.function.tail) =
      some ⟨0, stop,
        [nameSpot 2 indent (words exported "function") name, leadSpot indent exported]⟩ := by
  have htail : Statement.function.tail = '(' :: [')', ' ', '{', '}'] := rfl
  have hopen := head_of_cons (p := (isWhiteSpace · = false)) (c := '(') (by decide) [')', ' ', '{', '}']
  have hvisible : ∀ c, ((name.text ++ ([] ++ ['('])) ++ [')', ' ', '{', '}']).head? = some c →
      isWhiteSpace c = false := by
    rw [List.append_assoc]
    exact head_visible (name.visible _)
  have hstar : Fails (literal "*") ((name.text ++ ([] ++ ['('])) ++ [')', ' ', '{', '}']) := by
    rw [List.append_assoc]
    exact name.fails_mark (by decide)
  have hparenthesis : (CharSet.ofString "(<").contains '(' = true := by decide
  have hname : ∀ before offset, Passes (Pattern.sequence [optional (.group 2 identifier), blanks,
      .char (.ofString "(<")]) before offset (name.text ++ ([] ++ ['('])) [')', ' ', '{', '}']
      [(2, offset, offset + byteLength name.text)] := fun before offset =>
    (((name.passes (head_of_cons (by decide) _)).group.optional name.ne_nil).seq
      ((passes_blanks hopen).seq (passes_char hparenthesis))).cast rfl rfl
  refine ⟨_, matches_row ("function".toList ++ ([' '] ++ (name.text ++ ['('])))
    [')', ' ', '{', '}'] [nameSpot 2 indent (words exported "function") name]
    (by decide) (by decide) (by decide) (by simp [htail]) fun before => ?_⟩
  have hboundary : Pattern.atWordBoundary ⟨"function".toList.getLast?.or before,
      indent + byteLength (lead exported) + byteLength "function".toList,
      ' ' :: ((name.text ++ ['(']) ++ [')', ' ', '{', '}'])⟩ = true := rfl
  refine ((passes_literal "function" _).seq ((Pattern.passes_word_boundary hboundary).seq
    ((passes_blank (Nat.zero_le 1) hvisible).seq ((passes_no_round hstar).seq
      ((passes_blanks hvisible).seq (hname _ _)))))).cast rfl ?_
  rw [name_spot_words]
  rfl

/-- The line of a variable is matched up to its name. -/
theorem variable_matches (indent : Nat) (exported : Bool) (name : Name) (tail : Text)
    (hkeyword : keyword = "const" ∨ keyword = "let") :
    Line.variableLine.matchStart? (rowOf indent (words exported keyword) name tail) =
      some ⟨0, indent + byteLength (words exported keyword),
        [keywordSpot indent exported keyword, leadSpot indent exported]⟩ := by
  have hword : ∀ before, Passes (choice [literal "const", literal "let", literal "var"]) before
      (indent + byteLength (lead exported)) keyword.toList (' ' :: (name.text ++ tail)) [] := by
    intro before
    rcases hkeyword with rfl | rfl
    · exact (passes_literal "const" _).alt_first
    · have hconst : Fails (literal "const") ("let".toList ++ ' ' :: (name.text ++ tail)) :=
        fails_literal space_ends_word (by decide) (by decide)
      exact (passes_literal "let" _).alt_first.alt_second hconst
  have hmem : keyword ∈ declarationWords ∧ keyword ∉ ["export", "declare"] := by
    rcases hkeyword with rfl | rfl <;> decide
  have hstop : indent + byteLength (words exported keyword) =
      indent + byteLength (lead exported) + byteLength (keyword.toList ++ [' ']) := by
    rw [words, Text.byte_length_append, Nat.add_assoc]
  rw [hstop]
  exact matches_row (keyword.toList ++ [' ']) (name.text ++ tail)
    [keywordSpot indent exported keyword] hmem.1 hmem.2 (by decide) (by simp) fun before =>
      (hword before).group.seq (passes_blank (Nat.le_refl 1) (head_visible (name.visible tail)))

end Statements

section Members

variable {indent : Nat} {name : Name} {row rest : Text} {before : Option Char} {offset : Nat}

/-- The name of a member stands after the white space. -/
theorem name_spot_member (number : Nat) (name : Name) :
    nameSpot number indent [] name = (number, indent, indent + byteLength name.text) :=
  rfl

/-- An identifier is read as the name of a member. -/
theorem IsPlainWord.passes_member {word : Text} (hword : IsPlainWord word)
    (h : ∀ c, rest.head? = some c → CharSet.identPart.contains c = false) :
    Passes Line.memberName before offset word rest [] := by
  have hnone : Passes (optional (literal "#")) before offset [] (word ++ rest) [] :=
    passes_no_round (hword.fails_mark (by decide))
  exact (hnone.seq (hword.passes h)).cast rfl rfl

/-- The words that lead members are made of letters. -/
theorem member_modifiers_part :
    ∀ word ∈ Language.memberModifiers, ∀ c ∈ word.toList, isNamePart c = true := by
  decide

/-- White space in front of a member is read. -/
theorem Name.passes_unmodified (name : Name) {listed : List String}
    (hlisted : ∀ word ∈ listed, word ∈ Language.memberModifiers)
    (hrest : ∀ c, rest.head? = some c → isNamePart c = false) :
    Passes (Line.modified listed) none 0 (indentation indent) (name.text ++ rest)
      [leadSpot indent false] :=
  Declaration.passes_unmodified (name.visible rest) (fails_words name.chars hrest
    (fun word hword => member_modifiers_part word (hlisted word hword))
      fun hmem => name.not_modifier (hlisted _ hmem))

/-- White space in front of an identifier is read where a visible mark follows that. The identifier
is no modifier then, even if it is spelled as one. -/
theorem IsPlainWord.passes_unmodified {word : Text} (hword : IsPlainWord word) {mark : Char}
    (hmark : isNamePart mark = false ∧ isWhiteSpace mark = false) :
    Passes (Line.modified Language.memberModifiers) none 0 (indentation indent)
      (word ++ mark :: rest) [leadSpot indent false] := by
  refine Declaration.passes_unmodified (hword.visible _) (fails_of_cannot_read fun read hread => ?_)
  rintro ⟨after, hafter⟩
  -- White space would have to follow a modifier.
  obtain ⟨-, white, hlength, hblank, -, hwhite⟩ := hread.of_word hword.chars
    (head_of_cons hmark.1 rest) member_modifiers_part hafter.symm
  obtain ⟨c, white, rfl⟩ := List.exists_cons_of_ne_nil (List.length_pos_iff.mp hlength)
  obtain ⟨rfl, -⟩ := List.cons.inj hwhite
  rw [hblank mark List.mem_cons_self] at hmark
  exact Bool.noConfusion hmark.2

/-- What follows the name of a method, up to the parenthesis. -/
theorem passes_method_tail (before : Option Char) (offset : Nat) (rest : Text) :
    Passes (Pattern.sequence [blanks, optional (.char (.ofString "?!")), blanks,
      optional (Pattern.sequence [literal "<", Pattern.many (.char (.notIn ">(")), literal ">"]),
      blanks, literal "("]) before offset ([] ++ ([] ++ ([] ++ ([] ++ ([] ++ "(".toList))))) rest
      [] := by
  have hopen := head_of_cons (p := (isWhiteSpace · = false)) (c := '(') (by decide) rest
  have hmark : ∀ before offset, Passes (optional (.char (.ofString "?!"))) before offset []
      ('(' :: rest) [] := fun _ _ => passes_left_out rfl (by decide)
  have hangle : ∀ before offset, Passes (optional (Pattern.sequence [literal "<",
      Pattern.many (.char (.notIn ">(")), literal ">"])) before offset [] ('(' :: rest) [] :=
    fun _ _ => passes_left_out rfl (by decide)
  exact ((passes_blanks hopen).seq ((hmark _ _).seq ((passes_blanks hopen).seq
    ((hangle _ _).seq ((passes_blanks hopen).seq (passes_literal "(" _)))))).cast rfl rfl

/-- The line of a method is matched, also if its name is a word that may lead a member. -/
theorem IsPlainWord.method_matches {word : Text} (hword : IsPlainWord word) (indent : Nat) :
    ∃ stop, Line.methodLine.matchStart? (indentation indent ++ (word ++ Member.method.tail)) =
      some ⟨0, stop, [(2, indent, indent + byteLength word), leadSpot indent false]⟩ := by
  have htail : Member.method.tail = '(' :: [')', ' ', '{', '}'] := rfl
  have hrow : indentation indent ++ (word ++ Member.method.tail) =
      (indentation indent ++ (word ++ "(".toList)) ++ [')', ' ', '{', '}'] := by
    have hopen : "(".toList = ['('] := rfl
    simp [htail, hopen]
  have hmodifiers : Passes (Line.modified Language.memberModifiers) none 0 (indentation indent)
      ((word ++ "(".toList) ++ [')', ' ', '{', '}']) [leadSpot indent false] := by
    rw [List.append_assoc]
    exact hword.passes_unmodified (by decide)
  have hstar : ∀ before offset, Passes (optional (literal "*")) before offset []
      ((word ++ "(".toList) ++ [')', ' ', '{', '}']) [] := by
    rw [List.append_assoc]
    exact fun _ _ => passes_no_round (hword.fails_mark (by decide))
  have hvisible : ∀ c, ((word ++ "(".toList) ++ [')', ' ', '{', '}']).head? = some c →
      isWhiteSpace c = false := by
    rw [List.append_assoc]
    exact head_visible (hword.visible _)
  have hpasses : Passes Line.methodLine none 0 (indentation indent ++ (word ++ "(".toList))
      [')', ' ', '{', '}'] [(2, indent, indent + byteLength word), leadSpot indent false] := by
    refine (hmodifiers.seq ((hstar _ _).seq ((passes_blanks hvisible).seq
      ((hword.passes_member (head_of_cons (by decide) _)).group.seq
        (passes_method_tail _ _ _))))).cast rfl ?_
    rw [byte_length_indentation]
    simp [byteLength]
  exact ⟨_, hrow ▸ Pattern.match_start_of_passes hpasses⟩

/-- A line without a parenthesis is not matched as a method. -/
theorem method_fails (h : '(' ∉ row) : Fails Line.methodLine row := by
  refine fails_of_cannot_read fun read hread => ?_
  rintro ⟨later, rfl⟩
  obtain ⟨_, right, rfl, -, hright⟩ := hread.of_seq
  obtain ⟨_, right, rfl, -, hright⟩ := hright.of_seq
  obtain ⟨_, right, rfl, -, hright⟩ := hright.of_seq
  obtain ⟨_, right, rfl, -, hright⟩ := hright.of_seq
  obtain ⟨_, right, rfl, -, hright⟩ := hright.of_seq
  obtain ⟨_, right, rfl, -, hright⟩ := hright.of_seq
  obtain ⟨_, right, rfl, -, hright⟩ := hright.of_seq
  obtain ⟨_, right, rfl, -, hright⟩ := hright.of_seq
  obtain ⟨_, right, rfl, -, hright⟩ := hright.of_seq
  obtain rfl : right = ['('] := hright.of_literal
  simp at h

/-- What follows the name of a property, up to the equals sign. -/
theorem passes_field_tail (before : Option Char) (offset : Nat) (rest : Text) :
    Passes (Pattern.sequence [blanks, optional (.char (.ofString "?!")), blanks,
      choice [literal ":", literal "=", literal ";", .textEnd]]) before offset
      ([' '] ++ ([] ++ ([] ++ "=".toList))) rest [] := by
  have hequals := head_of_cons (p := (isWhiteSpace · = false)) (c := '=') (by decide) rest
  have hmark : ∀ before offset, Passes (optional (.char (.ofString "?!"))) before offset []
      ('=' :: rest) [] := fun _ _ => passes_left_out rfl (by decide)
  have hcolon : Fails (literal ":") ("=".toList ++ rest) :=
    fails_of_may_start (c := '=') rfl (by decide)
  exact ((passes_blank (Nat.zero_le 1) hequals).seq ((hmark _ _).seq ((passes_blanks hequals).seq
    ((passes_literal "=" _).alt_first.alt_second hcolon)))).cast rfl rfl

/-- The line of a property of a class is matched. -/
theorem field_matches (indent : Nat) (name : Name) :
    ∃ stop, Line.propertyLine.matchStart? (rowOf indent [] name Member.field.tail) =
      some ⟨0, stop, [nameSpot 2 indent [] name, leadSpot indent false]⟩ := by
  have htail : Member.field.tail = [' '] ++ ("=".toList ++ " 1;".toList) := rfl
  have hrow : rowOf indent [] name Member.field.tail =
      (indentation indent ++ (name.text ++ ([' '] ++ "=".toList))) ++ " 1;".toList := by
    simp only [rowOf, htail, List.nil_append, List.append_assoc]
  have hmodifiers : Passes (Line.modified ["public", "private", "protected", "static", "readonly",
      "declare", "override", "abstract"]) none 0 (indentation indent)
      ((name.text ++ ([' '] ++ "=".toList)) ++ " 1;".toList) [leadSpot indent false] := by
    rw [List.append_assoc]
    exact name.passes_unmodified (by decide) space_ends_word
  have hpasses : Passes Line.propertyLine none 0
      (indentation indent ++ (name.text ++ ([' '] ++ "=".toList))) " 1;".toList
      [nameSpot 2 indent [] name, leadSpot indent false] := by
    refine (hmodifiers.seq ((name.is_plain_word.passes_member (head_of_cons (by decide) _)).group.seq
      (passes_field_tail _ _ _))).cast rfl ?_
    rw [name_spot_member, byte_length_indentation, Nat.zero_add]
    rfl
  exact ⟨_, hrow ▸ Pattern.match_start_of_passes hpasses⟩

/-- The line of a member of an interface is matched. -/
theorem interface_member_matches (indent : Nat) (name : Name) {mark : Char} (tail : Text)
    (hmark : mark = ':' ∨ mark = '(') :
    ∃ stop, Line.interfaceMemberLine.matchStart? (rowOf indent [] name (mark :: tail)) =
      some ⟨0, stop, [(2, indent + byteLength name.text, indent + byteLength name.text + 1),
        nameSpot 1 indent [] name]⟩ := by
  have hfacts : CharSet.identPart.contains mark = false ∧ isNamePart mark = false ∧
      isWhiteSpace mark = false ∧ (literal "?").mayStart mark = false ∧
      (CharSet.ofString "(:<").contains mark = true ∧ mark.utf8Size = 1 := by
    rcases hmark with rfl | rfl <;> decide
  obtain ⟨hident, hpart, hvisible, hquestion, hset, hsize⟩ := hfacts
  have hrow : rowOf indent [] name (mark :: tail) =
      (indentation indent ++ (name.text ++ [mark])) ++ tail := by
    simp only [rowOf, List.nil_append, List.append_assoc, List.cons_append]
  have hindentation : Passes blanks none 0 (indentation indent) ((name.text ++ [mark]) ++ tail) [] := by
    rw [List.append_assoc]
    exact passes_indentation (name.visible _)
  have hreadonly : ∀ before offset, Passes (optional (Pattern.keyword "readonly")) before offset []
      ((name.text ++ [mark]) ++ tail) [] := by
    rw [List.append_assoc]
    refine fun _ _ => passes_no_round
      (fails_keyword name.chars (head_of_cons hpart _) (by decide) fun heq => ?_)
    exact name.not_modifier (heq ▸ by decide)
  have hnone : ∀ before offset, Passes (optional (literal "?")) before offset [] (mark :: tail) [] :=
    fun _ _ => passes_left_out rfl hquestion
  have hpasses : Passes Line.interfaceMemberLine none 0 (indentation indent ++ (name.text ++ [mark]))
      tail [(2, indent + byteLength name.text, indent + byteLength name.text + 1),
        nameSpot 1 indent [] name] := by
    refine (hindentation.seq ((hreadonly _ _).seq ((name.passes (head_of_cons hident _)).group.seq
      ((passes_blanks (head_of_cons hvisible tail)).seq ((hnone _ _).seq
        ((passes_blanks (head_of_cons hvisible tail)).seq (passes_char hset).group)))))).cast rfl ?_
    rw [name_spot_member, byte_length_indentation]
    simp [byteLength, hsize]
  exact ⟨_, hrow ▸ Pattern.match_start_of_passes hpasses⟩

/-- A pattern that cannot start with a space or a brace fails on the line that closes a body. -/
theorem fails_closing {second : Pattern} (hsome : second.readsSome = true)
    (hspace : second.mayStart ' ' = false) (hbrace : second.mayStart '}' = false) :
    Fails (.seq blanks second) (closingRow indent) := by
  refine fails_blanks ⟨'}', [], rfl, by decide⟩ (fun c hc => ?_) hsome
    (fails_of_may_start hsome hbrace)
  rw [List.eq_of_mem_replicate hc]
  exact hspace

/-- The line that closes a body declares no member. -/
theorem member_fails_closing (indent : Nat) :
    Fails Line.methodLine (closingRow indent) ∧ Fails Line.propertyLine (closingRow indent) ∧
      Fails Line.interfaceMemberLine (closingRow indent) := by
  have hopen : '(' ∉ closingRow indent := by
    simp only [closingRow, List.mem_append, not_or]
    exact ⟨not_mem_indentation indent (by decide), by decide⟩
  exact ⟨method_fails hopen, (fails_closing rfl (by decide) (by decide)).assoc,
    fails_closing rfl (by decide) (by decide)⟩

end Members

end CodeAtlas.Declaration
