import CodeAtlas.Proofs.Declaration.Place
import CodeAtlas.Proofs.Declaration.Shape

/-!
# What the line of a declaration tells

The line of a declaration tells its entry; with an opening brace it also opens the declaration whose
body follows (`block_tells`), else nothing (`statement_tells`). The groups of the match say where the
name stands and so which symbol is made; the form of the line says where it ends.
-/

namespace CodeAtlas.Declaration

open Pattern (Match)
open Text (byteLength isNamePart IsFlat Nested AreRows ended continued join)

/-- A line adds symbols with the given entries, exports nothing else and opens a declaration or
none. -/
def Tells (contribution : Option Contribution) (entries : List Entry) (opens : Option Frame) : Prop :=
  ∃ found, contribution = some found ∧ found.symbols.map Symbol.entry = entries ∧
    found.exports = [] ∧ found.opens = opens

section Groups

variable {indent : Nat} {exported : Bool} {keyword : String} {name : Name} {front tail : Text}
  {found : Match}

/-- The text of a group that stands behind the white space of a line. -/
theorem text_of_group {number : Nat} {part back : Text}
    (hgroup : found.group? number = some (indent + byteLength front,
      indent + byteLength front + byteLength part)) :
    found.text? (indentation indent ++ (front ++ (part ++ back))) number = some part := by
  rw [Match.text?, hgroup, Option.bind_some, Text.slice_eq_some_iff]
  refine ⟨⟨indentation indent ++ front, back, (List.append_assoc _ _ _).symm, ?_⟩, rfl⟩
  rw [Text.byte_length_append, byte_length_indentation]

/-- A line from its keyword on. -/
theorem row_at_keyword (indent : Nat) (exported : Bool) (keyword : String) (name : Name)
    (tail : Text) : rowOf indent (words exported keyword) name tail =
      indentation indent ++ (lead exported ++ (keyword.toList ++ ' ' :: (name.text ++ tail))) := by
  simp only [rowOf, words, List.append_assoc, List.cons_append, List.nil_append]

/-- The modifiers of a declaration are those that lead it. -/
theorem modifiers_of_lead
    (hgroup : found.group? 1 = some (indent, indent + byteLength (lead exported))) :
    modifiersOf found (rowOf indent (words exported keyword) name tail) = leadModifiers exported := by
  have hnone : ∀ rest, lead exported ++ rest = [] ++ (lead exported ++ rest) := fun _ => rfl
  have htext : found.text? (rowOf indent (words exported keyword) name tail) 1 =
      some (lead exported) := by
    rw [row_at_keyword, hnone]
    exact text_of_group hgroup
  rw [modifiersOf, htext]
  cases exported <;> decide

/-- A member has no modifiers. -/
theorem modifiers_of_member {rest : Text} (hgroup : found.group? 1 = some (indent, indent)) :
    modifiersOf found (indentation indent ++ rest) = [] := by
  have hrow : indentation indent ++ rest = indentation indent ++ ([] ++ ([] ++ rest)) := rfl
  have htext : found.text? (indentation indent ++ rest) 1 = some [] := by
    rw [hrow]
    exact text_of_group hgroup
  rw [modifiersOf, htext]
  rfl

/-- The modifiers of a declaration as a symbol carries them. -/
theorem lead_modifiers_fold (exported : Bool) :
    (leadModifiers exported).foldl Symbol.withModifier [] = leadModifiers exported := by
  cases exported <;> rfl

end Groups

section Statements

variable {path : Path} {above below : List Text} {indent : Nat} {exported : Bool} {name : Name}
  {keyword : String} {tail : Text} {depth : Int} {container : Option String} {found : Match}

/-- A line that declares a container tells its entry and opens its body. -/
theorem container_line_tells {source : Source} {line : Text} {offset number start stop : Nat}
    {kind : SymbolKind} {frameKind : FrameKind} {endLine : Nat} {entry : Entry}
    (hgroup : found.group? number = some (start, stop))
    (htext : found.text? line number = some name.text)
    {modifiers : List Modifier} (hmodifiers : modifiersOf found line = modifiers)
    (hend : blockEndLine? source.masked (offset + start) = some endLine)
    (hsymbol : ∃ symbol, symbolAt? source name.text kind (offset + start) (some endLine) container
      modifiers = some symbol ∧ symbol.entry = entry) :
    Tells (containerLine? source line offset depth container found number kind frameKind) [entry]
      (some ⟨name.word, frameKind, depth + 1, endLine⟩) := by
  obtain ⟨symbol, hsymbol, rfl⟩ := hsymbol
  rw [containerLine?, hgroup]
  simp only [Option.bind_eq_bind, Option.bind_some, htext, hmodifiers, hend, hsymbol]
  exact ⟨_, rfl, rfl, rfl, rfl⟩

/-- A line that declares a class tells its entry and opens its body. -/
theorem class_line_tells {source : Source} {line : Text} {offset start stop endLine : Nat}
    {entry : Entry} (hgroup : found.group? 2 = some (start, stop))
    (htext : found.text? line 2 = some name.text)
    {modifiers : List Modifier} (hmodifiers : modifiersOf found line = modifiers)
    (hend : blockEndLine? source.masked (offset + start) = some endLine)
    (hsymbol : ∃ symbol, symbolAt? source name.text .classDef (offset + start) (some endLine)
      container modifiers = some symbol ∧ symbol.entry = entry) :
    Tells (classLine? source line offset depth container found) [entry]
      (some ⟨name.word, .ofClass, depth + 1, endLine⟩) := by
  have hextends : name.text ≠ "extends".toList := fun heq =>
    name.not_reserved (by rw [heq, String.ofList_toList]; decide)
  have himplements : name.text ≠ "implements".toList := fun heq =>
    name.not_strict (by rw [heq, String.ofList_toList]; decide)
  obtain ⟨symbol, hsymbol, rfl⟩ := hsymbol
  rw [classLine?, hgroup]
  simp only [htext, hextends, himplements, decide_false, Bool.or_false, Bool.false_eq_true, if_false,
    hmodifiers, hend, hsymbol, Option.bind_eq_bind, Option.bind_some]
  exact ⟨_, rfl, rfl, rfl, rfl⟩

/-- No line feed stands in front of the name of a declaration. -/
theorem front_no_feed (indent : Nat) (exported : Bool) (hkeyword : keyword ∈ declarationWords) :
    '\n' ∉ indentation indent ++ words exported keyword := by
  intro hmem
  rcases List.mem_append.mp hmem with hspace | hword
  · exact not_mem_indentation indent (by decide) hspace
  · rcases words_chars hkeyword _ hword with hpart | hspace
    · revert hpart
      decide
    · cases hspace

/-- The symbol of a declaration is made where its name stands. -/
theorem symbol_of_row (path : Path) (habove : AreRows above) (hkeyword : keyword ∈ declarationWords)
    (indent : Nat) (exported : Bool) (name : Name) (tail : Text) (below : List Text) (kind : SymbolKind)
    {endLine : Option Nat} (hend : above.length + 1 ≤ endLine.getD (above.length + 1))
    (container : Option String) :
    ∃ symbol, symbolAt? (Source.ofRows path
        (above ++ rowOf indent (words exported keyword) name tail :: below)) name.text kind
        (byteLength (ended above) + (indent + byteLength (words exported keyword))) endLine container
        (leadModifiers exported) = some symbol ∧
      symbol.entry = ⟨name.word, kind, container, above.length + 1, endLine.getD (above.length + 1),
        leadModifiers exported⟩ := by
  have hsymbol := symbol_at_row path habove
    (front_no_feed indent exported hkeyword) (name.text ++ tail) below
    name.text kind hend container (leadModifiers exported)
  rwa [Text.byte_length_append, byte_length_indentation, lead_modifiers_fold, List.append_assoc]
    at hsymbol

/-- The body of a declaration ends behind its rows. -/
theorem block_end_of_row (habove : AreRows above) (hkeyword : keyword ∈ declarationWords)
    (indent : Nat) (exported : Bool) (name : Name) {rows : List Text} (hrows : AreRows rows)
    (hnested : Nested (continued rows)) (below : List Text) :
    blockEndLine? (join ['\n'] (above ++ rowOf indent (words exported keyword) name [' ', '{'] ::
        (rows ++ closingRow indent :: below)))
        (byteLength (ended above) + (indent + byteLength (words exported keyword))) =
      some (above.length + rows.length + 2) := by
  have hmiddle : ∀ c ∈ name.text ++ [' '], c ≠ '{' ∧ c ≠ ';' := by
    refine List.forall_mem_append.mpr ⟨fun c hc => ?_, by decide⟩
    exact ⟨fun heq => name.not_mem (by decide) (heq ▸ hc),
      fun heq => name.not_mem (by decide) (heq ▸ hc)⟩
  have hfeed : '\n' ∉ name.text ++ [' '] := by
    simpa using name.not_mem (c := '\n') (by decide)
  have hrow : rowOf indent (words exported keyword) name [' ', '{'] =
      (indentation indent ++ words exported keyword) ++ ((name.text ++ [' ']) ++ ['{']) := by
    simp only [rowOf, List.append_assoc, List.cons_append, List.nil_append]
  have hend := block_end_row habove
    (front_no_feed indent exported hkeyword) hfeed hmiddle hrows hnested
    indent below
  rwa [← hrow, Text.byte_length_append (indentation indent), byte_length_indentation] at hend

/-- The group of the name of a line. -/
theorem group_of_name (stop number indent : Nat) (front : Text) (name : Name)
    (spots : Pattern.Groups) :
    Match.group? ⟨0, stop, nameSpot number indent front name :: spots⟩ number =
      some (indent + byteLength front, indent + byteLength front + byteLength name.text) := by
  simp [Match.group?, nameSpot]

/-- The text of the group is the name. -/
theorem text_of_name (stop number indent : Nat) (front : Text) (name : Name)
    (spots : Pattern.Groups) (tail : Text) :
    Match.text? ⟨0, stop, nameSpot number indent front name :: spots⟩ (rowOf indent front name tail)
      number = some name.text :=
  text_of_group (group_of_name stop number indent front name spots)

/-- The line of a declaration with a body tells its entry and opens the body. -/
theorem block_tells (path : Path) (habove : AreRows above) (indent : Nat) (exported : Bool)
    (kind : FrameKind) (name : Name) {rows : List Text} (hrows : AreRows rows)
    (hnested : Nested (continued rows)) (below : List Text) (depth : Int)
    (container : Option String) :
    Tells (statementLine? (Source.ofRows path
        (above ++ rowOf indent (words exported kind.keyword) name [' ', '{'] ::
          (rows ++ closingRow indent :: below)))
        (rowOf indent (words exported kind.keyword) name [' ', '{']) (byteLength (ended above)) depth
        container)
      [⟨name.word, kind.symbolKind, container, above.length + 1, above.length + rows.length + 2,
        leadModifiers exported⟩]
      (some ⟨name.word, kind, depth + 1, above.length + rows.length + 2⟩) := by
  have hend := block_end_of_row habove kind.keyword_mem indent exported name hrows hnested below
  have hle : above.length + 1 ≤
      (some (above.length + rows.length + 2)).getD (above.length + 1) := by
    rw [Option.getD_some]
    omega
  have hsymbol := symbol_of_row path habove kind.keyword_mem indent exported name [' ', '{']
    (rows ++ closingRow indent :: below) kind.symbolKind hle container
  cases kind with
  | ofClass =>
      obtain ⟨stop, hmatch⟩ := class_matches indent exported name
      simp only [statementLine?, FrameKind.keyword, hmatch]
      exact class_line_tells (group_of_name ..) (text_of_name ..) (modifiers_of_lead rfl) hend hsymbol
  | ofInterface =>
      obtain ⟨stop, hmatch⟩ := interface_matches indent exported name
      have hclass : Line.classLine.matchStart?
          (rowOf indent (words exported "interface") name [' ', '{']) = none :=
        class_opens.unmatched (by decide)
      simp only [statementLine?, FrameKind.keyword, hclass, hmatch]
      exact container_line_tells (group_of_name ..) (text_of_name ..) (modifiers_of_lead rfl) hend
        hsymbol
  | ofEnum =>
      obtain ⟨stop, hmatch⟩ := enum_matches indent exported name
      have hclass : Line.classLine.matchStart?
          (rowOf indent (words exported "enum") name [' ', '{']) = none :=
        class_opens.unmatched (by decide)
      have hinterface : Line.interfaceLine.matchStart?
          (rowOf indent (words exported "enum") name [' ', '{']) = none :=
        interface_opens.unmatched (by decide)
      simp only [statementLine?, FrameKind.keyword, hclass, hinterface, hmatch]
      exact container_line_tells (group_of_name ..) (text_of_name ..) (modifiers_of_lead rfl) hend
        hsymbol
  | ofNamespace =>
      obtain ⟨stop, hmatch⟩ := namespace_matches indent exported name
      have hclass : Line.classLine.matchStart?
          (rowOf indent (words exported "namespace") name [' ', '{']) = none :=
        class_opens.unmatched (by decide)
      have hinterface : Line.interfaceLine.matchStart?
          (rowOf indent (words exported "namespace") name [' ', '{']) = none :=
        interface_opens.unmatched (by decide)
      have henum : Line.enumLine.matchStart?
          (rowOf indent (words exported "namespace") name [' ', '{']) = none :=
        enum_unmatched "namespace" indent exported name space_ends_word (by decide)
      have hword : Match.text? ⟨0, stop, [nameSpot 3 indent (words exported "namespace") name,
          keywordSpot indent exported "namespace", leadSpot indent exported]⟩
          (rowOf indent (words exported "namespace") name [' ', '{']) 2 =
            some "namespace".toList := by
        rw [row_at_keyword]
        exact text_of_group rfl
      have hother : "namespace".toList ≠ "module".toList := by decide
      simp only [statementLine?, FrameKind.keyword, hclass, hinterface, henum, hmatch, hword,
        Option.some.injEq, hother, if_false]
      exact container_line_tells (group_of_name ..) (text_of_name ..) (modifiers_of_lead rfl) hend
        hsymbol

/-- A callable with an empty body on its line ends there. -/
theorem callable_end_of_row (habove : AreRows above) {front : Text} (hfront : '\n' ∉ front)
    {word : Text} (hword : IsPlainWord word) (below : List Text) :
    callableEndLine? (join ['\n'] (above ++
        (front ++ (word ++ ("() ".toList ++ ['{', '}']))) :: below))
        (byteLength (ended above) + byteLength front) = some (above.length + 1) := by
  have hshape : join ['\n'] (above ++ (front ++ (word ++ ("() ".toList ++ ['{', '}']))) :: below) =
      (ended above ++ front) ++ (word ++ '(' :: ')' :: ' ' :: '{' :: '}' :: continued below) := by
    rw [Text.join_rows]
    have htail : "() ".toList = ['(', ')', ' '] := rfl
    simp only [htail, List.append_assoc, List.cons_append, List.nil_append]
  have hcount : (ended above ++ front ++ word).count '\n' = above.length := by
    rw [List.count_append, List.count_append, Text.count_ended habove,
      List.count_eq_zero_of_not_mem hfront,
      List.count_eq_zero_of_not_mem (hword.not_mem (by decide)), Nat.add_zero]
  rw [hshape, ← Text.byte_length_append, callable_end_line _ (hword.not_mem (by decide)), hcount]

/-- A statement ends at its semicolon. -/
theorem statement_of_part {part : Text} (h : ∀ c ∈ part, c ∉ "([{)]};".toList ∧ c ≠ '\n')
    (rest : Text) : statement (part ++ ';' :: rest) = part := by
  have hmarks : "([{)]};".toList = ['(', '[', '{', ')', ']', '}', ';'] := rfl
  have hfrom : ∀ seen, statementFrom 0 seen (part ++ ';' :: rest) = seen.reverse ++ part := by
    induction part with
    | nil =>
        intro seen
        simp [statementFrom]
    | cons c part ih =>
        obtain ⟨⟨hc, hfeed⟩, hpart⟩ := List.forall_mem_cons.mp h
        simp only [hmarks, List.mem_cons, List.not_mem_nil, or_false, not_or] at hc
        obtain ⟨h1, h2, h3, h4, h5, h6, h7⟩ := hc
        intro seen
        rw [List.cons_append, statementFrom]
        simp only [h1, h2, h3, h4, h5, h6, h7, hfeed, decide_false, Bool.or_false, Bool.false_and,
          Bool.false_eq_true, if_false]
        rw [ih hpart]
        simp
  rw [statement, hfrom]
  rfl

/-- The characters of a name are read up to what follows it. -/
theorem Name.take_while (name : Name) {rest : Text}
    (h : ∀ c, rest.head? = some c → Text.isIdentChar c = false) :
    (name.text ++ rest).takeWhile Text.isIdentChar = name.text := by
  have hrest : rest.takeWhile Text.isIdentChar = [] := by
    cases rest with
    | nil => rfl
    | cons c rest => rw [List.takeWhile_cons, h c rfl, if_neg Bool.false_ne_true]
  rw [List.takeWhile_append_of_pos fun c hc => Text.is_ident_char_of_name_part (name.chars c hc),
    hrest, List.append_nil]

/-- A name is an identifier. -/
theorem Name.is_identifier (name : Name) : Text.isIdentifier name.text = true := by
  obtain ⟨c, tail, htext, hpart, hdigit, -⟩ := name.exists_head
  have hchars := name.chars
  rw [htext] at hchars ⊢
  rw [Text.isIdentifier, Text.is_ident_start_of_name_part hpart hdigit, Bool.true_and, List.all_eq_true]
  exact fun d hd => Text.is_ident_char_of_name_part (hchars d (List.mem_cons_of_mem c hd))

/-- A name with a plain value holds no other mark. -/
theorem Name.value_not_mem (name : Name) {c : Char} (hpart : isNamePart c = false)
    (hmark : c ∉ " = 1".toList) : c ∉ name.text ++ " = 1".toList := fun hmem =>
  (List.mem_append.mp hmem).elim (name.not_mem hpart) hmark

/-- A name in front of a space is bound. -/
theorem bound_names_of_name (name : Name) : boundNames? (name.text ++ [' ']) = some [(name.text, 0)] := by
  obtain ⟨c, tail, htext, hpart, -⟩ := name.exists_head
  have htrim : Text.trimStart (name.text ++ [' ']) = name.text ++ [' '] :=
    Text.drop_while_of_head (head_visible (name.visible [' ']))
  have hopen : c ≠ '{' ∧ c ≠ '[' := by
    constructor <;> (rintro rfl; revert hpart; decide)
  have hspace : ∀ d, [' '].head? = some d → Text.isIdentChar d = false := by
    intro d hd
    obtain rfl : ' ' = d := Option.some.inj hd
    decide
  have htake := name.take_while hspace
  have hname := name.is_identifier
  have hcons : name.text ++ [' '] = c :: (tail ++ [' ']) := by rw [htext, List.cons_append]
  rw [boundNames?]
  simp only [htrim]
  split
  · next hnil => simp at hnil
  · next d rest heq =>
      obtain ⟨rfl, -⟩ := List.cons.inj (hcons.symm.trans heq)
      rw [if_neg (by simpa using hopen)]
      simp only [htake, hname, if_true, Nat.sub_self]

/-- A name with a plain value is cut at its equals sign. -/
theorem Name.split_value (name : Name) :
    Text.splitTopLevel (name.text ++ " = 1".toList) '=' = [name.text ++ [' '], " 1".toList] := by
  have htail : name.text ++ " = 1".toList = (name.text ++ [' ']) ++ '=' :: " 1".toList := by
    have hvalue : " = 1".toList = [' '] ++ '=' :: " 1".toList := rfl
    rw [hvalue, List.append_assoc]
  have hflat : ∀ c ∈ name.text ++ [' '], IsFlat c := by
    refine List.forall_mem_append.mpr ⟨fun c hc hmem => ?_, by decide⟩
    have hmarks : ∀ c ∈ "([{<)]}>".toList, isNamePart c = false := by decide
    exact name.not_mem (hmarks c hmem) hc
  have hequals : '=' ∉ name.text ++ [' '] := by
    simpa using name.not_mem (c := '=') (by decide)
  rw [htail]
  exact Text.split_top_level_two hflat hequals (by decide) (by decide)

/-- The declarator of a variable with a plain value adds its symbol. -/
theorem declarator_of_name {source : Source} {modifiers : List Modifier} {offset : Nat}
    {symbol : Symbol} (isConst : Bool) (name : Name)
    (hsymbol : symbolAt? source name.text (if isConst then .constant else .variableDef) offset
      (some (Text.lineOfOffset source.content (offset + byteLength (name.text ++ " = 1".toList))))
      container modifiers = some symbol) :
    declarator? source isConst container modifiers offset (name.text ++ " = 1".toList) =
      some [symbol] := by
  have hvalue : Text.dropBytes? (name.text ++ " = 1".toList)
      (byteLength (name.text ++ [' ']) + 1) = some " 1".toList := by
    refine Text.drop_bytes_eq_some_iff.mpr ⟨(name.text ++ [' ']) ++ ['='], ?_, ?_⟩
    · rw [List.append_assoc, List.append_assoc]
      rfl
    · rw [Text.byte_length_append (name.text ++ [' '])]
      rfl
  have hfunction : startsFunction? (some " 1".toList) = some false := by decide
  rw [declarator?, name.split_value]
  simp only [List.headD_cons, hvalue, hfunction, bound_names_of_name, Option.bind_eq_bind,
    Option.bind_some, Bool.false_eq_true, if_false, Bool.false_and, Nat.add_zero, List.mapM_cons,
    List.mapM_nil, hsymbol]
  rfl

/-- A variable statement with one plain value adds the symbol of its name. -/
theorem variable_line_of_name {source : Source} {line rest : Text} {offset : Nat}
    {modifiers : List Modifier} {symbol : Symbol} (name : Name)
    (hmodifiers : modifiersOf found line = modifiers)
    (hrest : Text.dropBytes? source.masked (offset + found.stop) =
      some ((name.text ++ " = 1".toList) ++ ';' :: rest))
    (hsymbol : symbolAt? source name.text
      (if found.text? line 2 = some "const".toList then .constant else .variableDef)
      (offset + found.stop) (some (Text.lineOfOffset source.content
        (offset + found.stop + byteLength (name.text ++ " = 1".toList)))) container modifiers =
          some symbol) :
    variableLine? source line offset container found = some { symbols := [symbol] } := by
  have hmarks : ∀ c ∈ "([{)]};".toList, isNamePart c = false ∧ c ∉ " = 1".toList := by decide
  have hfeed := name.value_not_mem (c := '\n') (by decide) (by decide)
  have hstatement : statement ((name.text ++ " = 1".toList) ++ ';' :: rest) =
      name.text ++ " = 1".toList :=
    statement_of_part (fun c hc => ⟨fun hmem =>
      name.value_not_mem (hmarks c hmem).1 (hmarks c hmem).2 hc, fun heq => hfeed (heq ▸ hc)⟩) _
  have hsplit : Text.splitTopLevel (name.text ++ " = 1".toList) ',' =
      [name.text ++ " = 1".toList] :=
    Text.split_top_level_whole (name.value_not_mem (by decide) (by decide))
  have hdeclarator := declarator_of_name (decide (found.text? line 2 = some "const".toList)) name
    (by simpa only [decide_eq_true_eq] using hsymbol)
  rw [variableLine?]
  simp only [hrest, hmodifiers, hstatement, hsplit, Text.withOffsets, Option.bind_eq_bind,
    Option.bind_some, List.mapM_cons, List.mapM_nil, hdeclarator]
  rfl

/-- The line of a variable tells its entry. -/
theorem variable_tells (path : Path) (habove : AreRows above) (indent : Nat) (exported : Bool)
    (hkeyword : keyword = "const" ∨ keyword = "let") (name : Name) (below : List Text)
    (container : Option String) :
    Tells (variableLine? (Source.ofRows path
        (above ++ rowOf indent (words exported keyword) name " = 1;".toList :: below))
        (rowOf indent (words exported keyword) name " = 1;".toList) (byteLength (ended above))
        container ⟨0, indent + byteLength (words exported keyword),
          [keywordSpot indent exported keyword, leadSpot indent exported]⟩)
      [⟨name.word, if keyword = "const" then .constant else .variableDef, container,
        above.length + 1, above.length + 1, leadModifiers exported⟩] none := by
  have hword : keyword ∈ declarationWords := by rcases hkeyword with rfl | rfl <;> decide
  have hcontent : join ['\n']
      (above ++ rowOf indent (words exported keyword) name " = 1;".toList :: below) =
        ended above ++ (((indentation indent ++ words exported keyword) ++
          (name.text ++ " = 1".toList)) ++ ';' :: continued below) := by
    have htail : " = 1;".toList = " = 1".toList ++ [';'] := rfl
    rw [Text.join_rows, htail]
    simp only [rowOf, List.append_assoc, List.cons_append, List.nil_append]
  have hlength : byteLength (ended above) + (indent + byteLength (words exported keyword)) =
      byteLength (ended above ++ (indentation indent ++ words exported keyword)) := by
    rw [Text.byte_length_append, Text.byte_length_append, byte_length_indentation]
  have hline : Text.lineOfOffset (join ['\n']
      (above ++ rowOf indent (words exported keyword) name " = 1;".toList :: below))
      (byteLength (ended above) + (indent + byteLength (words exported keyword)) +
        byteLength (name.text ++ " = 1".toList)) = above.length + 1 := by
    have hpart : '\n' ∉ (indentation indent ++ words exported keyword) ++
        (name.text ++ " = 1".toList) := fun hmem =>
      (List.mem_append.mp hmem).elim (front_no_feed indent exported hword)
        (name.value_not_mem (by decide) (by decide))
    have hrow := Text.line_of_row habove hpart (';' :: continued below)
    rwa [← hcontent, Text.byte_length_append _ (name.text ++ _),
      Text.byte_length_append (indentation indent), byte_length_indentation, ← Nat.add_assoc] at hrow
  have hconst : Match.text? ⟨0, indent + byteLength (words exported keyword),
      [keywordSpot indent exported keyword, leadSpot indent exported]⟩
      (rowOf indent (words exported keyword) name " = 1;".toList) 2 = some keyword.toList := by
    rw [row_at_keyword]
    exact text_of_group rfl
  have hkind : (if some keyword.toList = some "const".toList then SymbolKind.constant
      else .variableDef) = if keyword = "const" then .constant else .variableDef := by
    rcases hkeyword with rfl | rfl <;> rfl
  obtain ⟨symbol, hsymbol, hentry⟩ := symbol_of_row path habove hword indent exported name
    " = 1;".toList below (if keyword = "const" then .constant else .variableDef)
    (Nat.le_refl ((some (above.length + 1)).getD (above.length + 1))) container
  rw [← hkind, ← hconst, ← hline] at hsymbol
  have hrest : Text.dropBytes? (join ['\n']
      (above ++ rowOf indent (words exported keyword) name " = 1;".toList :: below))
      (byteLength (ended above) + (indent + byteLength (words exported keyword))) =
        some ((name.text ++ " = 1".toList) ++ ';' :: continued below) := by
    refine Text.drop_bytes_eq_some_iff.mpr ⟨_, ?_, hlength.symm⟩
    rw [hcontent]
    simp only [List.append_assoc]
  refine ⟨_, variable_line_of_name name (modifiers_of_lead rfl) hrest hsymbol, ?_, rfl, rfl⟩
  rw [List.map_singleton, hentry]
  rfl

/-- Where a line is no block, its pattern decides what it declares. -/
theorem statement_line_of_type {source : Source} {line : Text} {offset start stop : Nat}
    {modifiers : List Modifier} {symbol : Symbol}
    (hblock : Line.classLine.matchStart? line = none ∧ Line.interfaceLine.matchStart? line = none ∧
      Line.enumLine.matchStart? line = none ∧ Line.namespaceLine.matchStart? line = none)
    (hmatch : Line.typeLine.matchStart? line = some found)
    (hgroup : found.group? 2 = some (start, stop)) (htext : found.text? line 2 = some name.text)
    (hmodifiers : modifiersOf found line = modifiers)
    (hsymbol : symbolAt? source name.text .typeAlias (offset + start) none container modifiers =
      some symbol) :
    statementLine? source line offset depth container = some { symbols := [symbol] } := by
  obtain ⟨hclass, hinterface, henum, hnamespace⟩ := hblock
  rw [statementLine?]
  simp only [hclass, hinterface, henum, hnamespace, hmatch, hgroup, htext, hmodifiers, hsymbol,
    Option.bind_eq_bind, Option.bind_some, Option.pure_def]

/-- A line that declares a function adds its symbol. -/
theorem statement_line_of_function {source : Source} {line : Text} {offset start stop endLine : Nat}
    {modifiers : List Modifier} {symbol : Symbol}
    (hblock : Line.classLine.matchStart? line = none ∧ Line.interfaceLine.matchStart? line = none ∧
      Line.enumLine.matchStart? line = none ∧ Line.namespaceLine.matchStart? line = none)
    (htype : Line.typeLine.matchStart? line = none)
    (hmatch : Line.functionLine.matchStart? line = some found)
    (hgroup : found.group? 2 = some (start, stop)) (htext : found.text? line 2 = some name.text)
    (hmodifiers : modifiersOf found line = modifiers)
    (hend : callableEndLine? source.masked (offset + start) = some endLine)
    (hsymbol : symbolAt? source name.text .function (offset + start) (some endLine) container
      modifiers = some symbol) :
    statementLine? source line offset depth container = some { symbols := [symbol] } := by
  obtain ⟨hclass, hinterface, henum, hnamespace⟩ := hblock
  rw [statementLine?]
  simp only [hclass, hinterface, henum, hnamespace, htype, hmatch, functionLine?, hgroup, htext,
    hmodifiers, hend, hsymbol, Option.bind_eq_bind, Option.bind_some, Option.pure_def]

/-- A line that declares variables adds theirs. -/
theorem statement_line_of_variable {source : Source} {line : Text} {offset : Nat}
    (hblock : Line.classLine.matchStart? line = none ∧ Line.interfaceLine.matchStart? line = none ∧
      Line.enumLine.matchStart? line = none ∧ Line.namespaceLine.matchStart? line = none)
    (htype : Line.typeLine.matchStart? line = none)
    (hfunction : Line.functionLine.matchStart? line = none)
    (hmatch : Line.variableLine.matchStart? line = some found) :
    statementLine? source line offset depth container =
      variableLine? source line offset container found := by
  obtain ⟨hclass, hinterface, henum, hnamespace⟩ := hblock
  rw [statementLine?]
  simp only [hclass, hinterface, henum, hnamespace, htype, hfunction, hmatch]

/-- The line of a declaration without a body tells its entry. -/
theorem statement_tells (path : Path) (habove : AreRows above) (indent : Nat) (exported : Bool)
    (form : Statement) (name : Name) (below : List Text) (depth : Int) (container : Option String) :
    Tells (statementLine? (Source.ofRows path
        (above ++ rowOf indent (words exported form.keyword) name form.tail :: below))
        (rowOf indent (words exported form.keyword) name form.tail) (byteLength (ended above)) depth
        container)
      [⟨name.word, form.symbolKind, container, above.length + 1, above.length + 1,
        leadModifiers exported⟩] none := by
  have hkeyword := form.keyword_mem
  have hblock := form.no_block indent exported name
  cases form with
  | function =>
      obtain ⟨stop, hmatch⟩ := function_matches indent exported name
      have hend : above.length + 1 ≤ (some (above.length + 1)).getD (above.length + 1) :=
        Nat.le_refl _
      obtain ⟨symbol, hsymbol, hentry⟩ := symbol_of_row path habove hkeyword indent exported name
        Statement.function.tail below .function hend container
      have hcallable := callable_end_of_row habove (front_no_feed indent exported hkeyword)
        name.is_plain_word below
      rw [Text.byte_length_append, byte_length_indentation, List.append_assoc] at hcallable
      exact ⟨_, statement_line_of_function hblock (type_opens.unmatched (by decide)) hmatch
        (group_of_name ..) (text_of_name ..) (modifiers_of_lead rfl) hcallable hsymbol,
        by rw [List.map_singleton, hentry]; rfl, rfl, rfl⟩
  | typeAlias =>
      obtain ⟨stop, hmatch⟩ := type_matches indent exported name
      have hend : above.length + 1 ≤ (none : Option Nat).getD (above.length + 1) := Nat.le_refl _
      obtain ⟨symbol, hsymbol, hentry⟩ := symbol_of_row path habove hkeyword indent exported name
        Statement.typeAlias.tail below .typeAlias hend container
      exact ⟨_, statement_line_of_type hblock hmatch (group_of_name ..) (text_of_name ..)
        (modifiers_of_lead rfl) hsymbol, by rw [List.map_singleton, hentry]; rfl, rfl, rfl⟩
  | constant =>
      have hmatch := variable_matches indent exported name Statement.constant.tail (Or.inl rfl)
      rw [statement_line_of_variable hblock (type_opens.unmatched (by decide))
        (function_opens.unmatched (by decide)) hmatch]
      exact variable_tells path habove indent exported (Or.inl rfl) name below container
  | variableDef =>
      have hmatch := variable_matches indent exported name Statement.variableDef.tail (Or.inr rfl)
      rw [statement_line_of_variable hblock (type_opens.unmatched (by decide))
        (function_opens.unmatched (by decide)) hmatch]
      exact variable_tells path habove indent exported (Or.inr rfl) name below container

end Statements

end CodeAtlas.Declaration
