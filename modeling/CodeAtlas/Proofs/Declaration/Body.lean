import CodeAtlas.Proofs.Declaration.Tells

/-!
# What the lines of a body tell

The line of a member tells its entry (`member_tells`). The line that closes a body (`closing_tells`) and
an empty line outside of all bodies (`empty_tells`) tell nothing, since no pattern matches them.
-/

namespace CodeAtlas.Declaration

open Pattern (Match match_start_of_fails)
open Text (byteLength isNamePart IsFlat AreRows ended)

section Members

variable {path : Path} {above below : List Text} {indent : Nat} {name : Name} {tail : Text}
  {depth : Int} {found : Match}

/-- A symbol is made where a word stands behind the white space of a line. -/
theorem symbol_of_word (path : Path) (habove : AreRows above) (indent : Nat) (word tail : Text)
    (below : List Text) (kind : SymbolKind) {endLine : Option Nat}
    (hend : endLine.getD (above.length + 1) = above.length + 1) (container : Option String) :
    ∃ symbol, symbolAt? (Source.ofRows path
        (above ++ (indentation indent ++ (word ++ tail)) :: below)) word kind
        (byteLength (ended above) + indent) endLine container [] = some symbol ∧
      symbol.entry =
        ⟨String.ofList word, kind, container, above.length + 1, above.length + 1, []⟩ := by
  have hsymbol := symbol_at_row path habove (not_mem_indentation indent (by decide))
    (word ++ tail) below word kind (Nat.le_of_eq hend.symm) container []
  rwa [byte_length_indentation, hend] at hsymbol

/-- The symbol of a member is made where its name stands. -/
theorem symbol_of_member (path : Path) (habove : AreRows above) (indent : Nat) (name : Name)
    (tail : Text) (below : List Text) (kind : SymbolKind) {endLine : Option Nat}
    (hend : endLine.getD (above.length + 1) = above.length + 1) (container : Option String) :
    ∃ symbol, symbolAt? (Source.ofRows path (above ++ rowOf indent [] name tail :: below)) name.text
        kind (byteLength (ended above) + indent) endLine container [] = some symbol ∧
      symbol.entry = ⟨name.word, kind, container, above.length + 1, above.length + 1, []⟩ :=
  symbol_of_word path habove indent name.text tail below kind hend container

/-- A line that declares a method adds its symbol. -/
theorem method_line_of_word {source : Source} {line word : Text} {offset start stop endLine : Nat}
    {className : String} {symbol : Symbol} (hgroup : found.group? 2 = some (start, stop))
    (htext : found.text? line 2 = some word)
    (hcontrol : String.ofList word ∉ Language.controlKeywords)
    (hmodifier : String.ofList word ∉ Language.memberModifiers)
    (hconstructor : String.ofList word ≠ "constructor") (hmodifiers : modifiersOf found line = [])
    (hend : callableEndLine? source.masked (offset + start) = some endLine)
    (hsymbol : symbolAt? source word .method (offset + start) (some endLine) (some className) [] =
      some symbol) :
    methodLine? source line offset className found = some { symbols := [symbol] } := by
  have hkind : SymbolKind.method ≠ .constructor := by decide
  rw [← List.contains_iff_mem, Bool.not_eq_true] at hcontrol hmodifier
  rw [methodLine?, hgroup]
  simp only [htext, Language.isControlKeyword, hcontrol, hmodifier, hconstructor, hmodifiers, hend,
    hsymbol, hkind, Bool.or_false, Bool.false_eq_true, if_false, Option.bind_eq_bind,
    Option.bind_some, Option.pure_def]

/-- A line whose name may lead a member adds nothing. -/
theorem method_line_of_modifier {source : Source} {line word : Text} {offset start stop : Nat}
    {className : String} (hgroup : found.group? 2 = some (start, stop))
    (htext : found.text? line 2 = some word)
    (hmodifier : String.ofList word ∈ Language.memberModifiers) :
    methodLine? source line offset className found = some {} := by
  rw [← List.contains_iff_mem] at hmodifier
  rw [methodLine?, hgroup]
  simp only [htext, hmodifier, Bool.or_true, if_true, Option.bind_eq_bind, Option.bind_some,
    Option.pure_def]

/-- The line of a method tells its entry, unless its name is a word that may lead a member: then it
tells nothing. -/
theorem method_tells (path : Path) (habove : AreRows above) (indent : Nat) {word : Text}
    (hword : IsPlainWord word) (hcontrol : String.ofList word ∉ Language.controlKeywords)
    (hconstructor : String.ofList word ≠ "constructor") (below : List Text) (className : String) :
    Tells (classBodyLine? (Source.ofRows path
        (above ++ (indentation indent ++ (word ++ Member.method.tail)) :: below))
        (indentation indent ++ (word ++ Member.method.tail)) (byteLength (ended above)) className)
      (if String.ofList word ∈ Language.memberModifiers then []
        else [⟨String.ofList word, .method, some className, above.length + 1, above.length + 1, []⟩])
      none := by
  obtain ⟨stop, hmatch⟩ := hword.method_matches indent
  have hgroup : Match.group? ⟨0, stop, [(2, indent, indent + byteLength word), leadSpot indent false]⟩
      2 = some (indent + byteLength [], indent + byteLength [] + byteLength word) := rfl
  have htext : Match.text? _ (indentation indent ++ ([] ++ (word ++ Member.method.tail))) 2 = some word :=
    text_of_group hgroup
  rw [classBodyLine?, hmatch]
  by_cases hmodifier : String.ofList word ∈ Language.memberModifiers
  · rw [if_pos hmodifier]
    exact ⟨{}, method_line_of_modifier hgroup htext hmodifier, rfl, rfl, rfl⟩
  · have hend : (some (above.length + 1)).getD (above.length + 1) = above.length + 1 := rfl
    obtain ⟨symbol, hsymbol, hentry⟩ := symbol_of_word path habove indent word Member.method.tail
      below .method hend (some className)
    have hcallable := callable_end_of_row habove (not_mem_indentation indent (by decide)) hword below
    rw [byte_length_indentation] at hcallable
    rw [if_neg hmodifier]
    exact ⟨_, method_line_of_word hgroup htext hcontrol hmodifier hconstructor
      (modifiers_of_member rfl) hcallable hsymbol, by rw [List.map_singleton, hentry], rfl, rfl⟩

/-- A line that declares a property adds its symbol. -/
theorem property_line_of_name {source : Source} {line : Text} {offset start stop : Nat}
    {className : String} {symbol : Symbol} (hgroup : found.group? 2 = some (start, stop))
    (htext : found.text? line 2 = some name.text) (hmodifiers : modifiersOf found line = [])
    (hrest : Text.dropBytes? line stop = some " = 1;".toList)
    (hsymbol : symbolAt? source name.text .property (offset + start) none (some className) [] =
      some symbol) :
    propertyLine? source line offset className found = some { symbols := [symbol] } := by
  have hmodifier : Language.memberModifiers.contains (String.ofList name.text) = false := by
    rw [← Bool.not_eq_true, List.contains_iff_mem]
    exact name.not_modifier
  have hspan : " = 1;".toList.span (· != '=') = ([' '], '=' :: " 1;".toList) := by decide
  have hfunction : startsFunction? (some " 1;".toList) = some false := by decide
  have hprivate : name.text.head? ≠ some '#' := by
    intro hhead
    exact name.not_mem (by decide) (List.mem_of_head? hhead)
  have hkind : SymbolKind.property ≠ .method := by decide
  rw [propertyLine?, hgroup]
  simp only [htext, hmodifier, hmodifiers, hrest, Option.getD_some, hspan, hfunction, hprivate, hkind,
    hsymbol, Bool.false_eq_true, if_false, Option.bind_eq_bind, Option.bind_some, Option.pure_def]

/-- A line that declares a member of an interface adds its symbol. -/
theorem interface_line_of_name {source : Source} {line : Text} {offset start stop : Nat}
    {interfaceName : String} {symbol : Symbol} {mark : Char}
    (hmatch : Line.interfaceMemberLine.matchStart? line = some found)
    (hgroup : found.group? 1 = some (start, stop)) (htext : found.text? line 1 = some name.text)
    (hmark : found.text? line 2 = some [mark])
    (hsymbol : symbolAt? source name.text (if mark = ':' then .property else .method) (offset + start)
      none (some interfaceName) [] = some symbol) :
    interfaceBodyLine? source line offset interfaceName = some { symbols := [symbol] } := by
  have hcontrol : Language.isControlKeyword (String.ofList name.text) = false := by
    rw [Language.isControlKeyword, ← Bool.not_eq_true, List.contains_iff_mem]
    exact name.not_control
  rw [interfaceBodyLine?, hmatch]
  simp only [hgroup, htext, hmark, hcontrol, Bool.and_false, Bool.false_eq_true, if_false,
    Option.some.injEq, List.cons.injEq, and_true, hsymbol, Option.bind_eq_bind,
    Option.bind_some, Option.pure_def]

/-- A line that names a constant of an enumeration adds its symbol. -/
theorem enum_line_of_name {source : Source} {offset : Nat} {enumName : String} {symbol : Symbol}
    (indent : Nat) (name : Name)
    (hsymbol : symbolAt? source name.text .enumMember (offset + indent) none (some enumName) [] =
      some symbol) :
    enumBodyLine? source (rowOf indent [] name [',']) offset enumName =
      some { symbols := [symbol] } := by
  have hmarks : ∀ c ∈ "([{<)]}>".toList, isNamePart c = false ∧ c ≠ ' ' := by decide
  have hflat : ∀ c ∈ indentation indent ++ name.text, IsFlat c := by
    refine List.forall_mem_append.mpr ⟨fun c hc hmem => ?_, fun c hc hmem => ?_⟩
    · exact (hmarks c hmem).2 (List.eq_of_mem_replicate hc)
    · exact name.not_mem (hmarks c hmem).1 hc
  have hcomma : ',' ∉ indentation indent ++ name.text := by
    intro hmem
    rcases List.mem_append.mp hmem with hspace | hname
    · exact not_mem_indentation indent (by decide) hspace
    · exact name.not_mem (by decide) hname
  have hsplit : Text.splitTopLevel (rowOf indent [] name [',']) ',' =
      [indentation indent ++ name.text, []] := by
    have hrow : rowOf indent [] name [','] = (indentation indent ++ name.text) ++ ',' :: [] := by
      simp only [rowOf, List.nil_append, List.append_assoc]
    rw [hrow, Text.split_top_level_two hflat hcomma (by decide) (by decide)]
  have htrim : Text.trimStart (indentation indent ++ name.text) = name.text := by
    have hvisible := head_visible (name.visible [])
    rw [List.append_nil] at hvisible
    rw [Text.trimStart, Text.drop_while_append (is_blank_indentation indent),
      Text.drop_while_of_head hvisible]
  have hlead : byteLength (indentation indent ++ name.text) - byteLength name.text = indent := by
    rw [Text.byte_length_append, byte_length_indentation, Nat.add_sub_cancel]
  have htake : name.text.takeWhile Text.isIdentChar = name.text := by
    have hwhole : (name.text ++ []).takeWhile Text.isIdentChar = name.text :=
      name.take_while (by simp)
    rwa [List.append_nil] at hwhole
  have hdrop : name.text.dropWhile Text.isIdentChar = [] :=
    List.dropWhile_eq_nil_iff.mpr fun c hc => Text.is_ident_char_of_name_part (name.chars c hc)
  have hstart : name.text.head?.any Text.isIdentStart = true := by
    obtain ⟨c, tail, htext, hpart, hdigit, -⟩ := name.exists_head
    rw [htext]
    exact Text.is_ident_start_of_name_part hpart hdigit
  have hmember : enumMember? source enumName offset (indentation indent ++ name.text) =
      some (some symbol) := by
    have hnil : Text.trimStart [] = [] := rfl
    rw [enumMember?]
    simp only [htrim, hlead, htake, hdrop, hstart, List.isEmpty_eq_false_iff.mpr name.ne_nil,
      hnil, List.isEmpty_nil, Bool.not_true, Bool.or_self, Bool.true_or,
      Bool.false_eq_true, if_false, hsymbol, Option.bind_eq_bind, Option.bind_some, Option.pure_def]
  have hempty : ∀ at', enumMember? source enumName at' [] = some none := fun _ => rfl
  rw [enumBodyLine?, hsplit]
  simp only [Text.withOffsets, List.mapM_cons, List.mapM_nil, hmember, hempty, Option.bind_eq_bind,
    Option.bind_some, Option.pure_def]
  rfl

/-- What follows the name of a line. -/
theorem drop_after_name (indent : Nat) (front : Text) (name : Name) (tail : Text) :
    Text.dropBytes? (rowOf indent front name tail)
      (indent + byteLength front + byteLength name.text) = some tail := by
  refine Text.drop_bytes_eq_some_iff.mpr ⟨indentation indent ++ (front ++ name.text), ?_, ?_⟩
  · simp only [rowOf, List.append_assoc]
  · rw [Text.byte_length_append, Text.byte_length_append, byte_length_indentation, Nat.add_assoc]

/-- The line of a member of an interface tells its entry. -/
theorem interface_member_tells (path : Path) (habove : AreRows above) (indent : Nat) (name : Name)
    {mark : Char} (hmark : mark = ':' ∨ mark = '(') (tail : Text) (below : List Text)
    (interfaceName : String) :
    Tells (interfaceBodyLine? (Source.ofRows path
        (above ++ rowOf indent [] name (mark :: tail) :: below)) (rowOf indent [] name (mark :: tail))
        (byteLength (ended above)) interfaceName)
      [⟨name.word, if mark = ':' then .property else .method, some interfaceName, above.length + 1,
        above.length + 1, []⟩] none := by
  obtain ⟨stop, hmatch⟩ := interface_member_matches indent name tail hmark
  have hend : (none : Option Nat).getD (above.length + 1) = above.length + 1 := rfl
  obtain ⟨symbol, hsymbol, hentry⟩ := symbol_of_member path habove indent name (mark :: tail) below
    (if mark = ':' then .property else .method) hend (some interfaceName)
  have hsize : byteLength [mark] = 1 := by rcases hmark with rfl | rfl <;> rfl
  have hgroup : Match.group? ⟨0, stop, [(2, indent + byteLength name.text,
      indent + byteLength name.text + 1), nameSpot 1 indent [] name]⟩ 2 =
        some (indent + byteLength name.text, indent + byteLength name.text + byteLength [mark]) := by
    rw [hsize]
    rfl
  have hrow : rowOf indent [] name (mark :: tail) =
      indentation indent ++ (name.text ++ ([mark] ++ tail)) := rfl
  refine ⟨_, interface_line_of_name hmatch rfl (text_of_group rfl) ?_ hsymbol,
    by rw [List.map_singleton, hentry], rfl, rfl⟩
  rw [hrow]
  exact text_of_group hgroup

/-- The line of a member tells its entry. -/
theorem member_tells (path : Path) (habove : AreRows above) (indent : Nat) {frame : Frame}
    (form : Member frame.kind) (name : Name) (below : List Text) (depth : Int) :
    Tells (contribution? (Source.ofRows path
        (above ++ rowOf indent [] name form.tail :: below)) (rowOf indent [] name form.tail)
        (byteLength (ended above)) depth (some frame))
      [⟨name.word, form.symbolKind, some frame.name, above.length + 1, above.length + 1, []⟩] none := by
  have hmodifiers : ∀ {stop : Nat}, modifiersOf ⟨0, stop,
      [nameSpot 2 indent [] name, leadSpot indent false]⟩ (rowOf indent [] name form.tail) = [] :=
    modifiers_of_member rfl
  have hnone : (none : Option Nat).getD (above.length + 1) = above.length + 1 := rfl
  obtain ⟨frameName, kind, bodyDepth, endLine⟩ := frame
  cases form with
  | method =>
      have htells := method_tells path habove indent name.is_plain_word name.not_control
        name.not_constructor below frameName
      rwa [if_neg name.not_modifier] at htells
  | field =>
      obtain ⟨stop, hmatch⟩ := field_matches indent name
      obtain ⟨symbol, hsymbol, hentry⟩ := symbol_of_member path habove indent name Member.field.tail
        below .property hnone (some frameName)
      have hopen : '(' ∉ rowOf indent [] name Member.field.tail :=
        not_mem_row (by decide) (by decide) (by decide) (by decide)
      refine ⟨{ symbols := [symbol] }, ?_, by rw [List.map_singleton, hentry]; rfl, rfl, rfl⟩
      rw [contribution?, classBodyLine?, match_start_of_fails (method_fails hopen), hmatch]
      exact property_line_of_name (group_of_name ..) (text_of_name ..) hmodifiers
        (drop_after_name indent [] name _) hsymbol
  | property => exact interface_member_tells path habove indent name (Or.inl rfl) _ below frameName
  | signature => exact interface_member_tells path habove indent name (Or.inr rfl) _ below frameName
  | constant =>
      obtain ⟨symbol, hsymbol, hentry⟩ := symbol_of_member path habove indent name [',']
        below .enumMember hnone (some frameName)
      exact ⟨_, enum_line_of_name indent name hsymbol, by rw [List.map_singleton, hentry]; rfl, rfl,
        rfl⟩

/-- A line that no pattern of declarations matches declares nothing by itself. -/
theorem statement_line_of_none {source : Source} {line : Text} {offset : Nat} {container : Option String}
    (h : ∀ {listed heads : List String} {second : Pattern}, Opens listed heads second →
      Pattern.Fails (.seq (Line.modified listed) second) line) :
    statementLine? source line offset depth container =
      if container.isSome then some {} else some (exportLine line) := by
  have hclass : Line.classLine.matchStart? line = none := match_start_of_fails (h class_opens)
  have hinterface : Line.interfaceLine.matchStart? line = none :=
    match_start_of_fails (h interface_opens)
  have henum : Line.enumLine.matchStart? line = none := match_start_of_fails (h enum_opens)
  have hnamespace : Line.namespaceLine.matchStart? line = none :=
    match_start_of_fails (h namespace_opens)
  have htype : Line.typeLine.matchStart? line = none := match_start_of_fails (h type_opens)
  have hfunction : Line.functionLine.matchStart? line = none := match_start_of_fails (h function_opens)
  have hvariable : Line.variableLine.matchStart? line = none := match_start_of_fails (h variable_opens)
  rw [statementLine?]
  simp only [hclass, hinterface, henum, hnamespace, htype, hfunction, hvariable, Option.pure_def]

/-- The line that closes a body tells nothing. -/
theorem closing_tells (source : Source) (indent offset : Nat) (depth : Int) (frame : Frame) :
    contribution? source (closingRow indent) offset depth (some frame) = some {} := by
  obtain ⟨frameName, kind, bodyDepth, endLine⟩ := frame
  obtain ⟨hmethod, hproperty, hinterface⟩ := member_fails_closing indent
  cases kind with
  | ofClass =>
      simp only [contribution?, classBodyLine?, match_start_of_fails hmethod,
        match_start_of_fails hproperty]
  | ofInterface =>
      simp only [contribution?, interfaceBodyLine?, match_start_of_fails hinterface,
        Option.pure_def]
  | ofEnum =>
      have hcomma : ',' ∉ closingRow indent := by
        simp only [closingRow, List.mem_append, not_or]
        exact ⟨not_mem_indentation indent (by decide), by decide⟩
      have htrim : Text.trimStart (closingRow indent) = ['}'] := by
        rw [closingRow, Text.trimStart, Text.drop_while_append (is_blank_indentation indent)]
        rfl
      have hmember : enumMember? source frameName offset (closingRow indent) = some none := by
        rw [enumMember?, htrim]
        rfl
      rw [contribution?]
      simp only [enumBodyLine?, Text.split_top_level_whole hcomma, Text.withOffsets, List.mapM_cons,
        List.mapM_nil, hmember, Option.bind_eq_bind, Option.bind_some, Option.pure_def]
      rfl
  | ofNamespace => exact statement_line_of_none fun hopens => hopens.fails_closing

/-- An empty line outside of every body tells nothing. -/
theorem empty_tells (source : Source) (offset : Nat) (depth : Int) :
    contribution? source [] offset depth none = some {} := by
  have hlist : Line.exportListLine.matchStart? [] = none := match_start_of_fails (Pattern.fails_nil rfl)
  have hdefault : Line.exportDefaultLine.matchStart? [] = none :=
    match_start_of_fails (Pattern.fails_nil rfl)
  rw [contribution?, statement_line_of_none fun hopens => hopens.fails_empty, exportLine, hlist,
    hdefault]
  rfl

end Members

end CodeAtlas.Declaration
