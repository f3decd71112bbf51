import CodeAtlas.Proofs.Declaration.Sought
import CodeAtlas.Proofs.Module.Unquoted

/-!
# What a scan finds in a printed module

Exported declarations are found where a printed module has them (`declaration_skims`), default exports
nowhere (`default_skims`). The name of a type alias that ends with `export` makes the alias an export by
assignment, and such a name of another declaration makes its body an export list; without such names
there is no export by assignment (`assign_skims`), and each export list is the empty body of a declaration
(`list_skims`).
-/

namespace CodeAtlas.Declaration

open Pattern (Match Passes Fails LeadsNowhere Led Blocks fails_of_may_start fails_blanks
  passes_keyword passes_char passes_chars passes_no_round literal blanks identifier)
open Text (byteLength isWhiteSpace isNameChar isNamePart IsBlank IsUnquoted head_of_cons)
open CodeAtlas.Module (export_is_name)

/-- Nothing is found. -/
def Never (_ : Text) (_ : Match) (_ : List String) : Prop :=
  False

/-- Nothing is offered. -/
def noName (_ : Name) : List String :=
  []

section Blocks

variable {pattern : Pattern} {follow : Char → Bool} {gives : Text → Match → List String → Prop}
  {front after tail : Text} {keyword : String}

/-- A led pattern has no match at the end of a name if what follows blocks it. -/
theorem dead_of_blocks (hled : Led ["export".toList] follow pattern)
    (hmark : ∀ c, after.head? = some c → isNameChar c = false) (hblocks : Blocks follow after) :
    Dead pattern after := by
  intro offset
  obtain ⟨d, more, rfl⟩ : ∃ d more, after = d :: more := by
    obtain ⟨blank, c, rest, rfl, -⟩ := hblocks
    exact List.exists_cons_of_ne_nil (by simp)
  have hmiss : Pattern.Misses pattern (some '$') ("export".toList ++ [d]) (more ++ []) :=
    hled.misses_free_word export_is_name (hmark d rfl) (Or.inr hblocks)
  have hplace := hmiss offset [] 'e' ("xport".toList ++ [d]) rfl
  rw [List.append_nil, List.append_assoc] at hplace
  exact hplace

/-- A visible character behind a space blocks what may not start with it. -/
theorem blocks_of_space (c : Char) (rest : Text) (hc : isWhiteSpace c = false)
    (hfollow : follow c = false) : Blocks follow (' ' :: c :: rest) :=
  ⟨[' '], c, rest, rfl, by simp [IsBlank, isWhiteSpace], hc, hfollow⟩

/-- A visible character blocks what may not start with it. -/
theorem blocks_of_visible (c : Char) (rest : Text) (hc : isWhiteSpace c = false)
    (hfollow : follow c = false) : Blocks follow (c :: rest) :=
  ⟨[], c, rest, rfl, nofun, hc, hfollow⟩

/-- A value blocks a match that does not start with an equals sign. -/
theorem value_dead (hled : Led ["export".toList] follow pattern) (hequals : follow '=' = false)
    (below : Text) : Dead pattern (" = 1;".toList ++ below) :=
  dead_of_blocks hled (head_of_cons (by decide) _) (blocks_of_space '=' _ (by decide) hequals)

/-- What follows the name of a member blocks a match that starts with none of its marks. -/
theorem Member.dead {kind : FrameKind} (form : Member kind) (hled : Led ["export".toList] follow pattern)
    (hmarks : ∀ c ∈ ['(', ':', ','], follow c = false)
    (hvalue : ∀ below, Dead pattern (" = 1;".toList ++ below)) (below : Text) :
    Dead pattern (form.tail ++ below) := by
  have hblocked : ∀ c tail, c ∈ ['(', ':', ','] → isWhiteSpace c = false → isNameChar c = false →
      Dead pattern (c :: tail) := fun c tail hc hwhite hname =>
    dead_of_blocks hled (head_of_cons hname _) (blocks_of_visible c tail hwhite (hmarks c hc))
  cases form with
  | method | signature => exact hblocked '(' _ (by decide) (by decide) (by decide)
  | property => exact hblocked ':' _ (by decide) (by decide) (by decide)
  | constant => exact hblocked ',' _ (by decide) (by decide) (by decide)
  | field => exact hvalue below

/-- What follows the name of a declaration on one line blocks a match that starts with no parenthesis
and with no value. -/
theorem Statement.dead (form : Statement) (hled : Led ["export".toList] follow pattern)
    (hopen : follow '(' = false) (hvalue : ∀ below, Dead pattern (" = 1;".toList ++ below))
    (halias : form ≠ .typeAlias) (below : Text) : Dead pattern (form.tail ++ below) := by
  cases form with
  | function =>
      exact dead_of_blocks hled (head_of_cons (by decide) _) (blocks_of_visible '(' _ (by decide) hopen)
  | typeAlias => exact absurd rfl halias
  | constant | variableDef => exact hvalue below

/-- What follows the name of a type alias blocks a match that does not start with an equals sign. -/
theorem alias_dead (hled : Led ["export".toList] follow pattern) (hequals : follow '=' = false)
    (below : Text) : Dead pattern (Statement.typeAlias.tail ++ below) :=
  dead_of_blocks hled (head_of_cons (by decide) _) (blocks_of_space '=' _ (by decide) hequals)

/-- What follows the name of a declaration with a body blocks a match that does not start with a
brace. -/
theorem block_dead (hled : Led ["export".toList] follow pattern) (hbrace : follow '{' = false)
    (below : Text) : Dead pattern ([' ', '{'] ++ below) :=
  dead_of_blocks hled (head_of_cons (by decide) _) (blocks_of_space '{' _ (by decide) hbrace)

/-- An empty body is passed over with the name in front of it if that gives way to no match. -/
theorem Name.sought_empty (name : Name) (hled : Led ["export".toList] follow pattern)
    (hdollar : follow '$' = false) (hbrace : follow '{' = false) (indent : Nat) (below : Text) :
    Sought pattern gives front (name.text ++ ([' ', '{'] ++ '\n' :: closingRow indent)) below [] := by
  refine name.sought hled hdollar (head_of_cons (by decide) _) ?_ fun _ => ?_
  · simp only [closingRow, List.mem_cons, List.mem_append, not_or]
    exact ⟨⟨by decide, by decide, List.not_mem_nil⟩, by decide, not_mem_indentation indent (by decide),
      by decide, List.not_mem_nil⟩
  · rw [List.append_assoc]
    exact block_dead hled hbrace _

/-- The words in front of a name are passed over if there is no match at `export`. -/
theorem sought_words_of_blocks (hled : Led ["export".toList] follow pattern)
    (hkeyword : keyword ∈ declarationWords) (name : Name) (rest : Text)
    (hexport : Pattern.Misses pattern front.getLast? ("export".toList ++ [' '])
      ((keyword.toList ++ [' ']) ++ (name.text ++ rest))) :
    Sought pattern gives front (words true keyword) (name.text ++ rest) [] :=
  .of_misses (hexport.append (misses_keyword hled hkeyword _ _))

/-- There is no match at `export` in front of a keyword that may not follow it. -/
theorem misses_export_keyword (hled : Led ["export".toList] follow pattern)
    (hkeyword : keyword ∈ declarationWords)
    (hfollow : ∀ c, keyword.toList.head? = some c → follow c = false) (before : Option Char)
    (rest : Text) : Pattern.Misses pattern before ("export".toList ++ [' ']) (keyword.toList ++ rest) := by
  have hwords : ∀ word ∈ declarationWords, word.toList ≠ [] := by decide
  obtain ⟨c, more, htext⟩ := List.exists_cons_of_ne_nil (hwords keyword hkeyword)
  have hpart := declaration_words_part hkeyword c (by simp [htext])
  refine hled.misses_free_word export_is_name (by decide) (Or.inr ?_)
  rw [htext]
  exact blocks_of_space c more (Text.not_white_space_of_name_part hpart) (hfollow c (by simp [htext]))

/-- A search skims a printed module for what starts with none of its marks and no keyword. -/
theorem Skims.of_blocks (hled : Led ["export".toList] follow pattern)
    (hkeywords : ∀ word ∈ declarationWords, ∀ c ∈ word.toList.head?, follow c = false)
    (hmarks : ∀ c ∈ ['$', '(', ':', ',', '{'], follow c = false)
    (hvalue : ∀ below, Dead pattern (" = 1;".toList ++ below)) :
    Skims pattern follow gives noName where
  led := hled
  dollar := hmarks '$' (by decide)
  lead name below hshape _ := by
    refine sought_words_of_blocks hled hshape.keyword_mem name _ ?_
    rw [List.append_assoc]
    exact misses_export_keyword hled hshape.keyword_mem (hkeywords _ hshape.keyword_mem) _ _
  member form below := form.dead hled
    (fun c hc => hmarks c (List.mem_cons_of_mem '$' (List.mem_append_left ['{'] hc))) hvalue below
  statement form below halias := form.dead hled (hmarks '(' (by decide)) hvalue halias below
  empty name indent below _ :=
    name.sought_empty hled (hmarks '$' (by decide)) (hmarks '{' (by decide)) indent below

end Blocks

section Declarations

/-- A match of an exported declaration gives its name. -/
def GivesDeclared (code : Text) (found : Match) (names : List String) : Prop :=
  ∃ name, names = [name] ∧ Declares code found name

/-- A search for exported declarations skims a printed module. -/
theorem declaration_skims :
    Skims Module.Statement.exportDeclaration isNameChar GivesDeclared fun name => [name.word] :=
  have hled := Module.export_declaration_led
  have hvalue := value_dead hled (by decide)
  { led := hled
    dollar := by decide
    lead := fun name below hshape hfront => .of_passes (by simp [words, lead])
      (fun _ => declaration_passes hshape.keyword_mem name (hshape.ends_name below).1 hfront)
      ⟨name.word, rfl, declares_of_declared _ (hshape.declared name below)⟩
    member := fun form => form.dead hled (by decide) hvalue
    statement := fun form below halias => form.dead hled (by decide) hvalue halias below
    empty := fun name indent below _ => name.sought_empty hled (by decide) (by decide) indent below }

/-- A search for default exports skims a printed module. -/
theorem default_skims : Skims Module.Statement.exportDefault (· == 'd') Never noName :=
  .of_blocks Module.export_default_led (by decide) (by decide)
    (value_dead Module.export_default_led (by decide))

end Declarations

section Assign

/-- Two patterns fail where the second one fails behind the word that is the first. -/
theorem fails_after_literal {second : Pattern} {text : String} {rest : Text} (h : Fails second rest) :
    Fails (.seq (literal text) second) (text.toList ++ rest) := by
  refine LeadsNowhere.fails fun read after hread heq => ?_
  obtain rfl := hread.of_literal
  rwa [← List.append_cancel_left heq]

/-- A number is no name that is exported by assignment. -/
theorem assign_dead_value (below : Text) : Dead Module.Statement.exportAssign (" = 1;".toList ++ below) := by
  have hname : Fails (.seq blanks (.group 1 identifier)) ([' '] ++ ("1;".toList ++ below)) :=
    fails_blanks ⟨'1', _, rfl, by decide⟩ (by decide) rfl (fails_of_may_start (c := '1') rfl (by decide))
  have hequals : Fails (.seq blanks (.seq (literal "=") (.seq blanks (.group 1 identifier))))
      ([' '] ++ ("=".toList ++ ([' '] ++ ("1;".toList ++ below)))) :=
    fails_blanks ⟨'=', _, rfl, by decide⟩ (by decide) rfl (fails_after_literal hname)
  refine fun offset => Pattern.match_at_of_fails (LeadsNowhere.fails fun read after hread heq => ?_)
  obtain rfl := hread.of_word_boundary
  rw [← show _ = after from heq]
  exact fails_after_literal hequals

/-- A search for exports by assignment skims a printed module. -/
theorem assign_skims : Skims Module.Statement.exportAssign (· == '=') Never noName :=
  .of_blocks Module.export_assign_led (by decide) (by decide) assign_dead_value

end Assign

section List

variable {clause rest : Text}

/-- A match of an export list without items gives no name. -/
def GivesNothing (code : Text) (found : Match) (names : List String) : Prop :=
  names = [] ∧ Module.IsBare (Module.clauseOf code found)

/-- The text of an export list up to its items. -/
def listLead : Text :=
  "export".toList ++ [' ', '{']

/-- The text of an export list. -/
def listText (clause : Text) : Text :=
  listLead ++ (clause ++ ['}'])

/-- What an export list may have behind its braces. -/
def fromSpecifier : Pattern :=
  .sequence [blanks, literal "from", blanks, Module.Statement.specifier 2]

/-- A specifier has a quote. -/
theorem quote_of_from {read : Text} (h : Pattern.CanRead fromSpecifier read) :
    ∃ quote ∈ read, quote = '\'' ∨ quote = '"' := by
  obtain ⟨space, right, rfl, -, hright⟩ := h.of_seq
  obtain ⟨word, right, rfl, -, hright⟩ := hright.of_seq
  obtain ⟨gap, right, rfl, -, hright⟩ := hright.of_seq
  obtain ⟨opening, right, rfl, hopening, -⟩ := hright.of_seq
  obtain ⟨quote, hquote, rfl⟩ := hopening.of_char
  exact ⟨quote, by simp, Module.quote_cases hquote⟩

/-- Braces behind `export` are read as an export list if no quote follows. -/
theorem list_passes (before : Option Char) (offset : Nat)
    (hbefore : before.any Text.isWordChar = false) (hclause : '}' ∉ clause) (hrest : IsUnquoted rest) :
    Passes Module.Statement.exportList before offset (listText clause) rest
      [(1, offset + byteLength listLead, offset + byteLength listLead + byteLength clause)] := by
  have hspecifier : Fails fromSpecifier rest := by
    refine Pattern.fails_of_cannot_read fun read hread hprefix => ?_
    obtain ⟨quote, hmem, hquote⟩ := quote_of_from hread
    obtain ⟨later, rfl⟩ := hprefix
    exact hrest quote (List.mem_append_left later hmem) (hquote.imp_right Or.inl)
  have hbrace : ∀ c ∈ clause, (CharSet.complement (.one '}')).contains c = true := by
    intro c hc
    simp only [CharSet.contains, Bool.not_eq_true', decide_eq_false_iff_not]
    rintro rfl
    exact hclause hc
  have hclose : (CharSet.one '}').contains '}' = true := rfl
  have hgroup : ∀ before offset, Passes (.group 1 (.many (.char (.complement (.one '}'))))) before offset
      clause (['}'] ++ ([] ++ rest)) [(1, offset, offset + byteLength clause)] := fun before offset =>
    (passes_chars hbrace (Nat.zero_le _) (head_of_cons (by decide) _)).group
  have hopen : (CharSet.one '{').contains '{' = true := rfl
  refine Passes.after_boundary (Pattern.at_word_boundary hbefore rfl) ?_
  refine ((passes_keyword "export" (head_of_cons (by decide) _)).seq
    ((Pattern.passes_left_out rfl (by decide)).seq ((passes_char hopen).seq ((hgroup _ _).seq
      ((passes_char hclose).seq (passes_no_round hspecifier)))))).cast rfl rfl

/-- The clause of an export list stands between its braces. -/
theorem clause_of_list (front clause rest : Text) (stop : Nat) :
    Module.clauseOf (front ++ (listText clause ++ rest)) ⟨byteLength front, stop,
      [(1, byteLength front + byteLength listLead,
        byteLength front + byteLength listLead + byteLength clause)]⟩ = clause := by
  have htext : Match.text? ⟨byteLength front, stop, [(1, byteLength front + byteLength listLead,
      byteLength front + byteLength listLead + byteLength clause)]⟩
      (front ++ (listText clause ++ rest)) 1 = some clause := by
    refine Text.slice_eq_some_iff.mpr ⟨⟨front ++ listLead, '}' :: rest, ?_, ?_⟩, rfl⟩
    · simp only [listText, List.append_assoc, List.cons_append, List.nil_append]
    · rw [Text.byte_length_append]
  rw [Module.clauseOf, htext, Option.getD_some]

/-- There is no export list at an exported type alias: an equals sign comes before the first brace. -/
theorem list_fails_alias (name : Name) (below : Text) :
    Fails Module.Statement.exportList ("export".toList ++ ' ' ::
      (("type".toList ++ [' ']) ++ (name.text ++ (Statement.typeAlias.tail ++ below)))) := by
  refine Pattern.fails_of_cannot_read fun read hread => ?_
  rintro ⟨later, hlater⟩
  obtain ⟨none, right, rfl, hnone, hright⟩ := hread.of_seq
  obtain ⟨word, right, rfl, hword, hright⟩ := hright.of_seq
  obtain ⟨type, right, rfl, htype, hright⟩ := hright.of_seq
  obtain ⟨brace, right, rfl, hbrace, -⟩ := hright.of_seq
  obtain ⟨c, hc, rfl⟩ := hbrace.of_char
  obtain rfl := hnone.of_word_boundary
  obtain rfl : c = '{' := of_decide_eq_true hc
  let test (d : Char) : Bool := d ≠ '{' && d ≠ '='
  have htest : ∀ {part : Text}, '{' ∉ part → '=' ∉ part → ∀ d ∈ part, test d = true := by
    intro part hopen hequals d hd
    simp only [test, Bool.and_eq_true, decide_eq_true_eq]
    exact ⟨fun heq => hopen (heq ▸ hd), fun heq => hequals (heq ▸ hd)⟩
  have hleft : ∀ d ∈ word ++ type, test d = true := List.forall_mem_append.mpr
    ⟨htest (hword.not_mem (by decide)) (hword.not_mem (by decide)),
      htest (htype.not_mem (by decide)) (htype.not_mem (by decide))⟩
  have hwords : ∀ d ∈ "export".toList ++ ' ' :: ("type".toList ++ [' ']), test d = true := by decide
  have hright : ∀ d ∈ ("export".toList ++ ' ' :: ("type".toList ++ [' '])) ++ (name.text ++ [' ']),
      test d = true := List.forall_mem_append.mpr ⟨hwords, List.forall_mem_append.mpr
    ⟨htest (name.not_mem (by decide)) (name.not_mem (by decide)), by decide⟩⟩
  have heq : (word ++ type) ++ '{' :: (right ++ later) =
      (("export".toList ++ ' ' :: ("type".toList ++ [' '])) ++ (name.text ++ [' '])) ++
        '=' :: (" string;".toList ++ below) := by
    have htail : Statement.typeAlias.tail = ' ' :: '=' :: " string;".toList := rfl
    simpa only [htail, List.nil_append, List.append_assoc, List.cons_append] using hlater
  have hcut := (Text.span_append_inj test hleft hright (head_of_cons (by decide) _)
    (head_of_cons (by decide) _) heq).2
  cases (List.cons.inj hcut).1

/-- There is no export list at the word in front of an exported declaration. -/
theorem misses_export_list {keyword : String} {tail : Text} (hshape : IsShape keyword tail) (name : Name)
    (before : Option Char) (below : Text) :
    Pattern.Misses Module.Statement.exportList before ("export".toList ++ [' '])
      ((keyword.toList ++ [' ']) ++ (name.text ++ (tail ++ below))) := by
  have hfollow : ∀ word ∈ declarationWords, word ≠ "type" →
      ∀ c ∈ word.toList.head?, (['t', '{'].contains c) = false := by decide
  have hother : keyword ≠ "type" → Pattern.Misses Module.Statement.exportList before
      ("export".toList ++ [' ']) ((keyword.toList ++ [' ']) ++ (name.text ++ (tail ++ below))) := by
    intro hne
    rw [List.append_assoc]
    exact misses_export_keyword Module.export_list_led hshape.keyword_mem
      (hfollow _ hshape.keyword_mem hne) _ _
  cases hshape with
  | statement form =>
      cases form with
      | typeAlias =>
          exact Module.export_list_led.misses_word Module.export_is_name (by decide) fun offset =>
            Pattern.match_at_of_fails (list_fails_alias name below)
      | function | constant | variableDef => exact hother (by decide)
  | block kind => exact hother (by cases kind <;> decide)

/-- An empty body is found as an export list without items behind a name that ends with `export`. -/
theorem Name.sought_empty_list {front : Text} (name : Name) (indent : Nat) (below : Text)
    (hname : name.EndsInExport) : Sought Module.Statement.exportList GivesNothing front
      (name.text ++ ([' ', '{'] ++ '\n' :: closingRow indent)) below [] := by
  obtain ⟨more, htext⟩ := hname
  have hlead : listLead = "export".toList ++ [' ', '{'] := rfl
  have hshape : name.text ++ ([' ', '{'] ++ '\n' :: closingRow indent) =
      (more ++ ['$']) ++ listText ('\n' :: indentation indent) := by
    simp only [← htext, listText, hlead, closingRow, List.append_assoc, List.cons_append,
      List.nil_append]
  have hlist : listText ('\n' :: indentation indent) ++ below = "export".toList ++
      ([' ', '{'] ++ (('\n' :: indentation indent ++ ['}']) ++ below)) := rfl
  have hchars : ∀ c ∈ (more ++ ['$']) ++ "export".toList, isNamePart c = true := by
    rw [List.append_assoc, List.singleton_append, htext]
    exact name.chars
  have hfront : Sought Module.Statement.exportList GivesNothing front (more ++ ['$'])
      (listText ('\n' :: indentation indent) ++ below) [] := by
    rw [hlist]
    exact .of_misses (Module.export_list_led.misses_before_word (by decide) hchars
      (head_of_cons (by decide) _))
  have hbrace : '}' ∉ '\n' :: indentation indent := by
    simpa using not_mem_indentation indent (by decide)
  have hbare : Module.IsBare ('\n' :: indentation indent) := fun c hc =>
    Or.inr (List.forall_mem_cons.mpr ⟨by decide, is_blank_indentation indent⟩ c hc)
  have hbefore : (front ++ (more ++ ['$'])).getLast?.any Text.isWordChar = false := by
    rw [← List.append_assoc, List.getLast?_concat]
    rfl
  have hne : listText ('\n' :: indentation indent) ≠ [] := by simp [listText]
  rw [hshape]
  refine hfront.skip (.of_passes hne (list_passes _ _ hbefore hbrace) ⟨rfl, ?_⟩)
  rwa [clause_of_list]

/-- A search for export lists skims a printed module. -/
theorem list_skims : Skims Module.Statement.exportList (['t', '{'].contains ·) GivesNothing noName :=
  have hled := Module.export_list_led
  have hvalue := value_dead hled (by decide)
  { led := hled
    dollar := by decide
    lead := fun name below hshape _ => sought_words_of_blocks hled hshape.keyword_mem name _
      (misses_export_list hshape name _ below)
    member := fun form => form.dead hled (by decide) hvalue
    statement := fun form below halias => form.dead hled (by decide) hvalue halias below
    empty := fun name indent below hname => name.sought_empty_list indent below hname }

end List

section Search

/-- Where nothing is found there is no match. -/
theorem eq_nil_of_never {code : Text} {found : List Match} {parts : List (List String)}
    (h : List.Forall₂ (Never code) found parts) : found = [] := by
  cases h with
  | nil => rfl
  | cons hnever _ => cases hnever

/-- There is no default export in a printed module. -/
theorem search_default_print (width blanks : Nat) (items : Listing .ofNamespace) :
    Module.Statement.exportDefault.searchAll (items.print width blanks) = [] := by
  obtain ⟨-, parts, hparts, -⟩ := default_skims.search_print rfl width blanks items
    (Or.inr ⟨alias_dead Module.export_default_led (by decide),
      block_dead Module.export_default_led (by decide)⟩)
  exact eq_nil_of_never hparts

/-- There is no export by assignment in a clean module. -/
theorem search_assign_print (width blanks : Nat) {items : Listing .ofNamespace} (h : items.IsClean) :
    Module.Statement.exportAssign.searchAll (items.print width blanks) = [] := by
  obtain ⟨-, parts, hparts, -⟩ := assign_skims.search_print rfl width blanks items (Or.inl h)
  exact eq_nil_of_never hparts

/-- There are no items in the export lists of a clean module. -/
theorem search_list_print (width blanks : Nat) {items : Listing .ofNamespace} (h : items.IsClean) :
    ∀ found ∈ Module.Statement.exportList.searchAll (items.print width blanks),
      Module.IsBare (Module.clauseOf (items.print width blanks) found) := by
  obtain ⟨-, parts, hparts, -⟩ := list_skims.search_print rfl width blanks items (Or.inl h)
  generalize Module.Statement.exportList.searchAll _ = found at hparts ⊢
  clear h
  induction hparts with
  | nil => exact nofun
  | cons hgives _ ih => exact List.forall_mem_cons.mpr ⟨hgives.2, ih⟩

/-- Matches of exported declarations are read as their names, each where its match starts. -/
theorem exports_of_declared {code : Text} {read? : Match → Option Module.Findings}
    {found : List Match} {parts : List (List String)} {results : List Module.Findings}
    (hread : ∀ {first name result}, Declares code first name → read? first = some result →
      result.exports = [(first.start, { name })])
    (h : List.Forall₂ (GivesDeclared code) found parts) (hresults : found.mapM read? = some results) :
    (results.flatMap (·.exports)).map (·.2.name) = parts.flatten ∧
      (results.flatMap (·.exports)).map (·.1) = found.map (·.start) ∧
      ∀ entry ∈ results.flatMap (·.exports), entry.2.isReExport = false := by
  induction h generalizing results with
  | nil =>
      obtain rfl : [] = results := Option.some.inj hresults
      exact ⟨rfl, rfl, nofun⟩
  | @cons first names found parts hgives _ ih =>
      obtain ⟨name, rfl, hdeclares⟩ := hgives
      rw [List.mapM_cons] at hresults
      obtain ⟨result, hresult, hresults⟩ := Option.bind_eq_some_iff.mp hresults
      obtain ⟨others, hothers, hresults⟩ := Option.bind_eq_some_iff.mp hresults
      obtain rfl := Option.some.inj hresults
      obtain ⟨hnames, hstarts, hlocal⟩ := ih hothers
      rw [List.flatMap_cons, hread hdeclares hresult]
      refine ⟨?_, ?_, List.forall_mem_append.mpr ⟨by simp, hlocal⟩⟩
      · rw [List.map_append, hnames]
        rfl
      · rw [List.map_append, hstarts]
        rfl

/-- The exported declarations of a module are those that the listing exports, in their order. -/
theorem declarations_print (width blanks : Nat) (items : Listing .ofNamespace) {findings : Module.Findings}
    (h : Module.exportDeclarations? (items.print width blanks) = some findings) :
    findings.exports.map (·.2.name) = items.exported.map Name.word ∧
      (∀ entry ∈ findings.exports, entry.2.isReExport = false) ∧
      findings.exports.Pairwise (·.1 ≤ ·.1) := by
  obtain ⟨hsorted, parts, hparts, hnames⟩ := declaration_skims.search_print rfl width blanks items
    (Or.inr ⟨alias_dead Module.export_declaration_led (by decide),
      block_dead Module.export_declaration_led (by decide)⟩)
  obtain ⟨results, hresults, rfl⟩ := Option.map_eq_some_iff.mp h
  obtain ⟨hexports, hstarts, hlocal⟩ := exports_of_declared (by
    rintro first name result ⟨keyword, rest, hkeyword, hrest, hdeclared⟩ hresult
    simp only [hkeyword, hrest, hdeclared, Option.bind_eq_bind, Option.bind_some] at hresult
    obtain rfl := Option.some.inj hresult
    rfl) hparts hresults
  rw [Module.exports_of_foldl, List.nil_append]
  refine ⟨by rw [hexports, hnames, List.map_eq_flatMap], hlocal, ?_⟩
  rw [← List.pairwise_map (f := Prod.fst) (R := (· ≤ ·)), hstarts, List.pairwise_map]
  exact hsorted

end Search

end CodeAtlas.Declaration
