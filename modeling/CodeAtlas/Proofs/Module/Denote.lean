import CodeAtlas.Proofs.Module.Found
import CodeAtlas.Proofs.Text.Trim
import Mathlib.Data.List.TakeDrop

/-!
# Printed clauses denote their imports

Splitting at commas is the inverse of joining with them (`comma_list_items`), and the words of an item
are its names (`Item.words_by_word`). So each reader of clauses gives back what the clause was printed
from: `clause_imports_text`, `require_imports_text` and `exported_items_text`.
-/

namespace CodeAtlas.Module

open Text (trim isNameChar isIdentifier IsName IsBlank IsTight)

section Span

variable {test : Char → Bool} {part rest : Text} {c : Char}

/-- A text is cut at the first character that fails a test. -/
theorem span_cut (hpart : ∀ d ∈ part, test d = true) (hc : test c = false) :
    (part ++ c :: rest).span test = (part, c :: rest) := by
  rw [List.span_eq_takeWhile_dropWhile, List.takeWhile_append_of_pos hpart,
    List.dropWhile_append_of_pos hpart, List.takeWhile_cons_of_neg (by simp [hc]),
    List.dropWhile_cons_of_neg (by simp [hc]), List.append_nil]

/-- A text without a character that fails the test is not cut. -/
theorem span_whole (hpart : ∀ d ∈ part, test d = true) : part.span test = (part, []) := by
  rw [List.span_eq_takeWhile_dropWhile, List.takeWhile_eq_self_iff.mpr hpart,
    List.dropWhile_eq_nil_iff.mpr hpart]

end Span

section Comma

variable {front part back list : Text}

/-- A part between white space is the first item of a list. -/
theorem comma_list_cons (hfront : IsBlank front) (hpart : IsTight part) (hback : IsBlank back)
    (hcomma : ',' ∉ front ++ part ++ back) :
    commaList (front ++ part ++ back ++ ',' :: list) = part :: commaList list := by
  rw [commaList, Text.split_by_append hcomma, List.map_cons, Text.trim_around hfront hpart hback,
    List.filter_cons_of_pos (by simpa using hpart.ne_nil), commaList]

/-- A part between white space is the only item of a list. -/
theorem comma_list_part (hfront : IsBlank front) (hpart : IsTight part) (hback : IsBlank back)
    (hcomma : ',' ∉ front ++ part ++ back) : commaList (front ++ part ++ back) = [part] := by
  rw [commaList, Text.split_by_of_not_mem hcomma, List.map_singleton,
    Text.trim_around hfront hpart hback, List.filter_cons_of_pos (by simpa using hpart.ne_nil),
    List.filter_nil]

/-- White space has no items. -/
theorem comma_list_blank (h : IsBlank list) : commaList list = [] :=
  comma_list_eq_nil_iff.mpr fun c hc => Or.inr (h c hc)

/-- One space is blank. -/
theorem space_is_blank : IsBlank [' '] := by
  simp [IsBlank, Text.isWhiteSpace]

/-- Nothing is blank. -/
theorem nil_is_blank : IsBlank [] := by
  simp [IsBlank]

end Comma

section Item

variable {style : Renaming}

/-- A name is tight. -/
theorem Name.is_tight (name : Name) : IsTight name.text := by
  obtain ⟨c, tail, htext, hc, -⟩ := name.exists_head
  have hne := name.is_name.ne_nil
  refine ⟨⟨c, by rw [htext]; rfl, Text.not_white_space_of_name_char hc⟩, _,
    List.getLast?_eq_some_getLast hne, ?_⟩
  exact Text.not_white_space_of_name_char (name.is_name.chars _ (List.getLast_mem hne))

/-- A name has no marks. -/
theorem Name.ne_mark (name : Name) {mark : Char} (hmark : isPartChar "" mark = false) :
    ∀ c ∈ name.text, (c != mark) = true := by
  intro c hc
  have hname : isPartChar "" c = true := name.part_chars c hc
  simpa using ne_of_part_char hname hmark

/-- A tight end makes a text tight that starts tightly. -/
theorem is_tight_append {front middle back : Text} (hfront : IsTight front) (hback : IsTight back) :
    IsTight (front ++ middle ++ back) := by
  obtain ⟨⟨c, hc, hfirst⟩, -⟩ := hfront
  obtain ⟨-, d, hd, hlast⟩ := hback
  refine ⟨⟨c, ?_, hfirst⟩, d, ?_, hlast⟩
  · rw [List.append_assoc, List.head?_append, hc, Option.some_or]
  · rw [List.getLast?_append, hd, Option.some_or]

/-- An item is tight. -/
theorem Item.is_tight (item : Item) : IsTight (item.text style) := by
  rw [Item.text]
  split
  · exact item.name.is_tight
  · next other _ => exact is_tight_append item.name.is_tight other.is_tight

/-- The items of a printed list are those it was printed from. -/
theorem comma_list_items (first : Item) (others : List Item) :
    commaList (listText style first others) = (first :: others).map (Item.text style) := by
  have hcomma : ∀ item : Item, ',' ∉ item.text style := fun item hmem =>
    ne_of_part_char (item.item_chars style _ hmem) (by decide : isItemChar ',' = false) rfl
  induction others generalizing first with
  | nil =>
      have hspaces : ',' ∉ [' '] ++ first.text style ++ [' '] := by simp [hcomma first]
      exact comma_list_part space_is_blank first.is_tight space_is_blank hspaces
  | cons next rest ih =>
      have hspaces : ',' ∉ [' '] ++ first.text style ++ [] := by simp [hcomma first]
      have hlist : listText style first (next :: rest) =
          [' '] ++ first.text style ++ [] ++ ',' :: listText style next rest := by
        simp [listText, Text.join]
      rw [hlist, comma_list_cons space_is_blank first.is_tight nil_is_blank hspaces, ih]
      rfl

/-- The words of an item renamed with a word are its names with the word between them. -/
theorem Item.words_by_word (item : Item) : Text.words (item.text .byWord) =
    item.name.text :: (item.rename.map fun other => ["as".toList, other.text]).getD [] := by
  have has : Text.IsWordText "as".toList := ⟨by decide, by decide⟩
  rw [Item.text]
  split
  · next hnone => rw [Text.words_of_word item.name.is_name.is_word_text, hnone]; rfl
  · next other hsome =>
      have htext : item.name.text ++ Renaming.byWord.text ++ other.text =
          item.name.text ++ ' ' :: ("as".toList ++ ' ' :: other.text) := by
        simp [Renaming.text]
      rw [htext, Text.words_word item.name.is_name.is_word_text (by decide),
        Text.words_word has (by decide), Text.words_of_word other.is_name.is_word_text, hsome]
      rfl

/-- No item starts with the word `type`. -/
theorem Item.drop_type_keyword (item : Item) :
    dropTypeKeyword (item.text style) = item.text style := by
  have hword : IsName "type".toList := ⟨by decide, by decide⟩
  rw [dropTypeKeyword]
  split
  · next rest hrest =>
      have heq : "type".toList ++ ' ' :: rest = item.text style := by
        rw [Text.drop_head_eq_some hrest]
        simp
      have hspace : ∀ c, (' ' :: rest).head? = some c → isNameChar c = false := fun c hc => by
        obtain rfl : ' ' = c := Option.some.inj hc
        decide
      obtain ⟨after, htext, hafter⟩ : ∃ after, item.text style = item.name.text ++ after ∧
          ∀ c, after.head? = some c → isNameChar c = false := by
        rw [Item.text]
        split
        · exact ⟨[], (List.append_nil _).symm, by simp⟩
        · next other _ =>
            refine ⟨style.text ++ other.text, List.append_assoc _ _ _, fun c hc => ?_⟩
            cases style with
            | byWord => obtain rfl : ' ' = c := Option.some.inj hc; decide
            | byColon => obtain rfl : ':' = c := Option.some.inj hc; decide
      have hname := (Text.name_append_inj hword item.name.is_name hspace hafter (heq.trans htext)).1
      exact absurd (by rw [← hname, String.ofList_toList]) item.name.not_type
  · rfl

/-- No name is `default`. -/
theorem Name.ne_default (name : Name) : name.text ≠ "default".toList := by
  intro heq
  exact name.not_reserved (by rw [heq, String.ofList_toList]; decide)

/-- An item of an import is read as what it denotes. -/
theorem Item.named_import (item : Item) (source : Specifier) :
    namedImport? source.string (item.text .byWord) = some (item.import source) := by
  have hdefault : decide (item.name.text = "default".toList) = false :=
    decide_eq_false item.name.ne_default
  rw [namedImport?, item.drop_type_keyword, item.words_by_word, Item.import]
  cases item.rename with
  | none => simp only [Option.map_none, Option.getD_none, hdefault]
  | some other => simp only [Option.map_some, Option.getD_some, hdefault, if_true]

/-- An item of an export list is read as the name it is exported under. -/
theorem Item.exported_name (item : Item) :
    exportedName? (item.text .byWord) = some (item.rename.getD item.name).text := by
  rw [exportedName?, item.drop_type_keyword, item.words_by_word]
  cases item.rename <;> simp

/-- An item of a pattern is read as what it denotes. -/
theorem Item.destructured (item : Item) (source : Specifier) :
    destructuredImport source.string (item.text .byColon) = item.import source := by
  have hcolon := item.name.ne_mark (by decide : isPartChar "" ':' = false)
  rw [destructuredImport, Item.import]
  cases hrename : item.rename with
  | none =>
      have htext : item.text .byColon = item.name.text := by rw [Item.text, hrename]
      rw [htext, span_whole hcolon]
      rfl
  | some other =>
      have htext : item.text .byColon = item.name.text ++ ':' :: ' ' :: other.text := by
        rw [Item.text, hrename]
        simp [Renaming.text]
      have htrim : trim (' ' :: other.text) = other.text := by
        simpa using Text.trim_around space_is_blank other.is_tight nil_is_blank
      rw [htext, span_cut hcolon (by decide)]
      simp only [Text.trim_of_tight item.name.is_tight, htrim, Option.map_some]

end Item

section Clause

/-- A name is an identifier. -/
theorem Name.is_identifier (name : Name) : isIdentifier name.text = true := by
  obtain ⟨c, tail, htext, hname, -⟩ := name.exists_head
  have hdigit := name.no_digit c (by rw [htext]; rfl)
  have hchars := name.is_name.chars
  rw [htext] at hchars ⊢
  rw [isIdentifier, Text.is_ident_start_of_name_char hname hdigit, Bool.true_and, List.all_eq_true]
  exact fun d hd => Text.is_ident_char_of_name_char (hchars d (List.mem_cons_of_mem c hd))

/-- A name in front of the braces is the default import. -/
theorem Name.head_import (name : Name) (source : Specifier) :
    headImport? source.string name.text = some (name.default source) := by
  obtain ⟨c, tail, htext, hname, -⟩ := name.exists_head
  rw [headImport?.eq_def]
  split
  · next rest hstar =>
      obtain ⟨rfl, -⟩ := List.cons.inj (htext.symm.trans hstar)
      exact absurd hname (by decide)
  · rw [if_pos name.is_identifier, Name.default]

/-- A star and a name are the import of the whole module. -/
theorem Name.star_import (name : Name) (source : Specifier) :
    headImport? source.string ("* as ".toList ++ name.text) =
      some (.whole source.string (some name.string)) := by
  have htext : "* as ".toList ++ name.text = '*' :: ([' '] ++ ("as".toList ++ [' '] ++ name.text)) :=
    rfl
  have htrim : trim ([' '] ++ ("as".toList ++ [' '] ++ name.text)) =
      "as".toList ++ ([' '] ++ name.text) := by
    have has : IsTight ("as".toList ++ [' '] ++ name.text) :=
      is_tight_append ⟨⟨'a', rfl, by decide⟩, 's', rfl, by decide⟩ name.is_tight
    have haround := Text.trim_around space_is_blank has nil_is_blank
    rwa [List.append_nil, List.append_assoc] at haround
  have hdrop : ∀ rest, Text.dropHead? ("as".toList ++ rest) "as".toList = some rest := fun rest => by
    rw [Text.drop_head_eq, List.take_left, if_pos rfl, List.drop_left]
  have hname : trim ([' '] ++ name.text) = name.text := by
    simpa using Text.trim_around space_is_blank name.is_tight nil_is_blank
  have hne : name.text.isEmpty = false := by simpa using name.is_name.ne_nil
  rw [htext, headImport?]
  simp only [htrim, hdrop, hname, hne, Bool.false_eq_true, if_false]

/-- What stands before the last brace. -/
theorem before_last_brace (inner : Text) : beforeLast? (inner ++ ['}']) (· = '}') = some inner := by
  simp [beforeLast?]

/-- A clause without braces is not split. -/
theorem split_clause_whole {clause : Text} (h : '{' ∉ clause) :
    splitClause clause = (clause, none) := by
  have hpart : ∀ c ∈ clause, (c != '{') = true := fun c hc => by
    simpa using fun heq : c = '{' => h (heq ▸ hc)
  rw [splitClause, span_whole hpart]

/-- A clause is split at its braces. -/
theorem split_clause_braces {head inner : Text} (h : '{' ∉ head) :
    splitClause (head ++ '{' :: (inner ++ ['}'])) = (head, some inner) := by
  have hpart : ∀ c ∈ head, (c != '{') = true := fun c hc => by
    simpa using fun heq : c = '{' => h (heq ▸ hc)
  rw [splitClause, span_cut hpart (by decide)]
  simp only [before_last_brace]

/-- A clause is tight. -/
theorem Clause.is_tight (clause : Clause) : IsTight clause.text := by
  obtain ⟨d, hlast, hd⟩ := clause.ends_visible
  obtain ⟨c, tail, htext⟩ := List.exists_cons_of_ne_nil
    (List.ne_nil_of_mem (List.mem_of_getLast? hlast))
  refine ⟨⟨c, by rw [htext]; rfl, clause.visible c (by rw [htext, List.append_nil]; rfl)⟩, d, hlast,
    hd⟩

/-- The items in braces denote the named imports. -/
theorem named_imports (source : Specifier) (first : Item) (others : List Item) :
    (commaList (listText .byWord first others)).filterMap (namedImport? source.string) =
      (first :: others).map (Item.import source) := by
  rw [comma_list_items, List.filterMap_map]
  have hread : namedImport? source.string ∘ Item.text .byWord = some ∘ Item.import source :=
    funext fun item => item.named_import source
  rw [hread, ← List.filterMap_map, List.filterMap_some]

/-- A name is an item by itself. -/
theorem comma_list_tight {part : Text} (hpart : IsTight part) (hcomma : ',' ∉ part) :
    commaList part = [part] := by
  have hitem := comma_list_part nil_is_blank hpart nil_is_blank (by simpa using hcomma)
  simpa using hitem

/-- A mark is no character of a name. -/
theorem Name.not_mem_mark (name : Name) {mark : Char} (hmark : isPartChar "" mark = false) :
    mark ∉ name.text := by
  intro hmem
  simpa using name.ne_mark hmark mark hmem

/-- A star and a name are tight. -/
theorem Name.star_is_tight (name : Name) : IsTight ("* as ".toList ++ name.text) := by
  have htight : IsTight (['*'] ++ " as ".toList ++ name.text) :=
    is_tight_append ⟨⟨'*', rfl, by decide⟩, '*', rfl, by decide⟩ name.is_tight
  exact htight

/-- A mark is no character of a star and a name, unless it is one of those in front of the name. -/
theorem Name.star_not_mem_mark (name : Name) {mark : Char} (hmark : isPartChar "" mark = false)
    (hstar : mark ∉ "* as ".toList) : mark ∉ "* as ".toList ++ name.text := by
  rw [List.mem_append, not_or]
  exact ⟨hstar, name.not_mem_mark hmark⟩

/-- A name in front of a comma is the first item. -/
theorem comma_list_name_cons (name : Name) (list : Text) :
    commaList (name.text ++ ',' :: list) = name.text :: commaList list := by
  have hcomma : ',' ∉ name.text := name.not_mem_mark (by decide)
  have hitem : commaList ([] ++ name.text ++ [] ++ ',' :: list) = name.text :: commaList list :=
    comma_list_cons nil_is_blank name.is_tight nil_is_blank (by simpa using hcomma)
  simpa using hitem

/-- A star and a name behind a space are the only item. -/
theorem comma_list_space_star (name : Name) :
    commaList ([' '] ++ ("* as ".toList ++ name.text)) = ["* as ".toList ++ name.text] := by
  have hcomma : ',' ∉ [' '] ++ ("* as ".toList ++ name.text) ++ [] := by
    rw [List.append_nil, List.mem_append, not_or]
    exact ⟨by decide, name.star_not_mem_mark (by decide) (by decide)⟩
  have hitem := comma_list_part space_is_blank name.star_is_tight nil_is_blank hcomma
  rwa [List.append_nil] at hitem

/-- A clause is read as the imports it denotes. -/
theorem clause_imports_text (clause : Clause) (source : Specifier) :
    clauseImports clause.text source.string = clause.imports source := by
  have hbrace : ∀ name : Name, '{' ∉ name.text := fun name => name.not_mem_mark (by decide)
  have hstar : ∀ name : Name, '{' ∉ "* as ".toList ++ name.text := fun name =>
    name.star_not_mem_mark (by decide) (by decide)
  rw [clauseImports, Text.trim_of_tight clause.is_tight]
  cases clause with
  | default name =>
      have htext : (Clause.default name).text = name.text := rfl
      have hlist : commaList name.text = [name.text] :=
        comma_list_tight name.is_tight (name.not_mem_mark (by decide))
      rw [htext, split_clause_whole (hbrace name)]
      simp only [Option.getD_none, hlist, comma_list_blank nil_is_blank, List.filterMap_cons,
        List.filterMap_nil, name.head_import source, Clause.imports, List.append_nil]
  | whole name =>
      have htext : (Clause.whole name).text = "* as ".toList ++ name.text := rfl
      have hlist : commaList ("* as ".toList ++ name.text) = ["* as ".toList ++ name.text] :=
        comma_list_tight name.star_is_tight (name.star_not_mem_mark (by decide) (by decide))
      rw [htext, split_clause_whole (hstar name)]
      simp only [Option.getD_none, hlist, comma_list_blank nil_is_blank, List.filterMap_cons,
        List.filterMap_nil, name.star_import source, Clause.imports, List.append_nil]
  | named first others =>
      have htext : (Clause.named first others).text =
          [] ++ '{' :: (listText .byWord first others ++ ['}']) := rfl
      rw [htext, split_clause_braces List.not_mem_nil]
      simp only [Option.getD_some, comma_list_blank nil_is_blank, List.filterMap_nil, List.nil_append,
        named_imports, Clause.imports]
  | defaultNamed name first others =>
      have hnone : '{' ∉ name.text ++ [',', ' '] := by
        rw [List.mem_append, not_or]
        exact ⟨hbrace name, by decide⟩
      have htext : (Clause.defaultNamed name first others).text =
          name.text ++ [',', ' '] ++ '{' :: (listText .byWord first others ++ ['}']) := rfl
      rw [htext, split_clause_braces hnone]
      simp only [Option.getD_some, comma_list_name_cons, comma_list_blank space_is_blank,
        List.filterMap_cons, List.filterMap_nil, name.head_import source, named_imports,
        Clause.imports, List.singleton_append]
  | defaultWhole name other =>
      have hnone : '{' ∉ name.text ++ ',' :: ([' '] ++ ("* as ".toList ++ other.text)) := by
        rw [List.mem_append, List.mem_cons, List.mem_append]
        simp only [not_or]
        exact ⟨hbrace name, by decide, by decide, hstar other⟩
      have htext : (Clause.defaultWhole name other).text =
          name.text ++ ',' :: ([' '] ++ ("* as ".toList ++ other.text)) := by
        change name.text ++ ", * as ".toList ++ other.text = _
        rw [List.append_assoc]
        rfl
      rw [htext, split_clause_whole hnone]
      simp only [Option.getD_none, comma_list_name_cons, comma_list_space_star,
        comma_list_blank nil_is_blank, List.filterMap_cons, List.filterMap_nil,
        name.head_import source, other.star_import source, Clause.imports, List.append_nil]

/-- A binding is read as the imports it denotes. -/
theorem require_imports_text (binding : Binding) (source : Specifier) :
    requireImports binding.text source.string = (Line.requireBinding binding source).imports := by
  cases binding with
  | plain name =>
      obtain ⟨c, tail, htext, hname, -⟩ := name.exists_head
      have hbrace : name.text.head? ≠ some '{' := by
        rw [htext]
        rintro heq
        obtain rfl : c = '{' := Option.some.inj heq
        revert hname
        decide
      have hcolon : before (· = ':') name.text = name.text := by
        refine List.takeWhile_eq_self_iff.mpr fun d hd => ?_
        simpa using name.ne_mark (by decide) d hd
      rw [requireImports, Binding.text, Text.trim_of_tight name.is_tight]
      simp only [if_neg hbrace, hcolon, Text.trim_of_tight name.is_tight, name.is_identifier, if_true,
        Line.imports]
  | items first others =>
      have htight : IsTight (bracesText .byColon first others) :=
        ⟨⟨'{', rfl, by decide⟩, braces_end_visible .byColon first others⟩
      have hident : isIdentifier (bracesText .byColon first others) = false := rfl
      have hreverse : (listText .byColon first others ++ ['}']).reverse =
          '}' :: (listText .byColon first others).reverse := by simp
      have hread : destructuredImport source.string ∘ Item.text .byColon = Item.import source :=
        funext fun item => item.destructured source
      rw [requireImports, Binding.text, Text.trim_of_tight htight]
      simp only [bracesText, List.head?_cons, if_true] at hident ⊢
      simp only [hident, hreverse, List.reverse_reverse, comma_list_items, List.map_map, hread,
        Bool.false_eq_true, if_false, Line.imports]

/-- The items of an export list are read as the exports they denote. -/
theorem exported_items_text (first : Item) (others : List Item) (source : Specifier) :
    ((commaList (listText .byWord first others)).filterMap fun item =>
      (exportedName? item).map fun name =>
        ({ name := String.ofList name, isDefault := name = "default".toList,
           isReExport := true, source := some source.string } : Export)) =
      (first :: others).map (Item.export source) := by
  have hread : (fun item => (exportedName? item).map fun name =>
      ({ name := String.ofList name, isDefault := name = "default".toList,
         isReExport := true, source := some source.string } : Export)) ∘ Item.text .byWord =
        some ∘ Item.export source := by
    funext item
    have hdefault : decide ((item.rename.getD item.name).text = "default".toList) = false :=
      decide_eq_false (item.rename.getD item.name).ne_default
    rw [Function.comp_apply, Function.comp_apply, item.exported_name, Option.map_some, hdefault,
      Item.export]
  rw [comma_list_items, List.filterMap_map, hread, ← List.filterMap_map, List.filterMap_some]

end Clause

end CodeAtlas.Module
