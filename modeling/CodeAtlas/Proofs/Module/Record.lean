import CodeAtlas.Proofs.Scanner.Module
import CodeAtlas.Proofs.Text.Trim

/-!
# What the statements of a module record

Eight forms of statements name another module. A statement of five of them is recorded as binding
names, by its extent; the module it names is recorded only with what the statement takes from it or
passes on. `Records` says without the scan when there is something to record. The specifiers of a
module are those of the statements that record something (`mem_specifiers_iff`), so a statement whose
clause names nothing is recorded as binding while its specifier may be lost
(`binding_specifier_kept_iff`).
-/

namespace CodeAtlas.Module

open Pattern (Match)
open Text (splitBy trim isIdentifier isWhiteSpace IsBlank IsTight)

/-- The forms of statements that name a module. -/
inductive Form where
  | importFrom
  | sideEffect
  | importRequire
  | requireBinding
  | bareRequire
  | importCall
  | exportStar
  | exportList
  deriving DecidableEq, Repr

namespace Form

/-- The pattern of a form. -/
def pattern : Form → Pattern
  | .importFrom => Statement.importFrom
  | .sideEffect => Statement.importSideEffect
  | .importRequire => Statement.importRequire
  | .requireBinding => Statement.requireBinding
  | .bareRequire => Statement.requireAny
  | .importCall => Statement.importCall
  | .exportStar => Statement.exportStar
  | .exportList => Statement.exportList

/-- Whether a statement of the form is recorded as binding names. -/
def binds : Form → Bool
  | .sideEffect | .bareRequire | .importCall => false
  | _ => true

/-- The group that holds the specifier. In a form that binds names, group 1 is the clause. -/
def specifierGroup (form : Form) : Nat :=
  if form.binds then 2 else 1

end Form

/-- A statement of a text whose comments are blanked out, with the module it names. -/
structure IsStatement (code : Text) (form : Form) (found : Match) (source : Text) : Prop where
  mem : found ∈ form.pattern.searchAll code
  specifier : found.text? code form.specifierGroup = some source

/-- The clause of a statement that binds names. -/
def clauseOf (code : Text) (found : Match) : Text :=
  (found.text? code 1).getD []

/-- A list without items: nothing but white space and commas. -/
def IsBare (list : Text) : Prop :=
  ∀ c ∈ list, c = ',' ∨ isWhiteSpace c = true

/-- The clause of an import names something: a part in front of its braces is an identifier or starts
with a star, or there is an item between its braces. -/
def NamesImport (clause : Text) : Prop :=
  (∃ part ∈ commaList (splitClause (trim clause)).1,
      part.head? = some '*' ∨ isIdentifier part = true) ∨
    ¬IsBare ((splitClause (trim clause)).2.getD [])

/-- A binding is a pair of braces without an item between them. -/
def IsEmptyPattern (binding : Text) : Prop :=
  ∃ inner, trim binding = '{' :: (inner ++ ['}']) ∧ IsBare inner

/-- The offset lies in an import with bindings, an import by assignment or a variable bound to a
required module. -/
def IsClaimed (code : Text) (offset : Nat) : Prop :=
  ∃ form ∈ [Form.importFrom, .importRequire, .requireBinding], ∃ found source,
    IsStatement code form found source ∧ found.start ≤ offset ∧ offset < found.stop

/-- A statement of the given form records something: its clause names something. A bare call of
`require` does so if it is not part of another statement, the forms without a clause always do. -/
def Records (code : Text) (found : Match) : Form → Prop
  | .importFrom => NamesImport (clauseOf code found)
  | .requireBinding => ¬IsEmptyPattern (clauseOf code found)
  | .exportList => ¬IsBare (clauseOf code found)
  | .bareRequire => ¬IsClaimed code found.start
  | .sideEffect | .importRequire | .importCall | .exportStar => True

section Clause

variable {list item clause binding : Text} {source : String}

/-- A list has no items just if it is bare. -/
theorem comma_list_eq_nil_iff : commaList list = [] ↔ IsBare list := by
  have hparts : commaList list = [] ↔
      ¬∃ part ∈ splitBy (· = ',') list, ∃ c ∈ part, (!isWhiteSpace c) = true := by
    rw [commaList, List.filter_eq_nil_iff, List.forall_mem_map]
    simp [Text.trim_eq_nil_iff, IsBlank]
  rw [hparts, Text.exists_mem_split_by_iff fun c => !isWhiteSpace c]
  simp only [IsBare, decide_eq_false_iff_not, Bool.not_eq_true', not_exists, not_and,
    Bool.not_eq_false]
  exact forall₂_congr fun c _ => (or_iff_not_imp_left).symm

/-- An item of a list is tight. -/
theorem is_tight_of_mem_comma_list (h : item ∈ commaList list) : IsTight item := by
  obtain ⟨hmem, hne⟩ := List.mem_filter.mp h
  obtain ⟨part, -, rfl⟩ := List.mem_map.mp hmem
  exact Text.is_tight_trim (by simpa using hne)

/-- An item has a word in it, also after a leading `type` keyword. -/
theorem words_drop_type_keyword_ne_nil (h : IsTight item) :
    Text.words (dropTypeKeyword item) ≠ [] := by
  have htight : ∀ {part : Text}, IsTight part → ¬IsBlank part := by
    rintro part ⟨⟨c, hc, hspace⟩, -⟩ hblank
    have hmem := hblank c (List.mem_of_mem_head? hc)
    rw [hspace] at hmem
    cases hmem
  rw [Ne, Text.words_eq_nil_iff, dropTypeKeyword]
  split
  · next rest hrest =>
      have hitem := Text.drop_head_eq_some hrest
      obtain ⟨-, c, hlast, hspace⟩ := h
      -- The last character of the item is no white space, so it stands after the keyword.
      have hmem : c ∈ rest := by
        rw [hitem, List.getLast?_append] at hlast
        cases hend : rest.getLast? with
        | none =>
            rw [hend] at hlast
            have heq : ' ' = c := by simpa using hlast
            rw [← heq] at hspace
            cases hspace
        | some d =>
            rw [hend, Option.some_or] at hlast
            exact Option.some.inj hlast ▸ List.mem_of_getLast? hend
      have hne : trim rest ≠ [] := by
        rw [Ne, Text.trim_eq_nil_iff]
        intro hblank
        rw [hblank c hmem] at hspace
        cases hspace
      exact htight (Text.is_tight_trim hne)
  · exact htight h

/-- A part in front of the braces is an import just if it is an identifier or starts with a star. -/
theorem head_import_is_some_iff : (headImport? source item).isSome = true ↔
    item.head? = some '*' ∨ isIdentifier item = true := by
  unfold headImport?
  split
  · simp
  · next hstar =>
      have hhead : item.head? ≠ some '*' := by
        intro h
        obtain ⟨rest, hrest⟩ := List.head?_eq_some_iff.mp h
        exact hstar rest hrest
      rw [or_iff_right hhead]
      split
      · next hident => simp [hident]
      · next hident => simp [hident]

/-- A part in front of the braces takes from the module of the statement. -/
theorem source_of_head_import {found : Import} (h : headImport? source item = some found) :
    found.source = source := by
  unfold headImport? at h
  split at h
  · rw [← Option.some.inj h]
    rfl
  · split at h
    · rw [← Option.some.inj h]
    · cases h

/-- An item between the braces takes from the module of the statement. -/
theorem source_of_named_import {found : Import} (h : namedImport? source item = some found) :
    found.source = source := by
  rw [namedImport?] at h
  split at h
  · cases h
  · rw [← Option.some.inj h]

/-- An item between the braces is an import. -/
theorem named_import_is_some (h : IsTight item) : (namedImport? source item).isSome = true := by
  have hwords := words_drop_type_keyword_ne_nil h
  rw [namedImport?]
  split
  · next hnil => exact absurd hnil hwords
  · rfl

/-- The imports of a clause take from the module of the statement, and there are some just if the
clause names something. -/
theorem clause_imports_name_iff {name : String} :
    (∃ found ∈ clauseImports clause source, found.source = name) ↔
      name = source ∧ NamesImport clause := by
  have hsource : ∀ found ∈ clauseImports clause source, found.source = source := by
    intro found hmem
    rcases List.mem_append.mp hmem with hmem | hmem
    · obtain ⟨part, -, hpart⟩ := List.mem_filterMap.mp hmem
      exact source_of_head_import hpart
    · obtain ⟨part, -, hpart⟩ := List.mem_filterMap.mp hmem
      exact source_of_named_import hpart
  have hsome : (∃ found, found ∈ clauseImports clause source) ↔ NamesImport clause := by
    simp only [clauseImports, List.mem_append, List.mem_filterMap, exists_or, NamesImport]
    refine or_congr ?_ ?_
    · rw [exists_comm]
      refine exists_congr fun part => ?_
      rw [exists_and_left, ← Option.isSome_iff_exists, head_import_is_some_iff]
    · rw [← comma_list_eq_nil_iff, List.eq_nil_iff_forall_not_mem, Classical.not_forall, exists_comm]
      refine exists_congr fun item => ?_
      rw [exists_and_left, ← Option.isSome_iff_exists, Classical.not_not]
      exact and_iff_left_of_imp fun hmem => named_import_is_some (is_tight_of_mem_comma_list hmem)
  rw [← hsome]
  constructor
  · rintro ⟨found, hmem, rfl⟩
    exact ⟨hsource found hmem, found, hmem⟩
  · rintro ⟨rfl, found, hmem⟩
    exact ⟨found, hmem, hsource found hmem⟩

/-- A destructured item takes from the module of the statement. -/
theorem source_destructured_import : (destructuredImport source item).source = source := by
  rw [destructuredImport]
  split <;> rfl

/-- A binding that does not start with a brace does not do so without its type either. -/
theorem head_before_type_ne {c : Char}
    (h : (trim binding).head? ≠ some c) : (trim (before (· = ':') (trim binding))).head? ≠ some c := by
  intro hhead
  obtain ⟨front, back, hsplit, hfront, -⟩ := Text.exists_of_trim (before (· = ':') (trim binding))
  obtain ⟨rest, hrest⟩ := List.head?_eq_some_iff.mp hhead
  have hbegins : before (· = ':') (trim binding) <+: trim binding := List.takeWhile_prefix _
  rw [hsplit, hrest] at hbegins
  cases front with
  | nil =>
      obtain ⟨tail, htail⟩ := hbegins
      exact h (by rw [← htail]; rfl)
  | cons d front =>
      -- What has been trimmed does not start with white space.
      obtain ⟨tail, htail⟩ := hbegins
      have hne : trim binding ≠ [] := by
        rw [← htail]
        exact List.cons_ne_nil _ _
      obtain ⟨⟨e, he, hnot⟩, -⟩ := Text.is_tight_trim hne
      rw [← htail] at he
      have heq : d = e := by simpa using he
      have hd := hfront d List.mem_cons_self
      rw [heq, hnot] at hd
      cases hd

/-- The imports of a required module take from it, and there are some unless the binding is a pair of
braces without an item. -/
theorem require_imports_name_iff {name : String} :
    (∃ found ∈ requireImports binding source, found.source = name) ↔
      name = source ∧ ¬IsEmptyPattern binding := by
  -- Unless the binding is a pair of braces there is one import, with or without a name.
  have hone : ∀ found : Import, found.source = source → ¬IsEmptyPattern binding →
      ((∃ other ∈ [found], other.source = name) ↔ name = source ∧ ¬IsEmptyPattern binding) := by
    intro found hsource hnot
    simp only [List.mem_singleton, exists_eq_left, hsource, hnot, not_false_eq_true, and_true]
    exact eq_comm
  unfold requireImports
  dsimp only
  by_cases hhead : (trim binding).head? = some '{'
  · obtain ⟨rest, hbinding⟩ := List.head?_eq_some_iff.mp hhead
    have hbrace : isIdentifier ('{' :: rest) = false := rfl
    rw [if_pos hhead, hbinding, if_neg (by simp [hbrace])]
    split
    · next inner heq =>
        obtain rfl := (List.cons.inj heq).2
        split
        · next inner hinner =>
            have hlist : rest = inner.reverse ++ ['}'] := by
              rw [← List.reverse_reverse rest, hinner, List.reverse_cons]
            have hempty : IsEmptyPattern binding ↔ commaList inner.reverse = [] := by
              rw [comma_list_eq_nil_iff, IsEmptyPattern, hbinding, hlist]
              simp
            rw [hempty, List.eq_nil_iff_forall_not_mem, Classical.not_forall]
            simp only [List.mem_map, Classical.not_not]
            constructor
            · rintro ⟨-, ⟨item, hmem, rfl⟩, rfl⟩
              exact ⟨source_destructured_import, item, hmem⟩
            · rintro ⟨rfl, item, hmem⟩
              exact ⟨_, ⟨item, hmem, rfl⟩, source_destructured_import⟩
        · next hopened =>
            refine hone { name := "", source } rfl ?_
            rintro ⟨inner, hinner, -⟩
            rw [hbinding, List.cons.injEq] at hinner
            exact hopened inner.reverse (by rw [hinner.2]; simp)
    · next hnot => exact absurd rfl (hnot rest)
  · have hnot : ¬IsEmptyPattern binding := by
      rintro ⟨inner, hbinding, -⟩
      exact hhead (by rw [hbinding]; rfl)
    have hne := head_before_type_ne hhead
    rw [if_neg hhead]
    split
    · exact hone (.whole source _) rfl hnot
    · split
      · next rest hrest =>
          rw [hrest] at hne
          exact absurd rfl hne
      · exact hone { name := "", source } rfl hnot

end Clause

/-- A record of the findings names the module. -/
def Findings.Names (findings : Findings) (source : String) : Prop :=
  (∃ entry ∈ findings.imports, entry.2.source = source) ∨
    ∃ entry ∈ findings.exports, entry.2.source = some source

/-- Findings are those of all statements of one form. -/
structure Covers (code : Text) (form : Form) (findings : Findings) : Prop where
  names : ∀ source : String, findings.Names source ↔
    ∃ found, IsStatement code form found source.toList ∧ Records code found form
  bindings : ∀ range, range ∈ findings.bindings ↔
    form.binds = true ∧ ∃ found source, IsStatement code form found source ∧
      range = ⟨found.start, found.stop⟩

section Findings

variable {code : Text} {form : Form} {source : String}

/-- What is found at one place or another is found in both together. -/
theorem names_append (left right : Findings) :
    (left.append right).Names source ↔ left.Names source ∨ right.Names source := by
  simp only [Findings.Names, Findings.append, List.mem_append, or_and_right, exists_or]
  exact or_or_or_comm

/-- Findings one after another hold what each of them holds. -/
theorem foldl_append (parts : List Findings) (init : Findings) :
    (∀ source, (parts.foldl Findings.append init).Names source ↔
        init.Names source ∨ ∃ part ∈ parts, part.Names source) ∧
      ∀ range, range ∈ (parts.foldl Findings.append init).bindings ↔
        range ∈ init.bindings ∨ ∃ part ∈ parts, range ∈ part.bindings := by
  induction parts generalizing init with
  | nil => simp
  | cons part parts ih =>
      obtain ⟨hnames, hbindings⟩ := ih (init.append part)
      rw [List.foldl_cons]
      constructor
      · intro source
        simp only [hnames source, names_append, List.mem_cons, exists_eq_or_imp, or_assoc]
      · intro range
        rw [hbindings range]
        simp only [Findings.append, List.mem_append, List.mem_cons, exists_eq_or_imp, or_assoc]

/-- Nothing is found where nothing is recorded. -/
theorem not_names_empty : ¬Findings.Names {} source := by
  rintro (⟨entry, hentry, -⟩ | ⟨entry, hentry, -⟩) <;> cases hentry

/-- What the items of a list give is what its values are. -/
theorem mem_of_map_m {α β : Type} {f : α → Option β} {items : List α} {values : List β}
    (h : items.mapM f = some values) (value : β) :
    value ∈ values ↔ ∃ item ∈ items, f item = some value := by
  induction items generalizing values with
  | nil =>
      obtain rfl : values = [] := by simpa using h.symm
      simp
  | cons item items ih =>
      rw [List.mapM_cons] at h
      obtain ⟨first, hfirst, h⟩ := Option.bind_eq_some_iff.mp h
      obtain ⟨later, hlater, h⟩ := Option.bind_eq_some_iff.mp h
      simp only [← Option.some.inj h, List.mem_cons, exists_eq_or_imp, ih hlater, hfirst,
        Option.some.injEq, eq_comm (a := first)]

/-- The readings of all matches of a pattern hold what each of them holds. -/
theorem read_all_cases {pattern : Pattern} {read? : Match → Option Findings} {findings : Findings}
    (h : readAll? pattern code read? = some findings) :
    (∀ source, findings.Names source ↔ ∃ found ∈ pattern.searchAll code, ∃ part,
        read? found = some part ∧ part.Names source) ∧
      ∀ range, range ∈ findings.bindings ↔ ∃ found ∈ pattern.searchAll code, ∃ part,
        read? found = some part ∧ range ∈ part.bindings := by
  obtain ⟨parts, hparts, rfl⟩ := Option.map_eq_some_iff.mp h
  have hmem := mem_of_map_m hparts
  have hexists : ∀ good : Findings → Prop, (∃ part ∈ parts, good part) ↔
      ∃ found ∈ pattern.searchAll code, ∃ part, read? found = some part ∧ good part := by
    intro good
    constructor
    · rintro ⟨part, hpart, hgood⟩
      obtain ⟨found, hfound, hread⟩ := (hmem part).mp hpart
      exact ⟨found, hfound, part, hread, hgood⟩
    · rintro ⟨found, hfound, part, hread, hgood⟩
      exact ⟨part, (hmem part).mpr ⟨found, hfound, hread⟩, hgood⟩
  obtain ⟨hnames, hbindings⟩ := foldl_append parts {}
  refine ⟨fun source => ?_, fun range => ?_⟩
  · rw [hnames, hexists, or_iff_right not_names_empty]
  · rw [hbindings, hexists, or_iff_right (by simp)]

/-- A pattern without matches gives nothing. -/
theorem read_nothing {pattern : Pattern} {read? : Match → Option Findings}
    (h : pattern.searchAll code = []) : readAll? pattern code read? = some {} := by
  rw [readAll?, h]
  rfl

/-- The findings of one match are those of its statement, which there is if it has a specifier. -/
structure Gives (code : Text) (form : Form) (found : Match) (part : Findings) : Prop where
  names : ∀ source : String, part.Names source ↔
    found.text? code form.specifierGroup = some source.toList ∧ Records code found form
  bindings : ∀ range, range ∈ part.bindings ↔ form.binds = true ∧
    (found.text? code form.specifierGroup).isSome = true ∧ range = ⟨found.start, found.stop⟩

/-- Findings cover a form if each of its matches gives those of its statement. -/
theorem covers_of_read_all {read? : Match → Option Findings} {findings : Findings}
    (h : readAll? form.pattern code read? = some findings)
    (hread : ∀ found, found.IsIn form.pattern code →
      ∃ part, read? found = some part ∧ Gives code form found part) :
    Covers code form findings where
  names source := by
    rw [(read_all_cases h).1 source]
    constructor
    · rintro ⟨found, hfound, part, hpart, hnames⟩
      obtain ⟨given, hgiven, hgives⟩ := hread found (Pattern.search_all_is_in hfound)
      obtain rfl := Option.some.inj (hpart.symm.trans hgiven)
      obtain ⟨htext, hrecords⟩ := (hgives.names source).mp hnames
      exact ⟨found, ⟨hfound, htext⟩, hrecords⟩
    · rintro ⟨found, ⟨hfound, htext⟩, hrecords⟩
      obtain ⟨part, hpart, hgives⟩ := hread found (Pattern.search_all_is_in hfound)
      exact ⟨found, hfound, part, hpart, (hgives.names source).mpr ⟨htext, hrecords⟩⟩
  bindings range := by
    rw [(read_all_cases h).2]
    constructor
    · rintro ⟨found, hfound, part, hpart, hrange⟩
      obtain ⟨given, hgiven, hgives⟩ := hread found (Pattern.search_all_is_in hfound)
      obtain rfl := Option.some.inj (hpart.symm.trans hgiven)
      obtain ⟨hbinds, hsome, rfl⟩ := (hgives.bindings range).mp hrange
      obtain ⟨source, hsource⟩ := Option.isSome_iff_exists.mp hsome
      exact ⟨hbinds, found, source, ⟨hfound, hsource⟩, rfl⟩
    · rintro ⟨hbinds, found, source, ⟨hfound, hsource⟩, rfl⟩
      obtain ⟨part, hpart, hgives⟩ := hread found (Pattern.search_all_is_in hfound)
      exact ⟨found, hfound, part, hpart, (hgives.bindings _).mpr ⟨hbinds, by rw [hsource]; rfl, rfl⟩⟩

/-- Findings cover a form that always has a specifier if each match, read with it, gives those of its
statement. -/
theorem covers_of_specifiers {read? : Match → Option Findings} {findings : Findings}
    (h : readAll? form.pattern code read? = some findings)
    (number : Nat) (hnumber : form.specifierGroup = number)
    (hrecorded : form.pattern.records number = true)
    (hread : ∀ found specifier, found.IsIn form.pattern code →
      found.text? code form.specifierGroup = some specifier →
      groupText? code found number = some (String.ofList specifier) →
        ∃ part, read? found = some part ∧ Gives code form found part) :
    Covers code form findings := by
  refine covers_of_read_all h fun found hfound => ?_
  obtain ⟨specifier, hspecifier⟩ := hfound.exists_text hrecorded
  exact hread found specifier hfound (by rwa [hnumber]) (by rw [groupText?, hspecifier]; rfl)

variable {found : Match} {specifier : Text} {imports : List Import} {exports : List Export}
  {findings : Findings}

/-- The records of a match name what they say, and it is a binding if it is to be one. -/
theorem gives_of_match {binds : Bool}
    (hspecifier : found.text? code form.specifierGroup = some specifier)
    (hnames : ∀ source, ((∃ entry ∈ imports, entry.source = source) ∨
        ∃ entry ∈ exports, entry.source = some source) ↔
      source = String.ofList specifier ∧ Records code found form)
    (hbinds : form.binds = binds) :
    Gives code form found (.ofMatch found imports exports binds) where
  names source := by
    have hentries : (Findings.ofMatch found imports exports binds).Names source ↔
        (∃ entry ∈ imports, entry.source = source) ∨
          ∃ entry ∈ exports, entry.source = some source := by
      simp [Findings.Names, Findings.ofMatch]
    rw [hentries, hnames, hspecifier, Option.some.injEq]
    refine and_congr_left fun _ => ⟨?_, ?_⟩
    · rintro rfl
      exact (String.toList_ofList).symm
    · rintro rfl
      exact (String.ofList_toList).symm
  bindings range := by
    rw [hspecifier, hbinds, Findings.ofMatch]
    cases binds <;> simp

/-- The text of a group as a string. -/
theorem group_text_eq {number : Nat} (h : found.text? code number = some specifier) :
    groupText? code found number = some (String.ofList specifier) := by
  rw [groupText?, h]
  rfl

/-- Findings that neither name a module nor bind names. -/
def IsLocal (findings : Findings) : Prop :=
  (∀ source, ¬findings.Names source) ∧ findings.bindings = []

/-- Findings are local if those of every match are. -/
theorem is_local_of_read_all {pattern : Pattern} {read? : Match → Option Findings}
    (h : readAll? pattern code read? = some findings)
    (hread : ∀ found part, read? found = some part → IsLocal part) : IsLocal findings := by
  constructor
  · intro source hnames
    obtain ⟨found, -, part, hpart, hnames⟩ := ((read_all_cases h).1 source).mp hnames
    exact (hread found part hpart).1 source hnames
  · refine List.eq_nil_iff_forall_not_mem.mpr fun range hrange => ?_
    obtain ⟨found, -, part, hpart, hrange⟩ := ((read_all_cases h).2 range).mp hrange
    rw [(hread found part hpart).2] at hrange
    cases hrange

/-- Exports of names that the module declares itself are local. -/
theorem is_local_of_match (found : Match) (exports : List Export)
    (h : ∀ entry ∈ exports, entry.source = none) :
    IsLocal (.ofMatch found [] exports false) := by
  refine ⟨?_, rfl⟩
  rintro source (⟨entry, hentry, -⟩ | ⟨entry, hentry, hsource⟩)
  · cases hentry
  · obtain ⟨item, hitem, rfl⟩ := List.mem_map.mp hentry
    rw [h item hitem] at hsource
    cases hsource

/-- Imports with bindings are covered. -/
theorem import_froms_cover (h : importFroms? code = some findings) :
    Covers code .importFrom findings := by
  refine covers_of_specifiers h 2 rfl (by decide) fun found specifier hfound hspecifier hsource => ?_
  obtain ⟨clause, hclause⟩ :=
    hfound.exists_text (show Form.importFrom.pattern.records 1 = true by decide)
  have hrecords : Records code found .importFrom ↔ NamesImport clause := by
    rw [Records, clauseOf, hclause, Option.getD_some]
  refine ⟨_, by rw [hclause, hsource]; rfl, gives_of_match hspecifier ?_ rfl⟩
  intro source
  rw [hrecords, ← clause_imports_name_iff]
  simp

/-- Imports for their side effects are covered. -/
theorem side_effect_imports_cover (h : sideEffectImports? code = some findings) :
    Covers code .sideEffect findings := by
  refine covers_of_specifiers h 1 rfl (by decide) fun found specifier _ hspecifier hsource => ?_
  refine ⟨_, by rw [hsource]; rfl, gives_of_match hspecifier ?_ rfl⟩
  intro source
  simp [Records, eq_comm]

/-- Imports by assignment are covered. -/
theorem import_requires_cover (h : importRequires? code = some findings) :
    Covers code .importRequire findings := by
  refine covers_of_specifiers h 2 rfl (by decide) fun found specifier hfound hspecifier hsource => ?_
  obtain ⟨name, hname⟩ :=
    hfound.exists_text (show Form.importRequire.pattern.records 1 = true by decide)
  refine ⟨_, by rw [group_text_eq hname, hsource]; rfl,
    gives_of_match hspecifier ?_ rfl⟩
  intro source
  simp [Records, Import.whole, eq_comm]

/-- Variables bound to required modules are covered. -/
theorem require_bindings_cover (h : requireBindings? code = some findings) :
    Covers code .requireBinding findings := by
  refine covers_of_specifiers h 2 rfl (by decide) fun found specifier hfound hspecifier hsource => ?_
  obtain ⟨binding, hbinding⟩ :=
    hfound.exists_text (show Form.requireBinding.pattern.records 1 = true by decide)
  have hrecords : Records code found .requireBinding ↔ ¬IsEmptyPattern binding := by
    rw [Records, clauseOf, hbinding, Option.getD_some]
  refine ⟨_, by rw [hbinding, hsource]; rfl, gives_of_match hspecifier ?_ rfl⟩
  intro source
  rw [hrecords, ← require_imports_name_iff]
  simp

/-- Calls of `require` outside other statements are covered. -/
theorem bare_requires_cover {claimed : List ByteRange}
    (hclaimed : ∀ offset, claimed.any (·.contains offset) = true ↔ IsClaimed code offset)
    (h : bareRequires? code claimed = some findings) : Covers code .bareRequire findings := by
  refine covers_of_specifiers h 1 rfl (by decide) fun found specifier _ hspecifier hsource => ?_
  rw [hsource]
  by_cases hinside : claimed.any (·.contains found.start) = true
  · refine ⟨{}, if_pos hinside, ?_, ?_⟩
    · intro source
      exact iff_of_false not_names_empty fun hrecords => hrecords.2 ((hclaimed _).mp hinside)
    · intro range
      simp [Form.binds]
  · refine ⟨_, if_neg hinside, gives_of_match hspecifier ?_ rfl⟩
    intro source
    have hrecords : Records code found .bareRequire := fun hin => hinside ((hclaimed _).mpr hin)
    simp [hrecords, eq_comm]

/-- Import expressions are covered. -/
theorem import_calls_cover (h : importCalls? code = some findings) :
    Covers code .importCall findings := by
  refine covers_of_specifiers h 1 rfl (by decide) fun found specifier _ hspecifier hsource => ?_
  refine ⟨_, by rw [hsource]; rfl, gives_of_match hspecifier ?_ rfl⟩
  intro source
  simp [Records, Import.whole, eq_comm]

/-- Re-exports of whole modules are covered. -/
theorem export_stars_cover (h : exportStars? code = some findings) :
    Covers code .exportStar findings := by
  refine covers_of_specifiers h 2 rfl (by decide) fun found specifier _ hspecifier hsource => ?_
  refine ⟨_, by rw [hsource]; rfl, gives_of_match hspecifier ?_ rfl⟩
  intro source
  simp [Records, eq_comm]

/-- An item of an export list has a name. -/
theorem exported_name_is_some {item : Text} (h : IsTight item) :
    (exportedName? item).isSome = true := by
  have hwords := words_drop_type_keyword_ne_nil h
  unfold exportedName?
  split
  · next hnil => exact absurd hnil hwords
  · rfl
  · rfl

/-- Export lists are covered: those with a specifier are statements that bind names. -/
theorem export_lists_cover (h : exportLists? code = some findings) :
    Covers code .exportList findings := by
  refine covers_of_read_all h fun found hfound => ?_
  obtain ⟨list, hlist⟩ :=
    hfound.exists_text (show Form.exportList.pattern.records 1 = true by decide)
  cases hspecifier : found.text? code 2 with
  | none =>
      have hnone : groupText? code found 2 = none := by rw [groupText?, hspecifier]; rfl
      have hlocal := is_local_of_match found ((commaList list).filterMap fun item =>
        (exportedName? item).map fun name =>
          { name := String.ofList name, isDefault := name = "default".toList, source := none }) <| by
        intro entry hentry
        obtain ⟨item, -, hitem⟩ := List.mem_filterMap.mp hentry
        obtain ⟨name, -, rfl⟩ := Option.map_eq_some_iff.mp hitem
        rfl
      have hgroup : found.text? code Form.exportList.specifierGroup = none := hspecifier
      refine ⟨_, by rw [hlist, hnone]; rfl, ?_, ?_⟩
      · intro source
        rw [hgroup]
        exact iff_of_false (hlocal.1 source) (by simp)
      · intro range
        rw [hgroup]
        -- The bindings are empty whatever the list exports, so its names are not looked at.
        have hempty : range ∉ ([] : List ByteRange) := List.not_mem_nil
        exact iff_of_false hempty (by simp)
  | some specifier =>
      have hrecords : Records code found .exportList ↔ ¬IsBare list := by
        rw [Records, clauseOf, hlist, Option.getD_some]
      refine ⟨_, by rw [hlist, group_text_eq hspecifier]; rfl, gives_of_match hspecifier ?_ rfl⟩
      intro source
      rw [hrecords, ← comma_list_eq_nil_iff, List.eq_nil_iff_forall_not_mem, Classical.not_forall]
      simp only [List.not_mem_nil, false_and, exists_false, false_or, List.mem_filterMap,
        Option.map_eq_some_iff, Classical.not_not]
      constructor
      · rintro ⟨entry, ⟨item, hitem, name, hname, rfl⟩, hsource⟩
        exact ⟨(Option.some.inj hsource).symm, item, hitem⟩
      · rintro ⟨rfl, item, hitem⟩
        obtain ⟨name, hname⟩ := Option.isSome_iff_exists.mp
          (exported_name_is_some (is_tight_of_mem_comma_list hitem))
        exact ⟨_, ⟨item, hitem, name, hname, rfl⟩, rfl⟩

/-- Default exports are local. -/
theorem export_defaults_local (h : exportDefaults? code = some findings) : IsLocal findings := by
  refine is_local_of_read_all h fun found part hpart => ?_
  rw [← Option.some.inj hpart]
  exact is_local_of_match found _ (by simp)

/-- Exported declarations are local. -/
theorem export_declarations_local (h : exportDeclarations? code = some findings) :
    IsLocal findings := by
  refine is_local_of_read_all h fun found part hpart => ?_
  obtain ⟨keyword, -, hpart⟩ := Option.bind_eq_some_iff.mp hpart
  obtain ⟨rest, -, hpart⟩ := Option.bind_eq_some_iff.mp hpart
  obtain ⟨names, -, hpart⟩ := Option.bind_eq_some_iff.mp hpart
  rw [← Option.some.inj hpart]
  exact is_local_of_match found _ (by simp)

/-- Exports by assignment are local. -/
theorem export_assigns_local (h : exportAssigns? code = some findings) : IsLocal findings := by
  refine is_local_of_read_all h fun found part hpart => ?_
  obtain ⟨name, -, hpart⟩ := Option.bind_eq_some_iff.mp hpart
  rw [← Option.some.inj hpart]
  exact is_local_of_match found _ (by simp)

end Findings

section Scan

/-- A module is named by a specifier if there is one and a record names it. -/
theorem mem_specifiers_of_findings {findings : Findings} {source : String} (hne : source ≠ "") :
    source ∈ findings.toSyntax.specifiers ↔ findings.Names source := by
  simp [ModuleSyntax.specifiers, Findings.toSyntax, Findings.Names, hne, List.mem_eraseDups,
    List.mem_mergeSort]

/-- A recorded binding is an extent that was found. -/
theorem mem_binding_ranges_of_findings {findings : Findings} {range : ByteRange} :
    range ∈ findings.toSyntax.bindingRanges ↔ range ∈ findings.bindings := by
  simp [Findings.toSyntax, List.mem_mergeSort]

/-- A specifier is not empty. -/
theorem IsStatement.source_ne_nil {code : Text} {form : Form} {found : Match} {source : Text}
    (h : IsStatement code form found source) : source ≠ [] := by
  obtain ⟨hmem, hspecifier⟩ := h
  obtain ⟨⟨start, stop⟩, hgroup, -⟩ := Option.bind_eq_some_iff.mp hspecifier
  obtain ⟨part, hpart, -, -, body, hbody, groups, hreads⟩ :=
    (Pattern.search_all_is_in hmem).of_group hgroup
  obtain rfl := Option.some.inj (hspecifier.symm.trans hpart)
  have hsome : ∀ body ∈ form.pattern.bodies form.specifierGroup, body.readsSome = true := by
    cases form <;> decide
  exact hreads.ne_nil (hsome body hbody)

/-- Claims are made by the statements whose extents are given. -/
theorem is_claimed_iff {code : Text} {froms assigned bound : Findings}
    (hfroms : Covers code .importFrom froms) (hassigned : Covers code .importRequire assigned)
    (hbound : Covers code .requireBinding bound) (offset : Nat) :
    (froms.bindings ++ assigned.bindings ++ bound.bindings).any (·.contains offset) = true ↔
      IsClaimed code offset := by
  have hone : ∀ {form : Form} {findings : Findings}, Covers code form findings →
      form.binds = true → ((∃ range ∈ findings.bindings, range.contains offset = true) ↔
        ∃ found source, IsStatement code form found source ∧ found.start ≤ offset ∧
          offset < found.stop) := by
    intro form findings hcovers hbinds
    constructor
    · rintro ⟨range, hrange, hcontains⟩
      obtain ⟨-, found, source, hstatement, rfl⟩ := (hcovers.bindings range).mp hrange
      rw [ByteRange.contains, Bool.and_eq_true, decide_eq_true_iff, decide_eq_true_iff] at hcontains
      exact ⟨found, source, hstatement, hcontains⟩
    · rintro ⟨found, source, hstatement, hlow, hhigh⟩
      refine ⟨_, (hcovers.bindings _).mpr ⟨hbinds, found, source, hstatement, rfl⟩, ?_⟩
      simp [ByteRange.contains, hlow, hhigh]
  simp only [IsClaimed, List.any_eq_true, List.mem_append, or_and_right, exists_or,
    hone hfroms rfl, hone hassigned rfl, hone hbound rfl, List.mem_cons, List.not_mem_nil, or_false,
    exists_eq_left, or_assoc]

/-- The findings of a scan are those of all eight forms together. -/
theorem exists_findings_of_scan {content : Text} {module : ModuleSyntax}
    (h : scan? content = some module) :
    ∃ findings : Findings, module = findings.toSyntax ∧
      (∀ source : String, findings.Names source ↔ ∃ form found,
        IsStatement (Text.mask .comments content) form found source.toList ∧
          Records (Text.mask .comments content) found form) ∧
      ∀ range, range ∈ findings.bindings ↔ ∃ form found source, form.binds = true ∧
        IsStatement (Text.mask .comments content) form found source ∧
          range = ⟨found.start, found.stop⟩ := by
  unfold scan? at h
  obtain ⟨froms, hfroms, h⟩ := Option.bind_eq_some_iff.mp h
  obtain ⟨sideEffects, hsideEffects, h⟩ := Option.bind_eq_some_iff.mp h
  obtain ⟨assigned, hassigned, h⟩ := Option.bind_eq_some_iff.mp h
  obtain ⟨bound, hbound, h⟩ := Option.bind_eq_some_iff.mp h
  obtain ⟨bare, hbare, h⟩ := Option.bind_eq_some_iff.mp h
  obtain ⟨calls, hcalls, h⟩ := Option.bind_eq_some_iff.mp h
  obtain ⟨stars, hstars, h⟩ := Option.bind_eq_some_iff.mp h
  obtain ⟨lists, hlists, h⟩ := Option.bind_eq_some_iff.mp h
  obtain ⟨defaults, hdefaults, h⟩ := Option.bind_eq_some_iff.mp h
  obtain ⟨declarations, hdeclarations, h⟩ := Option.bind_eq_some_iff.mp h
  obtain ⟨assigns, hassigns, h⟩ := Option.bind_eq_some_iff.mp h
  have cfroms := import_froms_cover hfroms
  have csideEffects := side_effect_imports_cover hsideEffects
  have cassigned := import_requires_cover hassigned
  have cbound := require_bindings_cover hbound
  have cbare := bare_requires_cover (is_claimed_iff cfroms cassigned cbound) hbare
  have ccalls := import_calls_cover hcalls
  have cstars := export_stars_cover hstars
  have clists := export_lists_cover hlists
  obtain ⟨ndefaults, bdefaults⟩ := export_defaults_local hdefaults
  obtain ⟨ndeclarations, bdeclarations⟩ := export_declarations_local hdeclarations
  obtain ⟨nassigns, bassigns⟩ := export_assigns_local hassigns
  have hforms : ∀ good : Form → Prop, (∃ form, good form) ↔
      good .importFrom ∨ good .sideEffect ∨ good .importRequire ∨ good .requireBinding ∨
        good .bareRequire ∨ good .importCall ∨ good .exportStar ∨ good .exportList := by
    intro good
    constructor
    · rintro ⟨form, hform⟩
      cases form <;> simp [hform]
    · rintro (h | h | h | h | h | h | h | h) <;> exact ⟨_, h⟩
  refine ⟨_, (Option.some.inj h).symm, fun source => ?_, fun range => ?_⟩
  · rw [(foldl_append _ _).1, or_iff_right not_names_empty, hforms]
    simp only [List.mem_cons, List.not_mem_nil, or_false, exists_eq_or_imp, exists_eq_left,
      cfroms.names, csideEffects.names, cassigned.names, cbound.names, cbare.names, ccalls.names,
      cstars.names, clists.names, ndefaults, ndeclarations, nassigns]
  · rw [(foldl_append _ _).2, or_iff_right (by simp), hforms]
    simp only [List.mem_cons, List.not_mem_nil, or_false, exists_eq_or_imp, exists_eq_left,
      cfroms.bindings, csideEffects.bindings, cassigned.bindings, cbound.bindings, cbare.bindings,
      ccalls.bindings, cstars.bindings, clists.bindings, bdefaults, bdeclarations, bassigns,
      exists_and_left]

/-- The specifiers of a module are those of the statements that record something. -/
theorem mem_specifiers_iff {content : Text} {module : ModuleSyntax}
    (h : scan? content = some module) {source : Text} :
    String.ofList source ∈ module.specifiers ↔ ∃ form found,
      IsStatement (Text.mask .comments content) form found source ∧
        Records (Text.mask .comments content) found form := by
  obtain ⟨findings, rfl, hnames, -⟩ := exists_findings_of_scan h
  by_cases hne : source = []
  · subst hne
    refine iff_of_false ?_ ?_
    · simp [ModuleSyntax.specifiers, List.mem_eraseDups]
    · rintro ⟨form, found, hstatement, -⟩
      exact hstatement.source_ne_nil rfl
  · have hstring : String.ofList source ≠ "" := by
      intro heq
      exact hne (by simpa using congrArg String.toList heq)
    rw [mem_specifiers_of_findings hstring, hnames, String.toList_ofList]

/-- Every text has a module. Its bindings are the extents of its statements that bind names. The
specifier of such a statement is kept just if its clause names something or another statement with
the same specifier records something: the clause of an import may have neither a default nor a
namespace import nor an item between its braces, and a pattern or an export list may have no item. -/
theorem binding_specifier_kept_iff (content : Text) :
    ∃ module, scan? content = some module ∧
      (∀ range, range ∈ module.bindingRanges ↔ ∃ form found source, form.binds = true ∧
        IsStatement (Text.mask .comments content) form found source ∧
          range = ⟨found.start, found.stop⟩) ∧
      ∀ form found source, form.binds = true →
        IsStatement (Text.mask .comments content) form found source →
        (String.ofList source ∈ module.specifiers ↔
          Records (Text.mask .comments content) found form ∨
            ∃ other others, (other, others) ≠ (form, found) ∧
              IsStatement (Text.mask .comments content) other others source ∧
                Records (Text.mask .comments content) others other) := by
  obtain ⟨module, hmodule, -⟩ := scan_yields content
  obtain ⟨findings, hfindings, -, hbindings⟩ := exists_findings_of_scan hmodule
  refine ⟨module, hmodule, fun range => ?_, fun form found source _ hstatement => ?_⟩
  · rw [hfindings, mem_binding_ranges_of_findings, hbindings]
  · rw [mem_specifiers_iff hmodule]
    constructor
    · rintro ⟨other, others, hother, hrecords⟩
      by_cases heq : (other, others) = (form, found)
      · obtain ⟨rfl, rfl⟩ := Prod.mk.inj heq
        exact Or.inl hrecords
      · exact Or.inr ⟨other, others, heq, hother, hrecords⟩
    · rintro (hrecords | ⟨other, others, -, hother, hrecords⟩)
      · exact ⟨form, found, hstatement, hrecords⟩
      · exact ⟨other, others, hother, hrecords⟩

/-- An import with an item between its braces keeps its specifier. -/
theorem specifier_kept_one_item :
    ∃ module, scan? "import { a } from './b';".toList = some module ∧ "./b" ∈ module.specifiers := by
  obtain ⟨module, hmodule, -, hkept⟩ := binding_specifier_kept_iff "import { a } from './b';".toList
  refine ⟨module, hmodule, ?_⟩
  have hstatement : IsStatement (Text.mask .comments "import { a } from './b';".toList) .importFrom
      { start := 0, stop := 23, groups := [(2, 19, 22), (1, 7, 12)] } "./b".toList :=
    ⟨List.mem_of_mem_head? (by rfl), by rfl⟩
  refine (hkept .importFrom _ _ rfl hstatement).mpr (Or.inl (Or.inr ?_))
  intro hbare
  exact absurd (hbare 'a' (by decide)) (by decide)

/-- An import with nothing between its braces is recorded as binding, but its specifier is lost. -/
theorem empty_braces_lose_specifier :
    ∃ module found, scan? "import {} from './b';\n".toList = some module ∧
      IsStatement (Text.mask .comments "import {} from './b';\n".toList) .importFrom found
        "./b".toList ∧
      ⟨found.start, found.stop⟩ ∈ module.bindingRanges ∧ "./b" ∉ module.specifiers := by
  refine ⟨{ bindingRanges := [⟨0, 20⟩] },
    { start := 0, stop := 20, groups := [(2, 16, 19), (1, 7, 9)] }, by decide +kernel,
    ⟨List.mem_of_mem_head? (by rfl), by rfl⟩, by decide, by decide⟩

end Scan

end CodeAtlas.Module
