import CodeAtlas.Proofs.Module.Literal
import CodeAtlas.Proofs.Scanner.Module

/-!
# Text without quotes

A statement that names a module has quotes, so none is found in a text without (`search_unquoted`). A scan
of such a text imports nothing and lists what the module exports itself: the items of export lists,
default exports, exported declarations and exports by assignment (`exports_of_unquoted`).
-/

namespace CodeAtlas.Module

open Pattern (Match)
open Text (IsUnquoted)

section Statements

variable {code source : Text} {form : Form} {found : Match}

/-- A text without quotes names no module. -/
theorem not_is_statement (hquote : IsUnquoted code) : ¬IsStatement code form found source := by
  intro h
  obtain ⟨read, left, opening, closing, start, stop, -, hread, hbetween⟩ := h.between
  have hopening : opening ∈ code := by
    obtain ⟨-, hquoted⟩ := hbetween.stands_at hread
    obtain ⟨front, back, rfl, -⟩ := hquoted
    simp
  exact hquote opening hopening (hbetween.opening_quote.imp_right Or.inl)

/-- A statement that names a module is found nowhere in a text without quotes. -/
theorem search_unquoted (form : Form) (hquote : IsUnquoted code) (hlist : form ≠ .exportList) :
    form.pattern.searchAll code = [] := by
  refine List.eq_nil_iff_forall_not_mem.mpr fun found hfound => ?_
  have hrecords : form.pattern.records form.specifierGroup = true := by
    cases form with
    | exportList => exact absurd rfl hlist
    | _ => decide
  obtain ⟨source, hsource⟩ := (Pattern.search_all_is_in hfound).exists_text hrecords
  exact not_is_statement hquote ⟨hfound, hsource⟩

/-- An export list of a text without quotes names no module. -/
theorem list_without_specifier (hquote : IsUnquoted code)
    (hfound : found ∈ Statement.exportList.searchAll code) : groupText? code found 2 = none := by
  rw [groupText?, Option.map_eq_none_iff]
  cases hsource : found.text? code 2 with
  | none => rfl
  | some source =>
      have hstatement : IsStatement code .exportList found source := ⟨hfound, hsource⟩
      exact absurd hstatement (not_is_statement hquote)

end Statements

section Exports

variable {pattern : Pattern} {code : Text} {read? : Match → Option Findings} {findings : Findings}

/-- Findings one after another export what each of them exports. -/
theorem exports_of_foldl (parts : List Findings) (init : Findings) :
    (parts.foldl Findings.append init).exports = init.exports ++ parts.flatMap (·.exports) := by
  induction parts generalizing init with
  | nil => simp
  | cons part parts ih =>
      rw [List.foldl_cons, ih, List.flatMap_cons, ← List.append_assoc]
      rfl

/-- What the matches of a pattern export is what each of them exports. -/
theorem mem_exports_of_read_all (h : readAll? pattern code read? = some findings)
    (entry : Nat × Export) : entry ∈ findings.exports ↔
      ∃ found ∈ pattern.searchAll code, ∃ part, read? found = some part ∧ entry ∈ part.exports := by
  obtain ⟨parts, hparts, rfl⟩ := Option.map_eq_some_iff.mp h
  simp only [exports_of_foldl, List.nil_append, List.mem_flatMap, mem_of_map_m hparts]
  exact ⟨fun ⟨part, ⟨found, hfound, hread⟩, hentry⟩ => ⟨found, hfound, part, hread, hentry⟩,
    fun ⟨found, hfound, part, hread, hentry⟩ => ⟨part, ⟨found, hfound, hread⟩, hentry⟩⟩

/-- The export that an item of a list without a specifier stands for. -/
def itemExport? (item : Text) : Option Export :=
  (exportedName? item).map fun name =>
    { name := String.ofList name, isDefault := name = "default".toList }

/-- What the export lists of a text without quotes export. -/
theorem mem_exports_of_lists (hquote : IsUnquoted code) (h : exportLists? code = some findings)
    (entry : Nat × Export) : entry ∈ findings.exports ↔
      ∃ found ∈ Statement.exportList.searchAll code, ∃ item ∈ commaList (clauseOf code found),
        (itemExport? item).map (found.start, ·) = some entry := by
  rw [mem_exports_of_read_all h]
  refine exists_congr fun found => and_congr_right fun hfound => ?_
  obtain ⟨list, hlist⟩ := (Pattern.search_all_is_in hfound).exists_text
    (show Statement.exportList.records 1 = true by decide)
  have hclause : clauseOf code found = list := by rw [clauseOf, hlist, Option.getD_some]
  rw [hlist, list_without_specifier hquote hfound, hclause]
  have hpart : (Findings.ofMatch found [] ((commaList list).filterMap itemExport?) false).exports =
      (commaList list).filterMap fun item => (itemExport? item).map (found.start, ·) :=
    List.map_filterMap
  constructor
  · rintro ⟨part, hread, hentry⟩
    obtain rfl := Option.some.inj hread
    exact List.mem_filterMap.mp (hpart ▸ hentry)
  · intro hentry
    exact ⟨_, rfl, hpart ▸ List.mem_filterMap.mpr hentry⟩

/-- The export lists of a text without quotes export the module's own names, and none just if they have
no items. -/
theorem lists_unquoted (hquote : IsUnquoted code) (h : exportLists? code = some findings) :
    (∀ entry ∈ findings.exports, entry.2.isReExport = false) ∧
      (findings.exports = [] ↔
        ∀ found ∈ Statement.exportList.searchAll code, IsBare (clauseOf code found)) := by
  have hentries := mem_exports_of_lists hquote h
  constructor
  · intro entry hentry
    obtain ⟨found, -, item, -, hitem⟩ := (hentries entry).mp hentry
    obtain ⟨listed, hlisted, rfl⟩ := Option.map_eq_some_iff.mp hitem
    obtain ⟨name, -, rfl⟩ := Option.map_eq_some_iff.mp hlisted
    rfl
  · simp only [← comma_list_eq_nil_iff, List.eq_nil_iff_forall_not_mem, hentries]
    constructor
    · intro hnone found hfound item hitem
      obtain ⟨name, hname⟩ := Option.isSome_iff_exists.mp
        (exported_name_is_some (is_tight_of_mem_comma_list hitem))
      exact hnone _ ⟨found, hfound, item, hitem, by rw [itemExport?, hname]; rfl⟩
    · rintro hbare entry ⟨found, hfound, item, hitem, -⟩
      exact hbare found hfound item hitem

/-- Exports by assignment export the module's own names, one each. -/
theorem assigns_local (h : exportAssigns? code = some findings) :
    (∀ entry ∈ findings.exports, entry.2.isReExport = false) ∧
      (findings.exports = [] ↔ Statement.exportAssign.searchAll code = []) := by
  have hentries := mem_exports_of_read_all h
  constructor
  · intro entry hentry
    obtain ⟨found, -, part, hpart, hentry⟩ := (hentries entry).mp hentry
    obtain ⟨name, -, hpart⟩ := Option.bind_eq_some_iff.mp hpart
    obtain rfl := Option.some.inj hpart
    rw [List.mem_singleton.mp hentry]
  · simp only [List.eq_nil_iff_forall_not_mem, hentries]
    constructor
    · intro hnone found hfound
      obtain ⟨name, hname⟩ := (Pattern.search_all_is_in hfound).exists_text
        (show Statement.exportAssign.records 1 = true by decide)
      refine hnone (found.start, { name := String.ofList name, isDefault := true })
        ⟨found, hfound, .ofMatch found [] [{ name := String.ofList name, isDefault := true }] false, ?_,
          List.mem_singleton_self _⟩
      rw [groupText?, hname]
      rfl
    · rintro hnone entry ⟨found, hfound, -⟩
      exact hnone found hfound

end Exports

/-- A scan of a text without quotes exports what export lists, default exports, exported declarations and
exports by assignment give, sorted by offset. -/
theorem exports_of_unquoted {content : Text} (hquote : IsUnquoted (Text.mask .comments content)) :
    ∃ module lists defaults declarations assigns, scan? content = some module ∧
      exportLists? (Text.mask .comments content) = some lists ∧
      exportDefaults? (Text.mask .all content) = some defaults ∧
      exportDeclarations? (Text.mask .all content) = some declarations ∧
      exportAssigns? (Text.mask .all content) = some assigns ∧
      module.exports =
        ((lists.exports ++ defaults.exports ++ declarations.exports ++ assigns.exports).mergeSort
          fun a b => a.1 ≤ b.1).map (·.2) := by
  have hnone : ∀ (form : Form) {read? : Match → Option Findings}, form ≠ .exportList →
      readAll? form.pattern (Text.mask .comments content) read? = some {} :=
    fun form _ hlist => read_nothing (search_unquoted form hquote hlist)
  obtain ⟨module, hmodule, -⟩ := scan_yields content
  have hscan := hmodule
  unfold scan? at hscan
  obtain ⟨froms, hfroms, hscan⟩ := Option.bind_eq_some_iff.mp hscan
  obtain ⟨sideEffects, hsideEffects, hscan⟩ := Option.bind_eq_some_iff.mp hscan
  obtain ⟨assigned, hassigned, hscan⟩ := Option.bind_eq_some_iff.mp hscan
  obtain ⟨bound, hbound, hscan⟩ := Option.bind_eq_some_iff.mp hscan
  obtain ⟨bare, hbare, hscan⟩ := Option.bind_eq_some_iff.mp hscan
  obtain ⟨calls, hcalls, hscan⟩ := Option.bind_eq_some_iff.mp hscan
  obtain ⟨stars, hstars, hscan⟩ := Option.bind_eq_some_iff.mp hscan
  obtain ⟨lists, hlists, hscan⟩ := Option.bind_eq_some_iff.mp hscan
  obtain ⟨defaults, hdefaults, hscan⟩ := Option.bind_eq_some_iff.mp hscan
  obtain ⟨declarations, hdeclarations, hscan⟩ := Option.bind_eq_some_iff.mp hscan
  obtain ⟨assigns, hassigns, hscan⟩ := Option.bind_eq_some_iff.mp hscan
  obtain rfl := Option.some.inj (hfroms.symm.trans (hnone .importFrom (by decide)))
  obtain rfl := Option.some.inj (hsideEffects.symm.trans (hnone .sideEffect (by decide)))
  obtain rfl := Option.some.inj (hassigned.symm.trans (hnone .importRequire (by decide)))
  obtain rfl := Option.some.inj (hbound.symm.trans (hnone .requireBinding (by decide)))
  obtain rfl := Option.some.inj (hbare.symm.trans (hnone .bareRequire (by decide)))
  obtain rfl := Option.some.inj (hcalls.symm.trans (hnone .importCall (by decide)))
  obtain rfl := Option.some.inj (hstars.symm.trans (hnone .exportStar (by decide)))
  refine ⟨module, lists, defaults, declarations, assigns, hmodule, hlists, hdefaults, hdeclarations,
    hassigns, ?_⟩
  rw [← Option.some.inj hscan]
  simp [Findings.toSyntax, Findings.append]

end CodeAtlas.Module
