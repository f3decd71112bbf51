import CodeAtlas.Proofs.Declaration.Misread
import CodeAtlas.Proofs.Declaration.Printed

/-!
# What a printed module exports

The symbols of a text and a scan of it say both what a module exports. On a printed module the scan lists
what is exported on any level, while a symbol is a top-level export only outside of all containers, so
the two agree where nothing is exported from a namespace and no name is misread (`exports_print`).
-/

namespace CodeAtlas.Declaration

open Text (IsUnquoted)

/-- The exported entries of a listing are its exported declarations. -/
theorem Listing.exported_entries {kind : FrameKind} (items : Listing kind) (container : Option String)
    (number : Nat) :
    ((items.entries container number).filter (·.modifiers.contains .exported)).map (·.name) =
      items.exported.map Name.word := by
  induction items generalizing container number with
  | nil => rfl
  | member form name others ih => exact ih container (number + 1)
  | statement exported form name others ih =>
      rw [entries, Listing.exported, List.map_append, ← ih container (number + 1)]
      cases exported <;> rfl
  | block exported kind name body others ihbody ihrest =>
      rw [entries, Listing.exported, List.map_append, List.map_append,
        ← ihbody (some name.word) (number + 1), ← ihrest container (number + body.height + 2),
        ← List.map_append, ← List.filter_append]
      cases exported <;> rfl

section Symbols

variable (symbols : List Symbol)

/-- Top-level exports are the exported symbols without a container. -/
theorem top_level_exports_eq : symbols.filter (·.isTopLevelExport) =
    (symbols.filter (·.hasModifier .exported)).filter (·.containerName.isNone) := by
  rw [List.filter_filter]
  rfl

/-- The exported symbols are all top-level exports just if none of them has a container. -/
theorem top_level_exports_eq_iff :
    symbols.filter (·.isTopLevelExport) = symbols.filter (·.hasModifier .exported) ↔
      ∀ symbol ∈ symbols, symbol.hasModifier .exported = true → symbol.containerName = none := by
  rw [top_level_exports_eq, List.filter_eq_self]
  simp only [List.mem_filter, Option.isNone_iff_eq_none, and_imp]

/-- The exported symbols of a listing have the names of its exported declarations. -/
theorem exported_names_eq {symbols : List Symbol} {items : Listing .ofNamespace}
    (h : symbols.map Symbol.entry = items.entries none 1) :
    (symbols.filter (·.hasModifier .exported)).map (·.name) = items.exported.map Name.word := by
  rw [← items.exported_entries none 1, ← h, List.filter_map, List.map_map]
  rfl

end Symbols

section Exports

variable (width blanks : Nat) (items : Listing .ofNamespace)

/-- A scan of a printed module exports what its export lists, exported declarations and exports by
assignment give, sorted by offset. -/
theorem scan_exports_print : ∃ module lists declarations assigns,
    Module.scan? (items.print width blanks) = some module ∧
      Module.exportLists? (items.print width blanks) = some lists ∧
      Module.exportDeclarations? (items.print width blanks) = some declarations ∧
      Module.exportAssigns? (items.print width blanks) = some assigns ∧
      module.exports = ((lists.exports ++ declarations.exports ++ assigns.exports).mergeSort
        fun a b => a.1 ≤ b.1).map (·.2) := by
  have hquote : IsUnquoted (Text.mask .comments (items.print width blanks)) := by
    rw [mask_print]
    exact items.print_unquoted width blanks
  obtain ⟨module, lists, defaults, declarations, assigns, hmodule, hlists, hdefaults, hdeclarations,
    hassigns, hexports⟩ := Module.exports_of_unquoted hquote
  rw [mask_print] at hlists hdefaults hdeclarations hassigns
  have hnone : Module.exportDefaults? (items.print width blanks) = some {} :=
    Module.read_nothing (search_default_print width blanks items)
  obtain rfl := Option.some.inj (hdefaults.symm.trans hnone)
  exact ⟨module, lists, declarations, assigns, hmodule, hlists, hdeclarations, hassigns, by
    rw [hexports, List.append_nil]⟩

/-- What a scan of a printed module exports is its own. It has the names of the exported declarations just
if the module is clean, and otherwise more of them. -/
theorem scan_names_print : ∃ module, Module.scan? (items.print width blanks) = some module ∧
    (∀ entry ∈ module.exports, entry.isReExport = false) ∧
    (items.IsClean → module.exports.map (·.name) = items.exported.map Name.word) ∧
    items.exported.length ≤ module.exports.length ∧
    (module.exports.length = items.exported.length → items.IsClean) := by
  have hquote := items.print_unquoted width blanks
  obtain ⟨module, lists, declarations, assigns, hmodule, hlists, hdeclarations, hassigns, hexports⟩ :=
    scan_exports_print width blanks items
  obtain ⟨hnames, hdeclared, hsorted⟩ := declarations_print width blanks items hdeclarations
  obtain ⟨hlisted, hbare⟩ := Module.lists_unquoted hquote hlists
  obtain ⟨hassigned, hnone⟩ := Module.assigns_local hassigns
  have hlength : module.exports.length =
      lists.exports.length + items.exported.length + assigns.exports.length := by
    have hdeclarations := congrArg List.length hnames
    rw [List.length_map, List.length_map] at hdeclarations
    rw [hexports, List.length_map, List.length_mergeSort, List.length_append, List.length_append,
      hdeclarations]
  refine ⟨module, hmodule, ?_, ?_, by omega, ?_⟩
  · intro entry hentry
    rw [hexports] at hentry
    obtain ⟨found, hfound, rfl⟩ := List.mem_map.mp hentry
    rcases List.mem_append.mp (List.mem_mergeSort.mp hfound) with hfront | hassign
    · exact (List.mem_append.mp hfront).elim (hlisted found) (hdeclared found)
    · exact hassigned found hassign
  · intro hclean
    rw [hexports, hbare.mpr (search_list_print width blanks hclean),
      hnone.mpr (search_assign_print width blanks hclean), List.nil_append, List.append_nil,
      List.mergeSort_of_pairwise (by simpa using hsorted), ← hnames, List.map_map]
    rfl
  · intro heq
    by_contra hunclean
    rcases found_of_misread hquote (misread_print width blanks hunclean) with
      hassign | ⟨found, hfound, hitems⟩
    · exact hassign (hnone.mp (List.eq_nil_of_length_eq_zero (by omega)))
    · exact hitems (hbare.mp (List.eq_nil_of_length_eq_zero (by omega)) found hfound)

end Exports

/-- A scan of a printed module and its symbols agree on what is exported at all if no name of the module
is misread. They agree on the top-level exports just if, besides, nothing is exported from a
namespace. -/
theorem exports_print (path : Path) (width blanks : Nat) (items : Listing .ofNamespace) :
    ∃ symbols module, SymbolParser.ofLines.parse path (items.print width blanks) = .ok symbols ∧
      Module.scan? (items.print width blanks) = some module ∧
      (items.IsClean → (module.exports.filter (!·.isReExport)).map (·.name) =
        (symbols.filter (·.hasModifier .exported)).map (·.name)) ∧
      ((module.exports.filter (!·.isReExport)).map (·.name) =
          (symbols.filter (·.isTopLevelExport)).map (·.name) ↔
        items.IsClean ∧ ∀ symbol ∈ symbols, symbol.hasModifier .exported = true →
          symbol.containerName = none) := by
  obtain ⟨symbols, hscan, hentries⟩ := symbols_print path width blanks items
  obtain ⟨module, hmodule, hlocal, hclean, hle, hlength⟩ := scan_names_print width blanks items
  have hown : module.exports.filter (!·.isReExport) = module.exports :=
    List.filter_eq_self.mpr fun entry hentry => by rw [hlocal entry hentry]; rfl
  have hexported := exported_names_eq hentries
  refine ⟨symbols, module, by simp [SymbolParser.ofLines, hscan], hmodule, fun h => ?_, ?_⟩
  · rw [hown, hclean h, hexported]
  · rw [hown]
    constructor
    · -- There are as many names as exported declarations, so nothing is misread or in a container.
      intro heq
      have hnames := congrArg List.length heq
      have hcount := congrArg List.length hexported
      have houter : (symbols.filter (·.isTopLevelExport)).Sublist
          (symbols.filter (·.hasModifier .exported)) :=
        top_level_exports_eq symbols ▸ List.filter_sublist
      have hfewer := houter.length_le
      simp only [List.length_map] at hnames hcount
      exact ⟨hlength (by omega),
        (top_level_exports_eq_iff symbols).mp (houter.eq_of_length (by omega))⟩
    · rintro ⟨h, houter⟩
      rw [hclean h, (top_level_exports_eq_iff symbols).mpr houter, hexported]

/-- A constant exported from a namespace is an export for a scan of the module, and no top-level export
for the parser of its symbols. -/
theorem namespace_export_not_top_level :
    let items : Listing .ofNamespace := .block false .ofNamespace { text := ['N'] }
      (.statement true .constant { text := ['x'] } .nil) .nil
    items.print 2 1 = "namespace N \x7b\n  export const x = 1;\n\x7d\n".toList ∧
      ∃ symbols module, SymbolParser.ofLines.parse ⟨"a.ts"⟩ (items.print 2 1) = .ok symbols ∧
        Module.scan? (items.print 2 1) = some module ∧
        (module.exports.filter (!·.isReExport)).map (·.name) = ["x"] ∧
        (symbols.filter (·.isTopLevelExport)).map (·.name) = [] := by
  intro items
  let line (number column last : Nat) : Location :=
    { path := ⟨"a.ts"⟩, startLine := number, endLine := last, column := some column }
  let outer : Symbol := {
    name := "N", kind := .namespaceDef, location := line 1 11 3, details := some "namespace N" }
  let constant : Symbol := {
    name := "x", kind := .constant, location := line 2 16 2, containerName := some "N"
    modifiers := [.exported], details := some "export const x = 1" }
  have hscan : scan? ⟨"a.ts"⟩ (items.print 2 1) = some [outer, constant] := by decide +kernel
  have hmodule : Module.scan? (items.print 2 1) =
      some { exports := [{ name := "x" }] } := by
    decide +kernel
  exact ⟨by decide +kernel, [outer, constant], _, by simp [SymbolParser.ofLines, hscan], hmodule,
    by decide +kernel, by decide +kernel⟩

end CodeAtlas.Declaration
