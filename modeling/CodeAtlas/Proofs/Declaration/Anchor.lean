import CodeAtlas.Proofs.Scanner.Declaration
import CodeAtlas.Symbol.Parser

/-!
# Where symbols are anchored

The offset at which a symbol is made is found in the masked text by adding up the lengths of parts of
parts, and then read as a line and a column of the source. What stands there is the symbol's name
(`Source.Makes.name_stands`), so the line goes on with the name from the column on: `parse_anchored`.
-/

namespace CodeAtlas.Declaration

open Text (StandsAt SameLayout splitBy)

section Made

variable {source : Source} (layout : SameLayout source.content source.masked) {offset stop : Nat}
  {container : Option String} {symbol : Symbol}

/-- A symbol starts and ends on lines of the source, in this order. -/
theorem Source.Makes.lines (h : source.Makes offset stop container symbol) :
    1 ≤ symbol.location.startLine ∧ symbol.location.startLine ≤ symbol.location.endLine ∧
      symbol.location.endLine ≤ (splitBy (· = '\n') source.content).length := by
  rw [h.start_eq, h.end_eq, Text.length_split_by]
  exact ⟨Nat.succ_pos _, Nat.le_max_right _ _, Nat.max_le.mpr
    ⟨Text.line_of_offset_le _ _, Text.line_of_offset_le _ _⟩⟩

include layout

/-- The name of a symbol that has one stands in the source where the symbol is made. -/
theorem Source.Makes.name_stands (h : source.Makes offset stop container symbol)
    (hname : symbol.name ≠ "default") :
    StandsAt source.content offset symbol.name.toList ∧ '\n' ∉ symbol.name.toList := by
  obtain ⟨hstands, hne, hspace, hfeed⟩ := h.named.resolve_left hname
  exact ⟨layout.part_stands_at hspace hstands hne, hfeed⟩

/-- The line of a symbol goes on with its name from its column on. -/
theorem Source.Makes.anchored (h : source.Makes offset stop container symbol)
    (hname : symbol.name ≠ "default") :
    ∃ column line, symbol.location.column = some column ∧ 1 ≤ column ∧
      (splitBy (· = '\n') source.content)[symbol.location.startLine - 1]? = some line ∧
      symbol.name.toList <+: line.drop (column - 1) := by
  obtain ⟨hstands, hfeed⟩ := h.name_stands layout hname
  obtain ⟨line, hline, hbegins⟩ := Text.row_of_part hstands hfeed
  rw [h.start_eq]
  exact ⟨_, line, h.column_eq, Nat.succ_pos _, hline, hbegins⟩

end Made

/-- Anchors are exact. Every text is read, and each symbol that is not a default without a name starts
and ends on lines of it, in this order, where lines are the parts between line feeds; the line where it
starts goes on with its name from its column on, which counts characters from one. -/
theorem parse_anchored (path : Path) (content : Text) :
    ∃ symbols, SymbolParser.ofLines.parse path content = .ok symbols ∧
      ∀ symbol ∈ symbols, symbol.name ≠ "default" →
        1 ≤ symbol.location.startLine ∧ symbol.location.startLine ≤ symbol.location.endLine ∧
        symbol.location.endLine ≤ (splitBy (· = '\n') content).length ∧
        ∃ column line, symbol.location.column = some column ∧ 1 ≤ column ∧
          (splitBy (· = '\n') content)[symbol.location.startLine - 1]? = some line ∧
          symbol.name.toList <+: line.drop (column - 1) := by
  obtain ⟨symbols, hscan, hsymbols⟩ := scan_made path content
  refine ⟨symbols, by simp [SymbolParser.ofLines, hscan], fun symbol hsymbol hname => ?_⟩
  obtain ⟨made, ⟨offset, stop, container, hmakes⟩, modifiers, rfl⟩ := hsymbols symbol hsymbol
  obtain ⟨hfirst, hlast, hle⟩ := hmakes.lines
  exact ⟨hfirst, hlast, hle, hmakes.anchored (Text.mask_same_layout .all content) hname⟩

/-- A class behind a comment with letters of two bytes: its name stands at the thirteenth character of
the second line. -/
theorem parse_anchored_wide_letters :
    let content := "\n/*éé*/class C \x7b\n\x7d\n".toList
    let symbol : Symbol := {
      name := "C", kind := .classDef, details := some "/*éé*/class C"
      location := { path := ⟨"a.ts"⟩, startLine := 2, endLine := 3, column := some 13 } }
    SymbolParser.ofLines.parse ⟨"a.ts"⟩ content = .ok [symbol] ∧ symbol.name ≠ "default" ∧
      symbol.location.endLine ≤ (splitBy (· = '\n') content).length ∧
      ∃ line, (splitBy (· = '\n') content)[symbol.location.startLine - 1]? = some line ∧
        symbol.name.toList <+: line.drop 12 := by
  intro content symbol
  have hscan : scan? ⟨"a.ts"⟩ content = some [symbol] := by decide +kernel
  have hparse : SymbolParser.ofLines.parse ⟨"a.ts"⟩ content = .ok [symbol] := by
    simp [SymbolParser.ofLines, hscan]
  have hname : symbol.name ≠ "default" := by decide
  obtain ⟨symbols, hsymbols, hanchored⟩ := parse_anchored ⟨"a.ts"⟩ content
  obtain rfl := Except.ok.inj (hparse.symm.trans hsymbols)
  obtain ⟨-, -, hend, column, line, hcolumn, -, hline, hbegins⟩ :=
    hanchored symbol List.mem_cons_self hname
  obtain rfl := Option.some.inj hcolumn
  exact ⟨hparse, hname, hend, line, hline, hbegins⟩

end CodeAtlas.Declaration
