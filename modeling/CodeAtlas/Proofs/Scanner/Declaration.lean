import CodeAtlas.Proofs.Scanner.Line

/-!
# Reading declarations does not fail

Line by line, the scan reads what a line declares, and every symbol is made where `Source.Made` says
(`scan_made`). In the end the exports that are listed elsewhere are marked, which changes modifiers and
nothing else (`apply_exports_remarks`). So a scan of any text gives symbols, each of which starts on a
line of it (`scan_yields`).
-/

namespace CodeAtlas.Declaration

open Text (StandsAt SameLayout)

/-- A symbol starts on a line of a text. -/
def StartsIn (content : Text) (symbol : Symbol) : Prop :=
  0 < symbol.location.startLine ∧ symbol.location.startLine ≤ (Text.lines content).length

/-- A text to scan, with what masking leaves of it. -/
def Source.of (path : Path) (content : Text) : Source :=
  { path, content, masked := Text.mask .all content }

/-- A symbol is made at some offset. -/
def Source.Made (source : Source) (symbol : Symbol) : Prop :=
  ∃ offset stop container, source.Makes offset stop container symbol

/-- The same symbol, with other modifiers perhaps. -/
def IsRemarked (before after : Symbol) : Prop :=
  ∃ modifiers, after = { before with modifiers }

section Walk

variable {source : Source} {line : Text} {offset : Nat} {depth : Int} {container : Option String}
  {contribution : Contribution}

/-- Every symbol that a line adds is made at some offset. -/
theorem Source.Adds.made (h : source.Adds line offset depth container contribution) :
    ∀ symbol ∈ contribution.symbols, source.Made symbol := by
  have hin : ∀ {start length symbol}, source.MakesIn start length container symbol →
      source.Made symbol := by
    rintro start length symbol ⟨at', stop, -, -, hmakes⟩
    exact ⟨at', stop, container, hmakes⟩
  cases h with
  | names hsymbols => exact fun symbol hsymbol => hin (hsymbols symbol hsymbol)
  | body _ hsymbol _ =>
      intro symbol hmem
      exact List.mem_singleton.mp hmem ▸ ⟨_, _, _, hsymbol⟩
  | «variables» _ _ hsymbols => exact fun symbol hsymbol => hin (hsymbols symbol hsymbol)
  | constructor _ _ hsymbol _ _ hparameters =>
      refine List.forall_mem_cons.mpr ⟨⟨_, _, _, hsymbol⟩, fun parameter hparameter => ?_⟩
      obtain ⟨-, at', -, -, hmakes⟩ := hparameters parameter hparameter
      exact ⟨at', at', _, hmakes⟩

/-- Lines that stand where the scan takes them to be are read. -/
theorem read_lines_yields (layout : SameLayout source.content source.masked) {frames : List Frame}
    {number : Nat} {lines : List Text}
    (hlines : ∀ entry ∈ Text.withOffsets offset lines, StandsAt source.masked entry.1 entry.2) :
    Yields (fun contributions => ∀ contribution ∈ contributions,
        ∀ symbol ∈ contribution.symbols, source.Made symbol)
      (readLines? source frames number offset depth lines) := by
  induction lines generalizing frames number offset depth with
  | nil => exact yields_some (by simp)
  | cons line rest ih =>
      obtain ⟨hline, hrest⟩ := List.forall_mem_cons.mp hlines
      rw [readLines?]
      split
      · refine (contribution_yields layout hline).bind fun found hfound => ?_
        refine (ih hrest).bind fun later hlater => yields_pure ?_
        exact List.forall_mem_cons.mpr ⟨hfound.made, hlater⟩
      · refine (ih hrest).bind fun later hlater => yields_pure ?_
        exact List.forall_mem_cons.mpr ⟨nofun, hlater⟩

end Walk

section Exports

/-- What is the same but for modifiers stays so when modifiers change once more. -/
theorem IsRemarked.trans {first second third : Symbol} (h : IsRemarked first second)
    (hlater : IsRemarked second third) : IsRemarked first third := by
  obtain ⟨_, rfl⟩ := h
  obtain ⟨modifiers, rfl⟩ := hlater
  exact ⟨modifiers, rfl⟩

/-- Marking one export changes modifiers only. -/
theorem apply_export_remarks (listed : String × Bool) :
    ∃ remark : Symbol → Symbol, (∀ symbol, IsRemarked symbol (remark symbol)) ∧
      ∀ symbols, applyExport symbols listed = symbols.map remark := by
  refine ⟨_, fun symbol => ?_, fun symbols => rfl⟩
  split
  · split
    · exact ⟨_, rfl⟩
    · exact ⟨_, rfl⟩
  · exact ⟨symbol.modifiers, rfl⟩

/-- Marking exports changes modifiers only. -/
theorem apply_exports_remarks (exports : List (String × Bool)) :
    ∃ remark : Symbol → Symbol, (∀ symbol, IsRemarked symbol (remark symbol)) ∧
      ∀ symbols, exports.foldl applyExport symbols = symbols.map remark := by
  induction exports with
  | nil => exact ⟨id, fun symbol => ⟨symbol.modifiers, rfl⟩, fun symbols => by simp⟩
  | cons listed exports ih =>
      obtain ⟨first, hfirst, happly⟩ := apply_export_remarks listed
      obtain ⟨later, hlater, happlies⟩ := ih
      refine ⟨later ∘ first, fun symbol => (hfirst symbol).trans (hlater _), fun symbols => ?_⟩
      rw [List.foldl_cons, happly, happlies, List.map_map]

end Exports

/-- The lines of the masked text stand where the scan takes them to be. -/
theorem lines_stand (masked : Text) :
    ∀ entry ∈ Text.withOffsets 0 (Text.splitBy (· = '\n') masked),
      StandsAt masked entry.1 entry.2 := by
  have hfeed : '\n'.utf8Size = 1 := by decide
  intro entry hentry
  obtain ⟨inner, hoffset, hstands⟩ := Text.stands_at_of_mem_with_offsets hfeed hentry
  rw [Text.join_split_by] at hstands
  rw [hoffset, Nat.zero_add]
  exact hstands

/-- Every text has its symbols read, and each is made somewhere but for its modifiers. -/
theorem scan_made (path : Path) (content : Text) :
    Yields (fun symbols => ∀ symbol ∈ symbols, ∃ made, (Source.of path content).Made made ∧
      IsRemarked made symbol) (scan? path content) := by
  let source := Source.of path content
  have layout : SameLayout source.content source.masked := Text.mask_same_layout .all content
  refine (read_lines_yields layout (lines_stand _)).bind fun contributions hcontributions =>
    yields_pure ?_
  intro symbol hsymbol
  obtain ⟨remark, hremark, happly⟩ :=
    apply_exports_remarks (contributions.flatMap (·.exports))
  rw [happly] at hsymbol
  obtain ⟨made, hmem, rfl⟩ := List.mem_map.mp hsymbol
  obtain ⟨contribution, hcontribution, hmade⟩ := List.mem_flatMap.mp hmem
  exact ⟨made, hcontributions contribution hcontribution made hmade, hremark made⟩

/-- Every text has its symbols read, and each starts on one of its lines. -/
theorem scan_yields (path : Path) (content : Text) :
    Yields (fun symbols => ∀ symbol ∈ symbols, StartsIn content symbol) (scan? path content) := by
  refine (scan_made path content).imp fun symbols hsymbols symbol hsymbol => ?_
  obtain ⟨made, ⟨offset, stop, container, hmakes⟩, modifiers, rfl⟩ := hsymbols symbol hsymbol
  have hline := ((Text.mask_same_layout .all content).touches hmakes.touches).line_le
  rw [StartsIn, hmakes.start_eq]
  exact ⟨Nat.succ_pos _, hline⟩

end CodeAtlas.Declaration
