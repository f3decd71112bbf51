import CodeAtlas.Proofs.Scanner.Basic
import CodeAtlas.Heritage
import CodeAtlas.Module.Scan

/-!
# Reading modules and class headers does not fail

Module statements are cut out where their patterns say, so nothing is left to show but which groups
each pattern records (`Module.scan_yields`). A class header is cut at its `extends` and `implements`
keywords, which are found byte by byte: as whole words they stand at boundaries and do not overlap
(`Heritage.keyword_apart`), so each clause ends after it starts (`Heritage.clause_yields`).
-/

namespace CodeAtlas

open Pattern (Match)
open Text (IsBoundary SameLayout byteLength)

namespace Module

/-- What every match of a pattern gives is read. -/
theorem read_all_yields {pattern : Pattern} {text : Text} {read? : Match → Option Findings}
    (h : ∀ found : Match, found.IsIn pattern text → Yields (fun _ => True) (read? found)) :
    Yields (fun _ => True) (readAll? pattern text read?) := by
  have hmatches : Yields (fun _ => True) ((pattern.searchAll text).mapM read?) :=
    (yields_map_m fun found hfound => h found (Pattern.search_all_is_in hfound)).imp
      fun _ _ => trivial
  obtain ⟨findings, hfindings, -⟩ := hmatches
  rw [readAll?, hfindings]
  exact yields_some trivial

section Statements

variable {pattern : Pattern} {text : Text} {found : Match} {number : Nat}

/-- What is made of a group that every match records is given. -/
theorem group_yields {α : Type} {next : Text → Option α} (h : found.IsIn pattern text)
    (hrecords : pattern.records number = true)
    (hnext : ∀ part, Yields (fun _ => True) (next part)) :
    Yields (fun _ => True) (found.text? text number >>= next) := by
  obtain ⟨part, hpart⟩ := h.exists_text hrecords
  exact yields_bind_of_eq hpart (hnext part)

/-- What is made of the string of a group that every match records is given. -/
theorem group_text_yields {α : Type} {next : String → Option α} (h : found.IsIn pattern text)
    (hrecords : pattern.records number = true)
    (hnext : ∀ part, Yields (fun _ => True) (next part)) :
    Yields (fun _ => True) (groupText? text found number >>= next) := by
  obtain ⟨part, hpart⟩ := h.exists_text hrecords
  have hstring : groupText? text found number = some (String.ofList part) := by
    rw [groupText?, hpart]
    rfl
  exact yields_bind_of_eq hstring (hnext _)

/-- A match ends at a boundary. -/
theorem stop_boundary (h : found.IsIn pattern text) : IsBoundary text found.stop := by
  obtain ⟨read, hread, hstop, -⟩ := h
  exact hstop ▸ hread.stop_boundary

/-- The names of a declaration are read. -/
theorem declared_names_yields (keyword rest : Text) :
    Yields (fun _ => True) (declaredNames? keyword rest) := by
  unfold declaredNames?
  refine yields_ite (fun _ => yields_some trivial) fun _ => ?_
  split
  · next found hfound =>
      have hstop := stop_boundary (Pattern.match_start_is_in hfound).1
      obtain ⟨name, hname⟩ := Option.isSome_iff_exists.mp (Text.take_bytes_is_some_iff.mpr hstop)
      rw [hname]
      exact yields_some trivial
  · exact yields_some trivial

/-- Exported declarations are read. -/
theorem export_declarations_yields (skeleton : Text) :
    Yields (fun _ => True) (exportDeclarations? skeleton) :=
  read_all_yields fun found hfound => group_yields hfound (by decide) fun keyword => by
    have hrest := Text.drop_bytes_is_some_iff.mpr (stop_boundary hfound)
    exact (yields_of_is_some hrest).bind fun rest _ =>
      (declared_names_yields _ rest).bind fun _ _ => yields_pure trivial

/-- Every import and export of every text is read. -/
theorem scan_yields (content : Text) : Yields (fun _ => True) (scan? content) := by
  unfold scan?
  refine (read_all_yields fun found hfound => group_yields hfound (by decide) fun _ =>
    group_text_yields hfound (by decide) fun _ => yields_pure trivial).bind fun froms _ => ?_
  refine (read_all_yields fun found hfound => group_text_yields hfound (by decide) fun _ =>
    yields_pure trivial).bind fun sideEffects _ => ?_
  refine (read_all_yields fun found hfound => group_text_yields hfound (by decide) fun _ =>
    group_text_yields hfound (by decide) fun _ => yields_pure trivial).bind fun assigned _ => ?_
  refine (read_all_yields fun found hfound => group_yields hfound (by decide) fun _ =>
    group_text_yields hfound (by decide) fun _ => yields_pure trivial).bind fun bound _ => ?_
  refine (read_all_yields fun found hfound => group_text_yields hfound (by decide) fun _ =>
    yields_ite (fun _ => yields_pure trivial) fun _ => yields_pure trivial).bind fun bare _ => ?_
  refine (read_all_yields fun found hfound => group_text_yields hfound (by decide) fun _ =>
    yields_pure trivial).bind fun calls _ => ?_
  refine (read_all_yields fun found hfound => group_text_yields hfound (by decide) fun _ =>
    yields_pure trivial).bind fun stars _ => ?_
  refine (read_all_yields fun found hfound => group_yields hfound (by decide) fun _ =>
    yields_pure trivial).bind fun lists _ => ?_
  refine (read_all_yields fun found hfound => yields_some trivial).bind fun defaults _ => ?_
  refine (export_declarations_yields _).bind fun declarations _ => ?_
  refine (read_all_yields fun found hfound => group_text_yields hfound (by decide) fun _ =>
    yields_pure trivial).bind fun assigns _ => yields_pure trivial

end Statements

end Module

namespace Heritage

section Keyword

variable {keyword : List UInt8} {before : Option UInt8} {index : Nat} {depth : Int}

/-- The byte before index `i` of bytes that follow the byte `before`. -/
def byteBefore (before : Option UInt8) (bytes : List UInt8) : Nat → Option UInt8
  | 0 => before
  | i + 1 => bytes[i]?

/-- A keyword that is found stands there, and the byte before it is not part of an identifier. -/
theorem keyword_from_eq_some {bytes : List UInt8} {found : Nat}
    (h : keywordFrom? keyword before index depth bytes = some found) :
    ∃ inner, found = index + inner ∧ keyword <+: bytes.drop inner ∧
      (byteBefore before bytes inner).any isIdentByte = false := by
  induction bytes generalizing before index depth with
  | nil => simp [keywordFrom?] at h
  | cons b rest ih =>
      have hlater : ∀ depth, keywordFrom? keyword (some b) (index + 1) depth rest = some found →
          ∃ inner, found = index + inner ∧ keyword <+: (b :: rest).drop inner ∧
            (byteBefore before (b :: rest) inner).any isIdentByte = false := by
        intro depth hrest
        obtain ⟨inner, hfound, hkeyword, hbefore⟩ := ih hrest
        refine ⟨inner + 1, by omega, hkeyword, ?_⟩
        cases inner with
        | zero => exact hbefore
        | succ n => exact hbefore
      rw [keywordFrom?] at h
      split at h
      · exact hlater _ h
      · split at h
        · exact hlater _ h
        · split at h
          · next hword =>
              simp only [isWholeWord, Bool.and_eq_true, Bool.not_eq_true'] at hword
              exact ⟨0, (Option.some.inj h).symm, List.isPrefixOf_iff_prefix.mp hword.2.1.1,
                hword.2.1.2⟩
          · exact hlater _ h

/-- A keyword that stands in bytes has its bytes there. -/
theorem byte_of_keyword {bytes : List UInt8} {start : Nat} (h : keyword <+: bytes.drop start)
    {i : Nat} (hi : i < keyword.length) : bytes[start + i]? = some keyword[i] := by
  obtain ⟨rest, hrest⟩ := h
  have hget : (bytes.drop start)[i]? = some keyword[i] := by
    rw [← hrest, List.getElem?_append_left hi, List.getElem?_eq_getElem hi]
  rwa [List.getElem?_drop] at hget

end Keyword

/-- A keyword that clauses start with: identifier bytes below 128. -/
structure IsKeyword (keyword : String) : Prop where
  ne_nil : Text.bytes keyword.toList ≠ []
  ascii : ∀ byte ∈ Text.bytes keyword.toList, byte.toNat < 128 ∧ isIdentByte byte = true

/-- Whether a text is a keyword can be tested byte by byte. -/
theorem is_keyword_of_all {keyword : String} (hne : Text.bytes keyword.toList ≠ [])
    (hall : (Text.bytes keyword.toList).all
      (fun byte => byte.toNat < 128 && isIdentByte byte) = true) : IsKeyword keyword where
  ne_nil := hne
  ascii := fun byte hbyte => by simpa using List.all_eq_true.mp hall byte hbyte

section Clause

variable {keyword other : String} {header : Text} {start stop : Nat}

/-- Each byte of a keyword that stands in a text is a character between boundaries. -/
theorem boundaries_of_keyword (hkeyword : IsKeyword keyword)
    (h : Text.bytes keyword.toList <+: (Text.bytes header).drop start) {i : Nat}
    (hi : i < (Text.bytes keyword.toList).length) :
    IsBoundary header (start + i) ∧ IsBoundary header (start + i + 1) := by
  have hascii := (hkeyword.ascii _ (List.getElem_mem hi)).1
  obtain ⟨hstands, hsize⟩ := Text.stands_at_of_byte (byte_of_keyword h hi) hascii
  have hstop := hstands.stop_boundary
  rw [byteLength, byteLength, hsize] at hstop
  exact ⟨hstands.start_boundary, hstop⟩

/-- A keyword that is found starts and ends at boundaries. -/
theorem keyword_boundaries (hkeyword : IsKeyword keyword)
    (h : keywordAtTopLevel? header keyword = some start) :
    IsBoundary header start ∧ IsBoundary header (start + (Text.bytes keyword.toList).length) := by
  obtain ⟨inner, hinner, hbytes, -⟩ := keyword_from_eq_some h
  rw [Nat.zero_add] at hinner
  subst hinner
  have hpos := List.length_pos_iff.mpr hkeyword.ne_nil
  have hfirst := (boundaries_of_keyword hkeyword hbytes hpos).1
  have hlast := (boundaries_of_keyword hkeyword hbytes (Nat.sub_one_lt_of_lt hpos)).2
  have hend : start + ((Text.bytes keyword.toList).length - 1) + 1 =
      start + (Text.bytes keyword.toList).length := by
    omega
  exact ⟨hfirst, hend ▸ hlast⟩

/-- A keyword that is found further on than another starts after it ends: no whole word starts
inside another one. -/
theorem keyword_apart (hkeyword : IsKeyword keyword)
    (hstart : keywordAtTopLevel? header keyword = some start)
    (hstop : keywordAtTopLevel? header other = some stop) (hlt : start < stop) :
    start + (Text.bytes keyword.toList).length ≤ stop := by
  obtain ⟨inner, hinner, hbytes, -⟩ := keyword_from_eq_some hstart
  obtain ⟨inner', hinner', -, hbefore⟩ := keyword_from_eq_some hstop
  rw [Nat.zero_add] at hinner hinner'
  subst hinner hinner'
  by_contra hover
  obtain ⟨i, rfl⟩ := Nat.exists_eq_add_of_lt hlt
  have hi : i < (Text.bytes keyword.toList).length := by omega
  have hbyte : byteBefore none (Text.bytes header) (start + i + 1) =
      some (Text.bytes keyword.toList)[i] := byte_of_keyword hbytes hi
  rw [hbyte, Option.any_some, (hkeyword.ascii _ (List.getElem_mem hi)).2] at hbefore
  cases hbefore

/-- A clause is cut out between boundaries in order. -/
theorem clause_yields (hkeyword : IsKeyword keyword) (hother : IsKeyword other) {length : Nat}
    (hlength : (Text.bytes keyword.toList).length = length) :
    Yields (fun _ => True) (clause? header (keywordAtTopLevel? header keyword) length
      (keywordAtTopLevel? header other)) := by
  unfold clause?
  split
  · exact yields_some trivial
  · next start hstart =>
      obtain ⟨-, hlast⟩ := keyword_boundaries hkeyword hstart
      rw [hlength] at hlast
      have hcut : ∀ stop, start + length ≤ stop → IsBoundary header stop →
          Yields (fun _ => True) ((Text.slice? header (start + length) stop).map typeNames) := by
        intro stop hle hstop
        obtain ⟨part, hpart⟩ := Option.isSome_iff_exists.mp
          (Text.slice_is_some_iff.mpr ⟨hle, hlast, hstop⟩)
        rw [hpart]
        exact yields_some trivial
      have hwhole := hcut (byteLength header) hlast.le_byte_length
        (Text.is_boundary_byte_length header)
      cases hfound : keywordAtTopLevel? header other with
      | none => exact hwhole
      | some stop =>
          dsimp only
          split
          · next hlt =>
              have hapart := keyword_apart hkeyword hstart hfound hlt
              exact hcut stop (hlength ▸ hapart) (keyword_boundaries hother hfound).1
          · exact hwhole

end Clause

/-- The keyword of the classes that a header extends. -/
theorem extends_is_keyword : IsKeyword "extends" :=
  is_keyword_of_all (by decide) (by decide)

/-- The keyword of the interfaces that a header implements. -/
theorem implements_is_keyword : IsKeyword "implements" :=
  is_keyword_of_all (by decide) (by decide)

/-- The clauses of a header start at a boundary. -/
theorem header_start_yields {masked : Text} {nameEnd : Nat} (h : IsBoundary masked nameEnd) :
    Yields (IsBoundary masked) (headerStart? masked nameEnd) := by
  refine (yields_of_is_some (Text.drop_bytes_is_some_iff.mpr h)).bind fun rest _ => ?_
  refine yields_ite (fun _ => yields_pure ?_) fun _ => yields_pure h
  split
  · next close hclose =>
      obtain ⟨opener, closer, hpair, -, hcloser, -⟩ := Text.matching_delimiter_eq_some hclose
      have hstop := hcloser.stop_boundary
      rwa [byteLength, byteLength, (Text.bracket_of_mem hpair).2.1] at hstop
  · exact h

/-- The header of a match is read. -/
theorem header_yields {content masked : Text} (layout : SameLayout content masked) {found : Match}
    (h : found.IsIn headerPattern masked) : Yields (fun _ => True) (header? content masked found) := by
  obtain ⟨keywordStart, keywordStop, hkeyword⟩ := h.exists_group
    (show headerPattern.records 1 = true by decide)
  obtain ⟨keyword, hkeywordText, hkeywordAt, -⟩ := h.of_group hkeyword
  obtain ⟨nameStart, nameEnd, name, hname, hnameText, hnameAt, hsolid, hend⟩ :=
    h.exists_solid (show (headerPattern.records 2 && headerPattern.solidGroup 2) = true by decide)
  have hbefore := Text.take_bytes_is_some_iff.mpr hkeywordAt.start_boundary
  unfold header?
  refine yields_bind_of_eq hkeyword (yields_bind_of_eq hname ?_)
  refine yields_bind_of_eq hkeywordText (yields_bind_of_eq hnameText ?_)
  refine (yields_of_is_some hbefore).bind fun before _ => ?_
  refine yields_ite (fun _ => yields_pure trivial) fun _ => ?_
  refine yields_ite (fun _ => yields_pure trivial) fun _ => ?_
  refine (header_start_yields (hend ▸ hnameAt.stop_boundary)).bind fun start hstart => ?_
  refine (yields_of_is_some (Text.drop_bytes_is_some_iff.mpr hstart)).bind fun rest _ => ?_
  refine yields_ite (fun _ => yields_pure trivial) fun _ => ?_
  refine (clause_yields extends_is_keyword implements_is_keyword rfl).bind fun bases _ => ?_
  refine (clause_yields implements_is_keyword extends_is_keyword rfl).bind fun interfaces _ => ?_
  have hcolumn : (Text.columnAt? content nameStart).isSome := by
    have hboundary := (layout.touches (hsolid.touches_start hnameAt)).is_boundary
    rw [Text.columnAt?, Option.isSome_map, Text.take_bytes_is_some_iff,
      Nat.min_eq_left hboundary.le_byte_length]
    exact hboundary
  exact (yields_of_is_some hcolumn).bind fun _ _ => yields_pure trivial

/-- Every class header of every text is read. -/
theorem scan_is_some (content : Text) : (scan? content).isSome := by
  have layout := Text.mask_same_layout .all content
  rw [scan?, Option.isSome_map]
  have hheaders : ∀ found ∈ headerPattern.searchAll (Text.mask .all content),
      Yields (fun _ => True) (header? content (Text.mask .all content) found) :=
    fun found hfound => header_yields layout (Pattern.search_all_is_in hfound)
  exact (yields_map_m hheaders).is_some

end Heritage

end CodeAtlas
