import CodeAtlas.Proofs.Declaration.Body
import CodeAtlas.Proofs.Declaration.Layout
import CodeAtlas.Proofs.Text.Literal

/-!
# Printing a module and reading its symbols

Reading the symbols of a printed module gives back what it declares (`parse_print`). One line leads
from the rows above it to those with it (`read_row`). A listing is read in the innermost declaration
that is open (`Stands`), and the induction over it carries that declarations which have ended may
still lie on the stack above that one: they are dropped when the next line is read.
-/

namespace CodeAtlas.Declaration

open Text (byteLength Nested AreRows ended continued join)

section Reading

variable {kind : FrameKind} {path : Path} {above below : List Text} {row : Text} {frame : Frame}
  {stale opened : List Frame} {depth : Int} {last : Nat} {container : Option String}
  {width indent : Nat}

/-- Read the rows below others, given the open declarations and the depth between them. -/
def readBelow? (path : Path) (above below : List Text) (frames : List Frame) (depth : Int) :
    Option (List Contribution) :=
  readLines? (Source.ofRows path (above ++ below)) frames (above.length + 1)
    (byteLength (ended above)) depth below

/-- Reading starts with lines that declare the given entries and export nothing else, and goes on
from there. -/
def Leads (entries : List Entry) (start next : Option (List Contribution)) : Prop :=
  ∃ found : List Contribution, (found.flatMap (·.symbols)).map Symbol.entry = entries ∧
    found.flatMap (·.exports) = [] ∧ start = next.map (found ++ ·)

/-- Reading starts with no line. -/
theorem Leads.refl (start : Option (List Contribution)) : Leads [] start start :=
  ⟨[], rfl, rfl, Option.map_id'.symm⟩

/-- Reading starts with some lines and then with others. -/
theorem Leads.trans {front back : List Entry} {start middle next : Option (List Contribution)}
    (hfront : Leads front start middle) (hback : Leads back middle next) :
    Leads (front ++ back) start next := by
  obtain ⟨early, rfl, hearly, rfl⟩ := hfront
  obtain ⟨late, rfl, hlate, rfl⟩ := hback
  refine ⟨early ++ late, by rw [List.flatMap_append, List.map_append],
    by rw [List.flatMap_append, hearly, hlate, List.append_nil], ?_⟩
  cases next with
  | none => rfl
  | some rest => simp only [Option.map_some, List.append_assoc]

/-- The declarations that end above are no longer open, those around the next line still are. -/
theorem drop_ended (hstale : ∀ frame ∈ stale, frame.endLine ≤ above.length)
    (hopened : ∀ frame, opened.head? = some frame → above.length < frame.endLine) :
    (stale ++ opened).dropWhile (·.endLine < above.length + 1) = opened := by
  have hdrop : stale.dropWhile (·.endLine < above.length + 1) = [] := by
    refine List.dropWhile_eq_nil_iff.mpr fun frame hframe => decide_eq_true ?_
    exact Nat.lt_succ_of_le (hstale frame hframe)
  rw [List.dropWhile_append, hdrop, List.isEmpty_nil, if_pos rfl]
  cases opened with
  | nil => rfl
  | cons frame opened =>
      have hopen := hopened frame rfl
      rw [List.dropWhile_cons, if_neg (by rw [decide_eq_true_eq]; omega)]

/-- Reading goes on behind a line at the depth of the innermost open declaration. -/
theorem read_row {entries : List Entry} {opens : Option Frame}
    (hstale : ∀ frame ∈ stale, frame.endLine ≤ above.length)
    (hopened : ∀ frame, opened.head? = some frame → above.length < frame.endLine)
    (hdepth : depth = (opened.head?.map (·.bodyDepth)).getD 0)
    (htells : Tells (contribution? (Source.ofRows path (above ++ row :: below)) row
      (byteLength (ended above)) depth opened.head?) entries opens) :
    Leads entries (readBelow? path above (row :: below) (stale ++ opened) depth)
      (readBelow? path (above ++ [row]) below (opens.toList ++ opened) (depthAfter depth row)) := by
  obtain ⟨found, hfound, hentries, hexports, rfl⟩ := htells
  have hlength : byteLength (ended (above ++ [row])) =
      byteLength (ended above) + byteLength row + 1 := by
    rw [Text.ended_append, Text.ended_singleton, Text.byte_length_append, Text.byte_length_append,
      Nat.add_assoc]
    rfl
  refine ⟨[found], by rw [List.flatMap_singleton, hentries],
    by rw [List.flatMap_singleton, hexports], ?_⟩
  rw [readBelow?, readLines?]
  simp only [drop_ended hstale hopened, if_pos hdepth, hfound, Option.bind_eq_bind,
    Option.bind_some]
  rw [readBelow?, hlength, List.length_append, List.length_singleton, List.append_assoc,
    List.singleton_append]
  cases readLines? _ _ _ _ _ below <;> rfl

/-- A body of the given kind is read in the innermost open declaration, its members at the given
depth, and does not end with line `last`; outside of all bodies there are statements. -/
def Stands (kind : FrameKind) (container : Option String) (depth : Int) (last : Nat) :
    List Frame → Prop
  | [] => kind = .ofNamespace ∧ container = none ∧ depth = 0
  | frame :: _ => frame.kind = kind ∧ container = some frame.name ∧ depth = frame.bodyDepth ∧
      last < frame.endLine

namespace Stands

/-- The members of a body stand at its depth. -/
theorem depth_eq (h : Stands kind container depth last opened) :
    depth = (opened.head?.map (·.bodyDepth)).getD 0 := by
  cases opened with
  | nil => exact h.2.2
  | cons frame opened => exact h.2.2.1

/-- The innermost open declaration does not end before the body. -/
theorem lt_end_line (h : Stands kind container depth last opened) :
    ∀ frame, opened.head? = some frame → last < frame.endLine := by
  intro frame hframe
  cases opened with
  | nil => cases hframe
  | cons first opened =>
      obtain rfl := Option.some.inj hframe
      exact h.2.2.2

/-- A body that ends behind a line ends behind those above it. -/
theorem mono (h : Stands kind container depth last opened) {number : Nat} (hnumber : number ≤ last) :
    Stands kind container depth number opened := by
  cases opened with
  | nil => exact h
  | cons frame opened =>
      exact ⟨h.1, h.2.1, h.2.2.1, Nat.lt_of_le_of_lt hnumber h.2.2.2⟩

/-- Among statements each line is read as one. -/
theorem contribution_eq (h : Stands .ofNamespace container depth last opened) (source : Source)
    (line : Text) (offset : Nat) : contribution? source line offset depth opened.head? =
      statementLine? source line offset depth container := by
  cases opened with
  | nil =>
      obtain ⟨-, rfl, -⟩ := h
      rfl
  | cons frame opened =>
      obtain ⟨hkind, rfl, -⟩ := h
      rw [List.head?_cons, contribution?, hkind]

end Stands

/-- Reading `rows` below others gives these entries and leads back to the depth and to the
declarations that are open; some that have ended with the rows may still lie above these. -/
def ReadsRows (path : Path) (above rows below : List Text) (frames : List Frame) (depth : Int)
    (opened : List Frame) (entries : List Entry) : Prop :=
  ∃ stale : List Frame, (∀ frame ∈ stale, frame.endLine ≤ above.length + rows.length) ∧
    Leads entries (readBelow? path above (rows ++ below) frames depth)
      (readBelow? path (above ++ rows) below (stale ++ opened) depth)

/-- Rows are read behind those that lead to them. -/
theorem Leads.after {front back : List Text} {early late : List Entry} {frames next : List Frame}
    (hfront : Leads early (readBelow? path above (front ++ (back ++ below)) frames depth)
      (readBelow? path (above ++ front) (back ++ below) next depth))
    (hback : ReadsRows path (above ++ front) back below next depth opened late) :
    ReadsRows path above (front ++ back) below frames depth opened (early ++ late) := by
  obtain ⟨stale, hstale, hleads⟩ := hback
  rw [List.length_append, Nat.add_assoc, ← List.length_append] at hstale
  rw [List.append_assoc above] at hleads
  refine ⟨stale, hstale, ?_⟩
  rw [List.append_assoc]
  exact hfront.trans hleads

/-- A member and the listing behind it are read as one member more. -/
theorem read_member (path : Path) (indent : Nat) (form : Member kind) (name : Name) (below : List Text)
    (habove : AreRows above) (hstale : ∀ frame ∈ stale, frame.endLine ≤ above.length)
    (hstands : Stands kind container depth above.length opened) :
    Leads [⟨name.word, form.symbolKind, container, above.length + 1, above.length + 1, []⟩]
      (readBelow? path above (rowOf indent [] name form.tail :: below) (stale ++ opened) depth)
      (readBelow? path (above ++ [rowOf indent [] name form.tail]) below opened depth) := by
  cases opened with
  | nil =>
      obtain ⟨rfl, -⟩ := hstands
      cases form
  | cons frame opened =>
      obtain ⟨rfl, rfl, hdepth, hlast⟩ := id hstands
      have hread := read_row hstale hstands.lt_end_line hdepth
        (member_tells path habove indent form name below depth)
      rwa [depth_after_of_nested (nested_row (by simp) name form.nested_tail)] at hread

/-- A declaration on one line is read as its entry. -/
theorem read_statement (path : Path) (indent : Nat) (exported : Bool) (form : Statement) (name : Name)
    (below : List Text) (habove : AreRows above)
    (hstale : ∀ frame ∈ stale, frame.endLine ≤ above.length)
    (hstands : Stands .ofNamespace container depth above.length opened) :
    Leads [⟨name.word, form.symbolKind, container, above.length + 1, above.length + 1,
        leadModifiers exported⟩]
      (readBelow? path above (rowOf indent (words exported form.keyword) name form.tail :: below)
        (stale ++ opened) depth)
      (readBelow? path (above ++ [rowOf indent (words exported form.keyword) name form.tail]) below
        opened depth) := by
  have htells := statement_tells path habove indent exported form name below depth container
  rw [← hstands.contribution_eq] at htells
  have hread := read_row hstale hstands.lt_end_line hstands.depth_eq htells
  rwa [depth_after_of_nested (nested_row (words_chars form.keyword_mem) name form.nested_tail)]
    at hread

/-- The first line of a block is read as its entry, and its body is read next. -/
theorem read_opening (path : Path) (indent : Nat) (exported : Bool) (kind : FrameKind) (name : Name)
    {rows : List Text} (hrows : AreRows rows) (hnested : Nested (continued rows)) (below : List Text)
    (habove : AreRows above) (hstale : ∀ frame ∈ stale, frame.endLine ≤ above.length)
    (hstands : Stands .ofNamespace container depth above.length opened) :
    Leads [⟨name.word, kind.symbolKind, container, above.length + 1, above.length + rows.length + 2,
        leadModifiers exported⟩]
      (readBelow? path above (rowOf indent (words exported kind.keyword) name [' ', '{'] ::
        (rows ++ closingRow indent :: below)) (stale ++ opened) depth)
      (readBelow? path (above ++ [rowOf indent (words exported kind.keyword) name [' ', '{']])
        (rows ++ closingRow indent :: below)
        (⟨name.word, kind, depth + 1, above.length + rows.length + 2⟩ :: opened) (depth + 1)) := by
  have htells := block_tells path habove indent exported kind name hrows hnested below depth container
  rw [← hstands.contribution_eq] at htells
  have hread := read_row hstale hstands.lt_end_line hstands.depth_eq htells
  have hfront : Nested (rowOf indent (words exported kind.keyword) name [' ']) :=
    nested_row (words_chars kind.keyword_mem) name (Text.nested_of_no_braces (by decide))
  have hrow : rowOf indent (words exported kind.keyword) name [' ', '{'] =
      rowOf indent (words exported kind.keyword) name [' '] ++ ['{'] := by
    simp only [rowOf, List.append_assoc, List.cons_append, List.nil_append]
  have hdepth : depthAfter depth (rowOf indent (words exported kind.keyword) name [' ', '{']) =
      depth + 1 := by
    rw [hrow, depth_after_append, depth_after_of_nested hfront]
    rfl
  rwa [hdepth] at hread

/-- The line that closes a body is read last at its depth. -/
theorem read_closing (path : Path) (indent : Nat) (below : List Text)
    (hstale : ∀ frame ∈ stale, frame.endLine ≤ above.length) (hend : above.length < frame.endLine)
    (hdepth : frame.bodyDepth = depth + 1) :
    Leads []
      (readBelow? path above (closingRow indent :: below) (stale ++ frame :: opened) (depth + 1))
      (readBelow? path (above ++ [closingRow indent]) below (frame :: opened) depth) := by
  have htells : Tells (contribution? (Source.ofRows path (above ++ closingRow indent :: below))
      (closingRow indent) (byteLength (ended above)) (depth + 1) (frame :: opened).head?) [] none :=
    ⟨{}, closing_tells _ indent _ _ frame, rfl, rfl, rfl⟩
  have hopened : ∀ first, (frame :: opened).head? = some first → above.length < first.endLine := by
    intro first hfirst
    obtain rfl := Option.some.inj hfirst
    exact hend
  have hread := read_row hstale hopened hdepth.symm htells
  have hclose : depthAfter (depth + 1) (closingRow indent) = depth := by
    rw [closingRow, depth_after_append, depth_after_of_nested (nested_indentation indent)]
    exact Int.add_sub_cancel depth 1
  rwa [hclose] at hread

/-- A block whose body is read as its entries is read as its own entry and these. -/
theorem read_block (path : Path) (indent : Nat) (exported : Bool) (kind : FrameKind) (name : Name)
    {rows : List Text} (hrows : AreRows rows) (hnested : Nested (continued rows)) (below : List Text)
    (habove : AreRows above) (hstale : ∀ frame ∈ stale, frame.endLine ≤ above.length)
    (hstands : Stands .ofNamespace container depth above.length opened)
    (hframe : frame = ⟨name.word, kind, depth + 1, above.length + rows.length + 2⟩)
    {entries : List Entry}
    (hbody : ReadsRows path (above ++ [rowOf indent (words exported kind.keyword) name [' ', '{']])
      rows (closingRow indent :: below) (frame :: opened) (depth + 1) (frame :: opened) entries) :
    Leads (⟨name.word, kind.symbolKind, container, above.length + 1, above.length + rows.length + 2,
        leadModifiers exported⟩ :: entries)
      (readBelow? path above (rowOf indent (words exported kind.keyword) name [' ', '{'] ::
        (rows ++ closingRow indent :: below)) (stale ++ opened) depth)
      (readBelow? path (above ++ rowOf indent (words exported kind.keyword) name [' ', '{'] ::
        (rows ++ [closingRow indent])) below (frame :: opened) depth) := by
  have hopening := read_opening path indent exported kind name hrows hnested below habove hstale
    hstands
  obtain ⟨ended, hended, hinside⟩ := hbody
  have hlength : (above ++ [rowOf indent (words exported kind.keyword) name [' ', '{']]).length +
      rows.length = above.length + rows.length + 1 := by
    rw [List.length_append, List.length_singleton]
    omega
  rw [hlength] at hended
  rw [← hframe] at hopening
  have hall := hopening.trans (hinside.trans (read_closing path indent below
    (by rwa [List.length_append, hlength])
    (by rw [List.length_append, hlength, hframe]; exact Nat.lt_succ_self _) (by rw [hframe])))
  rw [List.append_nil] at hall
  simpa only [List.append_assoc, List.cons_append, List.nil_append] using hall

/-- Reading a listing gives its entries. -/
theorem read_listing (path : Path) (width indent : Nat) (items : Listing kind)
    (above below : List Text) (stale opened : List Frame) (habove : AreRows above)
    (hstale : ∀ frame ∈ stale, frame.endLine ≤ above.length)
    (hstands : Stands kind container depth (above.length + items.height) opened) :
    ReadsRows path above (items.rows width indent) below (stale ++ opened) depth opened
      (items.entries container (above.length + 1)) := by
  induction items generalizing indent above below container depth stale opened with
  | nil =>
      refine ⟨stale, hstale, ?_⟩
      rw [Listing.rows, List.append_nil]
      exact .refl _
  | member form name rest ih =>
      have hrow := read_member path indent form name (rest.rows width indent ++ below) habove hstale
        (hstands.mono (Nat.le_add_right _ _))
      have hnext : AreRows (above ++ [rowOf indent [] name form.tail]) :=
        habove.append ((Listing.member form name .nil).are_rows width indent)
      have hrest := ih indent _ below [] opened hnext (by simp)
        (hstands.mono (by rw [List.length_append, List.length_singleton, Listing.height]; omega))
      rw [List.length_append, List.length_singleton] at hrest
      exact hrow.after hrest
  | statement exported form name rest ih =>
      have hrow := read_statement path indent exported form name (rest.rows width indent ++ below)
        habove hstale (hstands.mono (Nat.le_add_right _ _))
      have hnext : AreRows
          (above ++ [rowOf indent (words exported form.keyword) name form.tail]) :=
        habove.append ((Listing.statement exported form name .nil).are_rows width indent)
      have hrest := ih indent _ below [] opened hnext (by simp)
        (hstands.mono (by rw [List.length_append, List.length_singleton, Listing.height]; omega))
      rw [List.length_append, List.length_singleton] at hrest
      exact hrow.after hrest
  | block exported kind name body rest ihbody ihrest =>
      have hlength := body.length_rows width (indent + width)
      have hrows : AreRows (rowOf indent (words exported kind.keyword) name [' ', '{'] ::
          (body.rows width (indent + width) ++ [closingRow indent])) :=
        (Listing.block exported kind name body .nil).are_rows width indent
      have hfirst : AreRows
          (above ++ [rowOf indent (words exported kind.keyword) name [' ', '{']]) :=
        habove.append (List.forall_mem_singleton.mpr (hrows _ List.mem_cons_self))
      -- The block is the innermost open declaration while its body is read,
      have hinner : above.length + 1 + body.height < above.length + body.height + 2 := by omega
      have hinside := ihbody (indent + width) _ (closingRow indent :: (rest.rows width indent ++ below))
        [] (⟨name.word, kind, depth + 1, above.length + body.height + 2⟩ :: opened) hfirst (by simp)
        ⟨rfl, rfl, rfl, by rw [List.length_append, List.length_singleton]; exact hinner⟩
      rw [List.length_append, List.length_singleton] at hinside
      have hblock := read_block path indent exported kind name (body.are_rows width (indent + width))
        (body.nested width (indent + width)) (rest.rows width indent ++ below) habove hstale
        (hstands.mono (Nat.le_add_right _ _)) (by rw [hlength]) hinside
      -- and one that has ended when the rest is.
      have hbelow : (above ++ rowOf indent (words exported kind.keyword) name [' ', '{'] ::
          (body.rows width (indent + width) ++ [closingRow indent])).length =
            above.length + body.height + 2 := by
        simp only [List.length_append, List.length_cons, hlength, List.length_nil]
        omega
      have hnext := ihrest indent _ below
        [⟨name.word, kind, depth + 1, above.length + body.height + 2⟩] opened (habove.append hrows)
        (List.forall_mem_singleton.mpr (Nat.le_of_eq hbelow.symm))
        (hstands.mono (by rw [hbelow, Listing.height]; omega))
      have hshape : ∀ (row : Text) (rows below : List Text), row :: (rows ++ closingRow indent :: below) =
          row :: (rows ++ [closingRow indent]) ++ below := by
        simp
      rw [hlength, hshape] at hblock
      rw [hbelow] at hnext
      rw [Listing.rows, hshape, Listing.entries, Nat.add_right_comm above.length 1 body.height]
      exact hblock.after hnext

end Reading

section Module

/-- The line feeds behind a module declare nothing. -/
theorem read_blanks (path : Path) (above : List Text) (blanks : Nat) (stale : List Frame)
    (hstale : ∀ frame ∈ stale, frame.endLine ≤ above.length) :
    Leads [] (readBelow? path above (List.replicate blanks []) stale 0) (some []) := by
  induction blanks generalizing above stale with
  | zero => exact .refl _
  | succ blanks ih =>
      have hread : Leads [] (readBelow? path above ([] :: List.replicate blanks []) (stale ++ []) 0)
          (readBelow? path (above ++ [[]]) (List.replicate blanks []) [] 0) :=
        read_row hstale (by simp) rfl ⟨{}, empty_tells _ _ _, rfl, rfl, rfl⟩
      rw [List.append_nil] at hread
      exact hread.trans (ih (above ++ [[]]) [] (by simp))

/-- The lines of a module are read as its entries. -/
theorem read_module (path : Path) (width blanks : Nat) (items : Listing .ofNamespace) :
    Leads (items.entries none 1)
      (readBelow? path [] (items.rows width 0 ++ List.replicate blanks []) [] 0) (some []) := by
  obtain ⟨stale, hstale, hleads⟩ := read_listing path width 0 items [] (List.replicate blanks []) []
    [] (by simp [AreRows]) (by simp) ⟨rfl, rfl, rfl⟩
  have hblanks := read_blanks path ([] ++ items.rows width 0) blanks (stale ++ [])
    (by simpa using hstale)
  have hall := hleads.trans hblanks
  rwa [List.append_nil] at hall

/-- Nothing in lines that are made of few characters is masked. -/
theorem mask_rows (mode : Text.MaskMode) {text : Text}
    (h : ∀ c ∈ text, c = '\n' ∨ isRowChar c = true) : Text.mask mode text = text := by
  have hplain : ∀ c ∈ text, Text.IsPlain c := by
    intro c hc
    have hrow := h c hc
    constructor
    · rintro rfl
      exact absurd hrow (by decide)
    · rintro (rfl | rfl | rfl) <;> exact absurd hrow (by decide)
  have hmask := Text.mask_from_plain mode hplain []
  rw [List.append_nil] at hmask
  exact hmask.trans (List.append_nil _)

/-- Nothing in a module is masked. -/
theorem mask_print (mode : Text.MaskMode) (width blanks : Nat) (items : Listing .ofNamespace) :
    Text.mask mode (items.print width blanks) = items.print width blanks :=
  mask_rows mode (items.print_chars width blanks)

/-- Lines that are read to their end as entries are a text with these symbols, as no export statement
adds a modifier. -/
theorem scan_rows (path : Path) {rows : List Text} {entries : List Entry} (hne : rows ≠ [])
    (hchars : ∀ row ∈ rows, ∀ c ∈ row, isRowChar c = true)
    (hleads : Leads entries (readBelow? path [] rows [] 0) (some [])) :
    ∃ symbols, scan? path (join ['\n'] rows) = some symbols ∧
      symbols.map Symbol.entry = entries := by
  have hrows : AreRows rows := fun row hrow hfeed => absurd (hchars row hrow _ hfeed) (by decide)
  have hmask : Text.mask .all (join ['\n'] rows) = join ['\n'] rows := by
    refine mask_rows .all fun c hc => (Text.mem_join hc).imp_right ?_
    rintro ⟨row, hrow, hmem⟩
    exact hchars row hrow c hmem
  obtain ⟨found, hentries, hexports, hread⟩ := hleads
  rw [Option.map_some, List.append_nil] at hread
  have hlines : readLines? ⟨path, join ['\n'] rows, join ['\n'] rows⟩ [] 1 0 0
      (Text.splitBy (· = '\n') (join ['\n'] rows)) = some found := by
    rw [Text.split_by_join hrows hne]
    exact hread
  refine ⟨found.flatMap (·.symbols), ?_, hentries⟩
  rw [scan?]
  simp only [hmask, hlines, Option.bind_eq_bind, Option.bind_some, hexports, List.foldl_nil,
    Option.pure_def]

/-- A module has lines, if only an empty one. -/
theorem exists_rows (width blanks : Nat) (items : Listing .ofNamespace) :
    ∃ empty : Nat, items.rows width 0 ++ List.replicate empty [] ≠ [] ∧
      items.print width blanks = join ['\n'] (items.rows width 0 ++ List.replicate empty []) := by
  by_cases hnone : items.rows width 0 ++ List.replicate blanks [] = []
  · refine ⟨1, by simp, ?_⟩
    obtain ⟨hrows, -⟩ := List.append_eq_nil_iff.mp hnone
    rw [Listing.print, hnone, hrows]
    rfl
  · exact ⟨blanks, hnone, rfl⟩

/-- The lines of a printed module are read to its end, and no export statement adds a modifier. -/
theorem symbols_print (path : Path) (width blanks : Nat) (items : Listing .ofNamespace) :
    ∃ symbols, scan? path (items.print width blanks) = some symbols ∧
      symbols.map Symbol.entry = items.entries none 1 := by
  obtain ⟨empty, hne, hprint⟩ := exists_rows width blanks items
  have hchars : ∀ row ∈ items.rows width 0 ++ List.replicate empty [], ∀ c ∈ row,
      isRowChar c = true := by
    refine List.forall_mem_append.mpr ⟨items.row_chars width 0, fun row hrow => ?_⟩
    rw [List.eq_of_mem_replicate hrow]
    exact List.forall_mem_nil _
  rw [hprint]
  exact scan_rows path hne hchars (read_module path width empty items)

/-- Reading the symbols of a printed module gives what it declares: one symbol for each declaration
and member in their order, with its kind, the declaration around it, its lines and its modifiers. -/
theorem parse_print (path : Path) (width blanks : Nat) (items : Listing .ofNamespace) :
    ∃ symbols, SymbolParser.ofLines.parse path (items.print width blanks) = .ok symbols ∧
      symbols.map Symbol.entry = items.entries none 1 := by
  obtain ⟨symbols, hscan, hentries⟩ := symbols_print path width blanks items
  exact ⟨symbols, by simp [SymbolParser.ofLines, hscan], hentries⟩

end Module

end CodeAtlas.Declaration
