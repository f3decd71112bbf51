import CodeAtlas.Proofs.Declaration.Enclosed
import CodeAtlas.Proofs.Scanner.Declaration
import CodeAtlas.Proofs.Symbol.Outline
import CodeAtlas.Symbol.Parser

/-!
# Symbols are found inside their containers

The scan keeps the declarations that are open, innermost first, and so does `Threads`: `Backed` says that
each open declaration was opened by a symbol that is still open. A line adds symbols inside the innermost
one, on lines that it spans (`Adds.threads_inside`). Only the parameters of a constructor can stand below
the last line of what they are in: when no body is found for it, it ends on its own line
(`IsUnclosed`).
-/

namespace CodeAtlas.Declaration

open Text (SameLayout byteLength isNested)

/-- A parameter below the last line of the constructor before it, which ends on its own line; `before`
are the symbols before the parameter, last first. -/
structure IsUnclosed (before : List Symbol) (parent symbol : Symbol) : Prop where
  parameter : symbol.kind = .parameter
  last : before.find? (·.kind = .constructor) = some parent
  single : parent.location.endLine = parent.location.startLine
  below : parent.location.endLine < symbol.location.startLine

/-- A symbol spans the line of another one that was found inside it, or the latter is a parameter of a
constructor that ends on its own line. -/
def Encloses (before : List Symbol) (parent symbol : Symbol) : Prop :=
  parent.Spans symbol ∨ IsUnclosed before parent symbol

/-- An open declaration was opened by a symbol on a line before that of a number. -/
structure OpenedBy (source : Source) (number offset : Nat) (frame : Frame) (symbol : Symbol) :
    Prop where
  name_eq : frame.name = symbol.name
  start_lt : symbol.location.startLine < number
  end_le : frame.endLine ≤ symbol.location.endLine
  block : ∃ start brace stop, start ≤ offset ∧ IsBlock source.masked start brace stop ∧
    frame.endLine = Text.lineOfOffset source.masked stop ∧
    IsShallow source.masked start brace frame.bodyDepth

/-- The open declarations were opened by symbols that are open, in the same order. -/
inductive Backed (source : Source) (number offset : Nat) : List Symbol → List Frame → Prop
  | nil {opened : List Symbol} : Backed source number offset opened []
  | cons {opened around : List Symbol} {symbol : Symbol} {frame : Frame} {frames : List Frame}
      (hopened : symbol :: around <:+ opened) (hframe : OpenedBy source number offset frame symbol)
      (hframes : Backed source number offset around frames) :
      Backed source number offset opened (frame :: frames)

section Backed

variable {source : Source} {number offset : Nat} {opened : List Symbol} {frames : List Frame}

/-- What backs open declarations backs them when more is open. -/
theorem Backed.mono {more : List Symbol} (h : Backed source number offset opened frames)
    (hopened : opened <:+ more) : Backed source number offset more frames := by
  cases h with
  | nil => exact .nil
  | cons hsuffix hframe hframes => exact .cons (hsuffix.trans hopened) hframe hframes

/-- Further down the same declarations are backed. -/
theorem Backed.later {number' offset' : Nat} (h : Backed source number offset opened frames)
    (hnumber : number ≤ number') (hoffset : offset ≤ offset') :
    Backed source number' offset' opened frames := by
  induction h with
  | nil => exact .nil
  | cons hsuffix hframe _ ih =>
      obtain ⟨hname, hstart, hend, start, brace, stop, hle, hblock⟩ := hframe
      exact .cons hsuffix ⟨hname, Nat.lt_of_lt_of_le hstart hnumber, hend, start, brace, stop,
        Nat.le_trans hle hoffset, hblock⟩ ih

/-- Declarations that are left are backed when the innermost ones are not open any more. -/
theorem Backed.drop_while (test : Frame → Bool) (h : Backed source number offset opened frames) :
    Backed source number offset opened (frames.dropWhile test) := by
  induction h with
  | nil => exact .nil
  | cons hsuffix hframe hframes ih =>
      rw [List.dropWhile_cons]
      split
      · exact ih.mono ((List.suffix_cons _ _).trans hsuffix)
      · exact .cons hsuffix hframe hframes

end Backed

section Line

variable {source : Source} (layout : SameLayout source.content source.masked)
  {above below : List Text} {line : Text} {number offset : Nat} {depth : Int}
  {before opened around rest : List Symbol} {parent : Symbol} {contribution : Contribution}

/-- Symbols that are found inside an open one are found there one after the other. -/
theorem threads_members {inside : List Symbol → Symbol → Symbol → Prop} {symbols : List Symbol}
    (hin : ∀ symbol ∈ symbols, parent.IsIn symbol)
    (hinside : ∀ symbol ∈ symbols, ∀ done, (∀ other ∈ done, other ∈ symbols) →
      inside (done ++ before) parent symbol)
    (hopened : parent :: around <:+ opened)
    (hrest : ∀ before opened, parent :: around <:+ opened → Threads inside before opened rest) :
    Threads inside before opened (symbols ++ rest) := by
  induction symbols generalizing before opened with
  | nil => exact hrest before opened hopened
  | cons symbol symbols ih =>
      obtain ⟨hfirst, hin⟩ := List.forall_mem_cons.mp hin
      refine .inside hopened hfirst (hinside symbol List.mem_cons_self [] nofun)
        (ih hin (fun other hother done hdone => ?_) (List.suffix_cons _ _))
      have hlater := hinside other (List.mem_cons_of_mem _ hother) (done ++ [symbol]) fun last hlast => by
        rcases List.mem_append.mp hlast with hlast | hlast
        · exact List.mem_cons_of_mem _ (hdone last hlast)
        · exact List.mem_singleton.mp hlast ▸ List.mem_cons_self
      rwa [List.append_assoc, List.singleton_append] at hlater

/-- Symbols that are found inside none are roots. -/
theorem threads_roots {inside : List Symbol → Symbol → Symbol → Prop} {symbols : List Symbol}
    (hroots : ∀ symbol ∈ symbols, symbol.containerName = none)
    (hrest : ∀ before opened, Threads inside before opened rest) :
    Threads inside before opened (symbols ++ rest) := by
  induction symbols generalizing before opened with
  | nil => exact hrest before opened
  | cons symbol symbols ih =>
      obtain ⟨hfirst, hroots⟩ := List.forall_mem_cons.mp hroots
      exact .root hfirst (ih hroots)

/-- A constructor encloses its parameters, unless no body is found for it. -/
theorem encloses_parameter {symbol parameter : Symbol} {place stop at' : Nat}
    {done parameters before : List Symbol} {container container' : Option String}
    (hsymbol : source.Makes place stop container symbol) (hkind : symbol.kind = .constructor)
    (hparameters : ∀ other ∈ parameters, other.kind = .parameter)
    (hparameter : parameter.kind = .parameter)
    (hmakes : source.Makes at' at' container' parameter) (hge : place ≤ at')
    (hle : at' ≤ stop ∨ stop = place) (hdone : ∀ other ∈ done, other ∈ parameters) :
    Encloses (done ++ symbol :: before) symbol parameter := by
  have hlow := Text.line_of_offset_mono source.content hge
  by_cases hspans : symbol.Spans parameter
  · exact Or.inl hspans
  · rw [Symbol.Spans, Outline.contains_line_iff, hsymbol.start_eq, hsymbol.end_eq,
      hmakes.start_eq] at hspans
    have hstop : stop = place := by
      rcases hle with hle | hstop
      · have hhigh := Text.line_of_offset_mono source.content hle
        omega
      · exact hstop
    subst hstop
    refine Or.inr ⟨hparameter, ?_, ?_, ?_⟩
    · have hnone : done.find? (·.kind = .constructor) = none := by
        rw [List.find?_eq_none]
        intro other hother
        rw [hparameters other (hdone other hother)]
        decide
      rw [List.find?_append, hnone, Option.none_or, List.find?_cons_of_pos (by simp [hkind])]
    · rw [hsymbol.end_eq, hsymbol.start_eq, Nat.max_self]
    · rw [hsymbol.end_eq, hmakes.start_eq, Nat.max_self]
      omega

include layout

/-- A declaration that a line opens was opened by its symbol. -/
theorem opened_by_of_opens {inner stop : Nat} {container : Option String} {symbol : Symbol}
    {frame : Frame} (hreaches : source.Reaches above (line :: below) number offset depth)
    (hclear : IsClear line inner) (hsymbol : source.Makes (offset + inner) stop container symbol)
    (hopens : source.Opens (offset + inner) stop depth symbol.name frame) :
    OpenedBy source (number + 1) (offset + byteLength line + 1) frame symbol := by
  have hle := hclear.le
  have hline := hreaches.line_of_offset (show offset ≤ offset + inner by omega) (by omega)
  rw [line_of_masked layout] at hline
  obtain ⟨brace, hblock⟩ := hopens.block
  refine ⟨hopens.name_eq, ?_, ?_, offset + inner, brace, stop, by omega, hblock, ?_, ?_⟩
  · rw [hsymbol.start_eq, hline]
    exact Nat.lt_succ_self number
  · rw [hopens.end_eq, hsymbol.end_eq]
    exact Nat.le_max_left _ _
  · rw [hopens.end_eq, line_of_masked layout]
  · rw [hopens.depth_eq]
    exact hreaches.shallow hclear hblock

/-- A line that stands in no body adds roots. -/
theorem threads_root_line (h : source.Adds line offset depth none contribution)
    (hreaches : source.Reaches above (line :: below) number offset depth)
    (hrest : ∀ before opened, Backed source (number + 1) (offset + byteLength line + 1) opened
      contribution.opens.toList → Threads Encloses before opened rest) :
    Threads Encloses before opened (contribution.symbols ++ rest) := by
  cases h with
  | names hsymbols =>
      refine threads_roots (fun symbol hsymbol => ?_) fun before opened => hrest before opened .nil
      obtain ⟨at', stop, -, -, hmakes⟩ := hsymbols symbol hsymbol
      exact hmakes.container_eq
  | @body symbol opens inner stop hclear hsymbol hopens =>
      refine .root hsymbol.container_eq (hrest _ _ ?_)
      cases opens with
      | none => exact .nil
      | some frame =>
          exact .cons (List.suffix_refl _)
            (opened_by_of_opens layout hreaches hclear hsymbol (hopens frame rfl)) .nil
  | «variables» hclear htext hsymbols =>
      refine threads_roots (fun symbol hsymbol => ?_) fun before opened => hrest before opened .nil
      obtain ⟨at', stop, -, -, hmakes⟩ := hsymbols symbol hsymbol
      exact hmakes.container_eq
  | constructor hcontainer => cases hcontainer

/-- The line of a body does not stand before its brace nor behind its end. -/
theorem exists_block_around {frame : Frame}
    (hreaches : source.Reaches above (line :: below) number offset frame.bodyDepth)
    (hparent : OpenedBy source number offset frame parent) (hend : number ≤ frame.endLine) :
    ∃ start brace stop, IsBlock source.masked start brace stop ∧ brace < offset ∧ offset ≤ stop ∧
      frame.endLine = Text.lineOfOffset source.content stop := by
  obtain ⟨start, brace, stop, hstart, hblock, hlast, hshallow⟩ := hparent.block
  refine ⟨start, brace, stop, hblock, ?_, hreaches.le_of_line_le (hlast ▸ hend),
    hlast.trans (line_of_masked layout stop)⟩
  obtain ⟨tail, htail⟩ := hreaches.exists_tail
  by_contra hge
  have hless := hshallow _ _ htail (by rw [hreaches.offset_eq]; exact hstart)
    (by rw [hreaches.offset_eq]; omega)
  rw [hreaches.depth_eq] at hless
  exact absurd hless (Int.lt_irrefl _)

/-- A symbol that is made on lines that an open declaration spans is found inside its symbol. -/
theorem encloses_of_makes_in {frame : Frame} {start length : Nat} {symbol : Symbol}
    (hreaches : source.Reaches above (line :: below) number offset depth)
    (hparent : OpenedBy source number offset frame parent) (hstart : offset ≤ start)
    (hend : Text.lineOfOffset source.content (start + length) ≤ frame.endLine)
    (hsymbol : source.MakesIn start length (some frame.name) symbol) :
    parent.IsIn symbol ∧ parent.Spans symbol := by
  obtain ⟨at', stop, hge, hle, hmakes⟩ := hsymbol
  have hnamed : parent.isNamed frame.name = true := by
    simp [Symbol.isNamed, hparent.name_eq]
  refine ⟨⟨frame.name, hmakes.container_eq, hnamed⟩, ?_⟩
  have hhere := hreaches.line_of_offset (Nat.le_refl offset) (Nat.le_add_right _ _)
  rw [line_of_masked layout] at hhere
  have hlow := Text.line_of_offset_mono source.content (show offset ≤ at' by omega)
  have hhigh := Text.line_of_offset_mono source.content hle
  have hbefore := hparent.start_lt
  have hafter := hparent.end_le
  rw [Symbol.Spans, Outline.contains_line_iff, hmakes.start_eq]
  omega

/-- A line that stands in a body adds symbols inside the symbol that opened the body. -/
theorem threads_inside_line (hnested : isNested source.masked = true) {frame : Frame}
    {frames : List Frame}
    (h : source.Adds line offset frame.bodyDepth (some frame.name) contribution)
    (hreaches : source.Reaches above (line :: below) number offset frame.bodyDepth)
    (hparent : OpenedBy source number offset frame parent) (hend : number ≤ frame.endLine)
    (hopened : parent :: around <:+ opened) (hframes : Backed source number offset around frames)
    (hrest : ∀ before opened, Backed source (number + 1) (offset + byteLength line + 1) opened
      (contribution.opens.toList ++ frame :: frames) → Threads Encloses before opened rest) :
    Threads Encloses before opened (contribution.symbols ++ rest) := by
  have hbacked : ∀ {opened}, parent :: around <:+ opened →
      Backed source (number + 1) (offset + byteLength line + 1) opened (frame :: frames) :=
    fun hopened => (Backed.cons hopened hparent hframes).later (Nat.le_succ _) (by omega)
  have hline : Text.lineOfOffset source.content (offset + byteLength line) ≤ frame.endLine := by
    rw [← line_of_masked layout, hreaches.line_of_offset (Nat.le_add_right _ _) (Nat.le_refl _)]
    exact hend
  cases h with
  | names hsymbols =>
      have hin := fun symbol hsymbol => encloses_of_makes_in layout hreaches hparent
        (Nat.le_refl offset) hline (hsymbols symbol hsymbol)
      exact threads_members (fun symbol hsymbol => (hin symbol hsymbol).1)
        (fun symbol hsymbol _ _ => Or.inl (hin symbol hsymbol).2) hopened
        fun before opened hopened => hrest before opened (hbacked hopened)
  | @body symbol opens inner stop hclear hsymbol hopens =>
      have hle := hclear.le
      obtain ⟨hin, hspans⟩ := encloses_of_makes_in layout hreaches hparent (Nat.le_refl offset) hline
        ⟨_, stop, by omega, by omega, hsymbol⟩
      refine .inside hopened hin (Or.inl hspans) (hrest _ _ ?_)
      cases opens with
      | none => exact hbacked (List.suffix_cons _ _)
      | some inside =>
          exact .cons (List.suffix_refl _)
            (opened_by_of_opens layout hreaches hclear hsymbol (hopens inside rfl))
            (hbacked (List.suffix_refl _))
  | @«variables» symbols inner text hclear htext hsymbols =>
      obtain ⟨start, brace, stop, hblock, hbrace, hstop, hlast⟩ :=
        exists_block_around layout hreaches hparent hend
      have hinside := hreaches.statement_in_block hnested hblock hbrace hstop hclear htext
      have hmono := Text.line_of_offset_mono source.content hinside
      have hin := fun symbol hsymbol => encloses_of_makes_in layout hreaches hparent
        (Nat.le_add_right offset inner) (hlast ▸ hmono) (hsymbols symbol hsymbol)
      exact threads_members (fun symbol hsymbol => (hin symbol hsymbol).1)
        (fun symbol hsymbol _ _ => Or.inl (hin symbol hsymbol).2) hopened
        fun before opened hopened => hrest before opened (hbacked hopened)
  | @constructor symbol parameters inner stop name hcontainer hinner hsymbol hname hkind hparameters =>
      obtain rfl := Option.some.inj hcontainer
      obtain ⟨hin, hspans⟩ := encloses_of_makes_in layout hreaches hparent (Nat.le_refl offset) hline
        ⟨_, stop, by omega, by omega, hsymbol⟩
      have hqualified : symbol.isNamed (frame.name ++ ".constructor") = true := by
        have hword : frame.name ++ "." ++ "constructor" = frame.name ++ ".constructor" := by
          rw [String.append_assoc]
          rfl
        simp [Symbol.isNamed, Symbol.qualifiedName, hsymbol.container_eq, hname, hword]
      refine .inside hopened hin (Or.inl hspans) (threads_members (fun parameter hparameter => ?_)
        (fun parameter hparameter done hdone => ?_) (List.suffix_refl _) fun before opened hopened =>
          hrest before opened (hbacked ((List.suffix_cons _ _).trans hopened)))
      · obtain ⟨-, at', -, -, hmakes⟩ := hparameters parameter hparameter
        exact ⟨_, hmakes.container_eq, hqualified⟩
      · obtain ⟨hparameter, at', hge, hle, hmakes⟩ := hparameters parameter hparameter
        exact encloses_parameter hsymbol hkind (fun other hother => (hparameters other hother).1)
          hparameter hmakes hge hle hdone

end Line

section Walk

variable {source : Source} (layout : SameLayout source.content source.masked)
  (hnested : isNested source.masked = true)

include layout hnested

/-- The symbols that the remaining lines declare are found inside those that are open. -/
theorem read_lines_threads {lines above : List Text} {frames : List Frame} {number offset : Nat}
    {depth : Int} (hreaches : lines ≠ [] → source.Reaches above lines number offset depth) :
    Yields (fun found => ∀ before opened, Backed source number offset opened frames →
        Threads Encloses before opened (found.flatMap (·.symbols)))
      (readLines? source frames number offset depth lines) := by
  induction lines generalizing above frames number offset depth with
  | nil => exact yields_some fun _ _ _ => .nil
  | cons line below ih =>
      have hhere := hreaches (List.cons_ne_nil line below)
      have hnext : below ≠ [] → source.Reaches (above ++ [line]) below (number + 1)
          (offset + byteLength line + 1) (depthAfter depth line) := by
        intro hne
        obtain ⟨later, rest, rfl⟩ := List.exists_cons_of_ne_nil hne
        exact hhere.next
      have hdrop : ∀ {opened}, Backed source number offset opened frames →
          Backed source number offset opened (frames.dropWhile (·.endLine < number)) :=
        fun hbacked => hbacked.drop_while _
      rw [readLines?]
      generalize hopen : frames.dropWhile (·.endLine < number) = left at hdrop
      dsimp only
      split
      · next hdepth =>
          refine (contribution_yields layout hhere.stands).bind fun found hfound => ?_
          refine (ih hnext).bind fun later hlater => yields_pure fun before opened hbacked => ?_
          rw [List.flatMap_cons]
          cases hdrop hbacked with
          | nil =>
              refine threads_root_line layout hfound hhere fun before opened hopens => ?_
              exact hlater before opened (by rwa [List.append_nil])
          | @cons _ around parent frame rest hsuffix hframe hframes =>
              have hend : number ≤ frame.endLine := by
                have hhead := List.head?_dropWhile_not (fun frame : Frame => frame.endLine < number)
                  frames
                rw [hopen] at hhead
                simpa using hhead
              obtain rfl : depth = frame.bodyDepth := hdepth
              exact threads_inside_line layout hnested hfound hhere hframe hend hsuffix hframes
                fun before opened hopens => hlater before opened hopens
      · refine (ih hnext).bind fun later hlater => yields_pure fun before opened hbacked => ?_
        exact hlater before opened ((hdrop hbacked).later (Nat.le_succ _) (by omega))

end Walk

/-- Changing modifiers leaves symbols found inside each other. -/
theorem encloses_map {change : Symbol → Symbol} (hchange : ∀ symbol, IsRemarked symbol (change symbol))
    {before : List Symbol} {parent symbol : Symbol} (h : Encloses before parent symbol) :
    Encloses (before.map change) (change parent) (change symbol) := by
  have hlocation : ∀ symbol, (change symbol).location = symbol.location := fun symbol => by
    obtain ⟨modifiers, hmodifiers⟩ := hchange symbol
    rw [hmodifiers]
  have hkind : ∀ symbol, (change symbol).kind = symbol.kind := fun symbol => by
    obtain ⟨modifiers, hmodifiers⟩ := hchange symbol
    rw [hmodifiers]
  rcases h with hspans | ⟨hparameter, hlast, hsingle, hbelow⟩
  · exact Or.inl (by rwa [Symbol.Spans, hlocation, hlocation])
  · refine Or.inr ⟨(hkind symbol).trans hparameter, ?_, ?_, ?_⟩
    · have htest : (fun symbol : Symbol => decide (symbol.kind = .constructor)) ∘ change =
          fun symbol => decide (symbol.kind = .constructor) :=
        funext fun symbol => by rw [Function.comp_apply, hkind]
      rw [List.find?_map, htest, hlast, Option.map_some]
    · rwa [hlocation]
    · rwa [hlocation, hlocation]

/-- The symbols of a properly nested text were found inside each other. -/
theorem scan_threads (path : Path) {content : Text}
    (hnested : isNested (Text.mask .all content) = true) :
    Yields (Threads Encloses [] []) (scan? path content) := by
  let source := Source.of path content
  have layout : SameLayout source.content source.masked := Text.mask_same_layout .all content
  have hreaches : source.Reaches [] (Text.splitBy (· = '\n') source.masked) 1 0 0 :=
    ⟨(Text.join_split_by _ _).symm, nofun, Text.are_rows_split_by _, rfl, rfl, rfl⟩
  refine (read_lines_threads layout hnested fun _ => hreaches).bind fun found hfound =>
    yields_pure ?_
  obtain ⟨remark, hremark, happly⟩ := apply_exports_remarks (found.flatMap (·.exports))
  rw [happly]
  refine (hfound [] [] .nil).map remark (fun symbol => ?_) (fun symbol => ?_)
    fun _ _ _ hencloses => encloses_map hremark hencloses
  · obtain ⟨modifiers, hmodifiers⟩ := hremark symbol
    rw [hmodifiers]
  · obtain ⟨modifiers, hmodifiers⟩ := hremark symbol
    rw [hmodifiers]

/-- In a properly nested text, every symbol that names a container comes after a symbol of that name
which spans its line, unless it is a parameter of a constructor that ends on its own line because no body
is found for it. If there is no such parameter, lines do not decrease and spans do not overlap, the
outline nests every symbol that names a container. -/
theorem parse_contained (path : Path) (content : Text)
    (hnested : isNested (Text.mask .all content) = true) :
    ∃ symbols, SymbolParser.ofLines.parse path content = .ok symbols ∧
      (∀ before symbol after container, symbols = before ++ symbol :: after →
        symbol.containerName = some container → ∃ parent ∈ before,
          parent.isNamed container = true ∧
          (parent.location.containsLine symbol.location.startLine = true ∨
            IsUnclosed before.reverse parent symbol)) ∧
      ((∀ before symbol after parent, symbols = before ++ symbol :: after →
          ¬IsUnclosed before.reverse parent symbol) →
        symbols.Pairwise (fun earlier later =>
          earlier.location.startLine ≤ later.location.startLine) →
        symbols.Pairwise (fun earlier later =>
          earlier.location.containsLine later.location.startLine = true →
            later.location.endLine ≤ earlier.location.endLine) →
        ∀ root ∈ Outline.ofSymbols symbols, root.symbol.containerName = none) := by
  obtain ⟨symbols, hscan, hthreads⟩ := scan_threads path hnested
  refine ⟨symbols, by simp [SymbolParser.ofLines, hscan], ?_, fun hclosed hordered hspans => ?_⟩
  · intro before symbol after container hsplit hcontainer
    obtain ⟨parent, hmem, hnamed, hencloses⟩ := hthreads.exists_parent nofun hsplit hcontainer
    rw [List.append_nil] at hencloses
    exact ⟨parent, by simpa using hmem, hnamed, hencloses⟩
  · refine Outline.nest_roots (hthreads.imp fun front symbol back parent hsplit hencloses => ?_)
      hordered hspans
    rw [List.append_nil] at hencloses
    exact hencloses.resolve_right (hclosed front symbol back parent hsplit)

/-- The parameter of a constructor with a body, inside the constructor and its class. -/
theorem parse_contained_parameter :
    let content := "class A \x7b\n  constructor(a: B) \x7b\n  \x7d\n\x7d\n".toList
    let line (number column : Nat) (last : Nat) : Location :=
      { path := ⟨"a.ts"⟩, startLine := number, endLine := last, column := some column }
    let outer : Symbol := {
      name := "A", kind := .classDef, location := line 1 7 4, details := some "class A" }
    let callable : Symbol := {
      name := "constructor", kind := .constructor, location := line 2 3 3
      containerName := some "A", details := some "constructor(a: B)" }
    let parameter : Symbol := {
      name := "a", kind := .parameter, location := line 2 15 2
      containerName := some "A.constructor", details := some "constructor(a: B)" }
    isNested (Text.mask .all content) = true ∧
      SymbolParser.ofLines.parse ⟨"a.ts"⟩ content = .ok [outer, callable, parameter] ∧
      (∃ parent ∈ [outer, callable], parent.isNamed "A.constructor" = true ∧
        parent.location.containsLine parameter.location.startLine = true) ∧
      ∀ root ∈ Outline.ofSymbols [outer, callable, parameter], root.symbol.containerName = none := by
  intro content line outer callable parameter
  have hnested : isNested (Text.mask .all content) = true := by decide +kernel
  have hscan : scan? ⟨"a.ts"⟩ content = some [outer, callable, parameter] := by decide +kernel
  have hparse : SymbolParser.ofLines.parse ⟨"a.ts"⟩ content = .ok [outer, callable, parameter] := by
    simp [SymbolParser.ofLines, hscan]
  obtain ⟨symbols, hsymbols, hcontained, houtline⟩ := parse_contained ⟨"a.ts"⟩ content hnested
  obtain rfl := Except.ok.inj (hparse.symm.trans hsymbols)
  have hbodied : ∀ before symbol after parent, [outer, callable, parameter] = before ++ symbol :: after →
      ¬IsUnclosed before.reverse parent symbol := by
    rintro before symbol after parent hsplit ⟨-, hlast, hsingle, -⟩
    obtain rfl : parent = callable := by
      have hmem := List.mem_of_find?_eq_some hlast
      have hkind := List.find?_some hlast
      have hall : parent ∈ [outer, callable, parameter] :=
        hsplit ▸ List.mem_append_left _ (List.mem_reverse.mp hmem)
      simp only [List.mem_cons, List.not_mem_nil, or_false] at hall
      rcases hall with rfl | rfl | rfl
      · exact absurd hkind (by decide)
      · rfl
      · exact absurd hkind (by decide)
    exact absurd hsingle (by decide)
  refine ⟨hnested, hparse, ?_, houtline hbodied (by decide) (by decide)⟩
  obtain ⟨parent, hmem, hnamed, hspans⟩ := hcontained [outer, callable] parameter [] _ rfl rfl
  exact ⟨parent, hmem, hnamed, hspans.resolve_right (hbodied [outer, callable] parameter [] parent rfl)⟩

/-- A constructor without a body ends on the line where it starts, even when its parameters go on below
it: nothing of their container's name spans the line of the second one, which stays a root of the
outline. -/
theorem signature_ends_before_parameter :
    let content := "class A \x7b\n  constructor(a: string,\n    b: number);\n\x7d\n".toList
    isNested (Text.mask .all content) = true ∧
      ∃ before symbol after container,
        SymbolParser.ofLines.parse ⟨"a.ts"⟩ content = .ok (before ++ symbol :: after) ∧
        symbol.containerName = some container ∧
        (∀ parent ∈ before, parent.isNamed container = true →
          parent.location.containsLine symbol.location.startLine = false) ∧
        ∃ root ∈ Outline.ofSymbols (before ++ symbol :: after),
          root.symbol.containerName = some container := by
  intro content
  let line (number column last : Nat) : Location :=
    { path := ⟨"a.ts"⟩, startLine := number, endLine := last, column := some column }
  let outer : Symbol := {
    name := "A", kind := .classDef, location := line 1 7 4, details := some "class A" }
  let callable : Symbol := {
    name := "constructor", kind := .constructor, location := line 2 3 2
    containerName := some "A", details := some "constructor(a: string," }
  let first : Symbol := {
    name := "a", kind := .parameter, location := line 2 15 2
    containerName := some "A.constructor", details := some "constructor(a: string," }
  let second : Symbol := {
    name := "b", kind := .parameter, location := line 3 5 3
    containerName := some "A.constructor", details := some "b: number)" }
  let property : Symbol := {
    name := "b", kind := .property, location := line 3 5 3
    containerName := some "A", details := some "b: number)" }
  have hscan : scan? ⟨"a.ts"⟩ content = some [outer, callable, first, second, property] := by
    decide +kernel
  refine ⟨by decide +kernel, [outer, callable, first], second, [property], "A.constructor", ?_, rfl,
    by decide +kernel, by decide +kernel⟩
  simp [SymbolParser.ofLines, hscan]

end CodeAtlas.Declaration
