import CodeAtlas.Proofs.Scanner.Basic
import CodeAtlas.Proofs.Text.Nested
import CodeAtlas.Declaration.Scan
import Mathlib.Data.List.TakeDrop

/-!
# What a line declares

Every symbol is made at an offset where its name stands in the masked text, or, for a default without a
name, at one that touches a character that shows; so making it fails nowhere. `Source.Makes` says where
a symbol starts and ends, and `Source.Adds` what a line adds in all: one case for a line of names, a
declaration with a body, a variable statement and a constructor. The lemmas follow the scan, one for
each form of line, given that the line stands in the masked text at the offset that the scan keeps;
`contribution_yields` puts them together.
-/

namespace CodeAtlas

open Text (StandsAt IsBoundary IsSolid Touches SameLayout byteLength)

namespace Text

/-- The first character that passes a test, and what stands before it. -/
theorem exists_of_find_char {text : Text} {test : Char → Bool} {offset : Nat}
    (h : findChar? text test = some offset) :
    ∃ front c back, text = front ++ c :: back ∧ byteLength front = offset ∧ test c = true ∧
      ∀ d ∈ front, test d = false := by
  have hfrom : ∀ base, ((indexedFrom base text).find? fun entry => test entry.2).map (·.1) =
      some (base + offset) → ∃ front c back, text = front ++ c :: back ∧ byteLength front = offset ∧
        test c = true ∧ ∀ d ∈ front, test d = false := by
    clear h
    induction text generalizing offset with
    | nil => intro base h; cases h
    | cons c rest ih =>
        intro base h
        rw [indexedFrom, List.find?_cons] at h
        by_cases hc : test c = true
        · simp only [hc, Option.map_some, Option.some.injEq] at h
          exact ⟨[], c, rest, rfl, by rw [byteLength]; omega, hc, by simp⟩
        · rw [Bool.not_eq_true] at hc
          simp only [hc] at h
          obtain ⟨inner, d, hoffset, -, -⟩ := find_indexed_from h
          obtain ⟨front, d, back, hrest, hlength, hd, hfront⟩ :=
            @ih (offset - c.utf8Size) (base + c.utf8Size) (by rw [h]; congr 1; omega)
          refine ⟨c :: front, d, back, by rw [hrest]; rfl, by rw [byteLength]; omega, hd, ?_⟩
          exact List.forall_mem_cons.mpr ⟨hc, hfront⟩
  exact hfrom 0 (by rw [Nat.zero_add]; exact h)

end Text

namespace Declaration

open Pattern (Match)

/-- Up to a byte offset, a line has no braces. -/
def IsClear (line : Text) (inner : Nat) : Prop :=
  ∃ front back, line = front ++ back ∧ byteLength front = inner ∧ '{' ∉ front ∧ '}' ∉ front

/-- The first brace after `start` opens a block that is closed at `stop`. -/
def IsBlock (masked : Text) (start brace stop : Nat) : Prop :=
  ∃ between, StandsAt masked start (between ++ ['{']) ∧ '{' ∉ between ∧
    brace = start + byteLength between ∧ Text.matchingDelimiter? masked brace = some stop

namespace Source

/-- A symbol is made at a byte offset, where its name stands if it is not a default without one. Its
last line is that of `stop`, unless that one comes before its first. -/
structure Makes (source : Source) (offset stop : Nat) (container : Option String) (symbol : Symbol) :
    Prop where
  touches : Touches source.masked offset
  named : symbol.name = "default" ∨
    StandsAt source.masked offset symbol.name.toList ∧ IsSolid symbol.name.toList
  start_eq : symbol.location.startLine = Text.lineOfOffset source.content offset
  end_eq : symbol.location.endLine =
    max (Text.lineOfOffset source.content stop) (Text.lineOfOffset source.content offset)
  column_eq : symbol.location.column = some (Text.columnOfOffset source.content offset)
  container_eq : symbol.containerName = container

/-- A symbol is made somewhere in an extent of the masked text. -/
def MakesIn (source : Source) (start length : Nat) (container : Option String) (symbol : Symbol) :
    Prop :=
  ∃ offset stop, start ≤ offset ∧ offset ≤ start + length ∧ source.Makes offset stop container symbol

/-- A declaration whose name stands at `offset` opens the body that ends at `stop`. -/
structure Opens (source : Source) (offset stop : Nat) (depth : Int) (name : String) (frame : Frame) :
    Prop where
  name_eq : frame.name = name
  depth_eq : frame.bodyDepth = depth + 1
  end_eq : frame.endLine = Text.lineOfOffset source.content stop
  block : ∃ brace, IsBlock source.masked offset brace stop

/-- What a line can add. It stands at a byte offset, at a depth of braces, in the body of `container`
if there is one. -/
inductive Adds (source : Source) (line : Text) (offset : Nat) (depth : Int)
    (container : Option String) : Contribution → Prop
  /-- Symbols whose names stand on the line, without a body that is looked into. -/
  | names {symbols : List Symbol} {exports : List (String × Bool)}
      (hsymbols : ∀ symbol ∈ symbols, source.MakesIn offset (byteLength line) container symbol) :
      Adds source line offset depth container { symbols, exports }
  /-- A declaration, with a body if one is found after its name. -/
  | body {symbol : Symbol} {opens : Option Frame} {inner stop : Nat} (hclear : IsClear line inner)
      (hsymbol : source.Makes (offset + inner) stop container symbol)
      (hopens : ∀ frame ∈ opens, source.Opens (offset + inner) stop depth symbol.name frame) :
      Adds source line offset depth container { symbols := [symbol], opens }
  /-- The variables of a statement, which may go on after the line. -/
  | variables {symbols : List Symbol} {inner : Nat} {rest : Text} (hclear : IsClear line inner)
      (hrest : Text.dropBytes? source.masked (offset + inner) = some rest)
      (hsymbols : ∀ symbol ∈ symbols,
        source.MakesIn (offset + inner) (byteLength (statement rest)) container symbol) :
      Adds source line offset depth container { symbols }
  /-- A constructor with its parameters, which stand before the end of its body if it has one. -/
  | constructor {symbol : Symbol} {parameters : List Symbol} {inner stop : Nat} {name : String}
      (hcontainer : container = some name) (hinner : inner ≤ byteLength line)
      (hsymbol : source.Makes (offset + inner) stop container symbol)
      (hname : symbol.name = "constructor") (hkind : symbol.kind = .constructor)
      (hparameters : ∀ parameter ∈ parameters, parameter.kind = .parameter ∧
        ∃ at', offset + inner ≤ at' ∧ (at' ≤ stop ∨ stop = offset + inner) ∧
          source.Makes at' at' (some (name ++ ".constructor")) parameter) :
      Adds source line offset depth container { symbols := symbol :: parameters }

end Source

section Names

variable {binding item name : Text} {offset inner : Nat}

/-- Whether a value reads like a function can always be told. -/
theorem starts_function_yields (value : Option Text) :
    Yields (fun _ => True) (startsFunction? value) := by
  cases value with
  | none => exact yields_some trivial
  | some value =>
      unfold startsFunction? looksLikeFunction?
      refine yields_ite (fun _ => yields_pure trivial) fun _ => ?_
      split
      · next arrow harrow =>
          have hhead := Text.take_bytes_is_some_iff.mpr (Text.find_eq_some harrow).start_boundary
          exact (yields_of_is_some hhead).bind fun _ _ => yields_pure trivial
      · exact yields_pure trivial

/-- A part up to a character that fails a test, and the part after that character. -/
theorem stands_at_of_span {text key rest : Text} {test : Char → Bool} {c : Char}
    (h : text.span test = (key, c :: rest)) :
    StandsAt text (byteLength key + c.utf8Size) rest ∧ test c = false := by
  rw [List.span_eq_takeWhile_dropWhile, Prod.mk.injEq] at h
  obtain ⟨hkey, hrest⟩ := h
  have htext : text.takeWhile test ++ text.dropWhile test = text :=
    List.takeWhile_append_dropWhile
  rw [hkey, hrest] at htext
  refine ⟨⟨key ++ [c], [], by simp [htext], ?_⟩, ?_⟩
  · rw [Text.byte_length_append, byteLength, byteLength, Nat.add_zero]
  · have hhead := List.head?_dropWhile_not test text
    rw [hrest] at hhead
    simpa using hhead

/-- An item of a list with commas stands in the list, at its offset from the start of it. -/
theorem item_stands {whole : Text} {start : Nat} {item : Nat × Text}
    (h : item ∈ Text.withOffsets start (Text.splitTopLevel whole ',')) :
    ∃ inner, item.1 = start + inner ∧ StandsAt whole inner item.2 := by
  have hcomma : ','.utf8Size = 1 := by decide
  obtain ⟨inner, hinner, hstands⟩ := Text.stands_at_of_mem_with_offsets hcomma h
  rw [Text.join_split_top_level] at hstands
  exact ⟨inner, hinner, hstands⟩

/-- A name at the start of a text is visible. -/
theorem name_is_solid {rest : Text}
    (hname : Text.isIdentifier (rest.takeWhile Text.isIdentChar) = true) :
    IsSolid (rest.takeWhile Text.isIdentChar) := by
  refine Text.is_solid_of_ident ?_ fun c hc => List.mem_takeWhile_imp hc
  intro hnil
  rw [hnil] at hname
  cases hname

/-- The name at the start of a text of identifier characters stands where it is found. -/
theorem find_name {text rest : Text} (hrest : rest <:+ text)
    (hname : Text.isIdentifier (rest.takeWhile Text.isIdentChar) = true) :
    StandsAt text ((Text.find? text (rest.takeWhile Text.isIdentChar)).getD 0)
        (rest.takeWhile Text.isIdentChar) ∧ IsSolid (rest.takeWhile Text.isIdentChar) := by
  refine ⟨?_, name_is_solid hname⟩
  have hstands := (Text.stands_at_of_ends hrest).trans
    (Text.stands_at_take_while Text.isIdentChar rest)
  obtain ⟨position, hposition⟩ := Option.isSome_iff_exists.mp (Text.find_is_some hstands)
  rw [hposition]
  exact Text.find_eq_some hposition

/-- What an item of a destructuring pattern binds to stands in it. -/
theorem pattern_target_stands (inBraces : Bool) (offset : Nat) (item : Text) :
    ∃ inner, (patternTarget inBraces offset item).2 = offset + inner ∧
      StandsAt item inner (patternTarget inBraces offset item).1 := by
  unfold patternTarget
  split
  · next key c bound hspan =>
      obtain ⟨hbound, hc⟩ := stands_at_of_span hspan
      have hcolon : c = ':' := by simpa using hc
      have hsize : c.utf8Size = 1 := by rw [hcolon]; decide
      rw [hsize] at hbound
      split
      · exact ⟨byteLength key + 1, Nat.add_assoc _ _ _, hbound⟩
      · exact ⟨0, rfl, Text.stands_at_zero item⟩
  · exact ⟨0, rfl, Text.stands_at_zero item⟩

/-- Leaving out white space and dots leaves the end of a text. -/
theorem without_dots_ends (text : Text) : withoutDots text <:+ text := by
  have htrim : Text.trimStart text <:+ text := List.dropWhile_suffix _
  unfold withoutDots
  cases hdots : Text.dropHead? (Text.trimStart text) "...".toList with
  | none => exact htrim
  | some rest =>
      have hsplit := Text.drop_head_eq_some hdots
      exact (hsplit ▸ List.suffix_append _ rest).trans htrim

/-- The name that an item of a destructuring pattern binds stands in it. -/
theorem pattern_name_stands {inBraces : Bool} {at' : Nat}
    (h : patternName? inBraces offset item = some (name, at')) :
    ∃ inner, at' = offset + inner ∧ StandsAt item inner name ∧ IsSolid name := by
  obtain ⟨inner, hbase, htarget⟩ := pattern_target_stands inBraces offset item
  unfold patternName? at h
  dsimp only at h
  split at h
  · next hname =>
      rw [Option.some.injEq, Prod.mk.injEq] at h
      obtain ⟨rfl, rfl⟩ := h
      obtain ⟨hfind, hsolid⟩ := find_name (without_dots_ends _) hname
      have htext := htarget.trans (Text.stands_at_take_while (· != '=') _)
      rw [Nat.add_zero] at htext
      exact ⟨_, by rw [hbase, Nat.add_assoc], htext.trans hfind, hsolid⟩
  · cases h

/-- What a bracket at the start of a text encloses can be cut out, to the end if it is not closed. -/
theorem enclosed_yields {c : Char} {rest : Text} (hsize : c.utf8Size = 1) :
    let text := c :: rest
    let stop := (Text.matchingDelimiter? text 0).getD (byteLength text)
    Yields (fun inside => StandsAt text 1 inside) (Text.slice? text 1 (min stop (byteLength text))) := by
  have hfirst : StandsAt (c :: rest) 0 [c] := ⟨[], rest, rfl, rfl⟩
  have hone := hfirst.stop_boundary
  rw [byteLength, byteLength, hsize] at hone
  have hpos : 1 ≤ byteLength (c :: rest) := Text.byte_length_pos c rest
  have hstop : 1 ≤ min ((Text.matchingDelimiter? (c :: rest) 0).getD (byteLength (c :: rest)))
        (byteLength (c :: rest)) ∧
      IsBoundary (c :: rest) (min ((Text.matchingDelimiter? (c :: rest) 0).getD
        (byteLength (c :: rest))) (byteLength (c :: rest))) := by
    cases hclose : Text.matchingDelimiter? (c :: rest) 0 with
    | none =>
        rw [Option.getD_none, Nat.min_self]
        exact ⟨hpos, Text.is_boundary_byte_length _⟩
    | some close =>
        obtain ⟨_, closer, _, _, hcloser, hlt⟩ := Text.matching_delimiter_eq_some hclose
        have hle := hcloser.le_byte_length
        rw [Option.getD_some, Nat.min_eq_left (by omega)]
        exact ⟨hlt, hcloser.start_boundary⟩
  obtain ⟨inside, hinside⟩ := Option.isSome_iff_exists.mp
    (Text.slice_is_some_iff.mpr ⟨hstop.1, hone, hstop.2⟩)
  exact ⟨inside, hinside, (Text.slice_eq_some_iff.mp hinside).1⟩

/-- The head of a declarator binds names that stand in it. -/
theorem bound_names_yields (binding : Text) :
    Yields (fun names => ∀ entry ∈ names, StandsAt binding entry.2 entry.1 ∧ IsSolid entry.1)
      (boundNames? binding) := by
  have htrim := Text.stands_at_trim_start binding
  unfold boundNames?
  dsimp only
  split
  · exact yields_some (by simp)
  · next c rest hrest =>
      rw [hrest] at htrim ⊢
      split
      · next hbracket =>
          have hsize : c.utf8Size = 1 := by
            rcases Bool.or_eq_true_iff.mp hbracket with hbrace | hbrace
            · rw [of_decide_eq_true hbrace]; decide
            · rw [of_decide_eq_true hbrace]; decide
          refine (enclosed_yields hsize).bind fun inside hinside => yields_pure ?_
          intro entry hentry
          obtain ⟨⟨at', item⟩, hitem, hname⟩ := List.mem_filterMap.mp hentry
          obtain ⟨outer, hat, hstands⟩ := item_stands hitem
          obtain ⟨inner, hoffset, hinner, hsolid⟩ := pattern_name_stands hname
          have hplace : entry.2 = byteLength binding - byteLength (c :: rest) + 1 + (outer + inner) := by
            omega
          exact ⟨hplace ▸ (htrim.trans hinside).trans (hstands.trans hinner), hsolid⟩
      · refine yields_some ?_
        split
        · next hname =>
            intro entry hentry
            rw [List.mem_singleton] at hentry
            subst hentry
            exact ⟨htrim.trans (Text.stands_at_take_while _ _), name_is_solid hname⟩
        · simp

/-- A statement begins the text that it is read from, after what was read before. -/
theorem statement_from_begins (depth : Nat) (seen rest : Text) :
    statementFrom depth seen rest <+: seen.reverse ++ rest := by
  induction rest generalizing depth seen with
  | nil => simp [statementFrom]
  | cons c rest ih =>
      have hgo : ∀ depth, statementFrom depth (c :: seen) rest <+: seen.reverse ++ c :: rest := by
        intro depth
        have h := ih depth (c :: seen)
        rwa [List.reverse_cons, List.append_assoc, List.singleton_append] at h
      have hstop : seen.reverse <+: seen.reverse ++ c :: rest := List.prefix_append _ _
      rw [statementFrom]
      split
      · exact hgo _
      · split
        · split
          · exact hstop
          · exact hgo _
        · split
          · exact hstop
          · split
            · exact hstop
            · exact hgo _

end Names

section Extents

variable {masked line : Text} {start : Nat} {pattern : Pattern} {found : Match}

/-- A body that is found ends where its block does. -/
theorem exists_block {line : Nat} (h : blockEndLine? masked start = some line) :
    ∃ brace stop, IsBlock masked start brace stop ∧ line = Text.lineOfOffset masked stop := by
  obtain ⟨rest, hrest, h⟩ := Option.bind_eq_some_iff.mp h
  obtain ⟨offset, hoffset, h⟩ := Option.bind_eq_some_iff.mp h
  obtain ⟨front, c, back, rfl, rfl, hc, hfront⟩ := Text.exists_of_find_char hoffset
  split at h
  · next hbyte =>
      obtain ⟨stop, hstop, h⟩ := Option.bind_eq_some_iff.mp h
      have hbrace : c = '{' := by
        rcases Bool.or_eq_true_iff.mp hc with hc | hc
        · exact of_decide_eq_true hc
        · rw [of_decide_eq_true hc, Text.byte_at front (by decide)] at hbyte
          cases hbyte
      have hstands := Text.stands_at_of_drop_bytes hrest
      rw [hbrace, ← List.singleton_append, ← List.append_assoc] at hstands
      refine ⟨_, stop, ⟨front, hstands.front, fun hmem => ?_, rfl, hstop⟩, (Option.some.inj h).symm⟩
      exact absurd (hfront _ hmem) (by decide)
  · cases h

/-- The body of a callable ends after its parameter list. -/
theorem exists_callable {line : Nat} (h : callableEndLine? masked start = some line) :
    ∃ rest inner close stop, Text.dropBytes? masked start = some rest ∧
      Text.findChar? rest (· = '(') = some inner ∧
      Text.matchingDelimiter? masked (start + inner) = some close ∧ close < stop ∧
      line = Text.lineOfOffset masked stop := by
  obtain ⟨rest, hrest, h⟩ := Option.bind_eq_some_iff.mp h
  obtain ⟨inner, hinner, h⟩ := Option.bind_eq_some_iff.mp h
  obtain ⟨close, hclose, h⟩ := Option.bind_eq_some_iff.mp h
  obtain ⟨brace, stop, ⟨between, -, -, hbrace, hstop⟩, hline⟩ := exists_block h
  obtain ⟨-, -, -, -, -, hlt⟩ := Text.matching_delimiter_eq_some hstop
  exact ⟨rest, inner, close, stop, hrest, hinner, hclose, by omega, hline⟩

/-- A line has no braces up to a group of a match at its start that reads none. -/
theorem clear_to_group {number stop : Nat} (h : found.IsIn pattern line) (hzero : found.start = 0)
    (hno : (pattern.readsNo '{' && pattern.readsNo '}') = true)
    (hgroup : found.group? number = some (start, stop)) : IsClear line start := by
  obtain ⟨read, ⟨front, back, rfl, hfront⟩, -, hreads⟩ := h
  rw [hzero, Text.byte_length_eq_zero] at hfront
  subst hfront
  obtain ⟨⟨other, extent⟩, hfind, rfl⟩ := Option.map_eq_some_iff.mp hgroup
  obtain ⟨inner, part, rfl, -, ⟨left, right, rfl, rfl⟩, -⟩ :=
    hreads.group_stands (List.mem_of_find?_eq_some hfind)
  have hboth := Bool.and_eq_true_iff.mp hno
  have hopen := hreads.not_mem hboth.1
  have hclose := hreads.not_mem hboth.2
  refine ⟨left, part ++ right ++ back, by simp, by rw [hzero, Nat.zero_add], ?_, ?_⟩
  · exact fun hmem => hopen (List.mem_append_left _ hmem)
  · exact fun hmem => hclose (List.mem_append_left _ hmem)

/-- A line has no braces up to the end of a match at its start that reads none. -/
theorem clear_to_stop (h : found.IsIn pattern line) (hzero : found.start = 0)
    (hno : (pattern.readsNo '{' && pattern.readsNo '}') = true) : IsClear line found.stop := by
  obtain ⟨read, ⟨front, back, rfl, hfront⟩, hstop, hreads⟩ := h
  rw [hzero, Text.byte_length_eq_zero] at hfront
  subst hfront
  have hboth := Bool.and_eq_true_iff.mp hno
  exact ⟨read, back, rfl, by rw [hstop, hzero, Nat.zero_add], hreads.not_mem hboth.1,
    hreads.not_mem hboth.2⟩

/-- The part of a line that is clear of braces lies on the line. -/
theorem IsClear.le {inner : Nat} (h : IsClear line inner) : inner ≤ byteLength line := by
  obtain ⟨front, back, rfl, rfl, -⟩ := h
  rw [Text.byte_length_append]
  exact Nat.le_add_right _ _

end Extents

variable {source : Source} (layout : SameLayout source.content source.masked)

section Symbols

variable {name : Text} {kind : SymbolKind} {offset stop : Nat} {container : Option String}
  {modifiers : List Modifier} {endLine : Option Nat}

include layout

/-- The lines of the masked text are those of the source. -/
theorem line_of_masked (offset : Nat) :
    Text.lineOfOffset source.masked offset = Text.lineOfOffset source.content offset := by
  rw [Text.lineOfOffset, Text.lineOfOffset, layout.line_feeds_before_eq]

/-- A symbol is made where its name stands, with the end that is known. -/
theorem symbol_at_makes (h : Touches source.masked offset)
    (hname : name = "default".toList ∨ StandsAt source.masked offset name ∧ IsSolid name)
    (hstop : endLine.getD (Text.lineOfOffset source.content offset) =
      Text.lineOfOffset source.content stop) :
    Yields (fun symbol => source.Makes offset stop container symbol ∧
        symbol.name = String.ofList name ∧ symbol.kind = kind)
      (symbolAt? source name kind offset endLine container modifiers) := by
  have htouches := layout.touches h
  have hbefore := Text.take_bytes_is_some_iff.mpr htouches.is_boundary
  have hafter := Text.drop_bytes_is_some_iff.mpr htouches.is_boundary
  have haround : Yields (fun _ => True) (lineAround? source.content offset) :=
    (yields_of_is_some hbefore).bind fun _ _ =>
      (yields_of_is_some hafter).bind fun _ _ => yields_pure trivial
  refine haround.bind fun _ _ => yields_pure ⟨⟨h, ?_, rfl, ?_, rfl, rfl⟩, rfl, rfl⟩
  · rcases hname with rfl | hstands
    · exact Or.inl rfl
    · exact Or.inr (by rwa [String.toList_ofList])
  · rw [← hstop]
    rfl

/-- A symbol is made on its own line where no end is given, and else on the lines up to that end. -/
theorem symbol_at_yields (h : Touches source.masked offset)
    (hname : name = "default".toList ∨ StandsAt source.masked offset name ∧ IsSolid name)
    (hend : ∀ last ∈ endLine, ∃ stop, last = Text.lineOfOffset source.content stop) :
    Yields (fun symbol => ∃ stop, source.Makes offset stop container symbol)
      (symbolAt? source name kind offset endLine container modifiers) := by
  have hstop : ∃ stop, endLine.getD (Text.lineOfOffset source.content offset) =
      Text.lineOfOffset source.content stop := by
    cases endLine with
    | none => exact ⟨offset, rfl⟩
    | some last => exact hend last rfl
  obtain ⟨stop, hstop⟩ := hstop
  exact (symbol_at_makes layout h hname hstop).imp fun symbol hsymbol => ⟨stop, hsymbol.1⟩

end Symbols

section Statements

variable {name line : Text} {kind : SymbolKind} {offset inner : Nat} {depth : Int}
  {container : Option String} {modifiers : List Modifier} {endLine : Option Nat}
  {found : Pattern.Match}

include layout

/-- A body that is found ends on a line of the source. -/
theorem callable_stop {start last : Nat} (h : callableEndLine? source.masked start = some last) :
    ∃ stop, last = Text.lineOfOffset source.content stop := by
  obtain ⟨-, -, -, stop, -, -, -, -, hlast⟩ := exists_callable h
  exact ⟨stop, hlast.trans (line_of_masked layout stop)⟩

/-- A line adds one symbol whose name stands on it. -/
theorem one_name_yields (hinner : inner ≤ byteLength line)
    (h : Touches source.masked (offset + inner))
    (hname : name = "default".toList ∨
      StandsAt source.masked (offset + inner) name ∧ IsSolid name)
    (hend : ∀ last ∈ endLine, ∃ stop, last = Text.lineOfOffset source.content stop) :
    Yields (source.Adds line offset depth container) (do
      let symbol ← symbolAt? source name kind (offset + inner) endLine container modifiers
      pure { symbols := [symbol] }) := by
  refine (symbol_at_yields layout h hname hend).bind fun symbol hsymbol => yields_pure (.names ?_)
  intro other hother
  obtain ⟨stop, hmakes⟩ := hsymbol
  exact List.mem_singleton.mp hother ▸ ⟨_, stop, by omega, by omega, hmakes⟩

/-- A line adds a declaration that opens a body if one is found after its name. -/
theorem body_yields {frameKind : FrameKind} (hclear : IsClear line inner)
    (h : Touches source.masked (offset + inner))
    (hname : name = "default".toList ∨
      StandsAt source.masked (offset + inner) name ∧ IsSolid name) :
    Yields (source.Adds line offset depth container) (do
      let symbol ← symbolAt? source name kind (offset + inner)
        (blockEndLine? source.masked (offset + inner)) container modifiers
      pure {
        symbols := [symbol]
        opens := frame? name frameKind depth (blockEndLine? source.masked (offset + inner)) }) := by
  cases hend : blockEndLine? source.masked (offset + inner) with
  | none =>
      refine (symbol_at_makes layout h hname rfl).bind fun symbol hsymbol => yields_pure ?_
      exact .body hclear hsymbol.1 nofun
  | some last =>
      obtain ⟨brace, stop, hblock, hlast⟩ := exists_block hend
      have hstop : (some last).getD (Text.lineOfOffset source.content (offset + inner)) =
          Text.lineOfOffset source.content stop := hlast.trans (line_of_masked layout stop)
      refine (symbol_at_makes layout h hname hstop).bind fun symbol hsymbol => yields_pure ?_
      refine .body hclear hsymbol.1 fun frame hframe => ?_
      obtain rfl := Option.some.inj hframe
      exact ⟨hsymbol.2.1.symm, rfl, hstop, brace, hblock⟩

/-- The names that a declarator binds are read. -/
theorem declarator_yields {isConst : Bool} {start : Nat} {whole part : Text} {inner : Nat}
    (hwhole : StandsAt source.masked start whole) (hpart : StandsAt whole inner part) :
    Yields (∀ symbol ∈ ·, source.MakesIn start (byteLength whole) container symbol)
      (declarator? source isConst container modifiers (start + inner) part) := by
  unfold declarator?
  refine (starts_function_yields _).bind fun isFunction _ => ?_
  refine (bound_names_yields _).bind fun names hnames => yields_map_m ?_
  intro entry hentry
  obtain ⟨hstands, hsolid⟩ := hnames entry hentry
  have hbinding := Text.stands_at_of_begins (Text.head_split_top_level part '=')
  have hplace := hpart.trans (hbinding.trans hstands)
  have hle := hplace.le_byte_length
  rw [Nat.zero_add] at hplace hle
  have hmasked := hwhole.trans hplace
  rw [← Nat.add_assoc] at hmasked
  refine (symbol_at_yields layout (hsolid.touches_start hmasked) (Or.inr ⟨hmasked, hsolid⟩)
    fun last hlast => ⟨_, (Option.some.inj hlast).symm⟩).imp fun symbol hsymbol => ?_
  obtain ⟨stop, hmakes⟩ := hsymbol
  exact ⟨_, stop, by omega, by omega, hmakes⟩

variable (hline : StandsAt source.masked offset line)

include hline

/-- A container with a solid name is read. -/
theorem container_line_yields {pattern : Pattern} {number : Nat} {frameKind : FrameKind}
    (hfound : found.IsIn pattern line) (hzero : found.start = 0)
    (hstatic : (pattern.records number && pattern.solidGroup number) = true)
    (hno : (pattern.readsNo '{' && pattern.readsNo '}') = true) :
    Yields (source.Adds line offset depth container)
      (containerLine? source line offset depth container found number kind frameKind) := by
  obtain ⟨start, stop, name, hgroup, hname, hstands, hsolid, -⟩ := hfound.exists_solid hstatic
  refine yields_bind_of_eq hgroup (yields_bind_of_eq hname ?_)
  exact body_yields layout (clear_to_group hfound hzero hno hgroup)
    (hline.touches (hsolid.touches_start hstands)) (Or.inr ⟨hline.trans hstands, hsolid⟩)

/-- A class is read. One without a name has its symbol at the end of what was matched, which is the
keyword or a word that is no name. -/
theorem class_line_yields (hfound : found.IsIn Line.classLine line) (hzero : found.start = 0) :
    Yields (source.Adds line offset depth container)
      (classLine? source line offset depth container found) := by
  unfold classLine?
  dsimp only
  split
  · next start name hnamed =>
      have hgroup : ∃ stop, found.group? 2 = some (start, stop) ∧ found.text? line 2 = some name := by
        split at hnamed
        · next first last word hgroup hword =>
            split at hnamed
            · cases hnamed
            · cases hnamed
              exact ⟨last, hgroup, hword⟩
        · cases hnamed
      obtain ⟨stop, hgroup, hname⟩ := hgroup
      obtain ⟨part, hpart, hstands, hsolid, -⟩ := hfound.of_solid_group (by decide) hgroup
      obtain rfl := Option.some.inj (hname.symm.trans hpart)
      exact body_yields layout (clear_to_group hfound hzero (by decide) hgroup)
        (hline.touches (hsolid.touches_start hstands)) (Or.inr ⟨hline.trans hstands, hsolid⟩)
  · refine yields_ite (fun _ => ?_) fun _ => yields_pure (.names (by simp))
    have hclear := clear_to_stop hfound hzero (by decide)
    obtain ⟨read, hread, hstop, hreads⟩ := hfound
    have hne := hreads.ne_nil (by decide)
    have hspace := hreads.last_ne (c := ' ') (by decide)
    have hfeed := hreads.last_ne (c := '\n') (by decide)
    obtain ⟨front, c, rfl⟩ := List.eq_nil_or_concat read |>.resolve_left hne
    rw [List.concat_eq_append] at *
    have htouches : Touches line found.stop := by
      refine ⟨found.start + byteLength front, c, hread.back, by simpa using hspace,
        by simpa using hfeed, Or.inr ?_⟩
      rw [hstop, Text.byte_length_append, byteLength, byteLength]
      omega
    exact body_yields layout hclear (hline.touches htouches) (Or.inl rfl)

/-- A function is read. One without a name has its symbol at its keyword. -/
theorem function_line_yields (hfound : found.IsIn Line.functionLine line) :
    Yields (source.Adds line offset depth container)
      (functionLine? source line offset container found) := by
  unfold functionLine?
  dsimp only
  split
  · next start stop name hgroup hname =>
      obtain ⟨part, hpart, hstands, hsolid, -⟩ := hfound.of_solid_group (by decide) hgroup
      obtain rfl := Option.some.inj (hname.symm.trans hpart)
      exact one_name_yields layout hstands.start_boundary.le_byte_length
        (hline.touches (hsolid.touches_start hstands)) (Or.inr ⟨hline.trans hstands, hsolid⟩)
        fun last hlast => callable_stop layout hlast
  · refine yields_ite (fun _ => ?_) fun _ => yields_pure (.names (by simp))
    have hkeyword : ∃ at', StandsAt line at' "function".toList := by
      obtain ⟨read, hread, -, hreads⟩ := hfound
      generalize found.groups = groups at hreads
      cases hreads with
      | seq hmodifiers hrest =>
          cases hrest with
          | seq hword hlater =>
              rw [hword.literal_eq] at hread
              exact ⟨_, hread.back.front⟩
          | assertion hassertion => cases hassertion
      | assertion hassertion => cases hassertion
    obtain ⟨at', hat⟩ := hkeyword
    obtain ⟨position, hposition⟩ := Option.isSome_iff_exists.mp (Text.find_is_some hat)
    have hstands := Text.find_eq_some hposition
    have hsolid : IsSolid "function".toList := ⟨by decide, by decide, by decide⟩
    rw [hposition, Option.getD_some]
    exact one_name_yields layout hstands.start_boundary.le_byte_length
      (hline.touches (hsolid.touches_start hstands)) (Or.inl rfl)
      fun last hlast => callable_stop layout hlast

/-- The variables of a statement are read. -/
theorem variable_line_yields (hfound : found.IsIn Line.variableLine line) (hzero : found.start = 0) :
    Yields (source.Adds line offset depth container)
      (variableLine? source line offset container found) := by
  have hclear := clear_to_stop hfound hzero (by decide)
  have hboundary : IsBoundary source.masked (offset + found.stop) := by
    obtain ⟨read, hread, hstop, -⟩ := hfound
    rw [hstop]
    exact hline.is_boundary hread.stop_boundary
  obtain ⟨rest, hrest⟩ := Option.isSome_iff_exists.mp (Text.drop_bytes_is_some_iff.mpr hboundary)
  have hstatement : StandsAt source.masked (offset + found.stop) (statement rest) := by
    have hbegins : statement rest <+: rest := statement_from_begins 0 [] rest
    exact (Text.stands_at_of_drop_bytes hrest).trans (Text.stands_at_of_begins hbegins)
  refine yields_bind_of_eq hrest ?_
  let good : List Symbol → Prop := (∀ symbol ∈ ·,
    source.MakesIn (offset + found.stop) (byteLength (statement rest)) container symbol)
  refine (@yields_map_m _ _ good _ _ fun item hitem => ?_).bind fun symbols hsymbols =>
    yields_pure (.variables hclear hrest fun symbol hsymbol => ?_)
  · obtain ⟨inner, hinner, hpart⟩ := item_stands hitem
    dsimp only
    rw [hinner]
    exact declarator_yields layout hstatement hpart
  · obtain ⟨group, hgroup, hsymbol⟩ := List.mem_flatten.mp hsymbol
    exact hsymbols group hgroup symbol hsymbol

/-- What a line declares at the level of statements is read. -/
theorem statement_line_yields :
    Yields (source.Adds line offset depth container)
      (statementLine? source line offset depth container) := by
  unfold statementLine?
  split
  · next found hfound =>
      obtain ⟨hin, hzero⟩ := Pattern.match_start_is_in hfound
      exact class_line_yields layout hline hin hzero
  split
  · next found hfound =>
      obtain ⟨hin, hzero⟩ := Pattern.match_start_is_in hfound
      exact container_line_yields layout hline hin hzero (by decide) (by decide)
  split
  · next found hfound =>
      obtain ⟨hin, hzero⟩ := Pattern.match_start_is_in hfound
      exact container_line_yields layout hline hin hzero (by decide) (by decide)
  split
  · next found hfound =>
      obtain ⟨hin, hzero⟩ := Pattern.match_start_is_in hfound
      exact container_line_yields layout hline hin hzero (by decide) (by decide)
  split
  · next found hfound =>
      obtain ⟨start, stop, name, hgroup, hname, hstands, hsolid, -⟩ :=
        (Pattern.match_start_is_in hfound).1.exists_solid
          (show (Line.typeLine.records 2 && Line.typeLine.solidGroup 2) = true by decide)
      refine yields_bind_of_eq hgroup (yields_bind_of_eq hname ?_)
      exact one_name_yields layout hstands.start_boundary.le_byte_length
        (hline.touches (hsolid.touches_start hstands)) (Or.inr ⟨hline.trans hstands, hsolid⟩) nofun
  split
  · next found hfound =>
      exact function_line_yields layout hline (Pattern.match_start_is_in hfound).1
  split
  · next found hfound =>
      obtain ⟨hin, hzero⟩ := Pattern.match_start_is_in hfound
      exact variable_line_yields layout hline hin hzero
  split
  · exact yields_pure (.names (by simp))
  · obtain ⟨exports, hexports⟩ : ∃ exports, exportLine line = { exports } := by
      unfold exportLine
      split
      · split
        · exact ⟨[], rfl⟩
        · exact ⟨_, rfl⟩
      · split
        · exact ⟨_, rfl⟩
        · exact ⟨[], rfl⟩
    rw [hexports]
    exact yields_pure (.names (by simp))

end Statements

section Members

variable {line : Text} {offset nameAt stop : Nat} {depth : Int} {name : String}
  {found : Pattern.Match}

/-- Optional symbols that are there satisfy what those of the items do. -/
theorem yields_filter_map {f : Nat × Text → Option (Option Symbol)} {items : List (Nat × Text)}
    {good : Symbol → Prop}
    (h : ∀ item ∈ items, Yields (fun found => ∀ symbol ∈ found, good symbol) (f item)) :
    Yields (fun found => ∀ symbol ∈ found.filterMap id, good symbol) (items.mapM f) := by
  refine (yields_map_m h).imp fun found hfound symbol hsymbol => ?_
  obtain ⟨item, hitem, hsome⟩ := List.mem_filterMap.mp hsymbol
  exact hfound item hitem symbol hsome

/-- The parameter list behind a name is closed at `close`. -/
def ClosesList (masked : Text) (nameAt close : Nat) : Prop :=
  ∃ rest inner, Text.dropBytes? masked nameAt = some rest ∧
    Text.findChar? rest (· = '(') = some inner ∧
    Text.matchingDelimiter? masked (nameAt + inner) = some close

include layout

/-- A callable ends after its parameter list, or no body is found and it ends at its name. -/
theorem exists_callable_stop (nameAt : Nat) :
    ∃ stop, (callableEndLine? source.masked nameAt).getD
        (Text.lineOfOffset source.content nameAt) = Text.lineOfOffset source.content stop ∧
      ∀ close, ClosesList source.masked nameAt close → close ≤ stop ∨ stop = nameAt := by
  cases hend : callableEndLine? source.masked nameAt with
  | none => exact ⟨nameAt, rfl, fun _ _ => Or.inr rfl⟩
  | some last =>
      obtain ⟨rest, inner, close, stop, hrest, hinner, hclose, hlt, hlast⟩ := exists_callable hend
      refine ⟨stop, hlast.trans (line_of_masked layout stop), fun other hother => Or.inl ?_⟩
      obtain ⟨rest', inner', hrest', hinner', hother⟩ := hother
      obtain rfl := Option.some.inj (hrest.symm.trans hrest')
      obtain rfl := Option.some.inj (hinner.symm.trans hinner')
      obtain rfl := Option.some.inj (hclose.symm.trans hother)
      exact Nat.le_of_lt hlt

/-- One parameter of a constructor is read. -/
theorem parameter_yields {start : Nat} {whole part : Text} {inner : Nat}
    (hwhole : StandsAt source.masked start whole) (hpart : StandsAt whole inner part) :
    Yields (fun found => ∀ parameter ∈ found, parameter.kind = .parameter ∧
        ∃ at', start ≤ at' ∧ at' ≤ start + byteLength whole ∧
          source.Makes at' at' (some (name ++ ".constructor")) parameter) (do
      let some found := Line.parameterHead.matchStart? part | return none
      let (nameStart, _) ← found.group? 2
      let word ← found.text? part 2
      if word = "this".toList then return none
      let symbol ← symbolAt? source word .parameter (start + inner + nameStart) none
        (some (name ++ ".constructor")) (modifiersOf found part)
      return some symbol) := by
  split
  · next found hfound =>
      obtain ⟨first, last, word, hgroup, hword, hstands, hsolid, -⟩ :=
        (Pattern.match_start_is_in hfound).1.exists_solid
          (show (Line.parameterHead.records 2 && Line.parameterHead.solidGroup 2) = true by decide)
      refine yields_bind_of_eq hgroup (yields_bind_of_eq hword ?_)
      refine yields_ite (fun _ => yields_pure (by simp)) fun _ => ?_
      have hplace := hpart.trans hstands
      have hle := hplace.le_byte_length
      have hmasked := hwhole.trans hplace
      rw [← Nat.add_assoc] at hmasked
      refine (symbol_at_makes layout (hsolid.touches_start hmasked) (Or.inr ⟨hmasked, hsolid⟩)
        rfl).bind fun symbol hsymbol => yields_pure fun parameter hparameter => ?_
      obtain rfl := Option.some.inj hparameter
      exact ⟨hsymbol.2.2, _, by omega, by omega, hsymbol.1⟩
  · exact yields_pure (by simp)

/-- The parameters of a constructor are read. They stand behind its name, and before its end if a body
is found. -/
theorem constructor_parameters_yields (hname : IsBoundary source.masked nameAt)
    (hstop : ∀ close, ClosesList source.masked nameAt close → close ≤ stop ∨ stop = nameAt) :
    Yields (fun symbols => ∀ parameter ∈ symbols, parameter.kind = .parameter ∧
        ∃ at', nameAt ≤ at' ∧ (at' ≤ stop ∨ stop = nameAt) ∧
          source.Makes at' at' (some (name ++ ".constructor")) parameter)
      (constructorParameters? source nameAt name) := by
  obtain ⟨rest, hrest⟩ := Option.isSome_iff_exists.mp (Text.drop_bytes_is_some_iff.mpr hname)
  unfold constructorParameters?
  dsimp only
  rw [hrest, Option.getD_some]
  split
  · next inner hinner =>
      split
      · next close hclose =>
          obtain ⟨opener, closer, hpair, hopener, hcloser, hlt⟩ :=
            Text.matching_delimiter_eq_some hclose
          have hstart := hopener.stop_boundary
          rw [byteLength, byteLength, (Text.bracket_of_mem hpair).1.1] at hstart
          obtain ⟨list, hlist⟩ := Option.isSome_iff_exists.mp
            (Text.slice_is_some_iff.mpr ⟨hlt, hstart, hcloser.start_boundary⟩)
          obtain ⟨hstands, hlength⟩ := Text.slice_eq_some_iff.mp hlist
          have hend := hstop close ⟨rest, inner, hrest, hinner, hclose⟩
          refine yields_bind_of_eq hlist ?_
          refine (yields_filter_map fun item hitem => ?_).bind fun symbols hsymbols =>
            yields_pure hsymbols
          obtain ⟨inner', hitem, hpart⟩ := item_stands hitem
          rw [hitem]
          refine (parameter_yields layout hstands hpart).imp fun found hfound parameter hparameter => ?_
          obtain ⟨hkind, at', hge, hle, hmakes⟩ := hfound parameter hparameter
          exact ⟨hkind, at', by omega, by omega, hmakes⟩
      · exact yields_pure (by simp)
  · exact yields_pure (by simp)

variable (hline : StandsAt source.masked offset line)

include hline

/-- A method is read, and the parameters of a constructor with it. -/
theorem method_line_yields (hfound : found.IsIn Line.methodLine line) :
    Yields (source.Adds line offset depth (some name))
      (methodLine? source line offset name found) := by
  obtain ⟨start, last, word, hgroup, hword, hstands, hsolid, -⟩ :=
    hfound.exists_solid
      (show (Line.methodLine.records 2 && Line.methodLine.solidGroup 2) = true by decide)
  have htouches := hline.touches (hsolid.touches_start hstands)
  have hinner := hstands.start_boundary.le_byte_length
  refine yields_bind_of_eq hgroup (yields_bind_of_eq hword ?_)
  refine yields_ite (fun _ => yields_pure (.names (by simp))) fun _ => ?_
  obtain ⟨stop, hstop, hparameters⟩ := exists_callable_stop layout (offset + start)
  refine (symbol_at_makes layout htouches (Or.inr ⟨hline.trans hstands, hsolid⟩) hstop).bind
    fun symbol hsymbol => ?_
  obtain ⟨hmakes, hname, hkind⟩ := hsymbol
  refine yields_ite (fun hconstructor => ?_) fun _ => yields_pure (.names ?_)
  · have hword : String.ofList word = "constructor" := by
      by_contra hne
      simp [hne] at hconstructor
    refine (constructor_parameters_yields layout htouches.is_boundary hparameters).bind
      fun parameters hparameters => yields_pure ?_
    exact .constructor rfl hinner hmakes (hname.trans hword) (hkind.trans hconstructor) hparameters
  · intro other hother
    exact List.mem_singleton.mp hother ▸ ⟨_, stop, by omega, by omega, hmakes⟩

/-- A property is read. -/
theorem property_line_yields (hfound : found.IsIn Line.propertyLine line) :
    Yields (source.Adds line offset depth (some name))
      (propertyLine? source line offset name found) := by
  obtain ⟨start, last, word, hgroup, hword, hstands, hsolid, -⟩ :=
    hfound.exists_solid
      (show (Line.propertyLine.records 2 && Line.propertyLine.solidGroup 2) = true by decide)
  have htouches := hline.touches (hsolid.touches_start hstands)
  have hinner := hstands.start_boundary.le_byte_length
  have hnamed := And.intro (hline.trans hstands) hsolid
  have hrest := Text.drop_bytes_is_some_iff.mpr htouches.is_boundary
  refine yields_bind_of_eq hgroup (yields_bind_of_eq hword ?_)
  refine yields_ite (fun _ => yields_pure (.names (by simp))) fun _ => ?_
  refine (starts_function_yields _).bind fun isFunction _ => yields_ite (fun _ => ?_) fun _ => ?_
  · refine (yields_of_is_some hrest).bind fun _ _ => ?_
    exact one_name_yields layout hinner htouches (Or.inr hnamed)
      fun last hlast => ⟨_, (Option.some.inj hlast).symm⟩
  · exact one_name_yields layout hinner htouches (Or.inr hnamed) nofun

/-- What a line of a class body declares is read. -/
theorem class_body_line_yields :
    Yields (source.Adds line offset depth (some name)) (classBodyLine? source line offset name) := by
  unfold classBodyLine?
  split
  · next found hfound =>
      exact method_line_yields layout hline (Pattern.match_start_is_in hfound).1
  · split
    · next found hfound =>
        exact property_line_yields layout hline (Pattern.match_start_is_in hfound).1
    · exact yields_some (.names (by simp))

/-- What a line of an interface body declares is read. -/
theorem interface_body_line_yields :
    Yields (source.Adds line offset depth (some name))
      (interfaceBodyLine? source line offset name) := by
  unfold interfaceBodyLine?
  split
  · next found hfound =>
      obtain ⟨start, last, word, hgroup, hword, hstands, hsolid, -⟩ :=
        (Pattern.match_start_is_in hfound).1.exists_solid
          (show (Line.interfaceMemberLine.records 1 && Line.interfaceMemberLine.solidGroup 1) = true
            by decide)
      refine yields_bind_of_eq hgroup (yields_bind_of_eq hword ?_)
      refine yields_ite (fun _ => yields_pure (.names (by simp))) fun _ => ?_
      exact one_name_yields layout hstands.start_boundary.le_byte_length
        (hline.touches (hsolid.touches_start hstands)) (Or.inr ⟨hline.trans hstands, hsolid⟩) nofun
  · exact yields_pure (.names (by simp))

/-- The members of an enumeration on a line of its body are read. -/
theorem enum_body_line_yields :
    Yields (source.Adds line offset depth (some name)) (enumBodyLine? source line offset name) := by
  refine (yields_filter_map fun item hitem => ?_).bind fun symbols hsymbols =>
    yields_pure (.names hsymbols)
  obtain ⟨inner, hinner, hpart⟩ := item_stands hitem
  unfold enumMember?
  dsimp only
  rw [hinner]
  refine yields_ite (fun _ => yields_pure (by simp)) fun hname => ?_
  refine yields_ite (fun _ => yields_pure (by simp)) fun _ => ?_
  have hne : (Text.trimStart item.2).takeWhile Text.isIdentChar ≠ [] := by
    intro hnil
    simp [hnil] at hname
  have hsolid := Text.is_solid_of_ident hne fun c hc => List.mem_takeWhile_imp hc
  have hplace := hpart.trans ((Text.stands_at_trim_start item.2).trans
    (Text.stands_at_take_while Text.isIdentChar _))
  have hle := hplace.le_byte_length
  have hmasked := hline.trans hplace
  rw [Nat.add_zero, ← Nat.add_assoc] at hmasked
  have hend : ∀ last ∈ (none : Option Nat), ∃ stop, last = Text.lineOfOffset source.content stop :=
    nofun
  refine (symbol_at_yields layout (hsolid.touches_start hmasked) (Or.inr ⟨hmasked, hsolid⟩)
    hend).bind fun symbol hsymbol => yields_pure fun other hother => ?_
  obtain rfl := Option.some.inj hother
  obtain ⟨stop, hmakes⟩ := hsymbol
  exact ⟨_, stop, by omega, by omega, hmakes⟩

/-- What one line declares is read. -/
theorem contribution_yields {frame : Option Frame} :
    Yields (source.Adds line offset depth (frame.map (·.name)))
      (contribution? source line offset depth frame) := by
  unfold contribution?
  split
  · exact statement_line_yields layout hline
  · split
    · exact statement_line_yields layout hline
    · exact class_body_line_yields layout hline
    · exact interface_body_line_yields layout hline
    · exact enum_body_line_yields layout hline

end Members

end Declaration

end CodeAtlas
