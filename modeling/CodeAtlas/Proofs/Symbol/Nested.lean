import CodeAtlas.Proofs.Symbol.Outline

/-!
# What nesting keeps, and what it gives back

Nesting a list of outlines neither drops nor repeats a symbol, and those that name no container stay at
the top. Read `Placed` first: it says of a forest which place of a list each of its symbols is from,
and that each one that is nested belongs where it is. A forest that takes a later symbol in keeps this
(`Placed.insert`), so the outline of a list has it (`nest_keeps_and_places`).

A forest that is laid out as a source is (`IsLaidOut`) is built again from its list of symbols
(`of_symbols_flatten`). The symbols around the next one are then a spine, each the last of its level
(`onSpine`). The next symbol goes to the end of the spine, because what stands beside the spine ends
before it (`place_last_on_spine`).
-/

namespace CodeAtlas

namespace Outline

variable {item : Outline} {container : String}

section Kept

/-- A forest with one item more has its own symbols and those of the item. -/
theorem insert_perm (forest : List Outline) (item : Outline) :
    (flatten (insert forest item)).Perm (flatten forest ++ item.symbols) := by
  have happended : flatten (forest ++ [item]) = flatten forest ++ item.symbols := by
    rw [flatten_append, flatten_singleton]
  unfold insert
  split
  · rw [happended]
  · next container _ =>
      cases hplaced : placeLast? item container forest with
      | none => rw [Option.getD_none, happended]
      | some updated => exact place_last_flatten_perm hplaced

/-- Items that are added one after another bring their symbols. -/
theorem foldl_insert_perm (items forest : List Outline) :
    (flatten (items.foldl insert forest)).Perm (flatten forest ++ flatten items) := by
  induction items generalizing forest with
  | nil => rw [List.foldl_nil, flatten, List.append_nil]
  | cons first rest ih =>
      have hfirst := (insert_perm forest first).append_right (flatten rest)
      rw [List.append_assoc] at hfirst
      rw [List.foldl_cons, flatten]
      exact (ih (insert forest first)).trans hfirst

/-- The symbols of a forest that name no container, of the roots only. -/
def freeRoots (forest : List Outline) : List Symbol :=
  (forest.map (·.symbol)).filter (·.containerName.isNone)

/-- A forest with one item more has the roots it had without a container, and the item at the end if
that has none either. -/
theorem free_roots_insert (forest : List Outline) (item : Outline) :
    freeRoots (insert forest item) = freeRoots forest ++ freeRoots [item] := by
  have happended : freeRoots (forest ++ [item]) = freeRoots forest ++ freeRoots [item] := by
    rw [freeRoots, List.map_append, List.filter_append, freeRoots, freeRoots]
  unfold insert
  split
  · exact happended
  · next container hcontainer =>
      cases hplaced : placeLast? item container forest with
      | none => exact happended
      | some updated =>
          have hitem : freeRoots [item] = [] := by simp [freeRoots, hcontainer]
          rw [Option.getD_some, hitem, List.append_nil, freeRoots, freeRoots,
            place_last_symbols hplaced]

/-- Of items that are added one after another, those without a container become roots in their
order. -/
theorem free_roots_foldl_insert (items forest : List Outline) :
    freeRoots (items.foldl insert forest) = freeRoots forest ++ freeRoots items := by
  induction items generalizing forest with
  | nil => simp [freeRoots]
  | cons first rest ih =>
      have hsplit : freeRoots (first :: rest) = freeRoots [first] ++ freeRoots rest := by
        rw [freeRoots, freeRoots, freeRoots, ← List.filter_append, ← List.map_append,
          List.singleton_append]
      rw [List.foldl_cons, ih, free_roots_insert, hsplit, List.append_assoc]

end Kept

section Placed

variable {symbols : List Symbol}

/-- A symbol at a place of a list belongs under one at another place: it comes later, starts on a line
of that one and names it as its container. -/
structure BelongsUnder (above : Nat × Symbol) (place : Nat) (symbol : Symbol) : Prop where
  later : above.1 < place
  spanned : above.2.Spans symbol
  named : above.2.IsIn symbol

/-- The symbols of a forest, each before those nested in it, are those at the given places of a list,
and each belongs under the one that it is nested in. The roots are nested in the symbol `around`, at
its place, if there is one. -/
inductive Placed (symbols : List Symbol) :
    (around : Option (Nat × Symbol)) → (forest : List Outline) → (places : List Nat) → Prop
  | nil {around : Option (Nat × Symbol)} : Placed symbols around [] []
  | cons {around : Option (Nat × Symbol)} {place : Nat} {symbol : Symbol}
      {children rest : List Outline} {below after : List Nat}
      (hplace : symbols[place]? = some symbol)
      (habove : ∀ above ∈ around, BelongsUnder above place symbol)
      (hchildren : Placed symbols (some (place, symbol)) children below)
      (hrest : Placed symbols around rest after) :
      Placed symbols around (node symbol children :: rest) (place :: (below ++ after))

namespace Placed

variable {around : Option (Nat × Symbol)} {forest updated : List Outline} {places : List Nat}
  {place : Nat} {symbol : Symbol}

/-- A symbol is put behind the last root. -/
theorem append_leaf (h : Placed symbols around forest places) (hplace : symbols[place]? = some symbol)
    (habove : ∀ above ∈ around, BelongsUnder above place symbol) :
    Placed symbols around (forest ++ [leaf symbol]) (places ++ [place]) := by
  induction h with
  | nil => exact .cons hplace habove .nil .nil
  | cons hfirst hunder hchildren _ _ ih =>
      rw [List.cons_append, List.cons_append, List.append_assoc]
      exact .cons hfirst hunder hchildren (ih habove)

/-- A later symbol that is taken in below the roots belongs where it is put. -/
theorem place_last (h : Placed symbols around forest places) (hplace : symbols[place]? = some symbol)
    (hlater : ∀ earlier ∈ places, earlier < place) (hcontainer : symbol.containerName = some container)
    (hplaced : placeLast? (leaf symbol) container forest = some updated) :
    ∃ grown, Placed symbols around updated grown ∧ grown.Perm (place :: places) := by
  induction h generalizing updated with
  | nil => cases hplaced
  | @cons around first parent children rest below after hfirst hunder hchildren hrest ihbelow ihafter =>
      obtain ⟨hfirstLater, hlater⟩ := List.forall_mem_cons.mp hlater
      obtain ⟨hbelowLater, hafterLater⟩ := List.forall_mem_append.mp hlater
      rw [placeLast?] at hplaced
      split at hplaced
      · -- A later root is asked.
        obtain ⟨later, hrestPlaced, rfl⟩ := Option.map_eq_some_iff.mp hplaced
        obtain ⟨grown, hgrown, hperm⟩ := ihafter hafterLater hrestPlaced
        refine ⟨_, .cons hfirst hunder hchildren hgrown, ?_⟩
        exact (((hperm.append_left below).trans List.perm_middle).cons first).trans (.swap ..)
      · split at hplaced
        · next hspans =>
            obtain ⟨outline, hunderPlaced, rfl⟩ := Option.map_eq_some_iff.mp hplaced
            rw [placeUnder?] at hunderPlaced
            split at hunderPlaced
            · next later hchild =>
                -- One of the children takes the symbol in.
                obtain rfl := Option.some.inj hunderPlaced
                obtain ⟨grown, hgrown, hperm⟩ := ihbelow hbelowLater hchild
                refine ⟨_, .cons hfirst hunder hgrown hrest, ?_⟩
                exact ((hperm.append_right after).cons first).trans (.swap ..)
            · split at hunderPlaced
              · next hnamed =>
                  obtain rfl := Option.some.inj hunderPlaced
                  have hbelongs : BelongsUnder (first, parent) place symbol :=
                    ⟨hfirstLater, hspans, container, hcontainer, hnamed⟩
                  have hgrown := hchildren.append_leaf hplace
                    fun above habove => Option.mem_some.mp habove ▸ hbelongs
                  refine ⟨_, .cons hfirst hunder hgrown hrest, ?_⟩
                  rw [List.append_assoc]
                  exact (List.perm_middle.cons first).trans (.swap ..)
              · cases hunderPlaced
        · cases hplaced

/-- A later symbol belongs where it is put, or is a root. -/
theorem insert (h : Placed symbols none forest places) (hplace : symbols[place]? = some symbol)
    (hlater : ∀ earlier ∈ places, earlier < place) :
    ∃ grown, Placed symbols none (Outline.insert forest (leaf symbol)) grown ∧
      grown.Perm (place :: places) := by
  have happended : ∃ grown, Placed symbols none (forest ++ [leaf symbol]) grown ∧
      grown.Perm (place :: places) :=
    ⟨_, h.append_leaf hplace (by simp), List.perm_append_singleton place places⟩
  unfold Outline.insert
  split
  · exact happended
  · next container hcontainer =>
      cases hplaced : placeLast? (leaf symbol) container forest with
      | none => exact happended
      | some updated => exact h.place_last hplace hlater hcontainer hplaced

/-- Of symbols that are taken in one after another, each belongs where it is put. -/
theorem foldl_insert {before rest : List Symbol} {forest : List Outline} {places : List Nat}
    (h : Placed (before ++ rest) none forest places)
    (hplaces : places.Perm (List.range before.length)) :
    ∃ grown, Placed (before ++ rest) none ((rest.map leaf).foldl Outline.insert forest) grown ∧
      grown.Perm (List.range (before ++ rest).length) := by
  induction rest generalizing before forest places with
  | nil => exact ⟨places, h, by rwa [List.append_nil]⟩
  | cons symbol rest ih =>
      have hplace : (before ++ symbol :: rest)[before.length]? = some symbol := by simp
      have hlater : ∀ earlier ∈ places, earlier < before.length :=
        fun earlier hearlier => List.mem_range.mp (hplaces.mem_iff.mp hearlier)
      obtain ⟨grown, hgrown, hperm⟩ := h.insert hplace hlater
      have hshape : before ++ symbol :: rest = before ++ [symbol] ++ rest := by simp
      have hrange : grown.Perm (List.range (before ++ [symbol]).length) := by
        rw [List.length_append, List.length_singleton, List.range_succ]
        exact hperm.trans ((hplaces.cons _).trans (List.perm_append_singleton _ _).symm)
      rw [hshape] at hgrown ⊢
      exact ih hgrown hrange

end Placed

/-- Nesting a list of outlines keeps every symbol, each once, and leaves those of the list that name no
container at the top, in their order. In the outline of a list of symbols, the symbols are those of the
list, each at a place of its own, and each one that is nested in another comes later in the list,
starts on a line of the other and names it, plainly or qualified, as its container. -/
theorem nest_keeps_and_places (items : List Outline) (symbols : List Symbol) :
    (flatten (nest items)).Perm (flatten items) ∧
    freeRoots (nest items) = freeRoots items ∧
    ∃ places, Placed symbols none (ofSymbols symbols) places ∧
      places.Perm (List.range symbols.length) := by
  refine ⟨?_, ?_, ?_⟩
  · have hperm := foldl_insert_perm items []
    rwa [flatten, List.nil_append] at hperm
  · exact free_roots_foldl_insert items []
  · have hempty : Placed ([] ++ symbols) none [] [] := .nil
    exact hempty.foldl_insert (List.Perm.refl [])

end Placed

section Restored

/-- The first and the last line of a symbol are lines of another one. -/
structure Encloses (parent symbol : Symbol) : Prop where
  first : parent.location.containsLine symbol.location.startLine = true
  last : parent.location.containsLine symbol.location.endLine = true

/-- What encloses a symbol encloses what that one encloses. -/
theorem Encloses.trans {outer parent symbol : Symbol} (h : Encloses outer parent)
    (hinner : Encloses parent symbol) : Encloses outer symbol := by
  have hfirst := (contains_line_iff outer _).mp h.first
  have hlast := (contains_line_iff outer _).mp h.last
  have hstart := (contains_line_iff parent _).mp hinner.first
  have hend := (contains_line_iff parent _).mp hinner.last
  refine ⟨(contains_line_iff outer _).mpr ?_, (contains_line_iff outer _).mpr ?_⟩
  · omega
  · omega

/-- A symbol fits where nothing is around it if it names no container, and fits inside of a symbol
that encloses it and that it names, plainly or qualified, as its container. -/
def FitsIn (around : Option Symbol) (symbol : Symbol) : Prop :=
  match around with
  | none => symbol.containerName = none
  | some parent => parent.IsIn symbol ∧ Encloses parent symbol

/-- A forest is laid out as a source is: its roots fit where they are, each ends before the next ones
start, and what is nested in them is laid out inside of them. -/
inductive IsLaidOut : (around : Option Symbol) → (forest : List Outline) → Prop
  | nil {around : Option Symbol} : IsLaidOut around []
  | cons {around : Option Symbol} {symbol : Symbol} {children rest : List Outline}
      (hfits : FitsIn around symbol)
      (hchildren : IsLaidOut (some symbol) children)
      (hbefore : ∀ later ∈ rest, symbol.location.endLine < later.symbol.location.startLine)
      (hrest : IsLaidOut around rest) : IsLaidOut around (node symbol children :: rest)

/-- The forest in which `children` are at the end of a spine: each symbol of the spine is the last of
its level, behind the outlines that go before it there, and holds the next level. -/
def onSpine : (spine : List (List Outline × Symbol)) → (children : List Outline) → List Outline
  | [], children => children
  | (before, parent) :: inner, children => before ++ [node parent (onSpine inner children)]

/-- A spine with one symbol more. -/
theorem on_spine_append (spine : List (List Outline × Symbol)) (before children : List Outline)
    (parent : Symbol) :
    onSpine (spine ++ [(before, parent)]) children =
      onSpine spine (before ++ [node parent children]) := by
  induction spine with
  | nil => rfl
  | cons outer inner ih => rw [List.cons_append, onSpine, onSpine, ih]

/-- A forest whose roots do not span an item's line does not take it in. -/
theorem place_last_eq_none {forest : List Outline}
    (h : ∀ root ∈ forest, ¬root.symbol.Spans item.symbol) :
    placeLast? item container forest = none := by
  rw [place_last_eq_none_iff, path_last_eq_nil]
  · exact List.forall_mem_nil _
  · exact Bool.eq_false_iff.mpr fun hany =>
      have ⟨root, hroot, hspans⟩ := List.any_eq_true.mp hany
      h root hroot hspans

/-- The last root is the one that is asked if it spans the item's line. -/
theorem place_last_append {last : Outline} (before : List Outline)
    (h : last.symbol.Spans item.symbol) :
    placeLast? item container (before ++ [last]) =
      (placeUnder? item container last).map fun updated => before ++ [updated] := by
  have hspans : last.symbol.location.containsLine item.symbol.location.startLine = true := h
  induction before with
  | nil => simp [placeLast?, hspans]
  | cons first rest ih =>
      have hany : (rest ++ [last]).any
          (·.symbol.location.containsLine item.symbol.location.startLine) = true :=
        List.any_eq_true.mpr ⟨last, by simp, hspans⟩
      rw [List.cons_append, placeLast?, if_pos hany, ih, Option.map_map]
      rfl

/-- An item goes to the end of a spine that spans its line, if no child there spans it and the last
symbol of the spine bears the container's name. -/
theorem place_last_on_spine {spine : List (List Outline × Symbol)} {before children : List Outline}
    {parent : Symbol} (hspine : ∀ level ∈ spine, level.2.Spans item.symbol)
    (hparent : parent.Spans item.symbol) (hnamed : parent.isNamed container = true)
    (hchildren : ∀ child ∈ children, ¬child.symbol.Spans item.symbol) :
    placeLast? item container (onSpine (spine ++ [(before, parent)]) children) =
      some (onSpine (spine ++ [(before, parent)]) (children ++ [item])) := by
  induction spine with
  | nil =>
      have hlast : (node parent children).symbol.Spans item.symbol := hparent
      rw [List.nil_append, onSpine, onSpine, onSpine, onSpine, place_last_append before hlast,
        placeUnder?, place_last_eq_none hchildren]
      simp [hnamed]
  | cons outer inner ih =>
      obtain ⟨houter, hinner⟩ := List.forall_mem_cons.mp hspine
      have hlast : (node outer.2 (onSpine (inner ++ [(before, parent)]) children)).symbol.Spans
          item.symbol := houter
      rw [List.cons_append, onSpine, onSpine, place_last_append outer.1 hlast, placeUnder?, ih hinner]
      rfl

/-- A symbol that belongs to the end of a spine is put there. -/
theorem insert_on_spine {spine : List (List Outline × Symbol)} {children : List Outline}
    {symbol : Symbol} (hspine : ∀ level ∈ spine, level.2.Spans symbol)
    (hroot : spine.getLast? = none → symbol.containerName = none)
    (hin : ∀ level ∈ spine.getLast?, level.2.IsIn symbol)
    (hchildren : ∀ child ∈ children, ¬child.symbol.Spans symbol) :
    insert (onSpine spine children) (leaf symbol) = onSpine spine (children ++ [leaf symbol]) := by
  rcases List.eq_nil_or_concat spine with rfl | ⟨outer, level, rfl⟩
  · rw [insert]
    simp only [leaf, Outline.symbol, hroot rfl, onSpine]
  · rw [List.concat_eq_append] at *
    obtain ⟨container, hcontainer, hnamed⟩ := hin level (by simp)
    obtain ⟨houter, hlevel⟩ := List.forall_mem_append.mp hspine
    have hplaced : placeLast? (leaf symbol) container (onSpine (outer ++ [level]) children) =
        some (onSpine (outer ++ [level]) (children ++ [leaf symbol])) :=
      place_last_on_spine houter (hlevel level (by simp)) hnamed hchildren
    rw [insert]
    simp only [leaf, Outline.symbol, hcontainer]
    rw [← leaf, hplaced, Option.getD_some]

/-- The roots of a forest that is laid out inside a symbol lie inside it. -/
theorem IsLaidOut.enclosed {parent : Symbol} {forest : List Outline}
    (h : IsLaidOut (some parent) forest) : ∀ root ∈ forest, Encloses parent root.symbol := by
  generalize haround : some parent = around at h
  induction h with
  | nil => exact nofun
  | cons hfits _ _ _ _ ihrest =>
      subst haround
      exact List.forall_mem_cons.mpr ⟨hfits.2, ihrest rfl⟩

/-- A symbol that ends before another one starts does not span its line. -/
theorem not_spans_of_lt {symbol later : Symbol}
    (h : symbol.location.endLine < later.location.startLine) : ¬symbol.Spans later := by
  rw [Symbol.Spans, contains_line_iff]
  omega

/-- The symbols of a forest that is laid out at the end of a spine are put there one by one, behind
what is done there. -/
theorem IsLaidOut.foldl_insert {around : Option Symbol} {forest : List Outline}
    (h : IsLaidOut around forest) {spine : List (List Outline × Symbol)} {done : List Outline}
    (haround : spine.getLast?.map (·.2) = around)
    (hspine : ∀ level ∈ spine, ∀ root ∈ forest, Encloses level.2 root.symbol)
    (hdone : ∀ earlier ∈ done, ∀ root ∈ forest, ¬earlier.symbol.Spans root.symbol) :
    ((flatten forest).map leaf).foldl insert (onSpine spine done) = onSpine spine (done ++ forest) := by
  induction h generalizing spine done with
  | nil => rw [flatten, List.append_nil]; rfl
  | @cons around symbol children rest hfits hchildren hbefore _ ihchildren ihrest =>
      have hfirst : insert (onSpine spine done) (leaf symbol) = onSpine spine (done ++ [leaf symbol]) := by
        refine insert_on_spine ?_ ?_ ?_ ?_
        · exact fun level hlevel => (hspine level hlevel _ List.mem_cons_self).first
        · intro hnone
          rw [hnone] at haround
          subst haround
          exact hfits
        · intro level hlevel
          rw [Option.mem_def.mp hlevel] at haround
          subst haround
          exact hfits.1
        · exact fun earlier hearlier => hdone earlier hearlier _ List.mem_cons_self
      -- The children are put at the end of the spine that the symbol makes longer.
      have hbelow : ((flatten children).map leaf).foldl insert
          (onSpine spine (done ++ [leaf symbol])) = onSpine spine (done ++ [node symbol children]) := by
        rw [leaf, ← on_spine_append, ← on_spine_append]
        refine ihchildren (by simp) (fun level hlevel child hchild => ?_) nofun
        have hsymbol := hchildren.enclosed child hchild
        rcases List.mem_append.mp hlevel with hlevel | hlevel
        · exact (hspine level hlevel _ List.mem_cons_self).trans hsymbol
        · rwa [List.mem_singleton.mp hlevel]
      have hafter : ((flatten rest).map leaf).foldl insert
          (onSpine spine (done ++ [node symbol children])) =
            onSpine spine (done ++ node symbol children :: rest) := by
        have hdone' : ∀ earlier ∈ done ++ [node symbol children], ∀ root ∈ rest,
            ¬earlier.symbol.Spans root.symbol := by
          intro earlier hearlier root hmem
          rcases List.mem_append.mp hearlier with hearlier | hearlier
          · exact hdone earlier hearlier root (List.mem_cons_of_mem _ hmem)
          · rw [List.mem_singleton.mp hearlier]
            exact not_spans_of_lt (hbefore root hmem)
        have hlater := ihrest haround
          (fun level hlevel root hmem => hspine level hlevel root (List.mem_cons_of_mem _ hmem)) hdone'
        rwa [List.append_assoc, List.singleton_append] at hlater
      rw [flatten, symbols, List.cons_append, List.map_cons, List.foldl_cons, List.map_append,
        List.foldl_append, hfirst, hbelow, hafter]

/-- A forest that is laid out as a source is, is the outline of its symbols, whatever names they
share and whichever way they name their containers. -/
theorem of_symbols_flatten {forest : List Outline} (h : IsLaidOut none forest) :
    ofSymbols (flatten forest) = forest := by
  have hbuilt : ((flatten forest).map leaf).foldl insert (onSpine [] []) = onSpine [] ([] ++ forest) :=
    h.foldl_insert rfl (List.forall_mem_nil _) (List.forall_mem_nil _)
  exact hbuilt

/-- A symbol of the one name that all of them have. -/
def namesake (kind : SymbolKind) (startLine endLine : Nat) (containerName : Option String) : Symbol :=
  { name := "N", kind, location := { path := ⟨"/ws/a.ts"⟩, startLine, endLine }, containerName }

/-- A namespace with a namespace and a function in it, and a class behind it. The inner namespace holds
a namespace, which names its container in full, and a function, which does not. -/
def namesakes : List Outline :=
  [node (namesake .namespaceDef 1 9 none)
      [node (namesake .namespaceDef 2 6 (some "N"))
          [leaf (namesake .namespaceDef 3 4 (some "N.N")), leaf (namesake .function 5 5 (some "N"))],
        leaf (namesake .function 8 9 (some "N"))],
    leaf (namesake .classDef 10 10 none)]

/-- The outline of the namesakes is built again from their list. -/
theorem of_symbols_namesakes :
    IsLaidOut none namesakes ∧ ofSymbols (flatten namesakes) = namesakes := by
  have hinner : IsLaidOut (some (namesake .namespaceDef 2 6 (some "N")))
      [leaf (namesake .namespaceDef 3 4 (some "N.N")), leaf (namesake .function 5 5 (some "N"))] :=
    .cons ⟨⟨_, rfl, by decide⟩, by decide, by decide⟩ .nil (by decide)
      (.cons ⟨⟨_, rfl, by decide⟩, by decide, by decide⟩ .nil nofun .nil)
  have hlaid : IsLaidOut none namesakes :=
    .cons rfl (.cons ⟨⟨_, rfl, by decide⟩, by decide, by decide⟩ hinner (by decide)
      (.cons ⟨⟨_, rfl, by decide⟩, by decide, by decide⟩ .nil nofun .nil)) (by decide)
      (.cons rfl .nil nofun .nil)
  exact ⟨hlaid, of_symbols_flatten hlaid⟩

end Restored

end Outline

end CodeAtlas
