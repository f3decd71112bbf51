import CodeAtlas.Symbol.Outline

/-!
# Outlines of symbols that were found inside each other

A forest takes a symbol in along one path: at each level the last outline that spans the symbol's line is
asked, and the innermost one that bears the container's name gets it (`place_last_eq_none_iff`,
`place_last_path`). `Threads` says of a list of symbols that each was found inside an earlier one that
was still open, where what was open is a stack. If spans nest and lines do not decrease, what is open
stays on the path (`Threads.nest_roots`), so every symbol that names a container finds it.
-/

namespace CodeAtlas

/-- Whether a symbol spans the line where another one starts. -/
def Symbol.Spans (parent symbol : Symbol) : Prop :=
  parent.location.containsLine symbol.location.startLine = true

/-- A symbol that names a container was found inside a symbol of that name. -/
def Symbol.IsIn (parent symbol : Symbol) : Prop :=
  ∃ container, symbol.containerName = some container ∧ parent.isNamed container = true

/-- Each symbol of a list was found inside none, or inside one that was still open, as `inside` says.
What is open after a symbol is the symbol itself and what was open around it, innermost first; `before`
are the symbols that went before, last first. -/
inductive Threads (inside : (before : List Symbol) → (parent symbol : Symbol) → Prop) :
    (before opened : List Symbol) → List Symbol → Prop
  | nil {before opened : List Symbol} : Threads inside before opened []
  | root {before opened rest : List Symbol} {symbol : Symbol} (hroot : symbol.containerName = none)
      (hrest : Threads inside (symbol :: before) [symbol] rest) :
      Threads inside before opened (symbol :: rest)
  | inside {before opened around rest : List Symbol} {parent symbol : Symbol}
      (hopened : parent :: around <:+ opened) (hin : parent.IsIn symbol)
      (hinside : inside before parent symbol)
      (hrest : Threads inside (symbol :: before) (symbol :: parent :: around) rest) :
      Threads inside before opened (symbol :: rest)

namespace Threads

variable {inside weaker : List Symbol → Symbol → Symbol → Prop} {before opened symbols : List Symbol}

/-- What holds of every symbol and the one that it was found inside can be weakened. -/
theorem imp (h : Threads inside before opened symbols)
    (himp : ∀ front symbol back parent, symbols = front ++ symbol :: back →
      inside (front.reverse ++ before) parent symbol →
      weaker (front.reverse ++ before) parent symbol) : Threads weaker before opened symbols := by
  induction h with
  | nil => exact .nil
  | @root before opened rest symbol hroot _ ih =>
      refine .root hroot (ih fun front other back parent hsplit hinside => ?_)
      have hlater := himp (symbol :: front) other back parent (by rw [hsplit]; rfl)
      simp only [List.reverse_cons, List.append_assoc, List.singleton_append] at hlater
      exact hlater hinside
  | @inside before opened around rest parent symbol hopened hin hinside _ ih =>
      refine .inside hopened hin (himp [] symbol rest parent rfl hinside)
        (ih fun front other back parent hsplit hinside => ?_)
      have hlater := himp (symbol :: front) other back parent (by rw [hsplit]; rfl)
      simp only [List.reverse_cons, List.append_assoc, List.singleton_append] at hlater
      exact hlater hinside

/-- Every symbol that names a container was found inside an earlier symbol of that name. -/
theorem exists_parent (h : Threads inside before opened symbols)
    (hopened : ∀ other ∈ opened, other ∈ before) {front back : List Symbol} {symbol : Symbol}
    {container : String} (hsplit : symbols = front ++ symbol :: back)
    (hcontainer : symbol.containerName = some container) :
    ∃ parent, (parent ∈ front ∨ parent ∈ before) ∧ parent.isNamed container = true ∧
      inside (front.reverse ++ before) parent symbol := by
  induction h generalizing front with
  | nil => simp at hsplit
  | @root before opened rest first hroot _ ih =>
      cases front with
      | nil =>
          obtain ⟨rfl, -⟩ := List.cons.inj hsplit
          rw [hroot] at hcontainer
          cases hcontainer
      | cons other front =>
          obtain ⟨rfl, hrest⟩ := List.cons.inj hsplit
          obtain ⟨parent, hmem, hnamed, hinside⟩ := ih (by simp) hrest
          refine ⟨parent, ?_, hnamed, by simpa using hinside⟩
          simpa [or_assoc, or_comm, or_left_comm] using hmem
  | @inside before opened around rest parent first hsuffix hin hinside _ ih =>
      have hparents : ∀ other ∈ parent :: around, other ∈ before :=
        fun other hother => hopened other (hsuffix.subset hother)
      cases front with
      | nil =>
          obtain ⟨rfl, -⟩ := List.cons.inj hsplit
          obtain ⟨name, hname, hnamed⟩ := hin
          obtain rfl := Option.some.inj (hname.symm.trans hcontainer)
          exact ⟨parent, Or.inr (hparents parent List.mem_cons_self), hnamed, hinside⟩
      | cons other front =>
          obtain ⟨rfl, hrest⟩ := List.cons.inj hsplit
          obtain ⟨outer, hmem, hnamed, hinside⟩ := ih (List.forall_mem_cons.mpr
            ⟨List.mem_cons_self, fun other hother =>
              List.mem_cons_of_mem _ (hparents other hother)⟩) hrest
          refine ⟨outer, ?_, hnamed, by simpa using hinside⟩
          simpa [or_assoc, or_comm, or_left_comm] using hmem

/-- Changing symbols without changing names, containers or what they were found inside leaves them found
inside each other. -/
theorem map (change : Symbol → Symbol)
    (hname : ∀ symbol, (change symbol).name = symbol.name)
    (hcontainer : ∀ symbol, (change symbol).containerName = symbol.containerName)
    (hinside : ∀ before parent symbol, inside before parent symbol →
      inside (before.map change) (change parent) (change symbol))
    (h : Threads inside before opened symbols) :
    Threads inside (before.map change) (opened.map change) (symbols.map change) := by
  induction h with
  | nil => exact .nil
  | root hroot _ ih => exact .root ((hcontainer _).trans hroot) ih
  | inside hopened hin hbefore _ ih =>
      obtain ⟨container, hnames, hnamed⟩ := hin
      have hsame : ∀ symbol name, (change symbol).isNamed name = symbol.isNamed name := by
        intro symbol name
        rw [Symbol.isNamed, Symbol.isNamed, Symbol.qualifiedName, Symbol.qualifiedName, hname,
          hcontainer]
      exact .inside (hopened.map change) ⟨container, (hcontainer _).trans hnames,
        (hsame _ _).trans hnamed⟩ (hinside _ _ _ hbefore) ih

end Threads

namespace Outline

mutual

/-- The symbols that are asked, outermost first, to take in a symbol of a line. -/
def pathUnder (line : Nat) : Outline → List Symbol
  | node parent children => parent :: pathLast line children

/-- The symbols of a forest that are asked, outermost first, to take in a symbol of a line. -/
def pathLast (line : Nat) : List Outline → List Symbol
  | [] => []
  | first :: rest =>
    if rest.any (·.symbol.location.containsLine line) then pathLast line rest
    else if first.symbol.location.containsLine line then pathUnder line first
    else []

end

variable {item : Outline} {container : String} {line : Nat}

mutual

/-- An outline takes an item in unless no symbol on the path bears the container's name. -/
theorem place_under_eq_none_iff (outline : Outline) :
    placeUnder? item container outline = none ↔
      ∀ symbol ∈ pathUnder item.symbol.location.startLine outline,
        ¬symbol.isNamed container = true := by
  cases outline with
  | node parent children =>
      have hchildren := place_last_eq_none_iff children
      rw [placeUnder?, pathUnder, List.forall_mem_cons, ← hchildren]
      cases placeLast? item container children with
      | some updated => simp
      | none => simp

/-- A forest takes an item in unless no symbol on the path bears the container's name. -/
theorem place_last_eq_none_iff (forest : List Outline) :
    placeLast? item container forest = none ↔
      ∀ symbol ∈ pathLast item.symbol.location.startLine forest,
        ¬symbol.isNamed container = true := by
  cases forest with
  | nil => simp [placeLast?, pathLast]
  | cons first rest =>
      rw [placeLast?, pathLast]
      split
      · rw [Option.map_eq_none_iff, place_last_eq_none_iff rest]
      · split
        · rw [Option.map_eq_none_iff, place_under_eq_none_iff first]
        · simp

end

section Placed

variable {symbol : Symbol} {forest updated : List Outline}

/-- An outline that takes an item in keeps its own symbol. -/
theorem place_under_symbol {outline updated : Outline}
    (h : placeUnder? item container outline = some updated) : updated.symbol = outline.symbol := by
  cases outline with
  | node parent children =>
      rw [placeUnder?] at h
      split at h
      · obtain rfl := Option.some.inj h
        rfl
      · split at h
        · obtain rfl := Option.some.inj h
          rfl
        · cases h

/-- A forest that takes an item in below its roots keeps their symbols. -/
theorem place_last_symbols (h : placeLast? item container forest = some updated) :
    updated.map (·.symbol) = forest.map (·.symbol) := by
  induction forest generalizing updated with
  | nil => cases h
  | cons first rest ih =>
      rw [placeLast?] at h
      split at h
      · obtain ⟨later, hlater, rfl⟩ := Option.map_eq_some_iff.mp h
        rw [List.map_cons, List.map_cons, ih hlater]
      · split at h
        · obtain ⟨outline, houtline, rfl⟩ := Option.map_eq_some_iff.mp h
          rw [List.map_cons, List.map_cons, place_under_symbol houtline]
        · cases h

/-- Taking an item in does not change which lines the roots span. -/
theorem place_last_any (h : placeLast? item container forest = some updated) (line : Nat) :
    updated.any (·.symbol.location.containsLine line) =
      forest.any (·.symbol.location.containsLine line) := by
  have hmap : ∀ outlines : List Outline, outlines.any (·.symbol.location.containsLine line) =
      (outlines.map (·.symbol)).any (·.location.containsLine line) := by
    intro outlines
    rw [List.any_map]
    rfl
  rw [hmap, hmap, place_last_symbols h]

/-- No path goes through a forest whose roots do not span the line. -/
theorem path_last_eq_nil (h : forest.any (·.symbol.location.containsLine line) = false) :
    pathLast line forest = [] := by
  cases forest with
  | nil => rfl
  | cons first rest =>
      rw [List.any_cons, Bool.or_eq_false_iff] at h
      rw [pathLast, if_neg (by simp [h.2]), if_neg (by simp [h.1])]

/-- A new last root is the one that is asked if it spans the line. -/
theorem path_last_append_leaf (line : Nat) (forest : List Outline) (symbol : Symbol) :
    pathLast line (forest ++ [leaf symbol]) =
      if symbol.location.containsLine line then [symbol] else pathLast line forest := by
  induction forest with
  | nil =>
      cases hspans : symbol.location.containsLine line with
      | true => simp [pathLast, pathUnder, leaf, Outline.symbol, hspans]
      | false => simp [pathLast, leaf, Outline.symbol, hspans]
  | cons first rest ih =>
      have hany : (rest ++ [leaf symbol]).any (·.symbol.location.containsLine line) =
          (rest.any (·.symbol.location.containsLine line) ||
            symbol.location.containsLine line) := by
        simp [leaf, Outline.symbol]
      rw [List.cons_append, pathLast, pathLast, hany, ih]
      by_cases hspans : symbol.location.containsLine line = true
      · simp [hspans]
      · simp [hspans]

mutual

/-- A symbol that has been taken in changes nothing for lines that it does not span. -/
theorem place_under_path_eq {outline updated : Outline}
    (h : placeUnder? (leaf symbol) container outline = some updated)
    (hspans : symbol.location.containsLine line = false) :
    pathUnder line updated = pathUnder line outline := by
  cases outline with
  | node parent children =>
      rw [placeUnder?] at h
      split at h
      · next later hlater =>
          obtain rfl := Option.some.inj h
          rw [pathUnder, pathUnder, place_last_path_eq hlater hspans]
      · split at h
        · obtain rfl := Option.some.inj h
          rw [pathUnder, pathUnder, path_last_append_leaf, if_neg (by simp [hspans])]
        · cases h

/-- A symbol that has been taken in changes nothing for lines that it does not span. -/
theorem place_last_path_eq {forest updated : List Outline}
    (h : placeLast? (leaf symbol) container forest = some updated)
    (hspans : symbol.location.containsLine line = false) :
    pathLast line updated = pathLast line forest := by
  cases forest with
  | nil => cases h
  | cons first rest =>
      rw [placeLast?] at h
      split at h
      · obtain ⟨later, hlater, rfl⟩ := Option.map_eq_some_iff.mp h
        rw [pathLast, pathLast, place_last_any hlater, place_last_path_eq hlater hspans]
      · split at h
        · obtain ⟨outline, houtline, rfl⟩ := Option.map_eq_some_iff.mp h
          rw [pathLast, pathLast, place_under_symbol houtline, place_under_path_eq houtline hspans]
        · cases h

end

/-- The symbols of two forests. -/
theorem flatten_append (left right : List Outline) :
    flatten (left ++ right) = flatten left ++ flatten right := by
  induction left with
  | nil => rw [List.nil_append, flatten, List.nil_append]
  | cons first rest ih => rw [List.cons_append, flatten, flatten, ih, List.append_assoc]

/-- The symbols of a single outline. -/
theorem flatten_singleton (item : Outline) : flatten [item] = item.symbols := by
  rw [flatten, flatten, List.append_nil]

/-- The only symbol of a leaf. -/
theorem flatten_leaf (symbol : Symbol) : flatten [leaf symbol] = [symbol] := by
  simp [leaf, flatten, symbols]

mutual

/-- An outline that has taken an item in has the symbols it had and those of the item. -/
theorem place_under_symbols_perm {outline updated : Outline}
    (h : placeUnder? item container outline = some updated) :
    updated.symbols.Perm (outline.symbols ++ item.symbols) := by
  cases outline with
  | node parent children =>
      rw [placeUnder?] at h
      split at h
      · next later hlater =>
          obtain rfl := Option.some.inj h
          rw [symbols, symbols, List.cons_append]
          exact (place_last_flatten_perm hlater).cons parent
      · split at h
        · obtain rfl := Option.some.inj h
          rw [symbols, symbols, flatten_append, flatten_singleton, List.cons_append]
        · cases h

/-- A forest that has taken an item in has the symbols it had and those of the item. -/
theorem place_last_flatten_perm {forest updated : List Outline}
    (h : placeLast? item container forest = some updated) :
    (flatten updated).Perm (flatten forest ++ item.symbols) := by
  cases forest with
  | nil => cases h
  | cons first rest =>
      rw [placeLast?] at h
      split at h
      · obtain ⟨later, hlater, rfl⟩ := Option.map_eq_some_iff.mp h
        rw [flatten, flatten, List.append_assoc]
        exact (place_last_flatten_perm hlater).append_left first.symbols
      · split at h
        · obtain ⟨outline, houtline, rfl⟩ := Option.map_eq_some_iff.mp h
          have hfirst := (place_under_symbols_perm houtline).append_right (flatten rest)
          rw [flatten, flatten]
          rw [List.append_assoc] at hfirst ⊢
          exact hfirst.trans (List.perm_append_comm.append_left first.symbols)
        · cases h

end

/-- Each symbol of a forest that has taken a symbol in is the new one or was there. -/
theorem place_last_flatten_subset (h : placeLast? (leaf symbol) container forest = some updated) :
    ∀ other ∈ flatten updated, other = symbol ∨ other ∈ flatten forest := by
  intro other hother
  rw [(place_last_flatten_perm h).mem_iff, ← flatten_singleton, flatten_leaf, List.mem_append,
    List.mem_singleton] at hother
  exact hother.symm

/-- The path to a symbol that has been taken in, for a line that it spans: what was asked up to the
innermost symbol that bears the container's name, and the symbol itself. -/
def EndsPath (container : String) (symbol : Symbol) (asked path : List Symbol) : Prop :=
  ∃ front parent tail, asked = front ++ parent :: tail ∧
    (∀ other ∈ tail, ¬other.isNamed container = true) ∧ path = front ++ [parent, symbol]

/-- Whether a symbol spans a line. -/
theorem contains_line_iff (symbol : Symbol) (line : Nat) :
    symbol.location.containsLine line = true ↔
      symbol.location.startLine ≤ line ∧ line ≤ symbol.location.endLine := by
  simp [Location.containsLine]

/-- The symbols of the roots are symbols of the forest. -/
theorem symbol_mem_flatten {root : Outline} (h : root ∈ forest) : root.symbol ∈ flatten forest := by
  induction forest with
  | nil => cases h
  | cons first rest ih =>
      rw [flatten, List.mem_append]
      rcases List.mem_cons.mp h with rfl | h
      · cases root with
        | node parent children => exact Or.inl (by rw [symbols]; exact List.mem_cons_self)
      · exact Or.inr (ih h)

/-- A path under an outline starts with its symbol. -/
theorem symbol_mem_path_under (line : Nat) (outline : Outline) :
    outline.symbol ∈ pathUnder line outline := by
  cases outline with
  | node parent children =>
      rw [pathUnder]
      exact List.mem_cons_self

mutual

/-- What an outline has taken in is at the end of the path for every line that it spans, if it ends
before all that were asked. -/
theorem place_under_ends_path {outline updated : Outline}
    (h : placeUnder? (leaf symbol) container outline = some updated)
    (hline : symbol.location.containsLine line = true)
    (hstart : ∀ other ∈ outline.symbols,
      other.location.startLine ≤ symbol.location.startLine)
    (hend : ∀ other ∈ pathUnder symbol.location.startLine outline,
      symbol.location.endLine ≤ other.location.endLine) :
    EndsPath container symbol (pathUnder symbol.location.startLine outline)
      (pathUnder line updated) := by
  cases outline with
  | node parent children =>
      rw [pathUnder] at hend ⊢
      rw [symbols] at hstart
      obtain ⟨-, hstart⟩ := List.forall_mem_cons.mp hstart
      obtain ⟨-, hend⟩ := List.forall_mem_cons.mp hend
      rw [placeUnder?] at h
      split at h
      · next later hlater =>
          obtain rfl := Option.some.inj h
          obtain ⟨front, inner, tail, hasked, htail, hpath⟩ :=
            place_last_ends_path hlater hline hstart hend
          exact ⟨parent :: front, inner, tail, by rw [hasked]; rfl, htail, by
            rw [pathUnder, hpath]; rfl⟩
      · next hnone =>
          split at h
          · obtain rfl := Option.some.inj h
            refine ⟨[], parent, _, rfl, place_last_eq_none_iff children |>.mp hnone, ?_⟩
            rw [pathUnder, path_last_append_leaf, if_pos hline]
            rfl
          · cases h

/-- What a forest has taken in is at the end of the path for every line that it spans, if it ends
before all that were asked. -/
theorem place_last_ends_path {forest updated : List Outline}
    (h : placeLast? (leaf symbol) container forest = some updated)
    (hline : symbol.location.containsLine line = true)
    (hstart : ∀ other ∈ flatten forest, other.location.startLine ≤ symbol.location.startLine)
    (hend : ∀ other ∈ pathLast symbol.location.startLine forest,
      symbol.location.endLine ≤ other.location.endLine) :
    EndsPath container symbol (pathLast symbol.location.startLine forest)
      (pathLast line updated) := by
  cases forest with
  | nil => cases h
  | cons first rest =>
      obtain ⟨hlow, hhigh⟩ := (contains_line_iff symbol line).mp hline
      rw [placeLast?] at h
      rw [flatten] at hstart
      obtain ⟨hfirst, hrest⟩ := List.forall_mem_append.mp hstart
      rw [pathLast] at hend ⊢
      split at h
      · next hany =>
          obtain ⟨later, hlater, rfl⟩ := Option.map_eq_some_iff.mp h
          rw [leaf, Outline.symbol] at hany
          rw [if_pos hany] at hend ⊢
          have hends := place_last_ends_path hlater hline hrest hend
          obtain ⟨front, inner, tail, -, -, hpath⟩ := id hends
          have hlast : later.any (·.symbol.location.containsLine line) = true := by
            cases hlast : later.any (·.symbol.location.containsLine line) with
            | true => rfl
            | false =>
                rw [path_last_eq_nil hlast] at hpath
                simp at hpath
          rwa [pathLast, if_pos hlast]
      · next hany =>
          rw [leaf, Outline.symbol] at hany
          rw [if_neg hany] at hend ⊢
          split at h
          · next hspans =>
              obtain ⟨outline, houtline, rfl⟩ := Option.map_eq_some_iff.mp h
              rw [leaf, Outline.symbol] at hspans
              rw [if_pos hspans] at hend ⊢
              -- The roots after the one that is asked end before the symbol starts.
              have hafter : ¬rest.any (·.symbol.location.containsLine line) = true := by
                intro hlater
                obtain ⟨root, hroot, hcontains⟩ := List.any_eq_true.mp hlater
                have hbefore := hrest root.symbol (symbol_mem_flatten hroot)
                have hnot : ¬root.symbol.location.containsLine symbol.location.startLine = true :=
                  fun hcontains => hany (List.any_eq_true.mpr ⟨root, hroot, hcontains⟩)
                rw [contains_line_iff] at hcontains hnot
                omega
              have hasked : first.symbol.location.containsLine line = true := by
                have hlast := hend first.symbol (symbol_mem_path_under _ first)
                rw [contains_line_iff] at hspans ⊢
                omega
              rw [pathLast, if_neg hafter, place_under_symbol houtline, if_pos hasked]
              exact place_under_ends_path houtline hline hfirst hend
          · cases h

end

mutual

/-- The symbols on a path under an outline that spans the line are symbols of it that span the line. -/
theorem mem_path_under {outline : Outline} {other : Symbol}
    (hspans : outline.symbol.location.containsLine line = true)
    (h : other ∈ pathUnder line outline) :
    other ∈ outline.symbols ∧ other.location.containsLine line = true := by
  cases outline with
  | node parent children =>
      rw [pathUnder, List.mem_cons] at h
      rw [symbols, List.mem_cons]
      rcases h with rfl | h
      · exact ⟨Or.inl rfl, hspans⟩
      · exact (mem_path_last h).imp Or.inr id

/-- The symbols on a path are symbols of the forest that span the line. -/
theorem mem_path_last {forest : List Outline} {other : Symbol} (h : other ∈ pathLast line forest) :
    other ∈ flatten forest ∧ other.location.containsLine line = true := by
  cases forest with
  | nil => cases h
  | cons first rest =>
      rw [pathLast] at h
      rw [flatten, List.mem_append]
      split at h
      · exact (mem_path_last h).imp Or.inr id
      · split at h
        · next hspans => exact (mem_path_under hspans h).imp Or.inl id
        · cases h

end

end Placed

section Nest

variable {symbol : Symbol} {forest : List Outline}

/-- What ends with a member that is not in the back of a list is in the front. -/
theorem sublist_of_not_mem_back {front back list : List Symbol} {last : Symbol} (h : last ∉ back)
    (hlist : (list ++ [last]).Sublist (front ++ back)) : (list ++ [last]).Sublist front := by
  obtain ⟨left, right, hsplit, hleft, hright⟩ := List.sublist_append_iff.mp hlist
  rcases List.eq_nil_or_concat right with rfl | ⟨init, other, rfl⟩
  · rw [List.append_nil] at hsplit
    rwa [hsplit]
  · rw [List.concat_eq_append, ← List.append_assoc] at hsplit
    obtain ⟨-, hother⟩ := List.append_inj' hsplit rfl
    obtain rfl := List.singleton_inj.mp hother
    exact absurd (hright.subset (by simp)) h

/-- What is open when a line is reached and spans it is on the path for the line. -/
def OpenOnPath (before opened : List Symbol) (forest : List Outline) : Prop :=
  ∀ line, (∀ other ∈ before, other.location.startLine ≤ line) →
    (opened.filter (·.location.containsLine line)).reverse.Sublist (pathLast line forest)

/-- What is known of a forest when the symbols `before` have been taken in. -/
structure Holds (before opened : List Symbol) (forest : List Outline) : Prop where
  symbols_in : ∀ other ∈ flatten forest, other ∈ before
  opened_in : ∀ other ∈ opened, other ∈ before
  roots : ∀ root ∈ forest, root.symbol.containerName = none
  opened : OpenOnPath before opened forest

/-- A symbol that was found inside none becomes a root. -/
theorem Holds.root {before opened : List Symbol} (h : Holds before opened forest)
    (hroot : symbol.containerName = none) :
    Holds (symbol :: before) [symbol] (Outline.insert forest (leaf symbol)) := by
  have hinsert : Outline.insert forest (leaf symbol) = forest ++ [leaf symbol] := by
    simp [Outline.insert, leaf, Outline.symbol, hroot]
  rw [hinsert]
  refine ⟨fun other hother => ?_, by simp, fun root hmem => ?_, fun line hline => ?_⟩
  · rw [flatten_append, flatten_leaf, List.mem_append, List.mem_singleton] at hother
    rcases hother with hother | rfl
    · exact List.mem_cons_of_mem _ (h.symbols_in other hother)
    · exact List.mem_cons_self
  · rcases List.mem_append.mp hmem with hmem | hmem
    · exact h.roots root hmem
    · rw [List.mem_singleton.mp hmem]
      exact hroot
  · rw [path_last_append_leaf]
    cases hspans : symbol.location.containsLine line with
    | true => simp [hspans]
    | false => simp [hspans]

/-- What is still open, for a line that the new symbol spans, is above the symbol on the path. -/
theorem Holds.opened_above {before opened around path : List Symbol} {parent : Symbol}
    {container : String} {line : Nat} (h : Holds before opened forest)
    (hopened : parent :: around <:+ opened) (hnamed : parent.isNamed container = true)
    (hbefore : ∀ other ∈ before, other.location.startLine ≤ symbol.location.startLine)
    (hline : symbol.location.startLine ≤ line) (hparent : parent.location.containsLine line = true)
    (hpath : EndsPath container symbol (pathLast symbol.location.startLine forest) path) :
    (((parent :: around).filter (·.location.containsLine line)).reverse ++ [symbol]).Sublist path := by
  obtain ⟨front, inner, tail, hasked, htail, rfl⟩ := hpath
  have hearlier : ((parent :: around).filter (·.location.containsLine line)).Sublist
      ((parent :: around).filter (·.location.containsLine symbol.location.startLine)) := by
    have heq : (parent :: around).filter (·.location.containsLine line) =
        ((parent :: around).filter (·.location.containsLine symbol.location.startLine)).filter
          (·.location.containsLine line) := by
      rw [List.filter_filter]
      refine List.filter_congr fun other hother => ?_
      have hlow := hbefore other (h.opened_in other (hopened.subset hother))
      rw [Bool.eq_iff_iff, Bool.and_eq_true, contains_line_iff, contains_line_iff]
      omega
    exact heq ▸ List.filter_sublist
  have hall := (hearlier.reverse.trans (hopened.sublist.filter _).reverse).trans
    (h.opened symbol.location.startLine hbefore)
  have hsplit : front ++ inner :: tail = front ++ [inner] ++ tail := by simp
  have hfilter : (parent :: around).filter (·.location.containsLine line) =
      parent :: around.filter (·.location.containsLine line) := List.filter_cons_of_pos hparent
  rw [hasked, hsplit, hfilter, List.reverse_cons] at hall
  rw [hfilter, List.reverse_cons]
  have hnot : parent ∉ tail := fun hmem => htail parent hmem hnamed
  have habove := sublist_of_not_mem_back hnot hall
  have hpath : front ++ [inner, symbol] = front ++ [inner] ++ [symbol] := by simp
  rw [hpath]
  exact habove.append (List.Sublist.refl _)

/-- A symbol that was found inside an open one that spans it is taken in, and is on the path from then
on if it spans the line. -/
theorem Holds.inside {before opened around : List Symbol} {parent : Symbol}
    (h : Holds before opened forest) (hopened : parent :: around <:+ opened)
    (hin : parent.IsIn symbol) (hspans : parent.Spans symbol)
    (hbefore : ∀ other ∈ before, other.location.startLine ≤ symbol.location.startLine)
    (hnested : ∀ other ∈ before, other.Spans symbol →
      symbol.location.endLine ≤ other.location.endLine) :
    Holds (symbol :: before) (symbol :: parent :: around) (Outline.insert forest (leaf symbol)) := by
  obtain ⟨container, hcontainer, hnamed⟩ := hin
  have hasked : parent ∈ pathLast symbol.location.startLine forest := by
    refine (h.opened _ hbefore).subset (List.mem_reverse.mpr (List.mem_filter.mpr ⟨?_, hspans⟩))
    exact hopened.subset List.mem_cons_self
  have hparent : parent ∈ before := h.symbols_in parent (mem_path_last hasked).1
  obtain ⟨updated, hupdated⟩ : ∃ updated,
      placeLast? (leaf symbol) container forest = some updated := by
    refine Option.ne_none_iff_exists'.mp fun hnone => ?_
    exact (place_last_eq_none_iff forest).mp hnone parent hasked hnamed
  have hinsert : Outline.insert forest (leaf symbol) = updated := by
    rw [Outline.insert]
    simp only [leaf, Outline.symbol, hcontainer]
    rw [← leaf, hupdated, Option.getD_some]
  rw [hinsert]
  refine ⟨fun other hother => ?_, ?_, fun root hmem => ?_, fun line hline => ?_⟩
  · rcases place_last_flatten_subset hupdated other hother with rfl | hother
    · exact List.mem_cons_self
    · exact List.mem_cons_of_mem _ (h.symbols_in other hother)
  · refine List.forall_mem_cons.mpr ⟨List.mem_cons_self, fun other hother => ?_⟩
    exact List.mem_cons_of_mem _ (h.opened_in other (hopened.subset hother))
  · have hsymbol : root.symbol ∈ forest.map (·.symbol) :=
      place_last_symbols hupdated ▸ List.mem_map_of_mem hmem
    obtain ⟨same, hsame, heq⟩ := List.mem_map.mp hsymbol
    exact heq ▸ h.roots same hsame
  · obtain ⟨hstart, hbefore'⟩ := List.forall_mem_cons.mp hline
    cases hcontains : symbol.location.containsLine line with
    | false =>
        rw [place_last_path_eq hupdated hcontains, List.filter_cons_of_neg (by simp [hcontains])]
        exact (hopened.sublist.filter _).reverse.trans (h.opened line hbefore')
    | true =>
        have hends := hnested parent hparent hspans
        have hparentLine : parent.location.containsLine line = true := by
          have hlow := hbefore' parent hparent
          rw [contains_line_iff] at hcontains ⊢
          omega
        have hfilter : (symbol :: parent :: around).filter (·.location.containsLine line) =
            symbol :: (parent :: around).filter (·.location.containsLine line) :=
          List.filter_cons_of_pos hcontains
        rw [hfilter, List.reverse_cons]
        refine h.opened_above hopened hnamed hbefore hstart hparentLine ?_
        refine place_last_ends_path hupdated hcontains (fun other hother => ?_) fun other hother => ?_
        · exact hbefore other (h.symbols_in other hother)
        · obtain ⟨hmem, hspans⟩ := mem_path_last hother
          exact hnested other (h.symbols_in other hmem) hspans

/-- Symbols that are found inside each other are taken in one after the other, and no root names a
container. -/
theorem Holds.roots_of_threads {before opened symbols : List Symbol} (h : Holds before opened forest)
    (hthreads : Threads (fun _ parent symbol => parent.Spans symbol) before opened symbols)
    (hordered : (before.reverse ++ symbols).Pairwise fun earlier later =>
      earlier.location.startLine ≤ later.location.startLine)
    (hnested : (before.reverse ++ symbols).Pairwise fun earlier later =>
      earlier.Spans later → later.location.endLine ≤ earlier.location.endLine) :
    ∀ root ∈ (symbols.map leaf).foldl Outline.insert forest, root.symbol.containerName = none := by
  induction hthreads generalizing forest with
  | nil => exact h.roots
  | @root before opened rest symbol hroot _ ih =>
      have hshape : before.reverse ++ symbol :: rest = (symbol :: before).reverse ++ rest := by simp
      rw [hshape] at hordered hnested
      exact ih (h.root hroot) hordered hnested
  | @inside before opened around rest parent symbol hopened hin hspans _ ih =>
      have hbefore : ∀ other ∈ before, other.location.startLine ≤ symbol.location.startLine :=
        fun other hother => (List.pairwise_append.mp hordered).2.2 other
          (List.mem_reverse.mpr hother) symbol List.mem_cons_self
      have hends : ∀ other ∈ before, other.Spans symbol →
          symbol.location.endLine ≤ other.location.endLine :=
        fun other hother => (List.pairwise_append.mp hnested).2.2 other
          (List.mem_reverse.mpr hother) symbol List.mem_cons_self
      have hshape : before.reverse ++ symbol :: rest = (symbol :: before).reverse ++ rest := by simp
      rw [hshape] at hordered hnested
      exact ih (h.inside hopened hin hspans hbefore hends) hordered hnested

/-- If symbols were found inside symbols that span them, lines do not decrease and spans do not
overlap, then every symbol that names a container is nested in an outline. -/
theorem nest_roots {symbols : List Symbol}
    (hthreads : Threads (fun _ parent symbol => parent.Spans symbol) [] [] symbols)
    (hordered : symbols.Pairwise fun earlier later =>
      earlier.location.startLine ≤ later.location.startLine)
    (hnested : symbols.Pairwise fun earlier later =>
      earlier.Spans later → later.location.endLine ≤ earlier.location.endLine) :
    ∀ root ∈ ofSymbols symbols, root.symbol.containerName = none := by
  have hempty : Holds [] [] [] := ⟨by simp [flatten], nofun, nofun, fun _ _ => by simp⟩
  exact hempty.roots_of_threads hthreads hordered hnested

end Nest

end Outline

end CodeAtlas
