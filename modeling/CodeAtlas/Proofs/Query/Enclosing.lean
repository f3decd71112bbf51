import CodeAtlas.Query.Context
import CodeAtlas.Proofs.Symbol.Nested

/-!
# The declaration around a line

The declaration that is given for a line is the first of those with the fewest lines
(`enclosing_spec`). In the list of a forest whose symbols lie within each other, everything nested in
it that spans the line too has exactly its lines: what has fewer would have been taken. So it is the
innermost one unless something nested in it starts and ends on the very same lines
(`enclosing_innermost_iff`).
-/

namespace CodeAtlas

namespace Outline

/-- Every symbol of a forest lies within the one that it is nested in, and the roots within `around`,
if there is such a symbol. -/
inductive LiesWithin : (around : Option Symbol) → (forest : List Outline) → Prop
  | nil {around : Option Symbol} : LiesWithin around []
  | cons {around : Option Symbol} {symbol : Symbol} {children rest : List Outline}
      (habove : ∀ parent ∈ around, Encloses parent symbol)
      (hchildren : LiesWithin (some symbol) children) (hrest : LiesWithin around rest) :
      LiesWithin around (node symbol children :: rest)

/-- A forest has a symbol with these children nested in it, and `before` are the symbols that are
listed before it. -/
inductive HasNode (symbol : Symbol) (children : List Outline) :
    (before : List Symbol) → (forest : List Outline) → Prop
  | here {rest : List Outline} : HasNode symbol children [] (node symbol children :: rest)
  | inside {above : Symbol} {before : List Symbol} {inner rest : List Outline}
      (h : HasNode symbol children before inner) :
      HasNode symbol children (above :: before) (node above inner :: rest)
  | beside {first : Outline} {before : List Symbol} {rest : List Outline}
      (h : HasNode symbol children before rest) :
      HasNode symbol children (first.symbols ++ before) (first :: rest)

variable {symbol parent : Symbol} {children forest : List Outline} {before after : List Symbol}
  {around : Option Symbol}

/-- What is nested in a symbol of a forest is listed right after it. -/
theorem HasNode.flatten_eq (h : HasNode symbol children before forest) :
    ∃ after, flatten forest = before ++ symbol :: (flatten children ++ after) := by
  induction h with
  | @here rest => exact ⟨flatten rest, by rw [flatten, symbols]; rfl⟩
  | @inside above before inner rest _ ih =>
      obtain ⟨after, hafter⟩ := ih
      exact ⟨after ++ flatten rest, by simp [flatten, symbols, hafter]⟩
  | @beside first before rest _ ih =>
      obtain ⟨after, hafter⟩ := ih
      exact ⟨after, by rw [flatten, hafter, List.append_assoc]⟩

mutual

/-- Each symbol that is listed for the first outline of a forest is one of its nodes. -/
theorem exists_node_of_symbols (first : Outline) (rest : List Outline) {before after : List Symbol}
    (h : first.symbols = before ++ symbol :: after) :
    ∃ children, HasNode symbol children before (first :: rest) := by
  cases first with
  | node top inner =>
      rw [symbols] at h
      cases before with
      | nil =>
          obtain ⟨rfl, -⟩ := List.cons.inj h
          exact ⟨inner, .here⟩
      | cons above before =>
          obtain ⟨rfl, hinner⟩ := List.cons.inj h
          obtain ⟨children, hnode⟩ := exists_node_of_flatten inner hinner
          exact ⟨children, .inside hnode⟩

/-- Each symbol that is listed for a forest is one of its nodes. -/
theorem exists_node_of_flatten (forest : List Outline) {before after : List Symbol}
    (h : flatten forest = before ++ symbol :: after) :
    ∃ children, HasNode symbol children before forest := by
  cases forest with
  | nil => simp [flatten] at h
  | cons first rest =>
      rw [flatten, List.append_eq_append_iff] at h
      rcases h with ⟨between, rfl, hrest⟩ | ⟨between, hfirst, hback⟩
      · obtain ⟨children, hnode⟩ := exists_node_of_flatten rest hrest
        exact ⟨children, .beside hnode⟩
      · cases between with
        | nil =>
            -- The symbol is the first of the rest.
            have hrest : flatten rest = [] ++ symbol :: after := hback.symm
            obtain ⟨children, hnode⟩ := exists_node_of_flatten rest hrest
            rw [← List.append_nil before, ← List.append_nil (before ++ []), ← hfirst]
            exact ⟨children, .beside hnode⟩
        | cons next between =>
            obtain ⟨rfl, -⟩ := List.cons.inj hback
            exact exists_node_of_symbols first rest hfirst

end

/-- What is nested in a node of a forest lies within its symbol. -/
theorem LiesWithin.of_node (h : LiesWithin around forest)
    (hnode : HasNode symbol children before forest) : LiesWithin (some symbol) children := by
  induction hnode generalizing around with
  | here =>
      cases h with
      | cons _ hchildren _ => exact hchildren
  | inside _ ih =>
      cases h with
      | cons _ hchildren _ => exact ih hchildren
  | beside _ ih =>
      cases h with
      | cons _ _ hrest => exact ih hrest

/-- Everything in a forest that lies within a symbol is enclosed by it, at any depth. -/
theorem LiesWithin.encloses (h : LiesWithin (some parent) forest) :
    ∀ inner ∈ flatten forest, Encloses parent inner := by
  generalize haround : some parent = around at h
  induction h generalizing parent with
  | nil => exact List.forall_mem_nil _
  | @cons around symbol children rest habove _ _ ihchildren ihrest =>
      have hsymbol : Encloses parent symbol := habove parent haround.symm
      rw [flatten, symbols, List.cons_append, List.forall_mem_cons, List.forall_mem_append]
      exact ⟨hsymbol, fun inner hinner => hsymbol.trans (ihchildren rfl inner hinner), ihrest haround⟩

end Outline

namespace Context

open Outline

variable {symbols : List Symbol} {symbol inner : Symbol} {line : Nat}

/-- Of symbols there is a narrowest one if there are any. -/
theorem narrowest_eq_none_iff : narrowest? symbols = none ↔ symbols = [] := by
  cases symbols with
  | nil => simp [narrowest?]
  | cons first rest =>
      rw [narrowest?]
      split
      · simp
      · split
        · simp
        · simp

/-- The narrowest symbol has fewer lines than all before it, and no more than any after it. -/
theorem narrowest_spec (h : narrowest? symbols = some symbol) :
    ∃ before after, symbols = before ++ symbol :: after ∧
      (∀ earlier ∈ before, symbol.location.span < earlier.location.span) ∧
      ∀ later ∈ after, symbol.location.span ≤ later.location.span := by
  induction symbols generalizing symbol with
  | nil => cases h
  | cons first rest ih =>
      rw [narrowest?] at h
      split at h
      · next hnone =>
          obtain rfl := Option.some.inj h
          rw [narrowest_eq_none_iff.mp hnone]
          exact ⟨[], [], rfl, List.forall_mem_nil _, List.forall_mem_nil _⟩
      · next other hother =>
          split at h
          · next hle =>
              obtain rfl := Option.some.inj h
              obtain ⟨before, after, rfl, hbefore, hafter⟩ := ih hother
              refine ⟨[], before ++ other :: after, rfl, List.forall_mem_nil _, ?_⟩
              rw [List.forall_mem_append, List.forall_mem_cons]
              exact ⟨fun earlier hearlier => Nat.le_of_lt (Nat.lt_of_le_of_lt hle (hbefore earlier hearlier)),
                hle, fun later hlater => Nat.le_trans hle (hafter later hlater)⟩
          · next hlt =>
              obtain rfl := Option.some.inj h
              obtain ⟨before, after, rfl, hbefore, hafter⟩ := ih hother
              refine ⟨first :: before, after, rfl, ?_, hafter⟩
              exact List.forall_mem_cons.mpr ⟨Nat.lt_of_not_le hlt, hbefore⟩

/-- The symbol that is given for a line can enclose it, and of those that can it is the first with the
fewest lines. -/
theorem enclosing_spec (h : enclosing? symbols line = some symbol) :
    encloses line symbol = true ∧ ∃ before after, symbols = before ++ symbol :: after ∧
      (∀ earlier ∈ before, encloses line earlier = true →
        symbol.location.span < earlier.location.span) ∧
      ∀ later ∈ after, encloses line later = true →
        symbol.location.span ≤ later.location.span := by
  obtain ⟨front, back, hfilter, hfront, hback⟩ := narrowest_spec h
  obtain ⟨before, rest, rfl, rfl, hrest⟩ := List.filter_eq_append_iff.mp hfilter
  obtain ⟨skipped, after, rfl, hskipped, hencloses, rfl⟩ := List.filter_eq_cons_iff.mp hrest
  refine ⟨hencloses, before ++ skipped, after, by simp, ?_, ?_⟩
  · intro earlier hearlier henclosing
    rcases List.mem_append.mp hearlier with hearlier | hearlier
    · exact hfront earlier (List.mem_filter.mpr ⟨hearlier, henclosing⟩)
    · exact absurd henclosing (hskipped earlier hearlier)
  · exact fun later hlater henclosing => hback later (List.mem_filter.mpr ⟨hlater, henclosing⟩)

/-- No symbol is given for a line exactly if none can enclose it. -/
theorem enclosing_eq_none_iff :
    enclosing? symbols line = none ↔ ∀ symbol ∈ symbols, ¬encloses line symbol = true := by
  rw [enclosing?, narrowest_eq_none_iff, List.filter_eq_nil_iff]

/-- The declaration that is given for a line of a forest whose symbols lie within each other is the
innermost one around the line unless a container or callable that is nested in it, at any depth, starts
and ends on the same lines. Everything before it in the list that can enclose the line has more lines,
so of declarations with the same lines it is the outermost. None is given only if none is there. -/
theorem enclosing_innermost_iff {forest : List Outline} (h : LiesWithin none forest) (line : Nat) :
    (enclosing? (flatten forest) line = none ↔
      ∀ symbol ∈ flatten forest, ¬encloses line symbol = true) ∧
    ∀ symbol, enclosing? (flatten forest) line = some symbol →
      encloses line symbol = true ∧ ∃ before children, HasNode symbol children before forest ∧
        (∀ earlier ∈ before, encloses line earlier = true →
          symbol.location.span < earlier.location.span) ∧
        ((∀ inner ∈ flatten children, ¬encloses line inner = true) ↔
          ∀ inner ∈ flatten children, (inner.kind.isContainer || inner.kind.isCallable) = true →
            ¬(inner.location.startLine = symbol.location.startLine ∧
              inner.location.endLine = symbol.location.endLine)) := by
  refine ⟨enclosing_eq_none_iff, fun symbol hsymbol => ?_⟩
  obtain ⟨hencloses, before, after, hsplit, hbefore, hafter⟩ := enclosing_spec hsymbol
  obtain ⟨children, hnode⟩ := exists_node_of_flatten forest hsplit
  refine ⟨hencloses, before, children, hnode, hbefore, ?_⟩
  obtain ⟨rest, hflatten⟩ := hnode.flatten_eq
  obtain rfl : after = flatten children ++ rest :=
    (List.cons.inj (List.append_cancel_left (hsplit.symm.trans hflatten))).2
  have hline : symbol.location.startLine ≤ line ∧ line ≤ symbol.location.endLine :=
    (contains_line_iff ..).mp (Bool.and_eq_true_iff.mp hencloses).1
  constructor
  · -- What has the same lines spans the line as well.
    rintro hnone inner hinner hkind ⟨hstart, hend⟩
    refine hnone inner hinner (Bool.and_eq_true_iff.mpr ⟨(contains_line_iff ..).mpr ?_, hkind⟩)
    rw [hstart, hend]
    exact hline
  · -- What spans the line has as many lines, and lies within.
    intro hnone inner hinner henclosing
    obtain ⟨hspans, hkind⟩ := Bool.and_eq_true_iff.mp henclosing
    have hwithin : Encloses symbol inner := (h.of_node hnode).encloses inner hinner
    have hspan : symbol.location.span ≤ inner.location.span :=
      hafter inner (List.mem_append_left rest hinner) henclosing
    obtain ⟨hfirst, hlast⟩ := hwithin
    rw [contains_line_iff] at hfirst hlast hspans
    rw [Location.span, Location.span] at hspan
    exact hnone inner hinner hkind ⟨by omega, by omega⟩

/-- A method `m` of a class `A`, on one line. -/
def methodOn (line : Nat) : Symbol :=
  { name := "m", kind := .method, containerName := some "A"
    location := { path := ⟨"/ws/a.ts"⟩, startLine := line, endLine := line } }

/-- A class `A` that starts on the first line. -/
def classUpTo (line : Nat) : Symbol :=
  { name := "A", kind := .classDef
    location := { path := ⟨"/ws/a.ts"⟩, startLine := 1, endLine := line } }

/-- In a class of three lines the method on the second is given for its line. -/
theorem enclosing_innermost_method :
    LiesWithin none [node (classUpTo 3) [leaf (methodOn 2)]] ∧
      enclosing? [classUpTo 3, methodOn 2] 2 = some (methodOn 2) ∧
        ∃ before children, HasNode (methodOn 2) children before
            [node (classUpTo 3) [leaf (methodOn 2)]] ∧
          ∀ inner ∈ flatten children, ¬encloses 2 inner = true := by
  have hwithin : LiesWithin none [node (classUpTo 3) [leaf (methodOn 2)]] := by
    refine .cons (by simp) (.cons ?_ .nil .nil) .nil
    rintro parent ⟨⟩
    exact ⟨rfl, rfl⟩
  have hgiven : enclosing? (flatten [node (classUpTo 3) [leaf (methodOn 2)]]) 2 = some (methodOn 2) := by
    decide
  obtain ⟨-, before, children, hnode, -, hinner⟩ :=
    (enclosing_innermost_iff hwithin 2).2 _ hgiven
  refine ⟨hwithin, hgiven, before, children, hnode, hinner.mpr ?_⟩
  obtain ⟨after, hflatten⟩ := hnode.flatten_eq
  have hlength := congrArg List.length hflatten
  have hfirst : before ≠ [] := by
    rintro rfl
    have hsame : classUpTo 3 = methodOn 2 := (List.cons.inj hflatten).1
    exact absurd hsame (by decide)
  have hnone : flatten children = [] := by
    have htwo : (flatten [node (classUpTo 3) [leaf (methodOn 2)]]).length = 2 := rfl
    have hsome := List.length_pos_iff.mpr hfirst
    rw [htwo, List.length_append, List.length_cons, List.length_append] at hlength
    exact List.eq_nil_of_length_eq_zero (by omega)
  rw [hnone]
  exact List.forall_mem_nil _

/-- For the one line of a class with a method in it the class is given, though the method spans the
line and is nested in the class. -/
theorem class_given_for_method :
    IsLaidOut none [node (classUpTo 1) [leaf (methodOn 1)]] ∧
      enclosing? (flatten [node (classUpTo 1) [leaf (methodOn 1)]]) 1 = some (classUpTo 1) ∧
        encloses 1 (methodOn 1) = true := by
  refine ⟨.cons rfl (.cons ⟨⟨"A", rfl, by decide⟩, rfl, rfl⟩ .nil (by simp) .nil) (by simp) .nil, ?_, ?_⟩
  · decide
  · decide

end Context

end CodeAtlas
