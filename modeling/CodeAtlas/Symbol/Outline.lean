import CodeAtlas.Symbol.Basic

/-!
# Outlines

An outline is a forest of symbols. `nest` builds it from a list in source order: a symbol goes under
the innermost earlier symbol that spans its line and bears its container's name, and stays at the
top level when there is none. `flatten` lists a forest in source order again.
-/

namespace CodeAtlas

/-- A symbol with the symbols nested in it. -/
inductive Outline where
  | node (symbol : Symbol) (children : List Outline)
  deriving Repr, Inhabited

namespace Outline

/-- The symbol at the top. -/
def symbol : Outline → Symbol
  | node symbol _ => symbol

/-- The outlines right below the top. -/
def children : Outline → List Outline
  | node _ children => children

/-- A symbol with nothing nested in it. -/
def leaf (symbol : Symbol) : Outline :=
  node symbol []

mutual

/-- The symbols of an outline, each before those nested in it. -/
def symbols : Outline → List Symbol
  | node symbol children => symbol :: flatten children

/-- The symbols of a forest, each before those nested in it. -/
def flatten : List Outline → List Symbol
  | [] => []
  | first :: rest => symbols first ++ flatten rest

end

mutual

/-- Try to place `item`, which names `container`, into the children of an outline that spans it, and
else directly under that outline when it bears the container's name. -/
def placeUnder? (item : Outline) (container : String) : Outline → Option Outline
  | node parent children =>
    match placeLast? item container children with
    | some updated => some (node parent updated)
    | none => if parent.isNamed container then some (node parent (children ++ [item])) else none

/-- Try to place `item` into a forest. Only the last outline that spans the item's line is asked. -/
def placeLast? (item : Outline) (container : String) : List Outline → Option (List Outline)
  | [] => none
  | first :: rest =>
    if rest.any (·.symbol.location.containsLine item.symbol.location.startLine) then
      (placeLast? item container rest).map (first :: ·)
    else if first.symbol.location.containsLine item.symbol.location.startLine then
      (placeUnder? item container first).map (· :: rest)
    else none

end

/-- Add an item to a forest: under its container if that can be found, else as a new root. -/
def insert (forest : List Outline) (item : Outline) : List Outline :=
  match item.symbol.containerName with
  | none => forest ++ [item]
  | some container => (placeLast? item container forest).getD (forest ++ [item])

/-- The forest of a list of outlines in source order. -/
def nest (items : List Outline) : List Outline :=
  items.foldl insert []

/-- The outline of a flat list of symbols in source order. -/
def ofSymbols (symbols : List Symbol) : List Outline :=
  nest (symbols.map leaf)

end Outline

end CodeAtlas
