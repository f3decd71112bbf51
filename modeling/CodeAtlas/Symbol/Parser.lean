import CodeAtlas.Declaration.Scan
import CodeAtlas.Grammar.Symbols

/-!
# Symbol parsers

A symbol parser turns the text of a file into its symbols or says why it cannot. `orElse` joins two
of them: the second is asked when the first fails or finds nothing.
-/

namespace CodeAtlas

/-- A way of reading the symbols of a file. -/
structure SymbolParser where
  /-- A short name of the strategy. -/
  strategy : String
  /-- The symbols of a file in source order, or the reason why there are none. -/
  parse : Path → Text → Except String (List Symbol)
  deriving Inhabited

namespace SymbolParser

/-- Ask `primary` first and `secondary` when that fails or finds nothing. -/
def orElse (primary secondary : SymbolParser) : SymbolParser where
  strategy := "fallback"
  parse path content :=
    match primary.parse path content with
    | .ok (symbol :: rest) => .ok (symbol :: rest)
    | _ => secondary.parse path content

/-- Read declarations line by line. -/
def ofLines : SymbolParser where
  strategy := "pattern"
  parse path content :=
    match Declaration.scan? path content with
    | some symbols => .ok symbols
    | none => .error "a cut of the text lies outside it"

/-- Read the declarations of the program's structure. -/
def ofStructure : SymbolParser where
  strategy := "structure"
  parse path content := .ok (Grammar.symbols path content)

/-- Read the program's structure, and its lines when that finds nothing. -/
def default : SymbolParser :=
  ofStructure.orElse ofLines

end SymbolParser

end CodeAtlas
