import CodeAtlas.Text.Basic

/-!
# Imports and exports

The records that describe what a module takes from other modules and what it offers to them.
-/

namespace CodeAtlas

/-- One binding introduced by an import statement. An import for its side effects has an empty name.
-/
structure Import where
  name : String
  source : String
  isDefault : Bool := false
  isNamespace : Bool := false
  localName : Option String := none
  deriving DecidableEq, Repr, Inhabited

namespace Import

/-- The identifier that the import binds in the importing file. -/
def binding (item : Import) : String :=
  item.localName.getD item.name

/-- The import of a whole module under a local name. -/
def whole (source : String) (localName : Option String) : Import :=
  { name := "*", source, isNamespace := true, localName }

end Import

/-- One name that a module exports. -/
structure Export where
  name : String
  isDefault : Bool := false
  isReExport : Bool := false
  source : Option String := none
  deriving DecidableEq, Repr, Inhabited

/-- A range of byte offsets, its end excluded. -/
structure ByteRange where
  start : Nat
  stop : Nat
  deriving DecidableEq, Repr, Inhabited

/-- Whether an offset lies in the range. -/
def ByteRange.contains (range : ByteRange) (offset : Nat) : Bool :=
  range.start ≤ offset && offset < range.stop

/-- The module-level statements of one file. -/
structure ModuleSyntax where
  imports : List Import := []
  exports : List Export := []
  /-- The statements that only bind imported names. -/
  bindingRanges : List ByteRange := []
  deriving DecidableEq, Repr, Inhabited

namespace ModuleSyntax

/-- Whether an offset lies in a statement that only binds imported names. -/
def isBindingOffset (module : ModuleSyntax) (offset : Nat) : Bool :=
  module.bindingRanges.any (·.contains offset)

/-- Every module specifier that the file names, those of its imports first, each once. -/
def specifiers (module : ModuleSyntax) : List String :=
  ((module.imports.map (·.source) ++ module.exports.filterMap (·.source)).filter (· ≠ "")).eraseDups

end ModuleSyntax

end CodeAtlas
