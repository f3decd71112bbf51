import CodeAtlas.Symbol.Basic

/-!
# Statements that declare something

The part of a program's structure that symbols are made of. Positions are byte offsets; a name is
given by its extent, because its spelling is the source text between the two offsets.
-/

namespace CodeAtlas.Grammar

/-- The extent of a declaration, and where its body starts if it has one. -/
structure Extent where
  start : Nat
  stop : Nat
  body : Option Nat := none
  deriving Repr, Inhabited

/-- The extent of a name. -/
structure Name where
  start : Nat
  stop : Nat
  deriving Repr, Inhabited

/-- A parameter that a plain name declares. -/
structure Parameter where
  extent : Extent
  name : Name
  modifiers : List Modifier
  deriving Repr, Inhabited

/-- What tells the members of a class or interface apart. -/
inductive MemberKind where
  | method (parameters : List Parameter) (hasBody : Bool)
  | property (isFunction isPrivate : Bool)
  deriving Repr, Inhabited

/-- A member of a class or interface. -/
structure Member where
  extent : Extent
  name : Name
  modifiers : List Modifier
  kind : MemberKind
  deriving Repr, Inhabited

/-- A declarator of a variable statement: the names it binds and, if its value is a function, the
modifiers of that function. -/
structure Declarator where
  extent : Extent
  names : List Name
  function : Option (List Modifier)
  deriving Repr, Inhabited

/-- A statement, as far as it declares something. -/
inductive Statement where
  /-- A class; without a name it is the value of a default export. -/
  | classDecl (extent : Extent) (name : Option Name) (modifiers : List Modifier)
      (members : List Member)
  | interfaceDecl (extent : Extent) (name : Name) (members : List Member)
  | enumDecl (extent : Extent) (name : Name) (members : List (Extent × Name))
  | typeAlias (extent : Extent) (name : Name)
  /-- A function; without a name it is the value of a default export. -/
  | function (extent : Extent) (name : Option Name) (modifiers : List Modifier)
  | variables (isConst : Bool) (declarators : List Declarator)
  /-- A namespace, or with `isModule` a module, and the statements of its body. -/
  | namespaceDecl (extent : Extent) (name : Name) (isModule : Bool) (body : List Statement)
  /-- A declaration without implementation. -/
  | ambient (inner : Statement)
  | exported (isDefault : Bool) (inner : Statement)
  /-- Names exported by a list or by default, each with a flag for the default. -/
  | exportList (names : List (Name × Bool))
  /-- A statement that declares nothing. -/
  | other
  deriving Inhabited

end CodeAtlas.Grammar
