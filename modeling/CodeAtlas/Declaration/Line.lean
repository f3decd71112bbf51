import CodeAtlas.Pattern.Match

/-!
# The shapes of declaration lines

One pattern per form of declaration, each matched at the start of a masked line. The comment on each
pattern says what its groups hold; group 1 holds the modifiers where there are any.
-/

namespace CodeAtlas.Declaration.Line

open Pattern

/-- White space, then modifiers out of `words` as group 1. -/
def modified (words : List String) : Pattern :=
  seq blanks (group 1 (keywords words))

/-- A class: group 2 is its name, if it has one. -/
def classLine : Pattern :=
  sequence [modified ["export", "default", "declare", "abstract"], literal "class",
    optional (seq blanks1 (group 2 identifier))]

/-- An interface: group 2 is its name. -/
def interfaceLine : Pattern :=
  sequence [modified ["export", "declare"], keyword "interface", group 2 identifier]

/-- An enumeration: group 2 is its name. -/
def enumLine : Pattern :=
  sequence [modified ["export", "declare", "const"], keyword "enum", group 2 identifier]

/-- A namespace or module: group 2 is the keyword, group 3 the dotted name. -/
def namespaceLine : Pattern :=
  sequence [modified ["export", "declare"], group 2 (alt (literal "namespace") (literal "module")),
    blanks1,
    group 3 (seq (char .identStart) (many (char (.union .identPart (.one '.')))))]

/-- A type alias: group 2 is its name. -/
def typeLine : Pattern :=
  sequence [modified ["export", "declare"], keyword "type", group 2 identifier, blanks,
    optional (sequence [literal "<", many (char (.notIn "=")), literal ">"]), blanks, literal "="]

/-- A function: group 2 is its name, if it has one. -/
def functionLine : Pattern :=
  sequence [modified ["export", "default", "declare", "async"], literal "function", wordBoundary,
    blanks, optional (literal "*"), blanks, optional (group 2 identifier), blanks,
    char (.ofString "(<")]

/-- A variable statement up to its first declarator: group 2 is the keyword. -/
def variableLine : Pattern :=
  sequence [modified ["export", "declare"],
    group 2 (choice [literal "const", literal "let", literal "var"]), blanks1]

/-- An export list: group 1 is the list, group 2 is there if a source follows. -/
def exportListLine : Pattern :=
  sequence [blanks, keyword "export", optional (keyword "type"), char (.one '{'),
    group 1 (many (char (.complement (.one '}')))), char (.one '}'), blanks,
    optional (group 2 (seq (literal "from") wordBoundary))]

/-- A default export of a name, group 1, alone on its line. -/
def exportDefaultLine : Pattern :=
  sequence [blanks, keyword "export", keyword "default", group 1 identifier, blanks,
    optional (literal ";"), blanks, textEnd]

/-- An identifier that may be private to its class. -/
def memberName : Pattern :=
  seq (optional (literal "#")) identifier

/-- A method up to its parameter list: group 2 is its name. -/
def methodLine : Pattern :=
  sequence [modified ["public", "private", "protected", "static", "readonly", "async", "abstract",
      "declare", "override", "get", "set"],
    optional (literal "*"), blanks, group 2 memberName, blanks, optional (char (.ofString "?!")),
    blanks, optional (sequence [literal "<", many (char (.notIn ">(")), literal ">"]), blanks,
    literal "("]

/-- A property: group 2 is its name. -/
def propertyLine : Pattern :=
  sequence [modified ["public", "private", "protected", "static", "readonly", "declare", "override",
      "abstract"],
    group 2 memberName, blanks, optional (char (.ofString "?!")), blanks,
    choice [literal ":", literal "=", literal ";", textEnd]]

/-- A member of an interface: group 1 is its name, group 2 the character that tells a property from
a method. -/
def interfaceMemberLine : Pattern :=
  sequence [blanks, optional (keyword "readonly"), group 1 identifier, blanks,
    optional (literal "?"), blanks, group 2 (char (.ofString "(:<"))]

/-- A parameter of a constructor: group 2 is its name. -/
def parameterHead : Pattern :=
  seq (modified ["public", "private", "protected", "readonly", "override"]) (group 2 identifier)

end CodeAtlas.Declaration.Line
