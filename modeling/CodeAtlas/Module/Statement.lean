import CodeAtlas.Pattern.Match

/-!
# The shapes of import and export statements

One pattern per statement form. The comment on each pattern says what its groups hold.
-/

namespace CodeAtlas.Module.Statement

open Pattern

/-- A quote of a module specifier. -/
def quote : Pattern :=
  char (.ofString "'\"")

/-- A module specifier in quotes, recorded as group `number`. -/
def specifier (number : Nat) : Pattern :=
  sequence [quote, group number (many1 (char (.notIn "'\""))), quote]

/-- A call of `require` with a specifier as group `number`, from its name on. -/
def requireCall (number : Nat) : Pattern :=
  sequence [literal "require", blanks, literal "(", blanks, specifier number, blanks, literal ")"]

/-- An import with bindings: group 1 is the clause, group 2 the specifier. -/
def importFrom : Pattern :=
  sequence [wordBoundary, keyword "import", optional (keyword "type"),
    group 1 (manyLazy (char (.notIn ";'\"`()"))), blanks, wordBoundary, literal "from", blanks,
    specifier 2]

/-- An import for its side effects: group 1 is the specifier. -/
def importSideEffect : Pattern :=
  sequence [wordBoundary, literal "import", blanks, specifier 1]

/-- An import by assignment: group 1 is the local name, group 2 the specifier. -/
def importRequire : Pattern :=
  sequence [wordBoundary, keyword "import", group 1 identifier, blanks, literal "=", blanks,
    requireCall 2]

/-- A variable bound to a required module: group 1 is the binding, group 2 the specifier. -/
def requireBinding : Pattern :=
  sequence [wordBoundary, choice [literal "const", literal "let", literal "var"], blanks1,
    group 1 (many1Lazy (char (.notIn "=;"))), blanks, literal "=", blanks, requireCall 2]

/-- Any call of `require`: group 1 is the specifier. -/
def requireAny : Pattern :=
  seq wordBoundary (requireCall 1)

/-- An import expression: group 1 is the specifier. -/
def importCall : Pattern :=
  sequence [wordBoundary, literal "import", blanks, literal "(", blanks, specifier 1, blanks,
    literal ")"]

/-- A re-export of a whole module: group 1 is its name, if it is given one, group 2 the specifier.
-/
def exportStar : Pattern :=
  sequence [wordBoundary, keyword "export", optional (keyword "type"), literal "*", blanks,
    optional (sequence [keyword "as", group 1 identifier, blanks]), literal "from", blanks,
    specifier 2]

/-- An export list: group 1 is the list, group 2 the specifier if it re-exports. -/
def exportList : Pattern :=
  sequence [wordBoundary, keyword "export", optional (keyword "type"), char (.one '{'),
    group 1 (many (char (.complement (.one '}')))), char (.one '}'),
    optional (sequence [blanks, literal "from", blanks, specifier 2])]

/-- A default export: group 1 is the exported name, if there is one. -/
def exportDefault : Pattern :=
  sequence [wordBoundary, keyword "export", keyword "default",
    optional (alt
      (sequence [optional (keyword "abstract"), literal "class", wordBoundary, blanks])
      (sequence [optional (keyword "async"), literal "function", wordBoundary, blanks,
        optional (literal "*"), blanks])),
    optional (group 1 identifier)]

/-- An exported declaration up to its name: group 1 is the keyword. -/
def exportDeclaration : Pattern :=
  sequence [wordBoundary, keyword "export", optional (keyword "declare"),
    optional (keyword "abstract"), optional (keyword "async"),
    group 1 (choice [literal "class", literal "interface", seq (keyword "const") (literal "enum"),
      literal "enum", literal "type", literal "namespace", literal "module",
      sequence [literal "function", blanks, optional (literal "*")], literal "const", literal "let",
      literal "var"]),
    blanks1]

/-- An export by assignment: group 1 is the name. -/
def exportAssign : Pattern :=
  sequence [wordBoundary, literal "export", blanks, literal "=", blanks, group 1 identifier]

end CodeAtlas.Module.Statement
