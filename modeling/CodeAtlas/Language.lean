import CodeAtlas.Path
import CodeAtlas.Text.Casing

/-!
# The source languages

Which files are read, which language each is in, and the words that the scanners treat specially.
-/

namespace CodeAtlas

/-- The language of a source file. -/
inductive Language where
  | typeScript
  | tsx
  | javaScript
  | unknown
  deriving DecidableEq, Repr, Inhabited

namespace Language

/-- The name of a language. -/
def name : Language → String
  | .typeScript => "typescript"
  | .tsx => "tsx"
  | .javaScript => "javascript"
  | .unknown => "unknown"

/-- The language of a file extension, in any letter case. -/
def ofExtension (extension : Text) : Language :=
  let lower := String.ofList (Text.lowercase extension)
  if ["ts", "mts", "cts"].contains lower then .typeScript
  else if ["tsx", "jsx"].contains lower then .tsx
  else if ["js", "mjs", "cjs"].contains lower then .javaScript
  else .unknown

/-- The language of a file. -/
def ofPath (path : Path) : Language :=
  match path.extension? with
  | some extension => ofExtension extension
  | none => .unknown

/-- The extensions of the files that are read. -/
def supportedExtensions : List String :=
  ["ts", "tsx", "mts", "cts", "js", "jsx", "mjs", "cjs"]

/-- The suffixes tried, in order, for an import without extension. -/
def resolutionExtensions : List String :=
  ["ts", "tsx", "d.ts", "js", "jsx", "mjs", "cjs", "mts", "cts"]

/-- The names, without suffix, of the file that stands for a directory. -/
def indexNames : List String :=
  ["index"]

/-- Whether a file is read, by its extension in any ASCII letter case. -/
def supports (path : Path) : Bool :=
  match path.extension? with
  | some extension => supportedExtensions.contains (String.ofList (Text.asciiLowercase extension))
  | none => false

/-- Whether the file may hold markup elements in its expressions, by its extension in any ASCII
letter case. Other files may hold type assertions in angle brackets instead. -/
def allowsMarkup (path : Path) : Bool :=
  match path.extension? with
  | some extension =>
    ["tsx", "jsx", "js", "mjs", "cjs"].contains (String.ofList (Text.asciiLowercase extension))
  | none => false

/-- The words that look like the name of a called function but start a statement or expression. -/
def controlKeywords : List String :=
  ["if", "for", "while", "switch", "catch", "return", "function", "typeof", "with", "do", "else",
    "new"]

/-- The words recognised ahead of the name of a class member. -/
def memberModifiers : List String :=
  ["public", "private", "protected", "static", "readonly", "async", "abstract", "declare",
    "override", "get", "set"]

/-- Whether a word is a control keyword. -/
def isControlKeyword (word : String) : Bool :=
  controlKeywords.contains word

end Language

end CodeAtlas
