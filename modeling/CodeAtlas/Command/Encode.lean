import CodeAtlas.Engine

/-!
# Answers as JSON

The JSON form of what the engine answers with. Fields without a value are left out.
-/

namespace CodeAtlas

open JsonValue (natural string array object flag)

/-- A field that is left out if it has no value. -/
def optionalField {α : Type} (name : String) (encode : α → JsonValue) :
    Option α → List (String × JsonValue)
  | some value => [(name, encode value)]
  | none => []

/-- The array of a list. -/
def encodeList {α : Type} (encode : α → JsonValue) (items : List α) : JsonValue :=
  array (items.map encode)

/-- The value of a place. -/
def Location.toJson (location : Location) : JsonValue :=
  object ([
    ("path", string location.path.text),
    ("startLine", natural location.startLine),
    ("endLine", natural location.endLine)]
    ++ optionalField "column" natural location.column)

/-- The fields of a symbol. -/
def Symbol.jsonFields (symbol : Symbol) : List (String × JsonValue) :=
  [("name", string symbol.name), ("kind", string symbol.kind.word),
    ("location", symbol.location.toJson)]
    ++ optionalField "containerName" string symbol.containerName
    ++ (if symbol.modifiers.isEmpty then []
      else [("modifiers", encodeList (fun modifier => string modifier.keyword) symbol.modifiers)])
    ++ optionalField "details" string symbol.details

/-- The value of a symbol. -/
def Symbol.toJson (symbol : Symbol) : JsonValue :=
  object symbol.jsonFields

mutual

/-- The value of an outline. -/
def Outline.toJson : Outline → JsonValue
  | .node symbol [] => object symbol.jsonFields
  | .node symbol (first :: rest) =>
    object (symbol.jsonFields ++ [("children", array (first.toJson :: Outline.listJson rest))])

/-- The values of a forest. -/
def Outline.listJson : List Outline → List JsonValue
  | [] => []
  | first :: rest => first.toJson :: Outline.listJson rest

end

/-- The value of lines in context. -/
def Context.toJson (context : Context) : JsonValue :=
  object ([
    ("filePath", string context.file),
    ("startLine", natural context.startLine),
    ("endLine", natural context.endLine),
    ("focusLine", natural context.focusLine),
    ("lines", encodeList (fun line => string (String.ofList line)) context.lines)]
    ++ optionalField "enclosingSymbol" Symbol.toJson context.enclosing)

/-- The value of a reference. -/
def Reference.toJson (reference : Reference) : JsonValue :=
  object [
    ("symbol", reference.symbol.toJson),
    ("location", reference.location.toJson),
    ("isDefinition", flag reference.isDefinition),
    ("context", string (String.ofList reference.line))]

/-- The value of a search result. -/
def SearchResult.toJson (result : SearchResult) : JsonValue :=
  object [
    ("symbols", encodeList Symbol.toJson result.symbols),
    ("references", encodeList Reference.toJson result.references),
    ("contexts", encodeList Context.toJson result.contexts)]

/-- The value of a type hint. -/
def TypeHint.toJson (hint : TypeHint) : JsonValue :=
  object ([("name", string hint.name), ("kind", string hint.kind.word)]
    ++ optionalField "declaredType" string hint.declaredType
    ++ optionalField "returnType" string hint.returnType
    ++ [("inferred", flag hint.inferred), ("rationale", string hint.rationale.text)])

/-- The value of a graph's numbers. -/
def GraphSummary.toJson (summary : GraphSummary) : JsonValue :=
  object [
    ("nodeCount", natural summary.nodeCount),
    ("edgeCount", natural summary.edgeCount),
    ("externalCount", natural summary.externals.length),
    ("externalDependencies", .strings summary.externals)]

/-- The value of the direct edges of a file. -/
def EdgeCounts.toJson (counts : EdgeCounts) : JsonValue :=
  object [
    ("file", string counts.file),
    ("dependencies", natural counts.dependencies),
    ("dependents", natural counts.dependents)]

/-- The value of an unused export. -/
def UnusedExport.toJson (unused : UnusedExport) : JsonValue :=
  object [
    ("symbol", unused.symbol.toJson),
    ("filePath", string unused.file),
    ("reason", string UnusedExport.reason)]

/-- The value of a file and its number of dependents. -/
def rankJson (file : String) (count : Nat) : JsonValue :=
  object [("file", string file), ("count", natural count)]

end CodeAtlas
