import CodeAtlas.Hint.Basic
import CodeAtlas.Hint.Expression
import CodeAtlas.Hint.Source
import CodeAtlas.Text.Word

/-!
# Hints for symbols

`Hint.of?` gives the best hint for a symbol that a text declares: the type written at its
declaration if there is one, else what its initial value or its `return` statements tell. The result
is `none` only if a cut of the text fell outside it, which no text brings about.
-/

namespace CodeAtlas.Hint

open Text (Cursor)

/-- A hint for a symbol. -/
def hint (symbol : Symbol) (declared returns : Option String) (inferred : Bool)
    (rationale : Rationale) : TypeHint :=
  { name := symbol.name, kind := symbol.kind, declaredType := declared, returnType := returns,
    inferred, rationale }

/-- The offset just past the symbol's name: the occurrence at its column, or else the first one on
its line. -/
def nameEnd? (symbol : Symbol) (content : Text) : Option Nat := do
  if symbol.location.startLine = 0 then none
  let (start, line) ←
    (Text.withOffsets 0 (Text.splitBy (· = '\n') content))[symbol.location.startLine - 1]?
  let name := symbol.name.toList
  let hits := Text.wordOccurrences line name
  let anchored := symbol.location.column.bind fun column => hits.find? (·.2 = column)
  let (offset, _) ← anchored.or hits.head?
  pure (start + offset + Text.byteLength name)

/-- The cursor after one of the given marks and the blanks that follow it, if one comes next. -/
def skipMark (cursor : Cursor) (marks : List Char) : Cursor :=
  if cursor.next?.any marks.contains then cursor.advance.skipBlanks else cursor

/-- The characters that end the type written at a variable, property or parameter. -/
def typeStops (symbol : Symbol) : List Char :=
  if symbol.kind = .parameter then [',', ')', '='] else [';', ',', '=']

/-- The hint for a variable, property or parameter whose name ends at a cursor. -/
def valueHint? (symbol : Symbol) (source : Source) (after : Cursor) : Option TypeHint := do
  let at' := skipMark after.skipBlanks ['?', '!']
  match at'.next? with
  | some ':' =>
    let declared ← expression? source at'.advance (typeStops symbol)
    return hint symbol (some (String.ofList declared)) none false .annotatedValue
  | some '=' =>
    if at'.advance.next? = some '=' then return hint symbol none none true .nothingWritten
    let value ← expression? source at'.advance [';', ',', ')']
    match ← infer? value with
    | some type => return hint symbol (some type) none true .fromInitializer
    | none => return hint symbol none none true .unrecognizedInitializer
  | _ => return hint symbol none none true .nothingWritten

/-- The type of an asynchronous callable: a promise, unless it is one already. -/
def promised (isAsync : Bool) (type : String) : String :=
  if isAsync && !Text.startsWith type.toList "Promise<".toList then "Promise<" ++ type ++ ">"
  else type

/-- The type that several `return` statements with the given types lead to. -/
def unionType (types : List (Option String)) : String :=
  let addNew (seen : List String) (type : String) : List String :=
    if seen.contains type then seen else seen ++ [type]
  match (types.filterMap id).foldl addNew [] with
  | [] => "unknown"
  | distinct => " | ".intercalate distinct

/-- The cursor at the parameters of a function bound to a name, and whether `async` came before. -/
def skipFunctionKeywords (at' : Cursor) : Cursor × Bool :=
  let isAsync := keywordAt at' "async"
  let at' := if isAsync then (at'.advanceBy 5).skipBlanks else at'
  if keywordAt at' "function" then
    let at' := skipMark (at'.advanceBy 8).skipBlanks ['*']
    ((skipIdentifier at').skipBlanks, isAsync)
  else (at', isAsync)

/-- The type of a returned value. -/
def returnedType? (value : Text) : Option (Option String) :=
  if value.isEmpty then some (some "void") else infer? value

/-- The hint for a callable whose body opens at a cursor. -/
def returnsHint? (symbol : Symbol) (source : Source) (isAsync : Bool) (body : Cursor) :
    Option TypeHint := do
  let some close := closerAt? source body | return hint symbol none none true .unbalancedBody
  let returns ← returnExpressions? source (body.offset + 1) close
  if returns.isEmpty then
    return hint symbol none (some (promised isAsync "void")) true .noReturns
  let types ← returns.mapM returnedType?
  return hint symbol none (some (promised isAsync (unionType types))) true
    (.fromReturns returns.length)

/-- The hint for a callable from the end of its parameters on. -/
def bodyHint? (symbol : Symbol) (source : Source) (isAsync : Bool) (parametersEnd : Cursor) :
    Option TypeHint := do
  let at' := parametersEnd.skipBlanks
  if at'.next? = some ':' then
    let written ← returnType? source at'.advance
    return hint symbol none (some (String.ofList written)) false .annotatedReturn
  let isArrow := at'.startsWith "=>"
  let at' := if isArrow then (at'.advanceBy 2).skipBlanks else at'
  if isArrow && at'.next? != some '{' then
    let body ← expression? source at' [';', ',', ')']
    let type := (← infer? body).getD "unknown"
    return hint symbol none (some (promised isAsync type)) true .arrowExpression
  if at'.next? != some '{' then return hint symbol none none true .noBody
  returnsHint? symbol source isAsync at'

/-- The hint for a callable from its type parameters or parameters on. -/
def parametersHint? (symbol : Symbol) (source : Source) (isAsync : Bool) (start : Cursor) :
    Option TypeHint := do
  let at' := (skipGenerics source start).skipBlanks
  if at'.next? = some '(' then
    let some afterList := afterCloser? source at'
      | return hint symbol none none true .unbalancedParameters
    return ← bodyHint? symbol source isAsync afterList
  if startsIdentifier at' then return ← bodyHint? symbol source isAsync (skipIdentifier at')
  return hint symbol none none true .noParameters

/-- The hint for a function or method whose name ends at a cursor. -/
def callableHint? (symbol : Symbol) (source : Source) (after : Cursor) : Option TypeHint := do
  let at' := skipMark after.skipBlanks ['?']
  if at'.next? = some ':' then
    let declared ← expression? source at'.advance [';', '=']
    return hint symbol (some (String.ofList declared)) none false .annotatedBinding
  let (start, isAsync) :=
    if at'.next? = some '=' then skipFunctionKeywords at'.advance.skipBlanks else (at', false)
  parametersHint? symbol source (symbol.hasModifier .async || isAsync) start

/-- The hint for a type alias whose name ends at a cursor. -/
def aliasHint? (symbol : Symbol) (source : Source) (after : Cursor) : Option TypeHint := do
  let at' := skipGenerics source after.skipBlanks
  if at'.next? = some '=' then
    let aliased ← expression? source at'.advance [';']
    return hint symbol (some (String.ofList aliased)) none false .aliasedType
  return hint symbol none none true .aliasWithoutType

/-- The hint for a member of an enumeration whose name ends at a cursor. -/
def enumMemberHint? (symbol : Symbol) (source : Source) (after : Cursor) : Option TypeHint := do
  let at' := after.skipBlanks
  let value ←
    if at'.next? = some '=' then do infer? (← expression? source at'.advance [',', '}'])
    else some none
  let declared :=
    if value = some "string" then "string" else symbol.containerName.getD "number"
  return hint symbol (some declared) none true .memberOfEnum

/-- The best hint for a symbol that a text declares. -/
def of? (symbol : Symbol) (content : Text) : Option TypeHint := do
  let source : Source := ⟨content, Text.mask .all content⟩
  let some offset := nameEnd? symbol content | return hint symbol none none true .notFound
  let after ← Cursor.seek? source.masked offset
  match symbol.kind with
  | .classDef | .interfaceDef | .enumDef =>
    return hint symbol (some symbol.name) none false .namesOwnType
  | .moduleDef | .namespaceDef =>
    return hint symbol (some ("typeof " ++ symbol.name)) none false .namespaceShape
  | .typeAlias => aliasHint? symbol source after
  | .enumMember => enumMemberHint? symbol source after
  | .constructor =>
    return hint symbol none (some (symbol.containerName.getD "")) true .producesClass
  | .function | .method => callableHint? symbol source after
  | .variableDef | .constant | .property | .field | .parameter => valueHint? symbol source after

end CodeAtlas.Hint
