import CodeAtlas.Module.Basic
import CodeAtlas.Module.Statement
import CodeAtlas.Text.Mask
import CodeAtlas.Text.Delimiter

/-!
# Reading the imports and exports of a module

`scan?` finds every import and export statement of a text and lists what they bind in source order.
Comments are blanked out first; exported declarations are looked for with the contents of literals
blanked out too. The result is `none` only if a cut of the text fell outside it, which no text
brings about.
-/

namespace CodeAtlas.Module

open Pattern (Match)
open Text (splitBy trim isIdentifier)

/-- The parts between commas, trimmed, without the empty ones. -/
def commaList (list : Text) : List Text :=
  (splitBy (· = ',') list |>.map trim).filter (!·.isEmpty)

/-- What stands before the last character that satisfies `test`. -/
def beforeLast? (text : Text) (test : Char → Bool) : Option Text :=
  match text.reverse.dropWhile (!test ·) with
  | [] => none
  | _ :: rest => some rest.reverse

/-- An import clause cut into the part before its braces and the part inside them. -/
def splitClause (clause : Text) : Text × Option Text :=
  match clause.span (· != '{') with
  | (head, _ :: tail) =>
    match beforeLast? tail (· = '}') with
    | some inner => (head, some inner)
    | none => (clause, none)
  | (_, []) => (clause, none)

/-- An item of a list of names without a leading `type` keyword. -/
def dropTypeKeyword (item : Text) : Text :=
  match Text.dropHead? item "type ".toList with
  | some rest => trim rest
  | none => item

/-- The default or namespace import that a part of a clause outside its braces stands for. -/
def headImport? (source : String) (part : Text) : Option Import :=
  match part with
  | '*' :: rest =>
    let localName := match Text.dropHead? (trim rest) "as".toList with
      | some name => trim name
      | none => []
    some (.whole source (if localName.isEmpty then none else some (String.ofList localName)))
  | _ =>
    if isIdentifier part then some { name := String.ofList part, source, isDefault := true }
    else none

/-- The named import that an item between the braces of a clause stands for. -/
def namedImport? (source : String) (item : Text) : Option Import :=
  match Text.words (dropTypeKeyword item) with
  | [] => none
  | name :: rest =>
    let localName := match rest with
      | as :: other :: _ => if as = "as".toList then some (String.ofList other) else none
      | _ => none
    some { name := String.ofList name, source, isDefault := name = "default".toList, localName }

/-- The imports of a clause such as `Def, { a, b as c }` or `* as ns`. -/
def clauseImports (clause : Text) (source : String) : List Import :=
  let (head, braces) := splitClause (trim clause)
  (commaList head).filterMap (headImport? source)
    ++ (commaList (braces.getD [])).filterMap (namedImport? source)

/-- The text before the first character that satisfies `test`. -/
def before (test : Char → Bool) (text : Text) : Text :=
  text.takeWhile (!test ·)

/-- The import that an item of a destructured `require` stands for. -/
def destructuredImport (source : String) (item : Text) : Import :=
  match item.span (· != ':') with
  | (name, _ :: localName) =>
    { name := String.ofList (trim name), source
      localName := some (String.ofList (trim localName)) }
  | (_, []) => { name := String.ofList item, source }

/-- The imports of a variable bound to a required module. -/
def requireImports (binding : Text) (source : String) : List Import :=
  let binding := trim binding
  let binding := if binding.head? = some '{' then binding else trim (before (· = ':') binding)
  if isIdentifier binding then [.whole source (some (String.ofList binding))]
  else match binding with
    | '{' :: rest =>
      match rest.reverse with
      | '}' :: inner => (commaList inner.reverse).map (destructuredImport source)
      | _ => [{ name := "", source }]
    | _ => [{ name := "", source }]

/-- The name under which an item of an export list is exported. -/
def exportedName? (item : Text) : Option Text :=
  match Text.words (dropTypeKeyword item) with
  | [] => none
  | [name, as, other] => some (if as = "as".toList then other else name)
  | name :: _ => some name

/-- Whether a line end after the given characters, nearest first, does not end a declaration. -/
def lineContinues (seen : Text) : Bool :=
  match seen.dropWhile Text.isWhiteSpace with
  | [] => false
  | c :: _ => c = ',' || c = '=' || c = '{' || c = '(' || c = '['

/-- The characters of a declaration up to its semicolon or the first line end that ends it; `seen`
are those read so far, nearest first. -/
def declarationHead (seen : Text) : Text → Text
  | [] => seen.reverse
  | c :: rest =>
    if c = ';' then seen.reverse
    else if c = '\n' && !lineContinues seen then seen.reverse
    else declarationHead (c :: seen) rest

/-- The text after the last character that satisfies `test`, or the whole text. -/
def afterLast (test : Char → Bool) (text : Text) : Text :=
  (text.reverse.takeWhile (!test ·)).reverse

/-- The names bound by one declarator of an exported variable statement. -/
def declaratorNames (part : Text) : List String :=
  let binding := trim ((Text.splitTopLevel part '=').headD part)
  let names := match binding with
    | '{' :: inner | '[' :: inner => Text.dropEndWhile inner fun c => c = ' ' || c = '}' || c = ']'
    | _ => before (· = ':') binding
  (splitBy (· = ',') names).filterMap fun item =>
    let name := trim (afterLast (· = ':') item)
    let name := (Text.dropHead? name "...".toList).getD name
    if isIdentifier name then some (String.ofList name) else none

/-- The names that an exported declaration introduces, given its keyword and the text after it. -/
def declaredNames? (keyword rest : Text) : Option (List String) :=
  if ["const".toList, "let".toList, "var".toList].contains keyword then
    some ((Text.splitTopLevel (declarationHead [] rest) ',').flatMap declaratorNames)
  else match Pattern.matchStart? .identifier rest with
    | some found => (Text.takeBytes? rest found.stop).map fun name => [String.ofList name]
    | none => some []

/-- The statements found so far, each with the offset where it starts. -/
structure Findings where
  imports : List (Nat × Import) := []
  exports : List (Nat × Export) := []
  bindings : List ByteRange := []
  deriving Inhabited

namespace Findings

/-- One list of findings after another. -/
def append (left right : Findings) : Findings :=
  { imports := left.imports ++ right.imports
    exports := left.exports ++ right.exports
    bindings := left.bindings ++ right.bindings }

/-- The findings of one match: every record starts where the match does. -/
def ofMatch (found : Match) (imports : List Import) (exports : List Export) (binds : Bool) :
    Findings :=
  { imports := imports.map (found.start, ·)
    exports := exports.map (found.start, ·)
    bindings := if binds then [⟨found.start, found.stop⟩] else [] }

/-- The records in source order. -/
def toSyntax (findings : Findings) : ModuleSyntax :=
  { imports := (findings.imports.mergeSort fun a b => a.1 ≤ b.1).map (·.2)
    exports := (findings.exports.mergeSort fun a b => a.1 ≤ b.1).map (·.2)
    bindingRanges := findings.bindings.mergeSort fun a b => a.start ≤ b.start }

end Findings

/-- Read every match of a pattern in a text. -/
def readAll? (pattern : Pattern) (text : Text) (read? : Match → Option Findings) :
    Option Findings :=
  ((pattern.searchAll text).mapM read?).map (·.foldl Findings.append {})

/-- The text of a group that takes part in every match of its pattern. -/
def groupText? (text : Text) (found : Match) (number : Nat) : Option String :=
  (found.text? text number).map String.ofList

/-- Imports with bindings. -/
def importFroms? (code : Text) : Option Findings :=
  readAll? Statement.importFrom code fun found => do
    let clause ← found.text? code 1
    let source ← groupText? code found 2
    pure (.ofMatch found (clauseImports clause source) [] true)

/-- Imports for their side effects. -/
def sideEffectImports? (code : Text) : Option Findings :=
  readAll? Statement.importSideEffect code fun found => do
    let source ← groupText? code found 1
    pure (.ofMatch found [{ name := "", source }] [] false)

/-- Imports by assignment. -/
def importRequires? (code : Text) : Option Findings :=
  readAll? Statement.importRequire code fun found => do
    let localName ← groupText? code found 1
    let source ← groupText? code found 2
    pure (.ofMatch found [.whole source (some localName)] [] true)

/-- Variables bound to required modules. -/
def requireBindings? (code : Text) : Option Findings :=
  readAll? Statement.requireBinding code fun found => do
    let binding ← found.text? code 1
    let source ← groupText? code found 2
    pure (.ofMatch found (requireImports binding source) [] true)

/-- The other calls of `require`: those that start in none of the `claimed` statements. -/
def bareRequires? (code : Text) (claimed : List ByteRange) : Option Findings :=
  readAll? Statement.requireAny code fun found => do
    let source ← groupText? code found 1
    if claimed.any (·.contains found.start) then pure {}
    else pure (.ofMatch found [{ name := "", source }] [] false)

/-- Import expressions. -/
def importCalls? (code : Text) : Option Findings :=
  readAll? Statement.importCall code fun found => do
    let source ← groupText? code found 1
    pure (.ofMatch found [.whole source none] [] false)

/-- Re-exports of whole modules. -/
def exportStars? (code : Text) : Option Findings :=
  readAll? Statement.exportStar code fun found => do
    let source ← groupText? code found 2
    let name := (groupText? code found 1).getD "*"
    pure (.ofMatch found [] [{ name, isReExport := true, source := some source }] true)

/-- Export lists, with or without a source. -/
def exportLists? (code : Text) : Option Findings :=
  readAll? Statement.exportList code fun found => do
    let list ← found.text? code 1
    let source := groupText? code found 2
    let exports := (commaList list).filterMap fun item =>
      (exportedName? item).map fun name =>
        { name := String.ofList name, isDefault := name = "default".toList,
          isReExport := source.isSome, source : Export }
    pure (.ofMatch found [] exports source.isSome)

/-- Default exports. -/
def exportDefaults? (skeleton : Text) : Option Findings :=
  readAll? Statement.exportDefault skeleton fun found =>
    let name := (groupText? skeleton found 1).getD "default"
    some (.ofMatch found [] [{ name, isDefault := true }] false)

/-- Exported declarations. -/
def exportDeclarations? (skeleton : Text) : Option Findings :=
  readAll? Statement.exportDeclaration skeleton fun found => do
    let keyword ← found.text? skeleton 1
    let rest ← Text.dropBytes? skeleton found.stop
    let keyword := Text.dropEndWhile keyword fun c => c = '*' || c = ' '
    let names ← declaredNames? keyword rest
    pure (.ofMatch found [] (names.map fun name => { name }) false)

/-- Exports by assignment. -/
def exportAssigns? (skeleton : Text) : Option Findings :=
  readAll? Statement.exportAssign skeleton fun found => do
    let name ← groupText? skeleton found 1
    pure (.ofMatch found [] [{ name, isDefault := true }] false)

/-- Every import and export of a module, in source order. -/
def scan? (content : Text) : Option ModuleSyntax := do
  let code := Text.mask .comments content
  let skeleton := Text.mask .all content
  let froms ← importFroms? code
  let sideEffects ← sideEffectImports? code
  let assigned ← importRequires? code
  let bound ← requireBindings? code
  let bare ← bareRequires? code (froms.bindings ++ assigned.bindings ++ bound.bindings)
  let calls ← importCalls? code
  let stars ← exportStars? code
  let lists ← exportLists? code
  let defaults ← exportDefaults? skeleton
  let declarations ← exportDeclarations? skeleton
  let assigns ← exportAssigns? skeleton
  let findings := [froms, sideEffects, assigned, bound, bare, calls, stars, lists, defaults,
    declarations, assigns]
  pure (findings.foldl Findings.append {}).toSyntax

end CodeAtlas.Module
