import CodeAtlas.Declaration.Line
import CodeAtlas.Language
import CodeAtlas.Symbol.Basic
import CodeAtlas.Text.Mask
import CodeAtlas.Text.Position
import CodeAtlas.Text.Delimiter

/-!
# Symbols from declaration lines

`Declaration.scan?` reads a text line by line. Comments and the contents of literals are blanked
out, and the depth of braces tells the lines of a declaration's body from lines nested deeper, so
the scan also works on texts that are not well formed. Read `contribution?` first: it says what one
line declares, given the declaration whose body it stands in.

The result is `none` only if a cut of the text fell outside it, which no text brings about.
-/

namespace CodeAtlas.Declaration

open Pattern (Match)
open Text (splitBy trimStart isIdentChar isIdentStart isIdentifier)

/-- A text to scan, together with its masked form. -/
structure Source where
  path : Path
  content : Text
  masked : Text
  deriving Inhabited

/-- What the body of an open declaration may hold. -/
inductive FrameKind where
  | ofClass
  | ofInterface
  | ofEnum
  | ofNamespace
  deriving DecidableEq, Repr, Inhabited

/-- A declaration whose body is being read: its members stand at brace depth `bodyDepth`, on lines
up to `endLine`. -/
structure Frame where
  name : String
  kind : FrameKind
  bodyDepth : Int
  endLine : Nat
  deriving Inhabited

/-- What one line adds: symbols, names exported by lists or by default (with a flag for the
default), and the declaration that it opens. -/
structure Contribution where
  symbols : List Symbol := []
  exports : List (String × Bool) := []
  opens : Option Frame := none
  deriving Inhabited

/-- The modifiers among the words of group 1. -/
def modifiersOf (found : Match) (line : Text) : List Modifier :=
  (Text.words ((found.text? line 1).getD [])).filterMap fun word =>
    Modifier.ofKeyword? (String.ofList word)

/-- An initial value without an `async` in front. -/
def withoutAsync (value : Text) : Text :=
  let value := trimStart value
  match Text.dropHead? value "async".toList with
  | some rest => trimStart rest
  | none => value

/-- Whether an initial value reads like a function: an optional `async`, then the word `function` or
a parameter list before an arrow. -/
def looksLikeFunction? (value : Text) : Option Bool := do
  let value := withoutAsync value
  if Text.startsWith value "function".toList then return true
  let some arrow := Text.find? value "=>".toList | return false
  let head := Text.trim (← Text.takeBytes? value arrow)
  return head.head? = some '(' || head.head? = some '<' || isIdentifier head

/-- Whether there is an initial value and it reads like a function. -/
def startsFunction? : Option Text → Option Bool
  | none => some false
  | some value => looksLikeFunction? value

/-- The line of the brace that closes the first block opened from `start` on; none if a semicolon
comes first or the block does not end. -/
def blockEndLine? (masked : Text) (start : Nat) : Option Nat := do
  let rest ← Text.dropBytes? masked start
  let offset ← Text.findChar? rest fun c => c = '{' || c = ';'
  if (Text.bytes rest)[offset]? = some 0x7B then
    let close ← Text.matchingDelimiter? masked (start + offset)
    pure (Text.lineOfOffset masked close)
  else none

/-- The line where the body of a callable ends, its parameter list skipped first. -/
def callableEndLine? (masked : Text) (start : Nat) : Option Nat := do
  let rest ← Text.dropBytes? masked start
  let offset ← Text.findChar? rest (· = '(')
  let close ← Text.matchingDelimiter? masked (start + offset)
  blockEndLine? masked (close + 1)

/-- A line on one row of blanks, without the brace or semicolons at its end; none if nothing is
left. -/
def summary? (line : Text) : Option String :=
  let text := Text.join [' '] (Text.words line)
  let text := Text.dropEndWhile text fun c => c = '{' || c = ';' || c = ' '
  if text.isEmpty then none else some (String.ofList text)

/-- The whole line around a byte offset. -/
def lineAround? (content : Text) (offset : Nat) : Option Text := do
  let before ← Text.takeBytes? content offset
  let after ← Text.dropBytes? content offset
  pure ((before.reverse.takeWhile (· != '\n')).reverse ++ after.takeWhile (· != '\n'))

/-- The symbol whose name stands at a byte offset. -/
def symbolAt? (source : Source) (name : Text) (kind : SymbolKind) (offset : Nat)
    (endLine : Option Nat) (container : Option String) (modifiers : List Modifier) :
    Option Symbol := do
  let line := Text.lineOfOffset source.content offset
  let around ← lineAround? source.content offset
  pure {
    name := String.ofList name
    kind
    location := { Location.new source.path line (endLine.getD line) with
      column := some (Text.columnOfOffset source.content offset) }
    containerName := container
    modifiers := modifiers.foldl Symbol.withModifier []
    details := summary? around }

/-- The frame of a declaration with a body that ends on a known line. -/
def frame? (name : Text) (kind : FrameKind) (depth : Int) (endLine : Option Nat) : Option Frame :=
  endLine.map fun endLine => { name := String.ofList name, kind, bodyDepth := depth + 1, endLine }

/-- The declaration of a container whose name is at the given extent of the line. -/
def containerLine? (source : Source) (line : Text) (offset : Nat) (depth : Int)
    (container : Option String) (found : Match) (number : Nat) (kind : SymbolKind)
    (frameKind : FrameKind) : Option Contribution := do
  let (start, _) ← found.group? number
  let name ← found.text? line number
  let endLine := blockEndLine? source.masked (offset + start)
  let symbol ← symbolAt? source name kind (offset + start) endLine container
    (modifiersOf found line)
  pure { symbols := [symbol], opens := frame? name frameKind depth endLine }

/-- A class declaration. A class without a name counts only as the default export. -/
def classLine? (source : Source) (line : Text) (offset : Nat) (depth : Int)
    (container : Option String) (found : Match) : Option Contribution := do
  let modifiers := modifiersOf found line
  let declare (name : Text) (at' : Nat) : Option Contribution := do
    let endLine := blockEndLine? source.masked at'
    let symbol ← symbolAt? source name .classDef at' endLine container modifiers
    pure { symbols := [symbol], opens := frame? name .ofClass depth endLine }
  let named := match found.group? 2, found.text? line 2 with
    | some (start, _), some name =>
      if name = "extends".toList || name = "implements".toList then none else some (start, name)
    | _, _ => none
  match named with
  | some (start, name) => declare name (offset + start)
  | none =>
    if modifiers.contains .defaultExport then declare "default".toList (offset + found.stop)
    else pure {}

/-- A function declaration. A function without a name counts only as the default export. -/
def functionLine? (source : Source) (line : Text) (offset : Nat) (container : Option String)
    (found : Match) : Option Contribution := do
  let modifiers := modifiersOf found line
  let declare (name : Text) (at' : Nat) : Option Contribution := do
    let endLine := callableEndLine? source.masked at'
    let symbol ← symbolAt? source name .function at' endLine container modifiers
    pure { symbols := [symbol] }
  match found.group? 2, found.text? line 2 with
  | some (start, _), some name => declare name (offset + start)
  | _, _ =>
    if modifiers.contains .defaultExport then
      declare "default".toList (offset + (Text.find? line "function".toList).getD 0)
    else pure {}

/-- Whether a statement goes on after a line end, given the characters before it, nearest first, and
those after it. -/
def statementContinues (before after : Text) : Bool :=
  (before.dropWhile Text.isWhiteSpace).head?.any (",=>+-?:|".toList.contains ·)
    || (trimStart after).head?.any (".,?:+|=".toList.contains ·)

/-- The statement at the start of a masked text: up to a semicolon, a closing bracket of its
surroundings, or a line end after which it does not go on. -/
def statementFrom (depth : Nat) (seen : Text) : Text → Text
  | [] => seen.reverse
  | c :: rest =>
    if c = '(' || c = '[' || c = '{' then statementFrom (depth + 1) (c :: seen) rest
    else if c = ')' || c = ']' || c = '}' then
      if depth = 0 then seen.reverse else statementFrom (depth - 1) (c :: seen) rest
    else if c = ';' && depth = 0 then seen.reverse
    else if c = '\n' && depth = 0 && !statementContinues seen rest then seen.reverse
    else statementFrom depth (c :: seen) rest

/-- The statement of a masked text. -/
def statement (text : Text) : Text :=
  statementFrom 0 [] text

/-- The part of an item of a destructuring pattern that starts at `offset` that binds, with its
offset. In braces `key: local` binds `local`. -/
def patternTarget (inBraces : Bool) (offset : Nat) (item : Text) : Text × Nat :=
  match item.span (· != ':') with
  | (key, _ :: bound) =>
    if inBraces then (bound, offset + Text.byteLength key + 1) else (item, offset)
  | (_, []) => (item, offset)

/-- A text without white space and the dots of a rest element in front. -/
def withoutDots (text : Text) : Text :=
  (Text.dropHead? (trimStart text) "...".toList).getD (trimStart text)

/-- The name bound by one item of a destructuring pattern that starts at `offset`, with its offset.
What follows an equals sign is a default. -/
def patternName? (inBraces : Bool) (offset : Nat) (item : Text) : Option (Text × Nat) :=
  let (target, base) := patternTarget inBraces offset item
  let text := target.takeWhile (· != '=')
  let name := (withoutDots text).takeWhile isIdentChar
  if isIdentifier name then some (name, base + (Text.find? text name).getD 0) else none

/-- The names bound by the head of a declarator, with their offsets in it. Plain names and one level
of destructuring are read. -/
def boundNames? (binding : Text) : Option (List (Text × Nat)) :=
  let trimmed := trimStart binding
  let lead := Text.byteLength binding - Text.byteLength trimmed
  match trimmed with
  | [] => some []
  | c :: _ =>
    if c = '{' || c = '[' then do
      let stop := (Text.matchingDelimiter? trimmed 0).getD (Text.byteLength trimmed)
      let inner ← Text.slice? trimmed 1 (min stop (Text.byteLength trimmed))
      let items := Text.withOffsets (lead + 1) (Text.splitTopLevel inner ',')
      pure (items.filterMap fun (offset, item) => patternName? (c = '{') offset item)
    else
      let name := trimmed.takeWhile isIdentChar
      some (if isIdentifier name then [(name, lead)] else [])

/-- The symbols of one declarator that starts at `offset`. -/
def declarator? (source : Source) (isConst : Bool) (container : Option String)
    (modifiers : List Modifier) (offset : Nat) (part : Text) : Option (List Symbol) := do
  let binding := (Text.splitTopLevel part '=').headD part
  let value := Text.dropBytes? part (Text.byteLength binding + 1)
  let isFunction ← startsFunction? value
  let kind : SymbolKind :=
    if isFunction then .function else if isConst then .constant else .variableDef
  let isAsync := isFunction && value.any fun v => Text.startsWith (trimStart v) "async".toList
  let modifiers := if isAsync then modifiers ++ [.async] else modifiers
  let endLine := Text.lineOfOffset source.content (offset + Text.byteLength part)
  (← boundNames? binding).mapM fun (name, at') =>
    symbolAt? source name kind (offset + at') (some endLine) container modifiers

/-- A variable statement. -/
def variableLine? (source : Source) (line : Text) (offset : Nat) (container : Option String)
    (found : Match) : Option Contribution := do
  let modifiers := modifiersOf found line
  let isConst := found.text? line 2 = some "const".toList
  let start := offset + found.stop
  let parts := Text.splitTopLevel (statement (← Text.dropBytes? source.masked start)) ','
  let symbols ← (Text.withOffsets start parts).mapM fun (at', part) =>
    declarator? source isConst container modifiers at' part
  pure { symbols := symbols.flatten }

/-- The name that an item of an export list exports from this module, and whether as the default. -/
def listedExport? (item : Text) : Option (String × Bool) :=
  match (Text.words item).filter (· ≠ "type".toList) with
  | [] => none
  | name :: rest =>
    some (String.ofList name, match rest with
      | as :: other :: _ => as = "as".toList && other = "default".toList
      | _ => false)

/-- An export list or a default export of a name that is declared elsewhere in the module. -/
def exportLine (line : Text) : Contribution :=
  match Line.exportListLine.matchStart? line with
  | some found =>
    if (found.group? 2).isSome then {}
    else { exports := (splitBy (· = ',') ((found.text? line 1).getD [])).filterMap listedExport? }
  | none =>
    match Line.exportDefaultLine.matchStart? line with
    | some found =>
      { exports := (found.text? line 1).toList.map fun name => (String.ofList name, true) }
    | none => {}

/-- What a line declares at the level of statements. The first form that fits decides. -/
def statementLine? (source : Source) (line : Text) (offset : Nat) (depth : Int)
    (container : Option String) : Option Contribution := do
  if let some found := Line.classLine.matchStart? line then
    return ← classLine? source line offset depth container found
  if let some found := Line.interfaceLine.matchStart? line then
    return ← containerLine? source line offset depth container found 2 .interfaceDef .ofInterface
  if let some found := Line.enumLine.matchStart? line then
    return ← containerLine? source line offset depth container found 2 .enumDef .ofEnum
  if let some found := Line.namespaceLine.matchStart? line then
    let kind : SymbolKind :=
      if found.text? line 2 = some "module".toList then .moduleDef else .namespaceDef
    return ← containerLine? source line offset depth container found 3 kind .ofNamespace
  if let some found := Line.typeLine.matchStart? line then
    let (start, _) ← found.group? 2
    let name ← found.text? line 2
    let symbol ← symbolAt? source name .typeAlias (offset + start) none container
      (modifiersOf found line)
    return { symbols := [symbol] }
  if let some found := Line.functionLine.matchStart? line then
    return ← functionLine? source line offset container found
  if let some found := Line.variableLine.matchStart? line then
    return ← variableLine? source line offset container found
  if container.isSome then return {}
  return exportLine line

/-- The parameters of the constructor whose name stands at `nameAt`. -/
def constructorParameters? (source : Source) (nameAt : Nat) (className : String) :
    Option (List Symbol) := do
  let rest := (Text.dropBytes? source.masked nameAt).getD []
  let some offset := Text.findChar? rest (· = '(') | return []
  let start := nameAt + offset
  let some close := Text.matchingDelimiter? source.masked start | return []
  let list ← Text.slice? source.masked (start + 1) close
  let parts := Text.withOffsets (start + 1) (Text.splitTopLevel list ',')
  let symbols ← parts.mapM fun (at', part) => do
    let some found := Line.parameterHead.matchStart? part | return none
    let (nameStart, _) ← found.group? 2
    let name ← found.text? part 2
    if name = "this".toList then return none
    let symbol ← symbolAt? source name .parameter (at' + nameStart) none
      (some (className ++ ".constructor")) (modifiersOf found part)
    return some symbol
  return symbols.filterMap id

/-- What a line of a class body declares when it reads like a method. -/
def methodLine? (source : Source) (line : Text) (offset : Nat) (className : String)
    (found : Match) : Option Contribution := do
  let (start, _) ← found.group? 2
  let name ← found.text? line 2
  let word := String.ofList name
  if Language.isControlKeyword word || Language.memberModifiers.contains word then return {}
  let nameAt := offset + start
  let endLine := callableEndLine? source.masked nameAt
  let kind : SymbolKind := if word = "constructor" then .constructor else .method
  let symbol ← symbolAt? source name kind nameAt endLine (some className) (modifiersOf found line)
  if kind = .constructor then
    return { symbols := symbol :: (← constructorParameters? source nameAt className) }
  return { symbols := [symbol] }

/-- What a line of a class body declares when it reads like a property. A property with a function
as its value is a method. -/
def propertyLine? (source : Source) (line : Text) (offset : Nat) (className : String)
    (found : Match) : Option Contribution := do
  let (start, stop) ← found.group? 2
  let name ← found.text? line 2
  if Language.memberModifiers.contains (String.ofList name) then return {}
  let nameAt := offset + start
  let value := match ((Text.dropBytes? line stop).getD []).span (· != '=') with
    | (_, _ :: value) => some value
    | (_, []) => none
  let isFunction ← startsFunction? value
  let kind : SymbolKind :=
    if isFunction then .method
    else if name.head? = some '#' then .field
    else .property
  let endLine ← if kind = .method then do
      let rest ← Text.dropBytes? source.masked nameAt
      pure (some (Text.lineOfOffset source.content (nameAt + Text.byteLength (statement rest))))
    else pure none
  let symbol ← symbolAt? source name kind nameAt endLine (some className) (modifiersOf found line)
  return { symbols := [symbol] }

/-- What a line of a class body declares. -/
def classBodyLine? (source : Source) (line : Text) (offset : Nat) (className : String) :
    Option Contribution :=
  match Line.methodLine.matchStart? line with
  | some found => methodLine? source line offset className found
  | none =>
    match Line.propertyLine.matchStart? line with
    | some found => propertyLine? source line offset className found
    | none => some {}

/-- What a line of an interface body declares. -/
def interfaceBodyLine? (source : Source) (line : Text) (offset : Nat) (interfaceName : String) :
    Option Contribution := do
  let some found := Line.interfaceMemberLine.matchStart? line | return {}
  let (start, _) ← found.group? 1
  let name ← found.text? line 1
  let isProperty := found.text? line 2 = some [':']
  if !isProperty && Language.isControlKeyword (String.ofList name) then return {}
  let kind : SymbolKind := if isProperty then .property else .method
  let symbol ← symbolAt? source name kind (offset + start) none (some interfaceName) []
  return { symbols := [symbol] }

/-- The member of an enumeration that a part between commas declares. -/
def enumMember? (source : Source) (enumName : String) (offset : Nat) (part : Text) :
    Option (Option Symbol) := do
  let trimmed := trimStart part
  let lead := Text.byteLength part - Text.byteLength trimmed
  let name := trimmed.takeWhile isIdentChar
  if name.isEmpty || !trimmed.head?.any isIdentStart then return none
  let rest := trimStart (trimmed.dropWhile isIdentChar)
  if !(rest.isEmpty || rest.head? = some '=') then return none
  let symbol ← symbolAt? source name .enumMember (offset + lead) none (some enumName) []
  return some symbol

/-- What a line of an enumeration's body declares. -/
def enumBodyLine? (source : Source) (line : Text) (offset : Nat) (enumName : String) :
    Option Contribution := do
  let parts := Text.withOffsets offset (Text.splitTopLevel line ',')
  let symbols ← parts.mapM fun (at', part) => enumMember? source enumName at' part
  pure { symbols := symbols.filterMap id }

/-- What one line declares, given the innermost open declaration. -/
def contribution? (source : Source) (line : Text) (offset : Nat) (depth : Int)
    (frame : Option Frame) : Option Contribution :=
  match frame with
  | none => statementLine? source line offset depth none
  | some frame =>
    match frame.kind with
    | .ofNamespace => statementLine? source line offset depth (some frame.name)
    | .ofClass => classBodyLine? source line offset frame.name
    | .ofInterface => interfaceBodyLine? source line offset frame.name
    | .ofEnum => enumBodyLine? source line offset frame.name

/-- The brace depth after a line that starts at the given depth. -/
def depthAfter (depth : Int) (line : Text) : Int :=
  line.foldl (fun depth c =>
    if c = '{' then depth + 1 else if c = '}' then depth - 1 else depth) depth

/-- The depth after two parts is that after the second one. -/
theorem depth_after_append (depth : Int) (front back : Text) :
    depthAfter depth (front ++ back) = depthAfter (depthAfter depth front) back :=
  List.foldl_append

/-- Read the remaining lines, given the open declarations, innermost first, and the number, offset
and brace depth of the next line. A line declares something only if it stands at the depth of the
innermost open body. -/
def readLines? (source : Source) :
    (frames : List Frame) → (number offset : Nat) → (depth : Int) → List Text →
      Option (List Contribution)
  | _, _, _, _, [] => some []
  | frames, number, offset, depth, line :: rest => do
    let frames := frames.dropWhile (·.endLine < number)
    let found ←
      if depth = (frames.head?.map (·.bodyDepth)).getD 0 then
        contribution? source line offset depth frames.head?
      else some {}
    let later ← readLines? source (found.opens.toList ++ frames) (number + 1)
      (offset + Text.byteLength line + 1) (depthAfter depth line) rest
    pure (found :: later)

/-- Mark every top-level symbol with the given name as exported. -/
def applyExport (symbols : List Symbol) (listed : String × Bool) : List Symbol :=
  symbols.map fun symbol =>
    if symbol.containerName.isNone && symbol.name = listed.1 then
      let exported := symbol.addModifier .exported
      if listed.2 then exported.addModifier .defaultExport else exported
    else symbol

/-- The symbols that the lines of a text declare, in source order. -/
def scan? (path : Path) (content : Text) : Option (List Symbol) := do
  let masked := Text.mask .all content
  let contributions ← readLines? { path, content, masked } [] 1 0 0 (splitBy (· = '\n') masked)
  let symbols := contributions.flatMap (·.symbols)
  pure ((contributions.flatMap (·.exports)).foldl applyExport symbols)

end CodeAtlas.Declaration
