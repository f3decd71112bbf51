import CodeAtlas.Grammar.Extent
import CodeAtlas.Grammar.Statement

/-!
# Reading statements

`readProgram` turns the trees of a text into statements. Bodies of functions are never entered.
Every function here takes a reader and gives back what it read with the reader after it; where a
construct may repeat, a bound on the number of trees ends the loop.
-/

namespace CodeAtlas.Grammar

/-- The extent of a tree as a name. -/
def Name.ofTree (tree : Tree) : Name :=
  ⟨tree.start, tree.stop⟩

/-- The extent of a token as a name. -/
def Name.ofToken (token : Token) : Name :=
  ⟨token.start, token.stop⟩

/-- The modifier that a word stands for. -/
def wordModifier? (tree : Tree) : Option Modifier :=
  Modifier.ofKeyword? (String.ofList tree.first.text)

/-- Pass over a semicolon, written or left out, and say where the statement ends with it. -/
def closeStatement (reader : Reader) : Nat × Reader :=
  match reader.next? with
  | none => (reader.last, reader)
  | some tree =>
    if tree.isPunctuation ";" then (tree.stop, reader.advance)
    else (max reader.last tree.first.semicolonAt, reader)

/-- Where a declaration that has just been read ends. A semicolon left out after its body counts as
part of it, so a comment on its last line may move the end. -/
def declarationStop (reader : Reader) : Nat :=
  match reader.next? with
  | none => reader.last
  | some tree =>
    if endsStatement true tree then max reader.last tree.first.semicolonAt else reader.last

/-- Pass over the names, dots, type arguments and calls of a decorator. -/
def skipDecoratorFrom : (fuel : Nat) → Reader → Reader
  | 0, reader => reader
  | fuel + 1, reader =>
    if reader.nextIs (·.isPunctuation ".") then skipDecoratorFrom fuel reader.advance.advance
    else if reader.nextIs (·.isPunctuation "<") then skipDecoratorFrom fuel (skipAngles reader)
    else if reader.nextIs fun tree => tree.isGroup '(' && !tree.newlineBefore then
      skipDecoratorFrom fuel reader.advance
    else reader

/-- Pass over decorators. -/
def skipDecorators : (fuel : Nat) → Reader → Reader
  | 0, reader => reader
  | fuel + 1, reader =>
    if reader.nextIs (·.isPunctuation "@") then
      let reader := reader.advance.advance
      skipDecorators fuel (skipDecoratorFrom (reader.rest.length + 1) reader)
    else reader

/-- Pass over decorators. -/
def afterDecorators (reader : Reader) : Reader :=
  skipDecorators (reader.rest.length + 1) reader

/-- The offset of the next tree. -/
def nextStart (reader : Reader) : Nat :=
  (reader.next?.map (·.start)).getD reader.last

/-- A function value: its name, modifiers and the start of its body. -/
structure FunctionValue where
  name : Option Name
  modifiers : List Modifier
  body : Option Nat
  deriving Inhabited

/-- The function that the expression from here to `stop` is, if it is nothing else. -/
def functionValue? (reader : Reader) (stop : Nat) : Option FunctionValue :=
  match arrowFunction? true reader with
  | some (isAsync, arrow) =>
    let body := arrow.advance
    if body.nextIs (·.isGroup '{') && body.advance.last != stop then none
    else some ⟨none, if isAsync then [.async] else [], some (nextStart body)⟩
  | none =>
    let isAsync := reader.nextIs (·.isWord "async")
    let reader := if isAsync then reader.advance else reader
    if reader.nextIs (·.isWord "function") then
      let shape := readFunction reader.advance
      if shape.after.last = stop then
        some ⟨shape.name.map Name.ofToken, if isAsync then [.async] else [],
          shape.body.map (·.start)⟩
      else none
    else none

/-- Cut a list of trees at its commas. -/
def splitAtCommas : List Tree → List (List Tree)
  | [] => [[]]
  | tree :: rest =>
    if tree.isPunctuation "," then [] :: splitAtCommas rest
    else match splitAtCommas rest with
      | [] => [[tree]]
      | part :: parts => (tree :: part) :: parts

/-- The names that a binding pattern binds; `fuel` bounds its nesting. -/
def boundNames : (fuel : Nat) → Tree → List Name
  | 0, _ => []
  | fuel + 1, tree =>
    match tree with
    | .token t => if t.kind = .name then [.ofToken t] else []
    | .group opening items _ =>
      (splitAtCommas items).flatMap fun item =>
        let target := match item with
          | first :: second :: third :: _ =>
            if first.isPunctuation "..." then some second
            else if opening.text = ['{'] && second.isPunctuation ":" then some third
            else some first
          | [first, second] => if first.isPunctuation "..." then some second else some first
          | [first] => some first
          | [] => none
        (target.map (boundNames fuel)).getD []

/-- The modifier words of class and interface members. -/
def memberWords : List String :=
  ["public", "private", "protected", "static", "readonly", "async", "abstract", "declare",
    "override", "accessor", "get", "set"]

/-- Whether a tree can be the name of a member. -/
def isMemberName (tree : Tree) : Bool :=
  tree.isName || tree.isGroup '['
    || [TokenKind.string, .number, .privateName].contains tree.first.kind

/-- The modifiers of a member and the position of its name. A modifier word that no name follows is
itself the name, and so is one after which a semicolon was left out; `abstract` and `accessor` are
never names. -/
def readMemberModifiers : (fuel : Nat) → Reader → List Modifier × Reader
  | 0, reader => ([], reader)
  | fuel + 1, reader =>
    match reader.rest with
    | tree :: following :: _ =>
      let isModifier := tree.isAnyWord memberWords
        && (isMemberName following || following.isPunctuation "*")
        && (!endsStatement false following || tree.isAnyWord ["abstract", "accessor"])
      if isModifier || (tree.isPunctuation "*" && isMemberName following) then
        let (modifiers, reader) := readMemberModifiers fuel reader.advance
        ((wordModifier? tree).toList ++ modifiers, reader)
      else ([], reader)
    | _ => ([], reader)

/-- Whether a bracketed group declares an index and not a computed name. -/
def isIndexGroup : Tree → Bool
  | .group opening (first :: second :: _) _ =>
    opening.text = ['['] && first.isName && (second.isPunctuation ":" || second.isWord "in")
  | _ => false

/-- Read one parameter: none if it is not a plain name. -/
def readParameter (reader : Reader) : Option Parameter × Reader :=
  let start := nextStart reader
  let reader := afterDecorators reader
  let rec modifiers : (fuel : Nat) → Reader → List Modifier × Reader
    | 0, reader => ([], reader)
    | fuel + 1, reader =>
      match reader.rest with
      | tree :: following :: _ =>
        if tree.isAnyWord ["public", "private", "protected", "override", "readonly"]
            && (following.isName || following.isGroup '{' || following.isGroup '[') then
          let (found, reader) := modifiers fuel reader.advance
          ((wordModifier? tree).toList ++ found, reader)
        else ([], reader)
      | _ => ([], reader)
  let (found, reader) := modifiers 4 reader
  let target := reader.next?
  let reader := reader.skipIf (·.isPunctuation "...")
  let reader := skipDeclaredType (reader.advance.skipIf (·.isPunctuation "?"))
  let reader :=
    if reader.nextIs (·.isPunctuation "=") then skipAssignment reader.advance else reader
  match target with
  | some (.token t) =>
    if t.kind = TokenKind.name && !t.isWord "this" then
      (some ⟨⟨start, reader.last, none⟩, .ofToken t, found⟩, reader)
    else (none, reader)
  | _ => (none, reader)

/-- Read the parameters of a list. -/
def readParameters : (fuel : Nat) → Reader → List Parameter
  | 0, _ => []
  | fuel + 1, reader =>
    match reader.next? with
    | none => []
    | some tree =>
      if tree.isEnd then []
      else
        let (found, reader) := readParameter reader
        found.toList ++ readParameters fuel (reader.skipIf (·.isPunctuation ","))

/-- The parameters of a group. -/
def parametersOf (group : Option Tree) : List Parameter :=
  match group with
  | none => []
  | some tree => readParameters (tree.inner.length + 1) ⟨tree.inner, tree.start⟩

/-- Read a member from its modifiers on; decorators from `decorated` on belong to a property but not
to a method. -/
def readMember (decorated : Nat) (reader : Reader) : Option Member × Reader :=
  let start := nextStart reader
  let (modifiers, reader) := readMemberModifiers (reader.rest.length + 1) reader
  match reader.next? with
  | none => (none, reader)
  | some nameTree =>
    if isIndexGroup nameTree then
      (none, skipDeclaredType (reader.advance.skipIf (·.isPunctuation "?")))
    else if nameTree.isGroup '(' || nameTree.isPunctuation "<" then
      (none, (readFunction reader).after)
    else if !isMemberName nameTree then (none, reader.advance)
    else
      let name := Name.ofTree nameTree
      let reader := reader.advance
      let reader := reader.skipIf fun tree => tree.isPunctuation "?" || tree.isPunctuation "!"
      if reader.nextIs fun tree => tree.isGroup '(' || tree.isPunctuation "<" then
        let shape := readFunction reader
        let extent : Extent := ⟨start, shape.after.last, shape.body.map (·.start)⟩
        (some ⟨extent, name, modifiers, .method (parametersOf shape.parameters) shape.body.isSome⟩,
          shape.after)
      else
        let reader := skipDeclaredType reader
        let isPrivate := nameTree.first.kind = .privateName
        if reader.nextIs (·.isPunctuation "=") then
          let value := reader.advance
          let after := skipAssignment value
          let isFunction := (functionValue? value after.last).isSome
          (some ⟨⟨decorated, after.last, none⟩, name, modifiers, .property isFunction isPrivate⟩,
            after)
        else
          (some ⟨⟨decorated, reader.last, none⟩, name, modifiers, .property false isPrivate⟩,
            reader)

/-- Read the members of a class or interface body. -/
def readMembers : (fuel : Nat) → Reader → List Member
  | 0, _ => []
  | fuel + 1, reader =>
    match reader.rest with
    | [] => []
    | tree :: rest =>
      if tree.isEnd then []
      else if tree.isPunctuation ";" || tree.isPunctuation "," then readMembers fuel reader.advance
      else if tree.isWord "static" && rest.head?.any (·.isGroup '{') then
        readMembers fuel reader.advance.advance
      else
        let (found, after) := readMember tree.start (afterDecorators reader)
        found.toList ++ readMembers fuel after

/-- The members of a body. -/
def membersOf (body : Option Tree) : List Member :=
  match body with
  | none => []
  | some tree => readMembers (tree.inner.length + 1) ⟨tree.inner, tree.start⟩

/-- Read the members of an enumeration. A member without a value has a name or a string as its name.
-/
def readEnumMembers : (fuel : Nat) → Reader → List (Extent × Name)
  | 0, _ => []
  | fuel + 1, reader =>
    match reader.next? with
    | none => []
    | some tree =>
      if tree.isEnd then []
      else if tree.isPunctuation "," then readEnumMembers fuel reader.advance
      else
        let after := reader.advance
        if after.nextIs (·.isPunctuation "=") then
          let after := skipAssignment after.advance
          (⟨tree.start, after.last, none⟩, .ofTree tree) :: readEnumMembers fuel after
        else if tree.isName || tree.first.kind = .string then
          (⟨tree.start, tree.stop, none⟩, .ofTree tree) :: readEnumMembers fuel after
        else readEnumMembers fuel after

/-- The members of an enumeration's body. -/
def enumMembersOf (body : Option Tree) : List (Extent × Name) :=
  match body with
  | none => []
  | some tree => readEnumMembers (tree.inner.length + 1) ⟨tree.inner, tree.start⟩

/-- Read the declarators of a variable statement. -/
def readDeclarators : (fuel : Nat) → Reader → List Declarator × Reader
  | 0, reader => ([], reader)
  | fuel + 1, reader =>
    match reader.next? with
    | none => ([], reader)
    | some target =>
      let names := boundNames (fuel + 1) target
      let reader := skipDeclaredType (reader.advance.skipIf (·.isPunctuation "!"))
      let (function, reader) :=
        if reader.nextIs (·.isPunctuation "=") then
          let value := reader.advance
          let after := skipAssignment value
          ((functionValue? value after.last).map (·.modifiers), after)
        else (none, reader)
      let found : Declarator := ⟨⟨target.start, reader.last, none⟩, names, function⟩
      if reader.nextIs (·.isPunctuation ",") then
        let (later, reader) := readDeclarators fuel reader.advance
        (found :: later, reader)
      else ([found], reader)

/-- Pass over an import or re-export up to its specifier. -/
def skipToSpecifier : (fuel : Nat) → Reader → Reader
  | 0, reader => reader
  | fuel + 1, reader =>
    match reader.next? with
    | none => reader
    | some tree =>
      if tree.isEnd || tree.isPunctuation ";" then reader
      else if tree.isPunctuation "=" then skipExpression reader.advance
      else if tree.first.kind = .string then
        let reader := reader.advance
        if reader.nextIs fun tree => tree.isWord "with" || tree.isWord "assert" then
          reader.advance.skipIf (·.isGroup '{')
        else reader
      else skipToSpecifier fuel reader.advance

/-- The names of an export list with a flag for those exported as the default. -/
def listedNames (list : Tree) : List (Name × Bool) :=
  match list with
  | .token _ => []
  | .group _ items _ =>
    (splitAtCommas items).filterMap fun item =>
      let item := match item with
        | first :: second :: rest =>
          if (first.isWord "type" || first.isWord "typeof") && !second.isWord "as" then
            second :: rest
          else item
        | _ => item
      match item with
      | [] => none
      | [name] => some (.ofTree name, false)
      | name :: rest => some (.ofTree name, rest.getLast?.any (·.isWord "default"))

/-- The keywords that are no identifiers as values. -/
def valueKeywords : List String :=
  ["this", "null", "true", "false", "super", "undefined"]

/-- The dotted or quoted name of a namespace: its extent and the position after it. -/
def readNamespaceName : (fuel : Nat) → Reader → Reader
  | 0, reader => reader
  | fuel + 1, reader =>
    if reader.nextIs (·.isPunctuation ".") then readNamespaceName fuel reader.advance.advance
    else reader

/-- Read a class from its first keyword, `abstract` or `class`, on. -/
def readClass (start : Nat) (reader : Reader) : Statement × Reader :=
  let isAbstract := reader.nextIs (·.isWord "abstract")
  let reader := if isAbstract then reader.advance else reader
  let shape := readBody reader.advance
  let stop :=
    if isAbstract || shape.name.isNone then shape.after.last else declarationStop shape.after
  (.classDecl ⟨start, stop, shape.body.map (·.start)⟩ (shape.name.map Name.ofToken)
    (if isAbstract then [.abstract] else []) (membersOf shape.body), shape.after)

/-- Read a function from its first keyword, `async` or `function`, on. Without a body it ends with
its semicolon. -/
def readFunctionStatement (reader : Reader) : Statement × Reader :=
  let start := nextStart reader
  let isAsync := reader.nextIs (·.isWord "async")
  let reader := if isAsync then reader.advance else reader
  let shape := readFunction reader.advance
  let modifiers : List Modifier := if isAsync then [.async] else []
  let name := shape.name.map Name.ofToken
  match shape.body with
  | some body =>
    (.function ⟨start, declarationStop shape.after, some body.start⟩ name modifiers, shape.after)
  | none =>
    let (stop, after) := closeStatement shape.after
    (.function ⟨start, stop, none⟩ name modifiers, after)

/-- Read the value of a default export. -/
def readDefaultValue (reader : Reader) : Statement × Reader :=
  let start := nextStart reader
  let after := skipAssignment reader
  let (_, closed) := closeStatement after
  match functionValue? reader after.last with
  | some value =>
    (.exported true (.function ⟨start, after.last, value.body⟩ value.name value.modifiers), closed)
  | none =>
    match reader.next? with
    | some (.token t) =>
      if t.kind = TokenKind.name && t.stop = after.last && !valueKeywords.any t.isWord then
        (.exportList [(.ofToken t, true)], closed)
      else (.other, closed)
    | _ => (.other, closed)

/-- The words that start a declaration after `declare`. -/
def ambientWords : List String :=
  ["class", "abstract", "function", "async", "const", "let", "var", "enum", "type", "interface",
    "namespace", "module", "global"]

/-- What the words at the start of a statement announce. -/
inductive Opening where
  | decorated
  | importing
  | exporting
  | ambient
  | classLike
  | interfaceLike
  | enumLike
  | aliasLike
  | namespaceLike (isModule : Bool)
  | functionLike
  | variableLike (isConst : Bool)
  | ifLike
  | headed
  | doLike
  | tryLike
  | switchLike
  | labelled
  | block
  | empty
  | jump
  | expression
  deriving DecidableEq, Inhabited

/-- What a statement starts with. A word that may also be a name counts as a keyword only if the
right kind of tree follows on its line. -/
def openingOf (reader : Reader) : Opening :=
  match reader.rest with
  | [] => .empty
  | tree :: rest =>
    let followedBy (test : Tree → Bool) : Bool := rest.head?.any test
    let followedByName := followedBy fun next => next.isName && !next.newlineBefore
    if tree.isPunctuation "@" then .decorated
    else if tree.isPunctuation ";" then .empty
    else if tree.isGroup '{' then .block
    else if !tree.isName then .expression
    else if followedBy (·.isPunctuation ":") then .labelled
    else if tree.isWord "import" then
      if followedBy fun next => next.isGroup '(' || next.isPunctuation "." then .expression
      else .importing
    else if tree.isWord "export" then .exporting
    else if tree.isWord "declare" && followedBy
        fun next => next.isAnyWord ambientWords && !next.newlineBefore then .ambient
    else if tree.isWord "class" || (tree.isWord "abstract" && followedBy (·.isWord "class")) then
      .classLike
    else if tree.isWord "interface" then .interfaceLike
    else if tree.isWord "enum" || (tree.isWord "const" && followedBy (·.isWord "enum")) then
      .enumLike
    else if tree.isWord "type" && followedByName then .aliasLike
    else if tree.isWord "namespace" && followedByName then .namespaceLike false
    else if tree.isWord "module" && followedBy (fun next =>
        (next.isName || next.first.kind = TokenKind.string) && !next.newlineBefore) then
      .namespaceLike true
    else if tree.isWord "function" || (tree.isWord "async"
        && followedBy fun next => next.isWord "function" && !next.newlineBefore) then .functionLike
    else if tree.isWord "const" || tree.isWord "var" then .variableLike (tree.isWord "const")
    else if tree.isWord "let"
        && followedBy (fun next => (next.isName && !next.newlineBefore)
          || next.isGroup '{' || next.isGroup '[') then
      .variableLike false
    else if tree.isWord "if" then .ifLike
    else if tree.isAnyWord ["for", "while", "with"] then .headed
    else if tree.isWord "do" then .doLike
    else if tree.isWord "try" then .tryLike
    else if tree.isWord "switch" then .switchLike
    else if tree.isAnyWord ["return", "throw", "break", "continue", "debugger"] then .jump
    else .expression

/-- Pass over the parts of a `try` statement after its first block. -/
def skipHandlers : (fuel : Nat) → Reader → Reader
  | 0, reader => reader
  | fuel + 1, reader =>
    if reader.nextIs fun tree => tree.isWord "catch" || tree.isWord "finally" then
      skipHandlers fuel ((reader.advance.skipIf (·.isGroup '(')).skipIf (·.isGroup '{'))
    else reader

mutual

/-- Read one statement; `fuel` bounds the nesting and number of statements. -/
def readStatement : (fuel : Nat) → Reader → Statement × Reader
  | 0, reader => (.other, reader)
  | fuel + 1, reader =>
    let start := nextStart reader
    match openingOf reader with
    | .empty | .block => (.other, reader.advance)
    | .decorated =>
      let after := afterDecorators reader
      if openingOf after = .classLike then readClass start after else readStatement fuel after
    | .importing =>
      (.other, (closeStatement (skipToSpecifier (reader.rest.length + 1) reader.advance)).2)
    | .exporting => readExport fuel reader.advance
    | .ambient =>
      let inner := reader.advance
      if inner.nextIs (·.isWord "global") then (.other, inner.advance.skipIf (·.isGroup '{'))
      else
        let (found, after) := readStatement fuel inner
        (.ambient found, after)
    | .classLike => readClass start reader
    | .interfaceLike =>
      let shape := readBody reader.advance
      match shape.name with
      | some name =>
        (.interfaceDecl ⟨start, shape.after.last, shape.body.map (·.start)⟩ (.ofToken name)
          (membersOf shape.body), shape.after)
      | none => (.other, shape.after)
    | .enumLike =>
      let shape := readBody (reader.skipIf (·.isWord "const")).advance
      match shape.name with
      | some name =>
        (.enumDecl ⟨start, shape.after.last, shape.body.map (·.start)⟩ (.ofToken name)
          (enumMembersOf shape.body), shape.after)
      | none => (.other, shape.after)
    | .aliasLike =>
      let nameAt := reader.advance
      let after := skipType (skipAngles nameAt.advance).advance
      let (stop, closed) := closeStatement after
      match nameAt.next? with
      | some name => (.typeAlias ⟨start, stop, none⟩ (.ofTree name), closed)
      | none => (.other, closed)
    | .namespaceLike isModule =>
      let nameAt := reader.advance
      let after := readNamespaceName (reader.rest.length + 1) nameAt.advance
      let name : Name := ⟨nextStart nameAt, after.last⟩
      match after.next? with
      | some body =>
        if body.isGroup '{' then
          (.namespaceDecl ⟨start, body.stop, some body.start⟩ name isModule
            (readStatements fuel ⟨body.inner, body.start⟩), after.advance)
        else (.namespaceDecl ⟨start, after.last, none⟩ name isModule [], (closeStatement after).2)
      | none => (.namespaceDecl ⟨start, after.last, none⟩ name isModule [], after)
    | .functionLike => readFunctionStatement reader
    | .variableLike isConst =>
      let (declarators, after) := readDeclarators (reader.rest.length + 1) reader.advance
      (.variables isConst declarators, (closeStatement after).2)
    | .ifLike =>
      let (_, after) := readStatement fuel reader.advance.advance
      if after.nextIs (·.isWord "else") then
        (.other, (readStatement fuel after.advance).2)
      else (.other, after)
    | .headed =>
      let head := reader.advance.skipIf (·.isWord "await")
      (.other, (readStatement fuel head.advance).2)
    | .doLike =>
      let (_, after) := readStatement fuel reader.advance
      (.other, (after.skipIf (·.isWord "while")).skipIf (·.isGroup '(')
        |>.skipIf (·.isPunctuation ";"))
    | .tryLike =>
      (.other, skipHandlers (reader.rest.length + 1) (reader.advance.skipIf (·.isGroup '{')))
    | .switchLike => (.other, (reader.advance.skipIf (·.isGroup '(')).skipIf (·.isGroup '{'))
    | .labelled => (.other, (readStatement fuel reader.advance.advance).2)
    | .jump =>
      let after := reader.advance
      let ends := after.nextIs fun tree => tree.newlineBefore
      (.other, (closeStatement (if ends then after else skipExpression after)).2)
    | .expression =>
      let after := skipExpression reader
      (.other, (closeStatement after).2)

/-- Read an export from the position after its keyword. -/
def readExport : (fuel : Nat) → Reader → Statement × Reader
  | 0, reader => (.other, reader)
  | fuel + 1, reader =>
    match reader.rest with
    | [] => (.other, reader)
    | tree :: rest =>
      let listFrom (reader : Reader) (list : Tree) : Statement × Reader :=
        if reader.nextIs (·.isWord "from") then
          (.other, (closeStatement (skipToSpecifier (reader.rest.length + 1) reader)).2)
        else (.exportList (listedNames list), (closeStatement reader).2)
      if tree.isWord "default" then
        let inner := reader.advance
        let declares := match openingOf inner with
          | .classLike => (readBody (inner.skipIf (·.isWord "abstract")).advance).name.isSome
          | .functionLike => (readFunction (inner.skipIf (·.isWord "async")).advance).name.isSome
          | .interfaceLike | .decorated => true
          | _ => false
        if declares || inner.nextIs (·.isWord "class") then
          let (found, after) := readStatement fuel inner
          (.exported true found, after.skipIf (·.isPunctuation ";"))
        else readDefaultValue inner
      else if tree.isGroup '{' then listFrom reader.advance tree
      else if tree.isPunctuation "*" then
        (.other, (closeStatement (skipToSpecifier (reader.rest.length + 1) reader)).2)
      else if tree.isPunctuation "=" then
        (.other, (closeStatement (skipExpression reader.advance)).2)
      else if tree.isWord "as" then (.other, (closeStatement reader.advance.advance.advance).2)
      else match rest with
        | second :: _ =>
          if tree.isWord "type" && second.isGroup '{' then listFrom reader.advance.advance second
          else if tree.isWord "type" && second.isPunctuation "*" then
            (.other, (closeStatement (skipToSpecifier (reader.rest.length + 1) reader)).2)
          else
            let (found, after) := readStatement fuel reader
            (.exported false found, after)
        | [] => (.other, reader.advance)

/-- Read statements up to the end of their surroundings. -/
def readStatements : (fuel : Nat) → Reader → List Statement
  | 0, _ => []
  | fuel + 1, reader =>
    match reader.next? with
    | none => []
    | some tree =>
      if tree.isEnd then []
      else
        let (found, after) := readStatement fuel reader
        let after := if after.rest.length < reader.rest.length then after else reader.advance
        found :: readStatements fuel after

end

/-- The statements of a text. With `markup`, expressions may hold markup elements. -/
def readProgram (markup : Bool) (text : Text) : List Statement :=
  let trees := Tree.ofText markup text
  readStatements (text.length + 2) ⟨trees, 0⟩

end CodeAtlas.Grammar
