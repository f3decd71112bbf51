import CodeAtlas.Grammar.Tree

/-!
# How far types and expressions reach

The declaration reader never looks into an expression or a type; it only has to know where one ends.
Types and expressions are read as operands and operators in turn, brackets being single trees. A
line end closes an expression where a semicolon may be left out: `endsStatement` states that rule.
-/

namespace CodeAtlas.Grammar

/-- The trees still to read and the offset where the last tree that was read ends. -/
structure Reader where
  rest : List Tree
  last : Nat
  deriving Inhabited

namespace Reader

/-- The reader after one more tree. -/
def advance (reader : Reader) : Reader :=
  match reader.rest with
  | [] => reader
  | tree :: rest => ⟨rest, tree.stop⟩

/-- The next tree. -/
def next? (reader : Reader) : Option Tree :=
  reader.rest.head?

/-- Whether the next tree satisfies a condition. -/
def nextIs (reader : Reader) (test : Tree → Bool) : Bool :=
  reader.next?.any test

/-- The reader after the next tree if that satisfies a condition. -/
def skipIf (reader : Reader) (test : Tree → Bool) : Reader :=
  if reader.nextIs test then reader.advance else reader

end Reader

/-- Whether a tree is the end of a group or of the text. -/
def Tree.isEnd (tree : Tree) : Bool :=
  tree.first.kind = .closing || tree.first.kind = .ending

/-- Whether a tree at the start of a line goes on with the statement before it. Brackets go on with
an expression but not with a type. -/
def continuesLine (inExpression : Bool) (tree : Tree) : Bool :=
  tree.isAnyWord ["in", "instanceof"] || match tree.first.text with
    | [] => false
    | c :: rest =>
      if c = '+' || c = '-' then rest.head? != some c
      else if c = '!' then rest.head? = some '='
      else if c = '(' || c = '[' then inExpression
      else "`,.;*%><=?^|&/:".toList.contains c

/-- Whether a statement that could end before a tree ends there: at the end of its surroundings, or
at a line end after which it does not go on. -/
def endsStatement (inExpression : Bool) (tree : Tree) : Bool :=
  tree.isEnd || (tree.newlineBefore && !continuesLine inExpression tree)

/-- Pass over angle brackets, `depth` of which are open. -/
def skipAnglesFrom (depth last : Nat) : List Tree → Reader
  | [] => ⟨[], last⟩
  | tree :: rest =>
    if tree.isPunctuation "<" then skipAnglesFrom (depth + 1) tree.stop rest
    else if tree.isPunctuation ">" then
      if depth ≤ 1 then ⟨rest, tree.stop⟩ else skipAnglesFrom (depth - 1) tree.stop rest
    else skipAnglesFrom depth tree.stop rest

/-- Pass over the type parameters or arguments that start here, if any. -/
def skipAngles (reader : Reader) : Reader :=
  if reader.nextIs (·.isPunctuation "<") then skipAnglesFrom 0 reader.last reader.rest else reader

/-- Whether a group reads like the parameters of a function type. -/
def isParameterGroup (tree : Tree) : Bool :=
  match tree with
  | .group opening items _ =>
    opening.text = ['('] && match items with
      | [] => true
      | [only] => only.isName || !(only.isPunctuation "|")
      | first :: second :: _ =>
        first.isPunctuation "..." || first.isGroup '{' || first.isGroup '['
          || (first.isName && [":", ",", "?", "="].any second.isPunctuation)
  | .token _ => false

/-- The words that may stand before a type and go on with it. -/
def typePrefixWords : List String :=
  ["keyof", "unique", "readonly", "infer", "typeof", "asserts", "new", "abstract"]

/-- Pass over a type. `expecting` tells whether an operand comes next, `afterGroup` whether the last
operand can be the parameters of a function type, and the counts are the question marks and colons
of conditional types still to come. -/
def skipTypeFrom : (fuel : Nat) → (expecting afterGroup : Bool) → (marks colons : Nat) →
    Reader → Reader
  | 0, _, _, _, _, reader => reader
  | fuel + 1, expecting, afterGroup, marks, colons, reader =>
    match reader.rest with
    | [] => reader
    | tree :: rest =>
      if tree.isEnd then reader
      else if expecting then
        if tree.isAnyWord typePrefixWords
            && rest.head?.any (fun next => !next.isEnd && !next.newlineBefore
              && (next.isName || next.first.kind != .punctuation || next.isPunctuation "<")) then
          skipTypeFrom fuel true false marks colons reader.advance
        else if tree.isWord "import" then
          skipTypeFrom fuel false false marks colons (reader.advance.skipIf (·.isGroup '('))
        else if tree.isPunctuation "<" then
          skipTypeFrom fuel true false marks colons (skipAngles reader)
        else if ["|", "&", "-", "...", "?"].any tree.isPunctuation then
          skipTypeFrom fuel true false marks colons reader.advance
        else if tree.first.kind = .punctuation then reader
        else skipTypeFrom fuel false (isParameterGroup tree) marks colons reader.advance
      else if endsStatement false tree then reader
      else if tree.isPunctuation "." then
        skipTypeFrom fuel false false marks colons reader.advance.advance
      else if tree.isPunctuation "<" then
        skipTypeFrom fuel false false marks colons (skipAngles reader)
      else if tree.isGroup '[' then skipTypeFrom fuel false false marks colons reader.advance
      else if tree.isPunctuation "|" || tree.isPunctuation "&" || tree.isWord "is" then
        skipTypeFrom fuel true false marks colons reader.advance
      else if tree.isPunctuation "=>" && afterGroup then
        skipTypeFrom fuel true false marks colons reader.advance
      else if tree.isWord "extends" then
        skipTypeFrom fuel true false (marks + 1) colons reader.advance
      else if tree.isPunctuation "?" && marks > 0 then
        skipTypeFrom fuel true false (marks - 1) (colons + 1) reader.advance
      else if tree.isPunctuation ":" && colons > 0 then
        skipTypeFrom fuel true false marks (colons - 1) reader.advance
      else reader

/-- Pass over a type. -/
def skipType (reader : Reader) : Reader :=
  skipTypeFrom (reader.rest.length + 1) true false 0 0 reader

/-- Pass over a colon and the type after it, if a colon comes next. -/
def skipDeclaredType (reader : Reader) : Reader :=
  if reader.nextIs (·.isPunctuation ":") then skipType reader.advance else reader

/-- The parts of a function that its name and extent depend on, once its keyword has been read. -/
structure FunctionShape where
  name : Option Token
  parameters : Option Tree
  body : Option Tree
  after : Reader

/-- Read a function from the position after its keyword. -/
def readFunction (reader : Reader) : FunctionShape :=
  let reader := reader.skipIf (·.isPunctuation "*")
  let (name, reader) := match reader.next? with
    | some (.token t) => if t.kind = .name then (some t, reader.advance) else (none, reader)
    | _ => (none, reader)
  let reader := skipAngles reader
  let (parameters, reader) := match reader.next? with
    | some tree => if tree.isGroup '(' then (some tree, reader.advance) else (none, reader)
    | none => (none, reader)
  let reader := skipDeclaredType reader
  match reader.next? with
  | some tree =>
    if tree.isGroup '{' then ⟨name, parameters, some tree, reader.advance⟩
    else ⟨name, parameters, none, reader⟩
  | none => ⟨name, parameters, none, reader⟩

/-- The name and body of a class or interface, once its keyword has been read. -/
structure BodyShape where
  name : Option Token
  body : Option Tree
  after : Reader

/-- Pass over a heritage clause to the body; `fuel` bounds the number of trees. -/
def readBodyFrom : (fuel : Nat) → Reader → Option Tree × Reader
  | 0, reader => (none, reader)
  | fuel + 1, reader =>
    match reader.next? with
    | none => (none, reader)
    | some tree =>
      if tree.isGroup '{' then (some tree, reader.advance)
      else if tree.isEnd || tree.isPunctuation ";" then (none, reader)
      else if tree.isPunctuation "<" then readBodyFrom fuel (skipAngles reader)
      else readBodyFrom fuel reader.advance

/-- Read the name, heritage and body of a class or interface from the position after its keyword. -/
def readBody (reader : Reader) : BodyShape :=
  let (name, reader) := match reader.next? with
    | some (.token t) =>
      if t.kind = TokenKind.name && !t.isWord "extends" && !t.isWord "implements" then
        (some t, reader.advance)
      else (none, reader)
    | _ => (none, reader)
  let (body, after) := readBodyFrom (reader.rest.length + 1) reader
  ⟨name, body, after⟩

/-- The position of the arrow, if an arrow function without `async` starts here. -/
def arrowHead? (allowType : Bool) (reader : Reader) : Option Reader :=
  let isArrow (reader : Reader) : Option Reader :=
    if reader.nextIs (·.isPunctuation "=>") then some reader else none
  if reader.nextIs (·.isName) then isArrow reader.advance
  else
    let reader := skipAngles reader
    if reader.nextIs (·.isGroup '(') then
      let after := reader.advance
      match isArrow after with
      | some found => some found
      | none =>
        if allowType && after.nextIs (·.isPunctuation ":") then isArrow (skipDeclaredType after)
        else none
    else none

/-- An arrow function that starts here: whether it is `async`, and the position of its arrow. -/
def arrowFunction? (allowType : Bool) (reader : Reader) : Option (Bool × Reader) :=
  let asyncHead :=
    if reader.nextIs (·.isWord "async") && !reader.advance.nextIs (·.newlineBefore) then
      arrowHead? allowType reader.advance
    else none
  match asyncHead with
  | some found => some (true, found)
  | none => (arrowHead? allowType reader).map (false, ·)

/-- Whether a tree may stand in a list of type arguments. -/
def isTypePart (tree : Tree) : Bool :=
  match tree with
  | .group .. => true
  | .token t => t.kind = .name || t.kind = .string || t.kind = .number
    || [",", ".", "|", "&", "<", ">", "=>", "?", ":", "...", "-"].any t.isPunctuation

/-- Whether the angle brackets open at the start of the list close again with only types between. -/
def closesTypes (depth : Nat) : List Tree → Bool
  | [] => false
  | tree :: rest =>
    if !isTypePart tree then false
    else if tree.isPunctuation "<" then closesTypes (depth + 1) rest
    else if tree.isPunctuation ">" then depth ≤ 1 || closesTypes (depth - 1) rest
    else closesTypes depth rest

/-- Pass over type arguments of a call, if the angle bracket here opens some: types between angle
brackets, then an argument list, a template or an end. -/
def typeArguments? (reader : Reader) : Option Reader :=
  if closesTypes 0 reader.rest then
    let after := skipAngles reader
    if after.nextIs fun tree => tree.isGroup '(' || tree.isGroup '`' || tree.isEnd
        || tree.newlineBefore || [",", ";", ":", "."].any tree.isPunctuation then some after
    else none
  else none

/-- What an expression may go on with. -/
inductive Expecting where
  | operand
  /-- The name after a dot. -/
  | member
  | operator
  /-- The body of an arrow function. -/
  | arrowBody
  deriving DecidableEq, Inhabited

/-- Pass over an expression. With `comma`, commas belong to it; `ternary` counts the colons of
conditional expressions still to come. -/
def skipExpressionFrom (comma : Bool) : (fuel : Nat) → Expecting → (ternary : Nat) → Reader → Reader
  | 0, _, _, reader => reader
  | fuel + 1, expecting, ternary, reader =>
    match reader.rest with
    | [] => reader
    | tree :: rest =>
      let next := reader.advance
      if tree.isEnd || tree.isPunctuation ";" then reader
      else if expecting = .member then skipExpressionFrom comma fuel .operator ternary next
      else if expecting = .arrowBody && tree.isGroup '{' then
        skipExpressionFrom comma fuel .operator ternary next
      else if expecting = .operator then
        if endsStatement true tree then reader
        else match tree with
          | .group .. =>
            if tree.isGroup '(' || tree.isGroup '[' || tree.isGroup '`' then
              skipExpressionFrom comma fuel .operator ternary next
            else reader
          | .token t =>
            if t.kind = .punctuation then
              if t.isPunctuation "," then
                if comma then skipExpressionFrom comma fuel .operand ternary next else reader
              else if t.isPunctuation "." || t.isPunctuation "?." then
                skipExpressionFrom comma fuel .member ternary next
              else if t.isPunctuation "=>" then
                skipExpressionFrom comma fuel .arrowBody ternary next
              else if t.isPunctuation "?" then
                skipExpressionFrom comma fuel .operand (ternary + 1) next
              else if t.isPunctuation ":" then
                if ternary > 0 then skipExpressionFrom comma fuel .operand (ternary - 1) next
                else reader
              else if t.isPunctuation "<" && rest.head?.any (fun following =>
                  following.isPunctuation "<" && following.start = t.stop) then
                skipExpressionFrom comma fuel .operand ternary next.advance
              else if t.isPunctuation "<" then
                match typeArguments? reader with
                | some after => skipExpressionFrom comma fuel .operator ternary after
                | none => skipExpressionFrom comma fuel .operand ternary next
              else if ["!", "++", "--"].any t.isPunctuation then
                skipExpressionFrom comma fuel .operator ternary next
              else skipExpressionFrom comma fuel .operand ternary next
            else if t.isWord "as" || t.isWord "satisfies" then
              skipExpressionFrom comma fuel .operator ternary (skipType next)
            else if t.isWord "in" || t.isWord "instanceof" then
              skipExpressionFrom comma fuel .operand ternary next
            else reader
      else match arrowFunction? (ternary = 0) reader with
        | some (_, arrow) => skipExpressionFrom comma fuel .arrowBody ternary arrow.advance
        | none =>
          if tree.isWord "function" then
            skipExpressionFrom comma fuel .operator ternary (readFunction next).after
          else if tree.isWord "class" then
            skipExpressionFrom comma fuel .operator ternary (readBody next).after
          else if tree.isWord "async" && rest.head?.any (·.isWord "function") then
            skipExpressionFrom comma fuel .operand ternary next
          else if tree.isAnyWord ["new", "typeof", "void", "delete", "await", "yield"] then
            skipExpressionFrom comma fuel .operand ternary next
          else if tree.isPunctuation "<" then
            skipExpressionFrom comma fuel .operand ternary (skipAngles reader)
          else if tree.isPunctuation "," || tree.isPunctuation ":" then reader
          else if tree.first.kind = .punctuation then
            skipExpressionFrom comma fuel .operand ternary next
          else skipExpressionFrom comma fuel .operator ternary next

/-- Pass over an expression that a comma ends. -/
def skipAssignment (reader : Reader) : Reader :=
  skipExpressionFrom false (reader.rest.length + 1) .operand 0 reader

/-- Pass over an expression that may hold commas. -/
def skipExpression (reader : Reader) : Reader :=
  skipExpressionFrom true (reader.rest.length + 1) .operand 0 reader

end CodeAtlas.Grammar
