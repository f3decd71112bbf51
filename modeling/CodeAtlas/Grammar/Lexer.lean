import CodeAtlas.Grammar.Token

/-!
# Cutting source text into tokens

`tokens` reads a whole text. What a slash or an angle bracket means depends on whether an operand
has just ended, and the text inside templates and markup elements is not code; a stack of modes
keeps track of both. Read `Mode` first.
-/

namespace CodeAtlas.Grammar

/-- What the lexer is inside of. -/
inductive Mode where
  /-- Braces; a block is followed by a statement, other braces end an operand. -/
  | brace (isBlock : Bool)
  /-- Parentheses; after the condition of a control statement an operand may start. -/
  | paren (isControl : Bool)
  /-- Square brackets. -/
  | bracket
  /-- The characters of a template. -/
  | template
  /-- A substitution in a template. -/
  | substitution
  /-- The tag of a markup element. -/
  | tag (isClosing : Bool)
  /-- The text between two tags. -/
  | children
  /-- Braces in a tag or between tags. -/
  | markupBrace
  deriving DecidableEq, Repr, Inhabited

/-- The state between two steps of the lexer. -/
structure LexState where
  offset : Nat := 0
  modes : List Mode := []
  /-- Whether the last token can end an operand, so that a slash divides. -/
  operandEnd : Bool := false
  /-- The spelling of the last token. -/
  last : Text := []
  /-- Whether a line has ended since the last token. -/
  newline : Bool := false
  /-- Where a semicolon left out after the last token would stand. -/
  semicolonAt : Nat := 0
  deriving Inhabited

/-- The words after which an operand starts. -/
def operandWords : List String :=
  ["return", "typeof", "instanceof", "in", "of", "new", "delete", "void", "throw", "case", "do",
    "else", "yield", "await", "default", "extends"]

/-- The operators and separators of more than one character, longer ones first. -/
def longPunctuation : List Text :=
  ["...", "===", "!==", "&&=", "||=", "??=", "**=", "=>", "==", "!=", "&&", "||", "??", "?.", "++",
    "--", "**", "+=", "-=", "*=", "/=", "%=", "&=", "|=", "^="].map String.toList

/-- The operator or separator at the start of a text. An optional-chaining sign before a digit is a
question mark. -/
def punctuationAt (c : Char) (rest : Text) : Text :=
  match longPunctuation.find? (Text.startsWith (c :: rest)) with
  | none => [c]
  | some found =>
    if found = "?.".toList && (rest[1]?).any Text.isAsciiDigit then ['?'] else found

/-- The number of characters of a string literal, its quotes included. -/
def stringLength (quote : Char) : Text → Nat
  | [] => 0
  | '\\' :: _ :: rest => 2 + stringLength quote rest
  | c :: rest => if c = quote then 1 else 1 + stringLength quote rest

/-- The number of characters of a regular expression after its first slash, its flags left out. A
slash in a character class does not end it. -/
def regularExpressionLength (inClass : Bool) : Text → Nat
  | [] => 0
  | '\\' :: _ :: rest => 2 + regularExpressionLength inClass rest
  | c :: rest =>
    if c = '\n' then 0
    else if c = '/' && !inClass then 1
    else 1 + regularExpressionLength (c = '[' || (inClass && c != ']')) rest

/-- The number of characters of a number; a sign belongs to it after an exponent mark. -/
def numberLength (hex : Bool) (previous : Char) : Text → Nat
  | [] => 0
  | c :: rest =>
    if isNameChar c || c = '.' then 1 + numberLength hex c rest
    else if (c = '+' || c = '-') && !hex && (previous = 'e' || previous = 'E') then
      1 + numberLength hex c rest
    else 0

/-- The number of characters up to and including the end of a block comment. -/
def blockCommentLength : Text → Nat
  | [] => 0
  | '*' :: '/' :: _ => 2
  | _ :: rest => 1 + blockCommentLength rest

/-- Whether an angle bracket, followed by `rest`, opens a markup element and not type parameters. A
lone name in angle brackets is a tag if its closing tag follows. -/
def opensElement (rest : Text) : Bool :=
  match rest with
  | [] => false
  | '>' :: _ => true
  | c :: _ =>
    if !isNameStart c then false
    else
      let name := rest.takeWhile fun c => isNameChar c || c = '.' || c = '-' || c = ':'
      let after := rest.drop name.length
      let next := after.dropWhile Text.isWhiteSpace
      match next with
      | [] => false
      | '/' :: _ => true
      | '{' :: _ => true
      | '>' :: tail => Text.contains tail ('<' :: '/' :: name)
      | d :: _ => isNameStart d && after != next && !Text.startsWith next "extends".toList

/-- Emit a token that covers the first `count` characters. -/
def emit (state : LexState) (kind : TokenKind) (count : Nat) (rest : Text) : Token × LexState :=
  let text := rest.take count
  let stop := state.offset + Text.byteLength text
  ({ kind, text, start := state.offset, stop, newlineBefore := state.newline
     semicolonAt := state.semicolonAt },
    { state with offset := stop, last := text, newline := false, semicolonAt := stop })

/-- Pass over the first `count` characters. -/
def skip (state : LexState) (count : Nat) (rest : Text) : LexState :=
  { state with offset := state.offset + Text.byteLength (rest.take count) }

/-- Pass over a comment. It moves the place of a semicolon left out if it starts on the line of the
last token. -/
def skipComment (state : LexState) (count : Nat) (rest : Text) : LexState :=
  let after := skip state count rest
  if state.newline then after else { after with semicolonAt := after.offset }

/-- One step: the tokens it emits, the next state and the number of characters read, at least one.
-/
abbrev LexStep := List Token × LexState × Nat

/-- Emit one token and go on in a changed state. -/
def emitting (state : LexState) (kind : TokenKind) (count : Nat) (rest : Text)
    (update : LexState → LexState) : LexStep :=
  let (token, after) := emit state kind count rest
  ([token], update after, count)

/-- The end of an element: between the tags of another element nothing is emitted. -/
def closeElement (state : LexState) (count : Nat) (rest : Text) : LexStep :=
  match state.modes with
  | .children :: _ => ([], skip state count rest, count)
  | _ => emitting state .closing count rest fun s => { s with operandEnd := true }

/-- A step inside the characters of a template. -/
def templateStep (state : LexState) (outer : List Mode) (rest : Text) : LexStep :=
  match rest with
  | '`' :: _ => emitting state .closing 1 rest fun s =>
      { s with modes := outer, operandEnd := true }
  | '$' :: '{' :: _ => emitting state .opening 2 rest fun s =>
      { s with modes := .substitution :: state.modes, operandEnd := false }
  | '\\' :: _ :: _ => ([], skip state 2 rest, 2)
  | _ => ([], skip state 1 rest, 1)

/-- A step between the tags of an element. -/
def childrenStep (state : LexState) (rest : Text) : LexStep :=
  match rest with
  | '<' :: '/' :: _ => ([], { skip state 2 rest with modes := .tag true :: state.modes }, 2)
  | '<' :: _ => ([], { skip state 1 rest with modes := .tag false :: state.modes }, 1)
  | '{' :: _ => emitting state .opening 1 rest fun s =>
      { s with modes := .markupBrace :: state.modes, operandEnd := false }
  | _ => ([], skip state 1 rest, 1)

/-- A step inside a tag. -/
def tagStep (state : LexState) (isClosing : Bool) (outer : List Mode) (rest : Text) : LexStep :=
  match rest with
  | '/' :: '>' :: _ => closeElement { state with modes := outer } 2 rest
  | '>' :: _ =>
    if isClosing then closeElement { state with modes := outer.drop 1 } 1 rest
    else ([], { skip state 1 rest with modes := .children :: outer }, 1)
  | '{' :: _ => emitting state .opening 1 rest fun s =>
      { s with modes := .markupBrace :: state.modes, operandEnd := false }
  | c :: tail =>
    if c = '"' || c = '\'' then
      let count := 1 + (tail.takeWhile (· != c)).length + 1
      ([], skip state count rest, count)
    else ([], skip state 1 rest, 1)
  | [] => ([], state, 1)

/-- Whether a brace that follows the given token opens a block. -/
def opensBlock (state : LexState) : Bool :=
  state.operandEnd || state.last = ['{'] || state.last = ['}']
    || ["", "=>", ";", "else", "do", "try", "finally"].any fun word => state.last = word.toList

/-- A step at a closing bracket. -/
def closingStep (state : LexState) (rest : Text) : LexStep :=
  match state.modes with
  | [] => emitting state .closing 1 rest fun s => { s with operandEnd := true }
  | mode :: outer => emitting state .closing 1 rest fun s =>
    { s with modes := outer, operandEnd := match mode with
        | .brace isBlock => !isBlock
        | .paren isControl => !isControl
        | _ => true }

/-- A step at a name. Behind a dot every name is an operand. -/
def nameStep (state : LexState) (rest : Text) : LexStep :=
  let name := rest.takeWhile isNameChar
  let isMember := state.last = ['.'] || state.last = "?.".toList
  emitting state .name name.length rest fun s =>
    { s with operandEnd := isMember || !operandWords.any fun word => name = word.toList }

/-- A step in code. -/
def codeStep (markup : Bool) (state : LexState) (c : Char) (tail : Text) : LexStep :=
  let rest := c :: tail
  let push (mode : Mode) : LexStep := emitting state .opening 1 rest fun s =>
    { s with modes := mode :: state.modes, operandEnd := false }
  let operator : LexStep :=
    let text := punctuationAt c tail
    let keeps := ["!", "++", "--"].any fun word => text = word.toList
    emitting state .punctuation text.length rest fun s =>
      { s with operandEnd := keeps && state.operandEnd }
  let operand (kind : TokenKind) (count : Nat) : LexStep :=
    emitting state kind count rest fun s => { s with operandEnd := true }
  if c = '\n' then ([], { skip state 1 rest with newline := true }, 1)
  else if Text.isWhiteSpace c || c = '\uFEFF' || c = '\u2060' || c = '\u200B' then
    ([], skip state 1 rest, 1)
  else if c = '#' && tail.head? = some '!' && state.offset = 0 then
    let count := (rest.takeWhile (· != '\n')).length
    ([], skipComment state count rest, count)
  else if c = '/' && tail.head? = some '/' then
    let count := (rest.takeWhile (· != '\n')).length
    ([], skipComment state count rest, count)
  else if c = '/' && tail.head? = some '*' then
    let count := 2 + blockCommentLength (tail.drop 1)
    ([], skipComment state count rest, count)
  else if isNameStart c then nameStep state rest
  else if Text.isAsciiDigit c || (c = '.' && tail.head?.any Text.isAsciiDigit) then
    let hex := tail.head? = some 'x' || tail.head? = some 'X'
    operand .number (1 + numberLength hex c tail)
  else if c = '#' && tail.head?.any isNameStart then
    operand .privateName (1 + (tail.takeWhile isNameChar).length)
  else if c = '"' || c = '\'' then operand .string (1 + stringLength c tail)
  else if c = '`' then push .template
  else if c = '(' then
    push (.paren (["if", "while", "for", "with"].any fun word => state.last = word.toList))
  else if c = '[' then push .bracket
  else if c = '{' then push (.brace (opensBlock state))
  else if c = ')' || c = ']' || c = '}' then closingStep state rest
  else if c = '/' && !state.operandEnd then
    let body := 1 + regularExpressionLength false tail
    operand .regularExpression (body + ((rest.drop body).takeWhile isNameChar).length)
  else if c = '<' && markup && !state.operandEnd && opensElement tail then push (.tag false)
  else operator

/-- One step of the lexer. -/
def lexStep (markup : Bool) (state : LexState) (c : Char) (tail : Text) : LexStep :=
  match state.modes with
  | .template :: outer => templateStep state outer (c :: tail)
  | .children :: _ => childrenStep state (c :: tail)
  | .tag isClosing :: outer => tagStep state isClosing outer (c :: tail)
  | _ => codeStep markup state c tail

/-- The tokens of a text from a state on; `fuel` bounds the number of steps. -/
def lexFrom (markup : Bool) : (fuel : Nat) → LexState → Text → List Token
  | 0, _, _ => []
  | _ + 1, state, [] => [(emit state .ending 0 []).1]
  | fuel + 1, state, c :: tail =>
    let (found, after, count) := lexStep markup state c tail
    found ++ lexFrom markup fuel after ((c :: tail).drop count)

/-- The tokens of a text, an ending token last. With `markup`, expressions may hold markup elements.
-/
def tokens (markup : Bool) (text : Text) : List Token :=
  lexFrom markup (text.length + 1) {} text

end CodeAtlas.Grammar
