import CodeAtlas.Text.Cursor
import CodeAtlas.Text.Mask
import CodeAtlas.Text.Delimiter

/-!
# Walking through declarations

The walks run over the masked text, where brackets and words inside literals and comments do not
show, and cut the answers out of the source text at the same offsets.
-/

namespace CodeAtlas.Hint

open Text (Cursor)

/-- A text together with its masked form. -/
structure Source where
  code : Text
  masked : Text
  deriving Inhabited

/-- A character that extends a word: ASCII letters and digits, underscore, dollar sign, and
everything outside ASCII. -/
def isWordPart (c : Char) : Bool :=
  Text.isAsciiLetter c || Text.isAsciiDigit c || c = '_' || c = '$' || !Text.isAscii c

/-- Whether an identifier starts at a cursor. -/
def startsIdentifier (cursor : Cursor) : Bool :=
  cursor.next?.any fun c => isWordPart c && !Text.isAsciiDigit c

/-- The cursor after the word parts. -/
def skipIdentifier (cursor : Cursor) : Cursor :=
  cursor.skipWhile isWordPart

/-- Whether a keyword stands at a cursor as a whole word. -/
def keywordAt (cursor : Cursor) (keyword : String) : Bool :=
  !cursor.before.any isWordPart && match Text.dropHead? cursor.rest keyword.toList with
    | some rest => !rest.head?.any isWordPart
    | none => false

/-- The offset of the delimiter that closes the one at a cursor. -/
def closerAt? (source : Source) (cursor : Cursor) : Option Nat :=
  Text.matchingDelimiter? source.masked cursor.offset

/-- The cursor after the delimiter that closes the one at a cursor. -/
def afterCloser? (source : Source) (cursor : Cursor) : Option Cursor :=
  (closerAt? source cursor).bind fun close => Cursor.seek? source.masked (close + 1)

/-- The cursor after type parameters, if some start here and are closed. -/
def skipGenerics (source : Source) (cursor : Cursor) : Cursor :=
  if cursor.next? = some '<' then (afterCloser? source cursor).getD cursor else cursor

/-- The source text between two offsets, trimmed. -/
def cut? (source : Source) (start stop : Nat) : Option Text :=
  (Text.slice? source.code start stop).map Text.trim

/-- Whether an expression goes on after a line end, given the characters before it, nearest first,
and those after it. -/
def lineContinues (before after : Text) : Bool :=
  match before.dropWhile Text.isWhiteSpace with
  | [] => true
  | c :: _ =>
    "=+-*/|&?:,(>".toList.contains c
      || (Text.trimStart after).head?.any (".?:+-*/|&".toList.contains ·)

/-- Whether an equals sign between two characters is part of an arrow or a comparison. -/
def isCompoundEquals (before after : Option Char) : Bool :=
  after.any (fun c => c = '>' || c = '=') || before.any ("=!<>".toList.contains ·)

/-- The offset where an expression ends: at a stop character outside all brackets, at a closing
bracket of its surroundings, or at a line end after which it does not go on. `seen` are the
characters read so far, nearest first; `before` is the character before the walk. -/
def expressionEndFrom (stops : List Char) (before : Option Char) :
    (offset depth : Nat) → (seen : Text) → Text → Nat
  | offset, _, _, [] => offset
  | offset, depth, seen, c :: rest =>
    let go (depth : Nat) : Nat :=
      expressionEndFrom stops before (offset + c.utf8Size) depth (c :: seen) rest
    if c = '(' || c = '[' || c = '{' then go (depth + 1)
    else if c = ')' || c = ']' || c = '}' then if depth = 0 then offset else go (depth - 1)
    else if depth ≠ 0 then go depth
    else if c = '=' then
      let previous := seen.head?.or before
      if stops.contains '=' && !isCompoundEquals previous rest.head? then offset else go 0
    else if c = '\n' then if lineContinues seen (c :: rest) then go 0 else offset
    else if stops.contains c then offset
    else go 0

/-- The offset where the expression at a cursor ends. -/
def expressionEnd (cursor : Cursor) (stops : List Char) : Nat :=
  expressionEndFrom stops cursor.before cursor.offset 0 [] cursor.rest

/-- The source text of the expression at a cursor. -/
def expression? (source : Source) (cursor : Cursor) (stops : List Char) : Option Text :=
  cut? source cursor.offset (expressionEnd cursor stops)

/-- The offset where a return type ends: at the body, a semicolon, a line end or an arrow outside
all brackets. -/
def returnTypeEndFrom : (before : Option Char) → (offset : Nat) → (depth : Int) → Text → Nat
  | _, offset, _, [] => offset
  | before, offset, depth, c :: rest =>
    let go (depth : Int) : Nat := returnTypeEndFrom (some c) (offset + c.utf8Size) depth rest
    if c = '(' || c = '[' || c = '<' then go (depth + 1)
    else if c = ')' || c = ']' then go (depth - 1)
    else if c = '>' && before.any (· != '=') then go (depth - 1)
    else if (c = '{' || c = ';' || c = '\n') && depth ≤ 0 then offset
    else if c = '=' && depth ≤ 0 && rest.head? = some '>' then offset
    else go depth

/-- The return type written at a cursor. One that starts with a brace is that object type alone. -/
def returnType? (source : Source) (cursor : Cursor) : Option Text :=
  let first := cursor.skipBlanks
  let object := if first.next? = some '{' then closerAt? source first else none
  match object with
  | some close => cut? source first.offset (close + 1)
  | none =>
    cut? source cursor.offset (returnTypeEndFrom first.before first.offset 0 first.rest)

/-- The cursor after the body of the function whose keyword is at a cursor, if it has one that opens
before `stop` and is closed. -/
def pastFunction? (source : Source) (stop : Nat) (cursor : Cursor) : Option (Option Cursor) := do
  let within ← Text.slice? source.masked cursor.offset stop
  let some opening := Text.findChar? within (· = '{') | return none
  let body ← Cursor.seek? source.masked (cursor.offset + opening)
  return afterCloser? source body

/-- The cursor after an arrow, and after the body in braces that follows it, if there is one. -/
def pastArrow (source : Source) (cursor : Cursor) : Cursor :=
  let body := (cursor.advanceBy 2).skipBlanks
  if body.next? = some '{' then (afterCloser? source body).getD (cursor.advanceBy 2)
  else cursor.advanceBy 2

/-- The expression of the `return` statement at a cursor, cut off at `stop`, with the cursor after
it. -/
def returned? (source : Source) (stop : Nat) (cursor : Cursor) : Option (Text × Cursor) := do
  let start := cursor.advanceBy 6
  let exprEnd := min (expressionEnd start [';']) stop
  let found ← cut? source start.offset exprEnd
  let after ← Cursor.seek? source.masked exprEnd
  return (found, after)

/-- The expressions of the `return` statements from a cursor to `stop`. The bodies of nested
functions are passed over. `fuel` bounds the steps; the result is `none` if they are too few. -/
def returnExpressionsFrom? (source : Source) (stop : Nat) :
    (fuel : Nat) → Cursor → Option (List Text)
  | 0, _ => none
  | fuel + 1, cursor => do
    if cursor.offset ≥ stop || cursor.rest.isEmpty then return []
    if keywordAt cursor "function" then
      let some after ← pastFunction? source stop cursor | return []
      return ← returnExpressionsFrom? source stop fuel after
    if cursor.startsWith "=>" then
      return ← returnExpressionsFrom? source stop fuel (pastArrow source cursor)
    if keywordAt cursor "return" then
      let (found, after) ← returned? source stop cursor
      return found :: (← returnExpressionsFrom? source stop fuel after)
    returnExpressionsFrom? source stop fuel cursor.advance

/-- The expressions of the `return` statements of the body between two offsets. -/
def returnExpressions? (source : Source) (start stop : Nat) : Option (List Text) := do
  let cursor ← Cursor.seek? source.masked start
  returnExpressionsFrom? source stop (cursor.rest.length + 1) cursor

end CodeAtlas.Hint
