import CodeAtlas.Pattern.Match
import CodeAtlas.Text.Mask
import CodeAtlas.Text.Delimiter

/-!
# Types of expressions

`infer?` names the type of an expression whose shape makes it obvious. The answer is wrapped twice:
the outer `none` stands for a cut of the text outside it, which no text brings about, the inner
`none` for a type that the shape does not tell.
-/

namespace CodeAtlas.Hint

open Pattern (sequence choice char literal many many1 optional)
open Text (trim)

/-- A digit of a number after its first one. -/
def digits : Pattern :=
  many (char (.union .digit (.one '_')))

/-- An exponent. -/
def exponent : Pattern :=
  optional (sequence [char (.ofString "eE"), optional (char (.ofString "+-")), many1 (char .digit)])

/-- A whole number literal. -/
def numberPattern : Pattern :=
  sequence [optional (literal "-"),
    choice [
      sequence [literal "0", char (.ofString "xX"),
        many1 (char (.oneOf [.range '0' '9', .range 'a' 'f', .range 'A' 'F', .one '_']))],
      sequence [literal "0", char (.ofString "bB"), many1 (char (.ofString "01_"))],
      sequence [literal "0", char (.ofString "oO"),
        many1 (char (.union (.range '0' '7') (.one '_')))],
      sequence [char .digit, digits, optional (.seq (literal ".") (many (char .digit))), exponent],
      sequence [literal ".", many1 (char .digit), exponent]],
    .textEnd]

/-- A whole big integer literal. -/
def bigIntPattern : Pattern :=
  sequence [optional (literal "-"), char .digit, digits, literal "n", .textEnd]

/-- How deep in brackets the text is from a character on. -/
def depthFrom (depth : Int) (c : Char) : Int :=
  if c = '(' || c = '[' || c = '{' then depth + 1
  else if c = ')' || c = ']' || c = '}' then depth - 1
  else depth

/-- The byte offsets, counted from `offset`, where `needle` starts outside all brackets. -/
def topLevelFrom (needle : Text) : (offset : Nat) → (depth : Int) → Text → List Nat
  | _, _, [] => []
  | offset, depth, c :: rest =>
    let later := topLevelFrom needle (offset + c.utf8Size) (depthFrom depth c) rest
    if depthFrom depth c = 0 && Text.startsWith (c :: rest) needle then offset :: later else later

/-- The byte offsets where `needle` starts outside all brackets of a masked text. -/
def topLevelOffsets (masked : Text) (needle : String) : List Nat :=
  topLevelFrom needle.toList 0 0 masked

/-- Whether `needle` stands outside all brackets of a masked text. -/
def atTopLevel (masked : Text) (needle : String) : Bool :=
  !(topLevelOffsets masked needle).isEmpty

/-- Cut a text before and after the single bytes at the given offsets. -/
def cutAt? (text : Text) (start : Nat) : List Nat → Option (List Text)
  | [] => (Text.dropBytes? text start).map ([·])
  | offset :: rest => do
    let part ← Text.slice? text start offset
    let parts ← cutAt? text (offset + 1) rest
    pure (part :: parts)

/-- Whether a masked text is one literal: quotes with blanks between them. -/
def isSingleLiteral? (masked : Text) : Option Bool := do
  let some quote := masked.head? | return false
  let length := Text.byteLength masked
  if length > 1 && masked.getLast? = some quote then
    let inside ← Text.slice? masked 1 (length - 1)
    return (trim inside).isEmpty
  return false

/-- Whether an expression is a string or template literal. -/
def isTextLiteral? (expression masked : Text) : Option Bool :=
  if expression.head?.any (fun c => c = '\'' || c = '"' || c = '`') then isSingleLiteral? masked
  else some false

/-- The part between two given characters at the ends of a text. -/
def between? (first last : Char) (text : Text) : Option Text :=
  match text with
  | c :: rest => if c = first && rest.getLast? = some last then some rest.dropLast else none
  | [] => none

/-- The part inside parentheses that enclose the whole expression. -/
def parenthesized? (expression : Text) : Option Text := do
  let inner ← between? '(' ')' expression
  let close ← Text.matchingDelimiter? (Text.mask .all expression) 0
  if close + 1 = Text.byteLength expression then some inner else none

/-- The type of an array literal, given the types of its elements: theirs if they all have the same
known type. -/
def arrayType (elements : List (Option String)) : String :=
  match elements with
  | some type :: rest => if rest.all (· = some type) then type ++ "[]" else "any[]"
  | _ => "any[]"

/-- The type of a sum, given the types of its operands. -/
def sumType (operands : List (Option String)) : Option String :=
  if operands.any (· = some "string") then some "string"
  else if operands.all (· = some "number") then some "number"
  else none

/-- Whether a masked expression compares, tests or negates. -/
def isBoolean (expression masked : Text) : Bool :=
  ["===", "!==", "==", "!=", "<=", ">=", " < ", " > ", " instanceof ", " in "].any
      (atTopLevel masked)
    || expression.head? = some '!'

/-- Whether a masked expression is a function. -/
def isFunction (masked : Text) : Bool :=
  (Text.contains masked "=>".toList
      && (masked.head? = some '(' || Text.startsWith masked "async".toList))
    || Text.startsWith masked "function".toList

/-- The type of an expression that is a single word, number or construction. -/
def simpleType? (expression : Text) : Option String :=
  if expression = "true".toList || expression = "false".toList then some "boolean"
  else if expression = "null".toList then some "null"
  else if expression = "undefined".toList || expression = "void 0".toList then some "undefined"
  else if (bigIntPattern.matchStart? expression).isSome then some "bigint"
  else if (numberPattern.matchStart? expression).isSome then some "number"
  else match Text.dropHead? expression "new ".toList with
    | none => none
    | some rest =>
      let type := trim (rest.takeWhile (· != '('))
      if type.isEmpty then none else some (String.ofList type)

/-- An expression without white space and semicolons around it. -/
def bareExpression (text : Text) : Text :=
  trim (Text.dropEndWhile (trim text) (· = ';'))

/-- The elements of an array literal. -/
def arrayElements (expression : Text) : List Text :=
  ((Text.splitTopLevel ((between? '[' ']' expression).getD []) ',').map trim).filter (!·.isEmpty)

/-- The type that an assertion at a byte offset names, or that of what it asserts to be constant. -/
def assertedType? (typeOf? : Text → Option (Option String)) (expression : Text) (offset : Nat) :
    Option (Option String) := do
  let type := trim (← Text.dropBytes? expression (offset + 4))
  if type = "const".toList then typeOf? (← Text.takeBytes? expression offset)
  else return some (String.ofList type)

/-- The type of an array, an object, a sum, a product or a simple expression. -/
def compoundType? (typeOf? : Text → Option (Option String)) (expression masked : Text) :
    Option (Option String) := do
  if expression.head? = some '[' then
    return some (arrayType (← (arrayElements expression).mapM typeOf?))
  else if expression.head? = some '{' then return some "object"
  else if atTopLevel masked "+" then
    let operands ← cutAt? expression 0 (topLevelOffsets masked "+")
    return sumType (← operands.mapM typeOf?)
  else if [" - ", " * ", " / ", " % "].any (atTopLevel masked) then return some "number"
  else return simpleType? expression

/-- The type of an expression, given the types of its parts. -/
def inferStep? (typeOf? : Text → Option (Option String)) (text : Text) :
    Option (Option String) := do
  let expression := bareExpression text
  if expression.isEmpty then return none
  if let some inner := parenthesized? expression then return ← typeOf? inner
  if let some rest := Text.dropHead? expression "await ".toList then return ← typeOf? rest
  let masked := Text.mask .all expression
  if let some offset := (topLevelOffsets masked " as ").getLast? then
    return ← assertedType? typeOf? expression offset
  if isFunction masked then return some "Function"
  if isBoolean expression masked then return some "boolean"
  if Text.startsWith expression "typeof ".toList then return some "string"
  if ← isTextLiteral? expression masked then return some "string"
  compoundType? typeOf? expression masked

/-- The type of an expression; `fuel` bounds how deep its parts are nested, and the result is `none`
if they are nested deeper. -/
def inferFrom? : (fuel : Nat) → Text → Option (Option String)
  | 0, _ => none
  | fuel + 1, text => inferStep? (inferFrom? fuel) text

/-- The type of an expression. -/
def infer? (expression : Text) : Option (Option String) :=
  inferFrom? (Text.byteLength expression + 1) expression

end CodeAtlas.Hint
