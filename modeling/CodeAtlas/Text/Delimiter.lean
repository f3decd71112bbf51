import CodeAtlas.Text.Basic

/-!
# Brackets

`matchingDelimiter?` pairs a bracket with the one that closes it and `splitTopLevel` cuts a text
where no bracket is open. Both read the text as it is: mask literals and comments first.
-/

namespace CodeAtlas.Text

/-- The byte that closes a bracket, for the four opening brackets. -/
def closerOf? (opener : UInt8) : Option UInt8 :=
  if opener = 0x7B then some 0x7D
  else if opener = 0x28 then some 0x29
  else if opener = 0x5B then some 0x5D
  else if opener = 0x3C then some 0x3E
  else none

/-- The index, counted from `index`, of the closer that brings `depth` open brackets back to none.
-/
def closeFrom? (opener closer : UInt8) : List UInt8 → (index depth : Nat) → Option Nat
  | [], _, _ => none
  | b :: rest, index, depth =>
    if b = opener then closeFrom? opener closer rest (index + 1) (depth + 1)
    else if b = closer then
      if depth = 1 then some index else closeFrom? opener closer rest (index + 1) (depth - 1)
    else closeFrom? opener closer rest (index + 1) depth

/-- The byte offset of the delimiter that closes the one at `start`, nested pairs of the same kind
skipped. -/
def matchingDelimiter? (text : Text) (start : Nat) : Option Nat := do
  let tail := (bytes text).drop start
  let opener ← tail.head?
  let closer ← closerOf? opener
  closeFrom? opener closer tail start 0

/-- How a character changes the nesting depth, given the character before it. The angle bracket of
an arrow closes nothing. -/
def depthChange (previous : Option Char) (c : Char) : Int :=
  if c = '(' || c = '[' || c = '{' || c = '<' then 1
  else if c = ')' || c = ']' || c = '}' then -1
  else if c = '>' then (if previous = some '=' then 0 else -1)
  else 0

/-- Whether a character takes part in bracket counting, given the character before it. -/
def isBracket (previous : Option Char) (c : Char) : Bool :=
  c = '(' || c = '[' || c = '{' || c = '<' || c = ')' || c = ']' || c = '}'
    || (c = '>' && previous != some '=')

/-- Cut at `separator` wherever the depth, `depth` at the start, is not positive. -/
def splitTopLevelFrom (separator : Char) :
    (previous : Option Char) → (depth : Int) → Text → List Text
  | _, _, [] => [[]]
  | previous, depth, c :: rest =>
    if !isBracket previous c && c = separator && depth ≤ 0 then
      [] :: splitTopLevelFrom separator (some c) depth rest
    else match splitTopLevelFrom separator (some c) (depth + depthChange previous c) rest with
      | [] => [[c]]
      | part :: parts => (c :: part) :: parts

/-- Cut at `separator` outside every `()`, `[]`, `{}` and `<>`. -/
def splitTopLevel (text : Text) (separator : Char) : List Text :=
  splitTopLevelFrom separator none 0 text

end CodeAtlas.Text
