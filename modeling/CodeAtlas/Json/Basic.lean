import CodeAtlas.Text.Basic

/-!
# JSON values and their written form

`JsonValue.pretty` writes a value with an indentation of two spaces, one item or field per line.
Objects keep their fields in order.
-/

namespace CodeAtlas

/-- A JSON value. Numbers other than natural numbers below 2^64 are kept as they were written. -/
inductive JsonValue where
  | null
  | flag (value : Bool)
  | natural (value : Nat)
  | number (text : String)
  | string (text : String)
  | array (items : List JsonValue)
  | object (fields : List (String × JsonValue))
  deriving Inhabited

namespace JsonValue

/-- The digits of four hexadecimal places. -/
def hexPlaces (value : Nat) : Text :=
  let digits := Nat.toDigits 16 value
  List.replicate (4 - digits.length) '0' ++ digits

/-- How a character is written inside a string. -/
def escape (c : Char) : Text :=
  match c with
  | '"' => ['\\', '"']
  | '\\' => ['\\', '\\']
  | '\x08' => ['\\', 'b']
  | '\x0c' => ['\\', 'f']
  | '\n' => ['\\', 'n']
  | '\r' => ['\\', 'r']
  | '\t' => ['\\', 't']
  | _ => if c < ' ' then '\\' :: 'u' :: hexPlaces c.toNat else [c]

/-- A string between quotation marks. -/
def quote (text : String) : String :=
  String.ofList ('"' :: text.toList.flatMap escape ++ ['"'])

/-- A line break followed by an indentation. -/
def newline (depth : Nat) : String :=
  String.ofList ('\n' :: List.replicate (2 * depth) ' ')

mutual

/-- The written form at a nesting depth. -/
def prettyAt (depth : Nat) : JsonValue → String
  | .null => "null"
  | .flag true => "true"
  | .flag false => "false"
  | .natural value => toString value
  | .number text => text
  | .string text => quote text
  | .array [] => "[]"
  | .array (item :: items) =>
    "[" ++ newline (depth + 1) ++ prettyAt (depth + 1) item ++ prettyItems (depth + 1) items
      ++ newline depth ++ "]"
  | .object [] => "\x7b\x7d"
  | .object ((name, value) :: fields) =>
    "\x7b" ++ newline (depth + 1) ++ quote name ++ ": " ++ prettyAt (depth + 1) value
      ++ prettyFields (depth + 1) fields ++ newline depth ++ "\x7d"

/-- The items after the first one. -/
def prettyItems (depth : Nat) : List JsonValue → String
  | [] => ""
  | item :: items => "," ++ newline depth ++ prettyAt depth item ++ prettyItems depth items

/-- The fields after the first one. -/
def prettyFields (depth : Nat) : List (String × JsonValue) → String
  | [] => ""
  | (name, value) :: fields =>
    "," ++ newline depth ++ quote name ++ ": " ++ prettyAt depth value ++ prettyFields depth fields

end

/-- The written form of a value. -/
def pretty (value : JsonValue) : String :=
  prettyAt 0 value

/-- The array of a list of strings. -/
def strings (texts : List String) : JsonValue :=
  .array (texts.map .string)

/-- The field of an object; of a repeated field the last one counts. -/
def field? (value : JsonValue) (name : String) : Option JsonValue :=
  match value with
  | .object fields => (fields.reverse.find? (·.1 = name)).map (·.2)
  | _ => none

/-- The text of a string. -/
def string? : JsonValue → Option String
  | .string text => some text
  | _ => none

/-- The value of a natural number. -/
def natural? : JsonValue → Option Nat
  | .natural value => some value
  | _ => none

/-- The texts of an array of strings. -/
def strings? : JsonValue → Option (List String)
  | .array items => items.mapM string?
  | _ => none

end JsonValue

end CodeAtlas
