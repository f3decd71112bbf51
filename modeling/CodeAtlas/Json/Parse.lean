import CodeAtlas.Json.Basic

/-!
# Reading JSON

`JsonValue.parse?` reads one value that fills the whole text. The reader is strict: no comments, no
trailing commas, no unescaped control characters, surrogates only in pairs, and at most 127 levels
of nesting.
-/

namespace CodeAtlas.JsonValue

/-- The text after white space. -/
def skipBlanks (input : Text) : Text :=
  input.dropWhile fun c => c = ' ' || c = '\n' || c = '\t' || c = '\r'

/-- The value of four hexadecimal digits at the start of a text. -/
def hexUnit? (input : Text) : Option (Nat × Text) :=
  let digits := input.take 4
  if digits.length = 4 && digits.all Text.isHexDigit then
    let value (c : Char) : Nat :=
      if Text.isAsciiDigit c then c.toNat - '0'.toNat
      else if 'a' ≤ c then c.toNat - 'a'.toNat + 10 else c.toNat - 'A'.toNat + 10
    some (digits.foldl (fun n c => 16 * n + value c) 0, input.drop 4)
  else none

/-- The character of an escaped code unit, or of two units that form a pair. -/
def escapedUnit? (input : Text) : Option (Char × Text) := do
  let (high, rest) ← hexUnit? input
  if 0xDC00 ≤ high && high ≤ 0xDFFF then none
  else if 0xD800 ≤ high && high ≤ 0xDBFF then
    match rest with
    | '\\' :: 'u' :: rest =>
      let (low, rest) ← hexUnit? rest
      if 0xDC00 ≤ low && low ≤ 0xDFFF then
        some (Char.ofNat (0x10000 + (high - 0xD800) * 0x400 + (low - 0xDC00)), rest)
      else none
    | _ => none
  else some (Char.ofNat high, rest)

/-- The character of an escape after its backslash. -/
def escaped? (input : Text) : Option (Char × Text) :=
  match input with
  | '"' :: rest => some ('"', rest)
  | '\\' :: rest => some ('\\', rest)
  | '/' :: rest => some ('/', rest)
  | 'b' :: rest => some ('\x08', rest)
  | 'f' :: rest => some ('\x0c', rest)
  | 'n' :: rest => some ('\n', rest)
  | 'r' :: rest => some ('\r', rest)
  | 't' :: rest => some ('\t', rest)
  | 'u' :: rest => escapedUnit? rest
  | _ => none

/-- The rest of a string up to its closing quotation mark; `fuel` bounds its length. -/
def stringRest? : (fuel : Nat) → (read : Text) → Text → Option (String × Text)
  | 0, _, _ => none
  | _ + 1, _, [] => none
  | fuel + 1, read, c :: rest =>
    if c = '"' then some (String.ofList read.reverse, rest)
    else if c = '\\' then
      match escaped? rest with
      | some (c, rest) => stringRest? fuel (c :: read) rest
      | none => none
    else if c < ' ' then none
    else stringRest? fuel (c :: read) rest

/-- The digits at the start of a text, of which there has to be one. -/
def digits1? (input : Text) : Option (Text × Text) :=
  match input.span Text.isAsciiDigit with
  | ([], _) => none
  | found => some found

/-- The whole part of a number: no leading zeros. -/
def wholePart? (input : Text) : Option (Text × Text) :=
  match input with
  | '0' :: rest => if rest.head?.any Text.isAsciiDigit then none else some (['0'], rest)
  | _ => digits1? input

/-- The fraction of a number, if there is one. -/
def fraction? (input : Text) : Option (Text × Text) :=
  match input with
  | '.' :: rest => (digits1? rest).map fun (digits, rest) => ('.' :: digits, rest)
  | _ => some ([], input)

/-- The exponent of a number, if there is one. -/
def exponent? (input : Text) : Option (Text × Text) :=
  match input with
  | c :: rest =>
    if c = 'e' || c = 'E' then
      match rest with
      | '+' :: rest => (digits1? rest).map fun (digits, rest) => (c :: '+' :: digits, rest)
      | '-' :: rest => (digits1? rest).map fun (digits, rest) => (c :: '-' :: digits, rest)
      | _ => (digits1? rest).map fun (digits, rest) => (c :: digits, rest)
    else some ([], input)
  | [] => some ([], input)

/-- A number. -/
def number? (input : Text) : Option (JsonValue × Text) := do
  let (sign, input) := match input with
    | '-' :: rest => (['-'], rest)
    | _ => ([], input)
  let (whole, input) ← wholePart? input
  let (fraction, input) ← fraction? input
  let (exponent, rest) ← exponent? input
  let value := whole.foldl (fun n c => 10 * n + (c.toNat - '0'.toNat)) 0
  if sign.isEmpty && fraction.isEmpty && exponent.isEmpty && value < 0x10000000000000000 then
    pure (.natural value, rest)
  else pure (.number (String.ofList (sign ++ whole ++ fraction ++ exponent)), rest)

mutual

/-- One value, after white space; `depth` bounds the nesting and `fuel` the length. -/
def value? : (fuel depth : Nat) → Text → Option (JsonValue × Text)
  | 0, _, _ => none
  | fuel + 1, depth, input =>
    match skipBlanks input with
    | '"' :: rest =>
      (stringRest? (rest.length + 1) [] rest).map fun (text, rest) => (.string text, rest)
    | '[' :: rest =>
      if depth = 0 then none
      else match skipBlanks rest with
        | ']' :: rest => some (.array [], rest)
        | rest => items? fuel (depth - 1) [] rest
    | '{' :: rest =>
      if depth = 0 then none
      else match skipBlanks rest with
        | '}' :: rest => some (.object [], rest)
        | rest => fields? fuel (depth - 1) [] rest
    | 't' :: 'r' :: 'u' :: 'e' :: rest => some (.flag true, rest)
    | 'f' :: 'a' :: 'l' :: 's' :: 'e' :: rest => some (.flag false, rest)
    | 'n' :: 'u' :: 'l' :: 'l' :: rest => some (.null, rest)
    | input => number? input

/-- The items of an array up to its closing bracket. -/
def items? : (fuel depth : Nat) → (read : List JsonValue) → Text → Option (JsonValue × Text)
  | 0, _, _, _ => none
  | fuel + 1, depth, read, input =>
    match value? fuel depth input with
    | none => none
    | some (item, rest) =>
      match skipBlanks rest with
      | ',' :: rest => items? fuel depth (item :: read) rest
      | ']' :: rest => some (.array (item :: read).reverse, rest)
      | _ => none

/-- The fields of an object up to its closing brace. -/
def fields? : (fuel depth : Nat) → (read : List (String × JsonValue)) → Text →
    Option (JsonValue × Text)
  | 0, _, _, _ => none
  | fuel + 1, depth, read, input =>
    match skipBlanks input with
    | '"' :: rest =>
      match stringRest? (rest.length + 1) [] rest with
      | none => none
      | some (name, rest) =>
        match skipBlanks rest with
        | ':' :: rest =>
          match value? fuel depth rest with
          | none => none
          | some (value, rest) =>
            match skipBlanks rest with
            | ',' :: rest => fields? fuel depth ((name, value) :: read) rest
            | '}' :: rest => some (.object ((name, value) :: read).reverse, rest)
            | _ => none
        | _ => none
    | _ => none

end

/-- The value that a text writes. -/
def parse? (text : Text) : Option JsonValue :=
  match value? (2 * text.length + 2) 127 text with
  | some (value, rest) => if (skipBlanks rest).isEmpty then some value else none
  | none => none

end CodeAtlas.JsonValue
