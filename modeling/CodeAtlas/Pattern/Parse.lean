import CodeAtlas.Pattern.Property

/-!
# Reading patterns

`Pattern.parse?` reads the written form of a pattern: literals, classes, groups, repetitions, flags
and assertions. Look-around and references to groups are not part of the form, so a pattern that
uses them is malformed.
-/

namespace CodeAtlas.Pattern

/-- The flags in force. -/
structure Flags where
  ignoreCase : Bool := false
  multiLine : Bool := false
  dotAll : Bool := false
  swapGreed : Bool := false
  verbose : Bool := false
  deriving DecidableEq, Inhabited

/-- The set, widened to other letter cases if the flags say so. -/
def cased (flags : Flags) (set : CharSet) : CharSet :=
  if flags.ignoreCase then .folded set else set

/-- The value of a hexadecimal digit. -/
def hexValue (c : Char) : Nat :=
  if Text.isAsciiDigit c then c.toNat - '0'.toNat
  else if 'a' ≤ c && c ≤ 'f' then c.toNat - 'a'.toNat + 10
  else c.toNat - 'A'.toNat + 10

/-- The character with the code point that hexadecimal digits name. -/
def hexChar? (digits : Text) : Option Char :=
  let value := digits.foldl (fun n c => min (16 * n + hexValue c) 0x110000) 0
  if digits.isEmpty || !digits.all Text.isHexDigit then none
  else if value < 0xD800 || (0xDFFF < value && value ≤ 0x10FFFF) then some (Char.ofNat value)
  else none

/-- A character by its code point, after the letter that announces it: so many digits, or any number
in braces. -/
def codePoint? (count : Nat) (input : Text) : Option (Char × Text) :=
  match input with
  | '{' :: rest =>
    match rest.span (· != '}') with
    | (digits, _ :: rest) => (hexChar? (Text.trim digits)).map (·, rest)
    | (_, []) => none
  | _ =>
    let digits := input.take count
    if digits.length = count then (hexChar? digits).map (·, input.drop count) else none

/-- A property after its letter: one letter, or a name in braces, which may be negated or give a
value. -/
def property? (negated : Bool) (input : Text) : Option (CharSet × Text) := do
  let negate (flip : Bool) (set : CharSet) : CharSet :=
    if negated != flip then .complement set else set
  match input with
  | '{' :: rest =>
    match rest.span (· != '}') with
    | (body, _ :: rest) =>
      let (flip, body) := match body with
        | '^' :: body => (true, body)
        | _ => (false, body)
      match body.span fun c => c != '=' && c != ':' with
      | (name, _ :: value) =>
        match name.reverse with
        | '!' :: name => pure (negate (!flip) (← propertyValued? name.reverse value), rest)
        | _ => pure (negate flip (← propertyValued? name value), rest)
      | (name, []) => pure (negate flip (← propertyNamed? name), rest)
    | (_, []) => none
  | c :: rest => pure (negate false (← propertyNamed? [c]), rest)
  | [] => none

/-- A class escape such as a digit, a word character or a property, after the backslash. -/
def classEscape? (flags : Flags) (input : Text) : Option (CharSet × Text) :=
  match input with
  | 'd' :: rest => some (.digit, rest)
  | 'D' :: rest => some (.complement .digit, rest)
  | 's' :: rest => some (.space, rest)
  | 'S' :: rest => some (.complement .space, rest)
  | 'w' :: rest => some (.word, rest)
  | 'W' :: rest => some (.complement .word, rest)
  | 'p' :: rest => (property? false rest).map fun (set, rest) => (cased flags set, rest)
  | 'P' :: rest => (property? true rest).map fun (set, rest) => (cased flags set, rest)
  | _ => none

/-- A single character by an escape, after the backslash. Letters and digits without a meaning are
errors. -/
def charEscape? (input : Text) : Option (Char × Text) :=
  match input with
  | 'a' :: rest => some ('\x07', rest)
  | 'f' :: rest => some ('\x0c', rest)
  | 't' :: rest => some ('\t', rest)
  | 'n' :: rest => some ('\n', rest)
  | 'r' :: rest => some ('\r', rest)
  | 'v' :: rest => some ('\x0b', rest)
  | 'x' :: rest => codePoint? 2 rest
  | 'u' :: rest => codePoint? 4 rest
  | 'U' :: rest => codePoint? 8 rest
  | c :: rest =>
    if Text.isAscii c && !Text.isAsciiLetter c && !Text.isAsciiDigit c && c != '<' && c != '>' then
      some (c, rest)
    else none
  | [] => none

/-- The ASCII classes that are written by name inside brackets. -/
def asciiClass? (name : String) : Option CharSet :=
  let upper : CharSet := .range 'A' 'Z'
  let lower : CharSet := .range 'a' 'z'
  let digits : CharSet := .range '0' '9'
  match name with
  | "alnum" => some (.oneOf [digits, upper, lower])
  | "alpha" => some (.oneOf [upper, lower])
  | "ascii" => some (.range '\x00' '\x7f')
  | "blank" => some (.ofString "\t ")
  | "cntrl" => some (.union (.range '\x00' '\x1f') (.one '\x7f'))
  | "digit" => some digits
  | "graph" => some (.range '!' '~')
  | "lower" => some lower
  | "print" => some (.range ' ' '~')
  | "punct" => some (.oneOf [.range '!' '/', .range ':' '@', .range '[' '`', .range '\x7b' '~'])
  | "space" => some (.ofString "\t\n\x0b\x0c\r ")
  | "upper" => some upper
  | "word" => some (.oneOf [digits, upper, lower, .one '_'])
  | "xdigit" => some (.oneOf [digits, .range 'A' 'F', .range 'a' 'f'])
  | _ => none

/-- A named ASCII class after its bracket and colon, up to the colon and bracket that close it. -/
def namedClass? (input : Text) : Option (CharSet × Text) :=
  let (negated, input) := match input with
    | '^' :: rest => (true, rest)
    | _ => (false, input)
  match input.span (· != ':') with
  | (name, ':' :: ']' :: rest) =>
    (asciiClass? (String.ofList name)).map fun set =>
      (if negated then .complement set else set, rest)
  | _ => none

/-- A single character of a class, escaped or not. -/
def classChar? (input : Text) : Option (Char × Text) :=
  match input with
  | '\\' :: rest => charEscape? rest
  | c :: rest => some (c, rest)
  | [] => none

/-- A character or a range of a class. -/
def classRange? (flags : Flags) (input : Text) : Option (CharSet × Text) := do
  let (first, rest) ← classChar? input
  match rest with
  | '-' :: next :: _ =>
    if next = ']' || next = '-' then some (cased flags (.one first), rest)
    else
      let (last, rest) ← classChar? (rest.drop 1)
      if first ≤ last then some (cased flags (.range first last), rest) else none
  | _ => some (cased flags (.one first), rest)

/-- How two parts of a class are combined. -/
inductive ClassOperator where
  | intersection
  | difference
  | symmetricDifference
  deriving DecidableEq, Inhabited

/-- The set that two parts of a class make. -/
def ClassOperator.apply (operator : ClassOperator) (left right : CharSet) : CharSet :=
  match operator with
  | .intersection => .inter left right
  | .difference => .inter left (.complement right)
  | .symmetricDifference =>
    .union (.inter left (.complement right)) (.inter right (.complement left))

/-- The pending left part of a class and its operator, applied to the part just read. -/
def applyPending (pending : Option (CharSet × ClassOperator)) (set : CharSet) : CharSet :=
  match pending with
  | none => set
  | some (left, operator) => operator.apply left set

mutual

/-- The rest of a bracketed class up to its closing bracket; `fuel` bounds its length. -/
def classItems? (flags : Flags) :
    (fuel : Nat) → (pending : Option (CharSet × ClassOperator)) → (set : CharSet) → Text →
      Option (CharSet × Text)
  | 0, _, _, _ => none
  | fuel + 1, pending, set, input =>
    let next (operator : ClassOperator) (rest : Text) : Option (CharSet × Text) :=
      classItems? flags fuel (some (applyPending pending set, operator)) .none rest
    match input with
    | [] => none
    | ']' :: rest => some (applyPending pending set, rest)
    | '&' :: '&' :: rest => next .intersection rest
    | '-' :: '-' :: rest => next .difference rest
    | '~' :: '~' :: rest => next .symmetricDifference rest
    | '[' :: rest =>
      let named := match rest with
        | ':' :: rest => namedClass? rest
        | _ => none
      match named with
      | some (found, rest) => classItems? flags fuel pending (.union set (cased flags found)) rest
      | none =>
        match bracketClass? flags fuel rest with
        | some (found, rest) => classItems? flags fuel pending (.union set found) rest
        | none => none
    | c :: rest =>
      if flags.verbose && Text.isWhiteSpace c then classItems? flags fuel pending set rest
      else
        let escaped := if c = '\\' then classEscape? flags rest else none
        match escaped with
        | some (found, rest) => classItems? flags fuel pending (.union set found) rest
        | none =>
          match classRange? flags (c :: rest) with
          | some (found, rest) => classItems? flags fuel pending (.union set found) rest
          | none => none

/-- A bracketed class after its opening bracket. Leading hyphens, or a closing bracket in first
place, stand for themselves. -/
def bracketClass? (flags : Flags) : (fuel : Nat) → Text → Option (CharSet × Text)
  | 0, _ => none
  | fuel + 1, input =>
    let (negated, input) := match input with
      | '^' :: rest => (true, rest)
      | _ => (false, input)
    let hyphens := input.takeWhile (· = '-')
    let input := input.drop hyphens.length
    let set := if hyphens.isEmpty then CharSet.none else .one '-'
    let (set, input) := match input with
      | ']' :: rest => if hyphens.isEmpty then (.one ']', rest) else (set, input)
      | _ => (set, input)
    match classItems? flags fuel none set input with
    | some (found, rest) => some (if negated then .complement found else found, rest)
    | none => none

end

/-- A decimal count. -/
def count? (digits : Text) : Option Nat :=
  if digits.isEmpty || !digits.all Text.isAsciiDigit then none
  else
    let value := digits.foldl (fun n c => 10 * n + (c.toNat - '0'.toNat)) 0
    if value < 0x100000000 then some value else none

/-- The bounds of a counted repetition after its opening brace. -/
def bounds? (input : Text) : Option (Nat × Option Nat × Text) :=
  match input.span (· != '}') with
  | (body, _ :: rest) =>
    match body.span (· != ',') with
    | (least, _ :: most) =>
      if most.isEmpty then (count? least).map (·, none, rest)
      else do
        let least ← count? least
        let most ← count? most
        if least ≤ most then some (least, some most, rest) else none
    | (exact, []) => (count? exact).map fun n => (n, some n, rest)
  | (_, []) => none

/-- The repetitions written after an item; `fuel` bounds their number. -/
def repeated? (flags : Flags) : (fuel : Nat) → Pattern → Text → Option (Pattern × Text)
  | 0, _, _ => none
  | fuel + 1, item, input =>
    let withBounds (least : Nat) (most : Option Nat) (rest : Text) : Option (Pattern × Text) :=
      match rest with
      | '?' :: rest => repeated? flags fuel (.rounds (!flags.swapGreed) least most item) rest
      | _ => repeated? flags fuel (.rounds flags.swapGreed least most item) rest
    match input with
    | '*' :: rest => withBounds 0 none rest
    | '+' :: rest => withBounds 1 none rest
    | '?' :: rest => withBounds 0 (some 1) rest
    | '{' :: rest =>
      match bounds? rest with
      | some (least, most, rest) => withBounds least most rest
      | none => none
    | _ => some (item, input)

/-- An assertion by an escape, after the backslash. -/
def assertionEscape? (input : Text) : Option (Pattern × Text) :=
  match input with
  | 'b' :: rest =>
    match Text.dropHead? rest ('{' :: "start".toList ++ ['}']) with
    | some rest => some (.wordStart, rest)
    | none =>
      match Text.dropHead? rest ('{' :: "end".toList ++ ['}']) with
      | some rest => some (.wordEnd, rest)
      | none => some (.wordBoundary, rest)
  | 'B' :: rest => some (.notWordBoundary, rest)
  | 'A' :: rest => some (.textStart, rest)
  | 'z' :: rest => some (.textEnd, rest)
  | '<' :: rest => some (.wordStart, rest)
  | '>' :: rest => some (.wordEnd, rest)
  | _ => none

/-- An escape outside brackets, after the backslash. -/
def escape? (flags : Flags) (input : Text) : Option (Pattern × Text) :=
  match assertionEscape? input with
  | some found => some found
  | none =>
    match classEscape? flags input with
    | some (set, rest) => some (.char set, rest)
    | none => (charEscape? input).map fun (c, rest) => (.char (cased flags (.one c)), rest)

/-- Set or clear the flag that a letter names. -/
def setFlag? (flags : Flags) (value : Bool) (c : Char) : Option Flags :=
  match c with
  | 'i' => some { flags with ignoreCase := value }
  | 'm' => some { flags with multiLine := value }
  | 's' => some { flags with dotAll := value }
  | 'U' => some { flags with swapGreed := value }
  | 'x' => some { flags with verbose := value }
  | 'u' | 'R' => some flags
  | _ => none

/-- Flags after `(?`: letters, and after a hyphen those to clear, up to a colon or the closing
parenthesis. -/
def flags? (flags : Flags) (value : Bool) (seen : Text) : Text → Option (Flags × Bool × Text)
  | [] => none
  | c :: rest =>
    if c = ')' then
      if seen.head? = some '-' || seen.isEmpty then none else some (flags, false, rest)
    else if c = ':' then if seen.head? = some '-' then none else some (flags, true, rest)
    else if seen.elem c then none
    else if c = '-' then flags? flags false (c :: seen) rest
    else match setFlag? flags value c with
      | some flags => flags? flags value (c :: seen) rest
      | none => none

/-- Whether a group name is well formed. -/
def isGroupName : Text → Bool
  | [] => false
  | c :: rest => (c = '_' || Text.isAlphabetic c)
    && rest.all fun c => c = '_' || c = '.' || c = '[' || c = ']' || Text.isAlphanumeric c

/-- The rest after the name of a group. -/
def afterGroupName? (input : Text) : Option Text :=
  match input.span (· != '>') with
  | (name, _ :: rest) => if isGroupName name then some rest else none
  | (_, []) => none

mutual

/-- Alternatives up to a closing parenthesis or the end; `fuel` bounds the length. -/
def alternatives? : (fuel : Nat) → Flags → Text → Option (Pattern × Text)
  | 0, _, _ => none
  | fuel + 1, flags, input =>
    match branch? fuel flags [] input with
    | none => none
    | some (first, flags, '|' :: rest) =>
      (alternatives? fuel flags rest).map fun (second, rest) => (.alt first second, rest)
    | some (first, _, rest) => some (first, rest)

/-- One alternative; the items read so far are given in reverse. Flags set inside it stay in force.
-/
def branch? : (fuel : Nat) → Flags → (seen : List Pattern) → Text → Option (Pattern × Flags × Text)
  | 0, _, _, _ => none
  | fuel + 1, flags, seen, input =>
    let add (item : Pattern) (rest : Text) : Option (Pattern × Flags × Text) :=
      match repeated? flags fuel item rest with
      | some (item, rest) => branch? fuel flags (item :: seen) rest
      | none => none
    let group (flags : Flags) (rest : Text) : Option (Pattern × Flags × Text) :=
      match alternatives? fuel flags rest with
      | some (item, ')' :: rest) => add item rest
      | _ => none
    match input with
    | [] => some (.sequence seen.reverse, flags, [])
    | '|' :: _ | ')' :: _ => some (.sequence seen.reverse, flags, input)
    | '(' :: '?' :: 'P' :: '<' :: rest => (afterGroupName? rest).bind (group flags)
    | '(' :: '?' :: '<' :: rest => (afterGroupName? rest).bind (group flags)
    | '(' :: '?' :: rest =>
      match flags? flags true [] rest with
      | some (inner, true, rest) => group inner rest
      | some (inner, false, rest) =>
        match rest with
        | '*' :: _ | '+' :: _ | '?' :: _ | '{' :: _ => none
        | _ => branch? fuel inner seen rest
      | none => none
    | '(' :: rest => group flags rest
    | '[' :: rest =>
      match bracketClass? flags fuel rest with
      | some (set, rest) => add (.char set) rest
      | none => none
    | '\\' :: rest =>
      match escape? flags rest with
      | some (item, rest) => add item rest
      | none => none
    | '*' :: _ | '+' :: _ | '?' :: _ | '{' :: _ => none
    | '.' :: rest => add (.char (if flags.dotAll then .any else .complement (.one '\n'))) rest
    | '^' :: rest => add (if flags.multiLine then .lineStart else .textStart) rest
    | '$' :: rest => add (if flags.multiLine then .lineEnd else .textEnd) rest
    | c :: rest =>
      if flags.verbose && Text.isWhiteSpace c then branch? fuel flags seen rest
      else if flags.verbose && c = '#' then branch? fuel flags seen (rest.dropWhile (· != '\n'))
      else add (.char (cased flags (.one c))) rest

end

/-- The pattern that a text writes, if it is well formed. -/
def parse? (ignoreCase : Bool) (text : Text) : Option Pattern :=
  match alternatives? (2 * text.length + 4) { ignoreCase } text with
  | some (pattern, []) => some pattern
  | _ => none

end CodeAtlas.Pattern
