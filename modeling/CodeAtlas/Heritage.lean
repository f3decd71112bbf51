import CodeAtlas.Pattern.Match
import CodeAtlas.Text.Mask
import CodeAtlas.Text.Position
import CodeAtlas.Text.Delimiter

/-!
# Class and interface headers

`Heritage.scan?` lists the headers of a text with the names in their `extends` and `implements`
clauses. It reads the masked text, so headers inside literals and comments do not count. The result
is `none` only if a cut of the text fell outside it, which no text brings about.
-/

namespace CodeAtlas

/-- Whether a header declares a class or an interface. -/
inductive HeaderKind where
  | ofClass
  | ofInterface
  deriving DecidableEq, Repr, Inhabited

/-- The header of a class or interface declaration. Line and column are those of its name. The bases
are the names it extends and the interfaces those it implements, without qualifiers and type
arguments. -/
structure ClassHeader where
  kind : HeaderKind
  name : String
  line : Nat
  column : Nat
  bases : List String
  interfaces : List String
  deriving DecidableEq, Repr, Inhabited

namespace Heritage

open Pattern (Match)
open Text (splitBy trim isIdentChar)

/-- A class or interface keyword, group 1, and the name after it, group 2. -/
def headerPattern : Pattern :=
  .sequence [.wordBoundary, .group 1 (.alt (.literal "class") (.literal "interface")), .blanks1,
    .group 2 .identifier]

/-- The last name of a dotted type without its arguments: `ns.Base<T>` gives `Base`. -/
def bareTypeName? (raw : Text) : Option String :=
  let head := (trim raw).takeWhile fun c => c != '<' && c != '('
  let last := trim ((splitBy (· = '.') head).getLastD [])
  if !last.isEmpty && last.all isIdentChar then some (String.ofList last) else none

/-- The names of a list of types. -/
def typeNames (list : Text) : List String :=
  (Text.splitTopLevel list ',').filterMap bareTypeName?

/-- Whether a single byte reads as an identifier character. -/
def isIdentByte (byte : UInt8) : Bool :=
  isIdentChar (Char.ofNat byte.toNat)

/-- Whether `keyword` starts the bytes and no identifier character touches it. -/
def isWholeWord (keyword : List UInt8) (before : Option UInt8) (bytes : List UInt8) : Bool :=
  keyword.isPrefixOf bytes && !before.any isIdentByte
    && !(bytes.drop keyword.length).head?.any isIdentByte

/-- The index, counted from `index`, where `keyword` stands as a whole word outside all brackets. -/
def keywordFrom? (keyword : List UInt8) :
    (before : Option UInt8) → (index : Nat) → (depth : Int) → List UInt8 → Option Nat
  | _, _, _, [] => none
  | before, index, depth, b :: rest =>
    if b = 0x3C || b = 0x28 || b = 0x5B || b = 0x7B then
      keywordFrom? keyword (some b) (index + 1) (depth + 1) rest
    else if b = 0x3E || b = 0x29 || b = 0x5D || b = 0x7D then
      keywordFrom? keyword (some b) (index + 1) (depth - 1) rest
    else if depth = 0 && isWholeWord keyword before (b :: rest) then some index
    else keywordFrom? keyword (some b) (index + 1) depth rest

/-- The byte offset of `keyword` as a whole word outside all brackets. -/
def keywordAtTopLevel? (text : Text) (keyword : String) : Option Nat :=
  keywordFrom? (Text.bytes keyword.toList) none 0 0 (Text.bytes text)

/-- The names of the clause that starts at `start` with a keyword of `length` bytes and ends before
the other clause, or with the header. -/
def clause? (header : Text) (start : Option Nat) (length : Nat) (other : Option Nat) :
    Option (List String) :=
  match start with
  | none => some []
  | some start =>
    let stop := match other with
      | some other => if other > start then other else Text.byteLength header
      | none => Text.byteLength header
    (Text.slice? header (start + length) stop).map typeNames

/-- The offset where the heritage clauses start: after the name and its type parameters. -/
def headerStart? (masked : Text) (nameEnd : Nat) : Option Nat := do
  let rest ← Text.dropBytes? masked nameEnd
  if (Text.trimStart rest).head? = some '<' then
    let start := nameEnd + (Text.findChar? rest (· = '<')).getD 0
    pure (match Text.matchingDelimiter? masked start with
      | some close => close + 1
      | none => nameEnd)
  else pure nameEnd

/-- The header of a match: nothing for a keyword that is a property name or names a clause, and
nothing if neither a body nor a semicolon follows. -/
def header? (content masked : Text) (found : Match) : Option (Option ClassHeader) := do
  let (keywordStart, _) ← found.group? 1
  let (nameStart, nameEnd) ← found.group? 2
  let keyword ← found.text? masked 1
  let name := String.ofList (← found.text? masked 2)
  let before ← Text.takeBytes? masked keywordStart
  if name = "extends" || name = "implements" then return none
  if (Text.trimEnd before).getLast? = some '.' then return none
  let start ← headerStart? masked nameEnd
  let rest ← Text.dropBytes? masked start
  if !rest.any (fun c => c = '{' || c = ';') then return none
  let header := rest.takeWhile fun c => c != '{' && c != ';'
  let extendsAt := keywordAtTopLevel? header "extends"
  let implementsAt := keywordAtTopLevel? header "implements"
  let bases ← clause? header extendsAt 7 implementsAt
  let interfaces ← clause? header implementsAt 10 extendsAt
  let column ← Text.columnAt? content nameStart
  return some {
    kind := if keyword = "class".toList then .ofClass else .ofInterface
    name
    line := Text.lineOfOffset content nameStart
    column
    bases
    interfaces }

/-- The class and interface headers of a text, in source order. -/
def scan? (content : Text) : Option (List ClassHeader) :=
  let masked := Text.mask .all content
  ((headerPattern.searchAll masked).mapM (header? content masked)).map (·.filterMap id)

end Heritage

end CodeAtlas
