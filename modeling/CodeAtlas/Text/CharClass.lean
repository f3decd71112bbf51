import CodeAtlas.Text.Table.Alphabetic
import CodeAtlas.Text.Table.Numeric
import CodeAtlas.Text.Table.Decimal
import CodeAtlas.Text.Table.Word

/-!
# Classes of characters

The character classes that the scanners ask for. Inside ASCII each class is a comparison of code
points; outside it is a table of ranges.
-/

namespace CodeAtlas.Text

/-- An ASCII letter. -/
def isAsciiLetter (c : Char) : Bool :=
  ('a' ≤ c && c ≤ 'z') || ('A' ≤ c && c ≤ 'Z')

/-- An ASCII decimal digit. -/
def isAsciiDigit (c : Char) : Bool :=
  '0' ≤ c && c ≤ '9'

/-- A hexadecimal digit of either case. -/
def isHexDigit (c : Char) : Bool :=
  isAsciiDigit c || ('a' ≤ c && c ≤ 'f') || ('A' ≤ c && c ≤ 'F')

/-- A character with code point below U+0080. -/
def isAscii (c : Char) : Bool :=
  c.toNat < 0x80

/-- Space, tab, line feed, form feed or carriage return: the blanks of one byte that byte scanners
skip. -/
def isAsciiBlank (c : Char) : Bool :=
  c = ' ' || c = '\t' || c = '\n' || c = '\x0c' || c = '\r'

/-- A character with the Unicode property Alphabetic. -/
def isAlphabetic (c : Char) : Bool :=
  if c.toNat < 0x80 then isAsciiLetter c else Table.alphabetic.contains c.toNat

/-- A character of general category Nd, Nl or No. -/
def isNumeric (c : Char) : Bool :=
  if c.toNat < 0x80 then isAsciiDigit c else Table.numeric.contains c.toNat

/-- Alphabetic or numeric. -/
def isAlphanumeric (c : Char) : Bool :=
  isAlphabetic c || isNumeric c

/-- A character with the Unicode property White_Space. -/
def isWhiteSpace (c : Char) : Bool :=
  let n := c.toNat
  n = 0x20 || (0x09 ≤ n && n ≤ 0x0D) || n = 0x85 || n = 0xA0 || n = 0x1680
    || (0x2000 ≤ n && n ≤ 0x200A) || n = 0x2028 || n = 0x2029 || n = 0x202F || n = 0x205F
    || n = 0x3000

/-- A decimal digit of any script. -/
def isDecimalDigit (c : Char) : Bool :=
  if c.toNat < 0x80 then isAsciiDigit c else Table.decimalDigit.contains c.toNat

/-- A character that words are made of: Alphabetic, a mark, a decimal digit, connector punctuation
or a join control. -/
def isWordChar (c : Char) : Bool :=
  if c.toNat < 0x80 then isAsciiLetter c || isAsciiDigit c || c = '_'
  else Table.word.contains c.toNat

/-- A character that may stand inside an identifier. -/
def isIdentChar (c : Char) : Bool :=
  isAlphanumeric c || c = '_' || c = '$'

/-- A character that may start an identifier. -/
def isIdentStart (c : Char) : Bool :=
  isAlphabetic c || c = '_' || c = '$'

/-- A non-empty text that starts like an identifier and goes on with identifier characters. -/
def isIdentifier : List Char → Bool
  | [] => false
  | c :: rest => isIdentStart c && rest.all isIdentChar

end CodeAtlas.Text
