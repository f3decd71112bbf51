import CodeAtlas.Text.Basic

/-!
# Cursors

A cursor is a position in a text that knows the character before it and the text after it.
-/

namespace CodeAtlas.Text

/-- A position in a text: the character before it, its byte offset and the text after it. -/
structure Cursor where
  before : Option Char
  offset : Nat
  rest : Text
  deriving Inhabited

namespace Cursor

/-- The cursor at the start of a text. -/
def start (text : Text) : Cursor :=
  ⟨none, 0, text⟩

/-- The cursor one character further; at the end it stays. -/
def advance (cursor : Cursor) : Cursor :=
  match cursor.rest with
  | [] => cursor
  | c :: rest => ⟨some c, cursor.offset + c.utf8Size, rest⟩

/-- The cursor `count` characters further. -/
def advanceBy (cursor : Cursor) : Nat → Cursor
  | 0 => cursor
  | n + 1 => cursor.advance.advanceBy n

/-- The cursor after the characters of `rest` that satisfy `test`, given the start of the walk. -/
def skipWhileFrom (test : Char → Bool) (before : Option Char) (offset : Nat) : Text → Cursor
  | [] => ⟨before, offset, []⟩
  | c :: rest =>
    if test c then skipWhileFrom test (some c) (offset + c.utf8Size) rest
    else ⟨before, offset, c :: rest⟩

/-- The cursor after the characters that satisfy `test`. -/
def skipWhile (cursor : Cursor) (test : Char → Bool) : Cursor :=
  skipWhileFrom test cursor.before cursor.offset cursor.rest

/-- The cursor after the blanks of one byte. -/
def skipBlanks (cursor : Cursor) : Cursor :=
  cursor.skipWhile isAsciiBlank

/-- The cursor `count` bytes after the start of the walk, or `none` unless that is a boundary. -/
def seekFrom? (before : Option Char) (offset : Nat) : Text → Nat → Option Cursor
  | rest, 0 => some ⟨before, offset, rest⟩
  | [], _ + 1 => none
  | c :: rest, n + 1 =>
    if c.utf8Size ≤ n + 1 then
      seekFrom? (some c) (offset + c.utf8Size) rest (n + 1 - c.utf8Size)
    else none

/-- The cursor at a byte offset of a text, or `none` unless that is a character boundary. -/
def seek? (text : Text) (offset : Nat) : Option Cursor :=
  seekFrom? none 0 text offset

/-- The next character. -/
def next? (cursor : Cursor) : Option Char :=
  cursor.rest.head?

/-- Whether `part` comes next. -/
def startsWith (cursor : Cursor) (part : String) : Bool :=
  Text.startsWith cursor.rest part.toList

end Cursor

end CodeAtlas.Text
