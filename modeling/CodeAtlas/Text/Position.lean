import CodeAtlas.Text.Basic

/-!
# Lines and columns of byte offsets

Lines and columns count from one; a column counts characters. Offsets past the end have the position
of the end.
-/

namespace CodeAtlas.Text

/-- The number of line feeds among the first `offset` bytes. -/
def lineFeedsBefore : Text → Nat → Nat
  | [], _ => 0
  | c :: rest, offset =>
    if offset = 0 then 0
    else (if c = '\n' then 1 else 0) + lineFeedsBefore rest (offset - c.utf8Size)

/-- The line of a byte offset. -/
def lineOfOffset (text : Text) (offset : Nat) : Nat :=
  lineFeedsBefore text offset + 1

/-- The characters between the last line feed before `offset` and `offset`, given that `count` of
them were read so far. -/
def charsSinceLineFeed : Text → Nat → Nat → Nat
  | [], _, count => count
  | c :: rest, offset, count =>
    if offset = 0 then count
    else charsSinceLineFeed rest (offset - c.utf8Size) (if c = '\n' then 0 else count + 1)

/-- The column of a byte offset. -/
def columnOfOffset (text : Text) (offset : Nat) : Nat :=
  charsSinceLineFeed text offset 0 + 1

/-- The column of a byte offset, or `none` inside a character. -/
def columnAt? (text : Text) (offset : Nat) : Option Nat :=
  (takeBytes? text (min offset (byteLength text))).map fun _ => columnOfOffset text offset

end CodeAtlas.Text
