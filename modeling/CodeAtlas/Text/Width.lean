import CodeAtlas.Text.Basic
import CodeAtlas.Text.Table.Width

/-!
# The room that text takes
-/

namespace CodeAtlas.Text

/-- The columns that a character takes where characters have equal width. -/
def charWidth (c : Char) : Nat :=
  if isAscii c then 1
  else if Table.zeroWidth.contains c.toNat then 0
  else if Table.doubleWidth.contains c.toNat then 2
  else 1

/-- The columns that a line of text takes. -/
def width (line : Text) : Nat :=
  line.foldl (fun total c => total + charWidth c) 0

end CodeAtlas.Text
