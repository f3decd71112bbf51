/-!
# Tables of code point ranges

A property of characters is stored as the ascending, disjoint ranges of code points that have it.
`RangeTable.contains` is the only way the rest of the library looks into such a table.
-/

namespace CodeAtlas.Text

/-- Ascending, disjoint, inclusive ranges of code points. -/
abbrev RangeTable := Array (Nat × Nat)

namespace RangeTable

/-- Binary search for `point` among the ranges with index in `[low, high)`; `fuel` bounds the number
of halvings. -/
def search (table : RangeTable) (point : Nat) : (fuel low high : Nat) → Bool
  | 0, _, _ => false
  | fuel + 1, low, high =>
    if low < high then
      let middle := (low + high) / 2
      match table[middle]? with
      | none => false
      | some (first, last) =>
        if point < first then search table point fuel low middle
        else if last < point then search table point fuel (middle + 1) high
        else true
    else false

/-- Whether `point` lies in one of the ranges. -/
def contains (table : RangeTable) (point : Nat) : Bool :=
  search table point (table.size + 1) 0 table.size

end RangeTable

end CodeAtlas.Text
