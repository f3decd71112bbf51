import CodeAtlas.Pattern.Match

/-!
# Globs

A glob is a list of items that has to match the whole of a path. Paths are matched byte by byte: a
question mark or a set stands for one byte. By default a star also matches slashes; where it must
not, globs are matched with separators kept.
-/

namespace CodeAtlas

/-- One item of a glob. -/
inductive GlobItem where
  /-- A character. -/
  | literal (c : Char)
  /-- Any one byte, written `?`. -/
  | one
  /-- Any number of bytes, written `*`. -/
  | many
  /-- Any leading directories, written `**` and a slash at the start. -/
  | leading
  /-- Anything below a directory, written as a slash and `**` at the end. -/
  | trailing
  /-- Any directories in between, written `**` between two slashes. -/
  | between
  /-- A byte of one of the ranges, or of none of them if `negated`. -/
  | set (negated : Bool) (ranges : List (Char × Char))
  /-- One of several branches. -/
  | group (branches : List (List GlobItem))
  deriving Inhabited

/-- A glob is the list of its items. -/
abbrev Glob := List GlobItem

namespace Glob

/-- The bytes of a text, each as the character with that code. -/
def byteText (text : Text) : Text :=
  (Text.bytes text).map fun byte => Char.ofNat byte.toNat

/-- The byte sets of a range: the bytes of its ends, with a range from the last byte of the first
character to the first byte of the last. -/
def rangeSet (first last : Char) : CharSet :=
  let start := byteText [first]
  let stop := byteText [last]
  if first = last then .oneOf (start.map .one)
  else match start.getLast?, stop.head? with
    | some a, some b =>
      .oneOf (start.dropLast.map .one ++ [.range a b] ++ (stop.drop 1).map .one)
    | _, _ => .none

/-- Any number of bytes. -/
def anything : Pattern :=
  .many (.char .any)

/-- The bytes that a star and a question mark stand for. -/
def wildSet (keepSeparators : Bool) : CharSet :=
  if keepSeparators then .complement (.one '/') else .any

mutual

/-- The pattern of one item. -/
def itemPattern (keepSeparators : Bool) : GlobItem → Pattern
  | .literal c => .sequence ((byteText [c]).map fun b => .char (.one b))
  | .one => .char (wildSet keepSeparators)
  | .many => .many (.char (wildSet keepSeparators))
  | .leading => .alt (.optional (.char (.one '/'))) (.seq anything (.char (.one '/')))
  | .trailing => .seq (.char (.one '/')) anything
  | .between =>
    .alt (.char (.one '/')) (.seq (.char (.one '/')) (.seq anything (.char (.one '/'))))
  | .set negated ranges =>
    let bytes := CharSet.oneOf (ranges.map fun range => rangeSet range.1 range.2)
    .char (if negated then .complement bytes else bytes)
  | .group branches => branchesPattern keepSeparators branches

/-- The pattern of a list of items. -/
def itemsPattern (keepSeparators : Bool) : List GlobItem → Pattern
  | [] => .empty
  | item :: rest => .seq (itemPattern keepSeparators item) (itemsPattern keepSeparators rest)

/-- The pattern of the branches of a group. Empty branches do not count, and a group of nothing else
matches without reading. -/
def branchesPattern (keepSeparators : Bool) : List (List GlobItem) → Pattern
  | [] => .empty
  | [] :: rest => branchesPattern keepSeparators rest
  | (item :: items) :: rest =>
    let first := Pattern.seq (itemPattern keepSeparators item) (itemsPattern keepSeparators items)
    if rest.all List.isEmpty then first
    else .alt first (branchesPattern keepSeparators rest)

end

/-- The pattern of a glob; a lone leading item matches every path. -/
def pattern (keepSeparators : Bool) (glob : Glob) : Pattern :=
  match glob with
  | [.leading] => anything
  | _ => itemsPattern keepSeparators glob

/-- Whether a glob matches the whole of a path, with stars that stop at slashes if
`keepSeparators`. -/
def matchesWith (keepSeparators : Bool) (glob : Glob) (path : Text) : Bool :=
  (Pattern.matchStart? (.seq (glob.pattern keepSeparators) .textEnd) (byteText path)).isSome

/-- Whether a glob matches the whole of a path. -/
def accepts (glob : Glob) (path : Text) : Bool :=
  glob.matchesWith false path

end Glob

end CodeAtlas
