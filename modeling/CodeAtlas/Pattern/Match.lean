import CodeAtlas.Pattern.Basic
import CodeAtlas.Text.Cursor

/-!
# Matching patterns

`Pattern.run` tries the ways of matching a pattern at a cursor in order of preference and hands each
to a continuation until one succeeds, so the first success is the preferred match. A repetition goes
round again only after reading something, which bounds its rounds by the text that is left.
`Pattern.search?` finds the leftmost match.
-/

namespace CodeAtlas.Pattern

open Text (Cursor)

/-- Extents recorded so far, newest first: group number, start and end offset. -/
abbrev Groups := List (Nat × Nat × Nat)

/-- What is tried after a pattern has matched. -/
abbrev Continuation (α : Type) := Cursor → Groups → Option α

/-- A way of matching: it hands every way to go on to its continuation. -/
abbrev Step (α : Type) := Cursor → Groups → Continuation α → Option α

/-- Exactly `n` rounds of a step. -/
def exactly {α : Type} (step : Step α) : Nat → Step α
  | 0, cursor, groups, next => next cursor groups
  | n + 1, cursor, groups, next =>
    step cursor groups fun cursor groups => exactly step n cursor groups next

/-- At most `n` rounds of a step, each of which has to read something. -/
def atMost {α : Type} (lazy : Bool) (step : Step α) : Nat → Step α
  | 0, cursor, groups, next => next cursor groups
  | n + 1, cursor, groups, next =>
    let again (_ : Unit) : Option α := step cursor groups fun after groups =>
      if after.offset = cursor.offset then none else atMost lazy step n after groups next
    if lazy then (next cursor groups).orElse again
    else (again ()).orElse fun _ => next cursor groups

/-- Whether a word character stands on exactly one side of the cursor. -/
def atWordBoundary (cursor : Cursor) : Bool :=
  cursor.before.any Text.isWordChar != cursor.rest.head?.any Text.isWordChar

/-- Go on if a condition on the position holds. -/
def assert {α : Type} (condition : Bool) (cursor : Cursor) (groups : Groups)
    (next : Continuation α) : Option α :=
  if condition then next cursor groups else none

/-- Match a pattern at a cursor and go on with the continuation, in order of preference. -/
def run {α : Type} : Pattern → Step α
  | .empty, cursor, groups, next => next cursor groups
  | .char set, cursor, groups, next =>
    match cursor.rest with
    | [] => none
    | c :: rest =>
      if set.contains c then next ⟨some c, cursor.offset + c.utf8Size, rest⟩ groups else none
  | .seq first second, cursor, groups, next =>
    run first cursor groups fun cursor groups => run second cursor groups next
  | .alt first second, cursor, groups, next =>
    (run first cursor groups next).orElse fun _ => run second cursor groups next
  | .rounds lazy least most body, cursor, groups, next =>
    exactly (run body) least cursor groups fun cursor groups =>
      let left := cursor.rest.length
      let bound := match most with
        | none => left
        | some limit => min (limit - least) left
      atMost lazy (run body) bound cursor groups next
  | .group number body, cursor, groups, next =>
    run body cursor groups fun after groups =>
      next after ((number, cursor.offset, after.offset) :: groups)
  | .textStart, cursor, groups, next => assert cursor.before.isNone cursor groups next
  | .textEnd, cursor, groups, next => assert cursor.rest.isEmpty cursor groups next
  | .lineStart, cursor, groups, next =>
    assert (cursor.before.isNone || cursor.before = some '\n') cursor groups next
  | .lineEnd, cursor, groups, next =>
    assert (cursor.rest.isEmpty || cursor.rest.head? = some '\n') cursor groups next
  | .wordBoundary, cursor, groups, next => assert (atWordBoundary cursor) cursor groups next
  | .notWordBoundary, cursor, groups, next => assert (!atWordBoundary cursor) cursor groups next
  | .wordStart, cursor, groups, next =>
    assert (atWordBoundary cursor && cursor.rest.head?.any Text.isWordChar) cursor groups next
  | .wordEnd, cursor, groups, next =>
    assert (atWordBoundary cursor && cursor.before.any Text.isWordChar) cursor groups next

/-- A match: where it starts and ends, and the extents of its groups. -/
structure Match where
  start : Nat
  stop : Nat
  groups : Groups
  deriving Inhabited

/-- The extent of a group, if the group took part in the match. -/
def Match.group? (found : Match) (number : Nat) : Option (Nat × Nat) :=
  (found.groups.find? (·.1 = number)).map (·.2)

/-- The text of a group, if the group took part in the match. -/
def Match.text? (found : Match) (text : Text) (number : Nat) : Option Text :=
  found.group? number |>.bind fun (start, stop) => Text.slice? text start stop

/-- The preferred match at a cursor, with the cursor after it. -/
def matchAt? (pattern : Pattern) (cursor : Cursor) : Option (Match × Cursor) :=
  run pattern cursor [] fun after groups =>
    some ({ start := cursor.offset, stop := after.offset, groups }, after)

/-- The preferred match at the start of a text. -/
def matchStart? (pattern : Pattern) (text : Text) : Option Match :=
  (matchAt? pattern (Cursor.start text)).map (·.1)

/-- The leftmost match from a cursor on, given as the parts of the cursor. -/
def searchFrom? (pattern : Pattern) (before : Option Char) (offset : Nat) (rest : Text) :
    Option (Match × Cursor) :=
  match matchAt? pattern ⟨before, offset, rest⟩ with
  | some found => some found
  | none =>
    match rest with
    | [] => none
    | c :: tail => searchFrom? pattern (some c) (offset + c.utf8Size) tail

/-- The leftmost match in a text. -/
def search? (pattern : Pattern) (text : Text) : Option Match :=
  (searchFrom? pattern none 0 text).map (·.1)

/-- The matches from a cursor on, each after the end of the one before; `fuel` bounds their number.
An empty match is passed over by one character. -/
def searchAllFrom (pattern : Pattern) : (fuel : Nat) → Cursor → List Match
  | 0, _ => []
  | fuel + 1, cursor =>
    match searchFrom? pattern cursor.before cursor.offset cursor.rest with
    | none => []
    | some (found, after) =>
      if found.start = found.stop then
        match after.rest with
        | [] => [found]
        | c :: tail =>
          found :: searchAllFrom pattern fuel ⟨some c, after.offset + c.utf8Size, tail⟩
      else found :: searchAllFrom pattern fuel after

/-- Every match in a text, from left to right without overlaps. -/
def searchAll (pattern : Pattern) (text : Text) : List Match :=
  searchAllFrom pattern (text.length + 1) (Cursor.start text)

/-- Whether a pattern matches somewhere in a text. -/
def matchesIn (pattern : Pattern) (text : Text) : Bool :=
  (search? pattern text).isSome

end CodeAtlas.Pattern
