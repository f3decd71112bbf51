import CodeAtlas.Text.Casing

/-!
# Patterns

The abstract form of text patterns: sets of characters, sequences, ordered choices, repetitions,
numbered groups and assertions about a position. `CodeAtlas.Pattern.Match` says what a pattern
matches; this module only builds patterns.
-/

namespace CodeAtlas

/-- A set of characters. -/
inductive CharSet where
  /-- Every character. -/
  | any
  /-- One character. -/
  | one (c : Char)
  /-- The characters from `first` to `last`. -/
  | range (first last : Char)
  /-- The characters with code points in a table of ranges. -/
  | table (ranges : Text.RangeTable)
  /-- Word characters. -/
  | word
  /-- Decimal digits. -/
  | digit
  /-- White space. -/
  | space
  /-- The characters of either set. -/
  | union (left right : CharSet)
  /-- The characters of both sets. -/
  | inter (left right : CharSet)
  /-- The characters outside a set. -/
  | complement (set : CharSet)
  /-- The characters that differ at most in case from one of the set. -/
  | folded (set : CharSet)
  deriving Inhabited

namespace CharSet

/-- Whether a character belongs to a set. -/
def contains : CharSet → Char → Bool
  | .any, _ => true
  | .one d, c => c = d
  | .range first last, c => first ≤ c && c ≤ last
  | .table ranges, c => ranges.contains c.toNat
  | .word, c => Text.isWordChar c
  | .digit, c => Text.isDecimalDigit c
  | .space, c => Text.isWhiteSpace c
  | .union left right, c => left.contains c || right.contains c
  | .inter left right, c => left.contains c && right.contains c
  | .complement set, c => !set.contains c
  | .folded set, c => set.contains c || (Text.foldOrbit c).any set.contains

/-- The set without characters. -/
def none : CharSet :=
  .complement .any

/-- The union of a list of sets. -/
def oneOf (sets : List CharSet) : CharSet :=
  sets.foldr .union none

/-- The set of the characters of a string. -/
def ofString (text : String) : CharSet :=
  oneOf (text.toList.map .one)

/-- The set of the characters that a string does not hold. -/
def notIn (text : String) : CharSet :=
  .complement (ofString text)

/-- The characters that may start an ASCII identifier. -/
def identStart : CharSet :=
  oneOf [.range 'A' 'Z', .range 'a' 'z', .one '_', .one '$']

/-- The characters that may continue an identifier in a pattern: word characters and the dollar
sign. -/
def identPart : CharSet :=
  .union .word (.one '$')

end CharSet

/-- A pattern. -/
inductive Pattern where
  /-- Matches without reading. -/
  | empty
  /-- One character of a set. -/
  | char (set : CharSet)
  /-- One pattern, then another. -/
  | seq (first second : Pattern)
  /-- The first pattern, or else the second. -/
  | alt (first second : Pattern)
  /-- At least `least` and at most `most` rounds; as many as possible first, or as few if `lazy`. -/
  | rounds (lazy : Bool) (least : Nat) (most : Option Nat) (body : Pattern)
  /-- A pattern whose extent is recorded under a number. -/
  | group (number : Nat) (body : Pattern)
  /-- The start of the text. -/
  | textStart
  /-- The end of the text. -/
  | textEnd
  /-- The start of a line. -/
  | lineStart
  /-- The end of a line. -/
  | lineEnd
  /-- Between a word character and another character or an end of the text. -/
  | wordBoundary
  /-- Anywhere but at a word boundary. -/
  | notWordBoundary
  /-- A word boundary followed by a word character. -/
  | wordStart
  /-- A word boundary after a word character. -/
  | wordEnd
  deriving Inhabited

namespace Pattern

/-- Patterns one after another. -/
def sequence : List Pattern → Pattern
  | [] => empty
  | [pattern] => pattern
  | pattern :: rest => seq pattern (sequence rest)

/-- The first of several patterns that leads to a match. -/
def choice : List Pattern → Pattern
  | [] => char CharSet.none
  | [pattern] => pattern
  | pattern :: rest => alt pattern (choice rest)

/-- The characters of a string one after another. -/
def literal (text : String) : Pattern :=
  sequence (text.toList.map fun c => char (.one c))

/-- Any number of rounds, as many as possible. -/
def many (body : Pattern) : Pattern :=
  rounds false 0 none body

/-- At least one round, as many as possible. -/
def many1 (body : Pattern) : Pattern :=
  rounds false 1 none body

/-- Any number of rounds, as few as possible. -/
def manyLazy (body : Pattern) : Pattern :=
  rounds true 0 none body

/-- At least one round, as few as possible. -/
def many1Lazy (body : Pattern) : Pattern :=
  rounds true 1 none body

/-- One round if possible, else none. -/
def optional (body : Pattern) : Pattern :=
  rounds false 0 (some 1) body

/-- Any amount of white space. -/
def blanks : Pattern :=
  many (char .space)

/-- Some white space. -/
def blanks1 : Pattern :=
  many1 (char .space)

/-- An identifier that starts with an ASCII letter, an underscore or a dollar sign. -/
def identifier : Pattern :=
  seq (char .identStart) (many (char .identPart))

/-- A word followed by some white space. -/
def keyword (text : String) : Pattern :=
  seq (literal text) blanks1

/-- Any number of the given words, each followed by some white space. -/
def keywords (words : List String) : Pattern :=
  many (seq (choice (words.map literal)) blanks1)

end Pattern

end CodeAtlas
