import CodeAtlas.Text.Basic

/-!
# Words on a line

`identifierAt?` finds the word under a cursor and `wordOccurrences` finds every whole-word
occurrence of a given word. Both call a word what identifier characters bound.
-/

namespace CodeAtlas.Text

/-- The trailing run of identifier characters. -/
def trailingRun (text : Text) : Text :=
  (text.reverse.takeWhile isIdentChar).reverse

/-- The word touching the gap before character number `index` (from zero) of a line, with the column
it starts at. A word that starts with a digit does not count. -/
def identifierTouching? (line : Text) (index : Nat) : Option (Text × Nat) :=
  if line.length < index then none
  else
    let left := trailingRun (line.take index)
    match left ++ (line.drop index).takeWhile isIdentChar with
    | [] => none
    | c :: rest => if isAsciiDigit c then none else some (c :: rest, index - left.length + 1)

/-- The word at a line and column, both from one, with the column it starts at. A cursor just past
the last character of a word still touches it. -/
def identifierAt? (content : Text) (line column : Nat) : Option (Text × Nat) :=
  if line = 0 || column = 0 then none
  else (lines content)[line - 1]? |>.bind (identifierTouching? · (column - 1))

/-- The occurrences of `word` in a text that starts at byte `offset` and column `column` and follows
the character `before`. `skip` characters belong to the occurrence found last. -/
def wordOccurrencesFrom (word : Text) :
    (before : Option Char) → (offset column skip : Nat) → Text → List (Nat × Nat)
  | _, _, _, _, [] => []
  | before, offset, column, skip, c :: rest =>
    let later (n : Nat) :=
      wordOccurrencesFrom word (some c) (offset + c.utf8Size) (column + 1) n rest
    match skip with
    | n + 1 => later n
    | 0 =>
      match dropHead? (c :: rest) word with
      | none => later 0
      | some after =>
        if before.any isIdentChar || after.head?.any isIdentChar then later (word.length - 1)
        else (offset, column) :: later (word.length - 1)

/-- The byte offset and column of every whole-word occurrence of `word` in a line. -/
def wordOccurrences (line word : Text) : List (Nat × Nat) :=
  if word.isEmpty then [] else wordOccurrencesFrom word none 0 1 0 line

end CodeAtlas.Text
