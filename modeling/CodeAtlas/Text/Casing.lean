import CodeAtlas.Text.Basic
import CodeAtlas.Text.Table.Casing

/-!
# Letter case

`lowercase` is the full lower case of a text, with the two rules that are not character by
character: the dotted capital I becomes two characters, and a capital sigma that ends a word becomes
the final sigma. `foldChar` is simple case folding, the relation under which a case-insensitive
pattern compares single characters.
-/

namespace CodeAtlas.Text

/-- The lower case of one ASCII character. -/
def asciiLowerChar (c : Char) : Char :=
  if 'A' ≤ c && c ≤ 'Z' then Char.ofNat (c.toNat + 32) else c

/-- The text with its ASCII letters in lower case. -/
def asciiLowercase (text : Text) : Text :=
  text.map asciiLowerChar

/-- The lower case of one character that has a single lower-case character. -/
def lowerChar (c : Char) : Char :=
  if c.toNat < 0x80 then asciiLowerChar c else Char.ofNat (Table.lowercase.map c.toNat)

/-- A letter that has case. -/
def isCased (c : Char) : Bool :=
  if c.toNat < 0x80 then isAsciiLetter c else Table.cased.contains c.toNat

/-- A character that is skipped when looking for the neighbouring letter of a sigma. -/
def isCaseIgnorable (c : Char) : Bool :=
  if c.toNat < 0x80 then c = '\'' || c = '.' || c = ':' || c = '^' || c = '`'
  else Table.caseIgnorable.contains c.toNat

/-- Whether the first character that is not skipped has case. -/
def startsCased (text : Text) : Bool :=
  match text.dropWhile isCaseIgnorable with
  | [] => false
  | c :: _ => isCased c

/-- Lower case of a text whose preceding characters, nearest first, are `before`. -/
def lowercaseFrom (before : Text) : Text → Text
  | [] => []
  | c :: rest =>
    let lowered :=
      if c = 'Σ' then [if startsCased before && !startsCased rest then 'ς' else 'σ']
      else if c = 'İ' then ['i', '\u0307']
      else [lowerChar c]
    lowered ++ lowercaseFrom (c :: before) rest

/-- The full lower case of a text. -/
def lowercase (text : Text) : Text :=
  lowercaseFrom [] text

/-- The simple case folding of a character. -/
def foldChar (c : Char) : Char :=
  if c.toNat < 0x80 then asciiLowerChar c else Char.ofNat (Table.caseFold.map c.toNat)

/-- The characters that fold to the same character as `c`. -/
def foldOrbit (c : Char) : List Char :=
  let folded := foldChar c
  let upper := if 'a' ≤ folded && folded ≤ 'z' then [Char.ofNat (folded.toNat - 32)] else []
  folded :: upper ++ (Table.caseFold.preimages folded.toNat).map Char.ofNat

end CodeAtlas.Text
