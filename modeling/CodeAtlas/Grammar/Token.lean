import CodeAtlas.Text.Basic

/-!
# Tokens of the source language

A token records its extent and what stands between it and the token before: whether a line ends
there, and where a semicolon that is left out would stand.
-/

namespace CodeAtlas.Grammar

/-- The kinds of tokens. -/
inductive TokenKind where
  /-- A name or keyword. -/
  | name
  /-- A name that is private to its class. -/
  | privateName
  | number
  | string
  | regularExpression
  /-- An operator or separator. -/
  | punctuation
  /-- The start of a bracketed group, a template or a markup element. -/
  | opening
  /-- The end of such a group. -/
  | closing
  /-- The end of the text. -/
  | ending
  deriving DecidableEq, Repr, Inhabited

/-- A token with its extent in bytes. -/
structure Token where
  kind : TokenKind
  text : Text
  start : Nat
  stop : Nat
  /-- A line ends between the token before and this one. -/
  newlineBefore : Bool
  /-- Where a semicolon left out before this token stands: after the token before and the comments
  that follow it on its line. -/
  semicolonAt : Nat
  deriving Repr, Inhabited

namespace Token

/-- Whether the token is the given word. -/
def isWord (token : Token) (word : String) : Bool :=
  token.kind = .name && token.text = word.toList

/-- Whether the token is the given operator or separator. -/
def isPunctuation (token : Token) (text : String) : Bool :=
  token.kind = .punctuation && token.text = text.toList

end Token

/-- A character that may stand in a name: everything but ASCII signs, blanks and invisible
separators. -/
def isNameChar (c : Char) : Bool :=
  if c.toNat < 0x80 then Text.isAsciiLetter c || Text.isAsciiDigit c || c = '_' || c = '$'
  else !(Text.isWhiteSpace c || c = '\uFEFF' || c = '\u2060' || c = '\u200B')

/-- A character that may start a name. -/
def isNameStart (c : Char) : Bool :=
  isNameChar c && !Text.isAsciiDigit c

end CodeAtlas.Grammar
