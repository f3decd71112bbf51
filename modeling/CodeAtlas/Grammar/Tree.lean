import CodeAtlas.Grammar.Lexer

/-!
# Token trees

A token tree is a token or a bracketed group of trees. The declaration reader works on trees, so
that the contents of bodies, argument lists and templates are one tree each.
-/

namespace CodeAtlas.Grammar

/-- A token, or a group between an opening and a closing token. -/
inductive Tree where
  | token (token : Token)
  | group (opening : Token) (items : List Tree) (closing : Token)
  deriving Inhabited

namespace Tree

/-- The first token. -/
def first : Tree → Token
  | token t => t
  | group opening _ _ => opening

/-- The offset where the tree starts. -/
def start (tree : Tree) : Nat :=
  tree.first.start

/-- The offset where the tree ends. -/
def stop : Tree → Nat
  | token t => t.stop
  | group _ _ closing => closing.stop

/-- Whether a line ends before the tree. -/
def newlineBefore (tree : Tree) : Bool :=
  tree.first.newlineBefore

/-- Whether the tree is the given word. -/
def isWord (tree : Tree) (word : String) : Bool :=
  match tree with
  | token t => t.isWord word
  | group .. => false

/-- Whether the tree is one of the given words. -/
def isAnyWord (tree : Tree) (words : List String) : Bool :=
  words.any tree.isWord

/-- Whether the tree is a name or keyword. -/
def isName : Tree → Bool
  | token t => t.kind = .name
  | group .. => false

/-- Whether the tree is the given operator or separator. -/
def isPunctuation (tree : Tree) (text : String) : Bool :=
  match tree with
  | token t => t.isPunctuation text
  | group .. => false

/-- Whether the tree is a group that the given bracket opens. -/
def isGroup (tree : Tree) (bracket : Char) : Bool :=
  match tree with
  | token _ => false
  | group opening _ _ => opening.text = [bracket]

/-- The trees of a group with its closing token as the last one; a token has none. -/
def inner : Tree → List Tree
  | token _ => []
  | group _ items closing => items ++ [token closing]

/-- Build the trees of a token list. The groups still open are given innermost first, each with its
opening token and the trees before it, all in reverse. -/
def build : List Token → (current : List Tree) → (outer : List (Token × List Tree)) → List Tree
  | [], current, outer =>
    outer.foldl (fun trees (opening, before) => before.reverse ++ token opening :: trees)
      current.reverse
  | t :: rest, current, outer =>
    match t.kind, outer with
    | .opening, _ => build rest [] ((t, current) :: outer)
    | .closing, (opening, before) :: outer =>
      build rest (group opening current.reverse t :: before) outer
    | _, _ => build rest (token t :: current) outer

/-- The trees of a text, the ending token last. -/
def ofText (markup : Bool) (text : Text) : List Tree :=
  build (tokens markup text) [] []

end Tree

end CodeAtlas.Grammar
