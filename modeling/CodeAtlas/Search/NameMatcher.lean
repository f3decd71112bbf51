import CodeAtlas.Pattern.Match
import CodeAtlas.Pattern.Parse

/-!
# Matching symbol names

A search text is read as a pattern or as a part of the names to find. Text between slashes is always
a pattern; other text is a pattern if it holds a pattern character and is well formed.
-/

namespace CodeAtlas

/-- How names are compared with a search text. -/
inductive NameMatcher where
  /-- The names that contain a text. -/
  | substring (needle : Text) (caseSensitive : Bool)
  /-- The names in which a pattern matches. -/
  | pattern (found : Pattern)
  deriving Inhabited

namespace NameMatcher

/-- The characters that make a search text a candidate pattern. -/
def patternChars : List Char :=
  ['^', '$', '*', '+', '?', '(', ')', '[', ']', '{', '}', '|', '\\', '.']

/-- The text between a leading and a trailing slash, if there is any. -/
def delimited? (query : Text) : Option Text :=
  match query with
  | '/' :: rest =>
    match rest.reverse with
    | '/' :: c :: inner => some (c :: inner).reverse
    | _ => none
  | _ => none

/-- The matcher that looks for a text inside names. -/
def ofPart (query : Text) (caseSensitive : Bool) : NameMatcher :=
  substring (if caseSensitive then query else Text.lowercase query) caseSensitive

/-- The matcher for a search text, or `none` if it is a malformed pattern between slashes. -/
def ofQuery? (query : Text) (caseSensitive : Bool) : Option NameMatcher :=
  match delimited? query with
  | some inner => (Pattern.parse? (!caseSensitive) inner).map .pattern
  | none =>
    if query.any (patternChars.elem ·) then
      match Pattern.parse? (!caseSensitive) query with
      | some found => some (.pattern found)
      | none => some (ofPart query caseSensitive)
    else some (ofPart query caseSensitive)

/-- Whether a name is found. Without regard to case, both texts are compared in lower case. -/
def accepts (matcher : NameMatcher) (name : Text) : Bool :=
  match matcher with
  | .substring needle true => Text.contains name needle
  | .substring needle false => Text.contains (Text.lowercase name) needle
  | .pattern found => found.matchesIn name

end NameMatcher

end CodeAtlas
