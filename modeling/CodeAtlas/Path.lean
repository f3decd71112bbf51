import CodeAtlas.Text.Basic

/-!
# File paths

A path keeps the spelling it was given, and all questions about it go through its components: two
spellings with the same components name the same place. `Path.components` is the definition to read
first; repeated slashes, trailing slashes and inner dots leave no component behind.
-/

namespace CodeAtlas

/-- One step of a path. -/
inductive Component where
  /-- The leading slash of an absolute path. -/
  | root
  /-- A leading dot of a relative path. -/
  | current
  /-- Two dots. -/
  | parent
  /-- A file or directory name. -/
  | name (text : String)
  deriving DecidableEq, Repr, Inhabited

namespace Component

/-- The order of the kinds of components. -/
def rank : Component → Nat
  | .root => 0
  | .current => 1
  | .parent => 2
  | .name _ => 3

/-- Components compare by kind, and names by their characters. -/
def compare (left right : Component) : Ordering :=
  match left, right with
  | .name a, .name b => Ord.compare a b
  | _, _ => Ord.compare left.rank right.rank

/-- How a component is spelled between slashes. -/
def spelling : Component → String
  | .root => ""
  | .current => "."
  | .parent => ".."
  | .name text => text

end Component

/-- A path as it was spelled. -/
structure Path where
  text : String
  deriving DecidableEq, Repr, Inhabited

namespace Path

/-- The component that a segment between slashes stands for; empty segments and dots stand for
none. -/
def segmentComponent? (segment : Text) : Option Component :=
  match segment with
  | [] | ['.'] => none
  | ['.', '.'] => some .parent
  | _ => some (.name (String.ofList segment))

/-- The components of a spelling. Only a relative path can start with a dot component. -/
def componentsOf (text : Text) : List Component :=
  let segments := Text.splitBy (· = '/') text
  let rest := segments.filterMap segmentComponent?
  match text with
  | [] => []
  | '/' :: _ => .root :: rest
  | _ => if segments.head? = some ['.'] then .current :: rest else rest

/-- The components of a path. -/
def components (path : Path) : List Component :=
  componentsOf path.text.toList

/-- The names among the components. -/
def names (path : Path) : List String :=
  path.components.filterMap fun component =>
    match component with
    | .name text => some text
    | _ => none

/-- Whether two spellings name the same place. -/
def same (left right : Path) : Bool :=
  left.components = right.components

/-- The lexicographic order of component lists. -/
def compareComponents : List Component → List Component → Ordering
  | [], [] => .eq
  | [], _ :: _ => .lt
  | _ :: _, [] => .gt
  | a :: left, b :: right =>
    match Component.compare a b with
    | .eq => compareComponents left right
    | order => order

/-- Paths compare component by component. -/
def compare (left right : Path) : Ordering :=
  compareComponents left.components right.components

/-- Whether `left` comes before or names the same place as `right`. -/
def le (left right : Path) : Bool :=
  compare left right != .gt

/-- A path starts with a slash. -/
def isAbsolute (path : Path) : Bool :=
  path.text.toList.head? = some '/'

/-- The plain spelling of a list of components. -/
def ofComponents : List Component → Path
  | .root :: rest => ⟨"/" ++ "/".intercalate (rest.map Component.spelling)⟩
  | components => ⟨"/".intercalate (components.map Component.spelling)⟩

/-- The path reached from a directory: an absolute path stands for itself. -/
def join (directory path : Path) : Path :=
  if path.isAbsolute then path
  else if directory.text.isEmpty || directory.text.toList.getLast? = some '/' then
    ⟨directory.text ++ path.text⟩
  else ⟨directory.text ++ "/" ++ path.text⟩

/-- The name of the last component, if that is a name. -/
def fileName? (path : Path) : Option String :=
  match path.components.getLast? with
  | some (.name text) => some text
  | _ => none

/-- Everything but the last component; a bare root or an empty path has no parent. -/
def parent? (path : Path) : Option Path :=
  match path.components.reverse with
  | [] | [.root] => none
  | _ :: rest => some (ofComponents rest.reverse)

/-- The part of a file name after its last dot; a dot that starts the name does not count. -/
def extensionOf? (name : Text) : Option Text :=
  if name = ['.', '.'] then none
  else match (name.reverse.span (· != '.')) with
    | (_, []) => none
    | (_, ['.']) => none
    | (tail, _) => some tail.reverse

/-- The extension of the file name. -/
def extension? (path : Path) : Option Text :=
  path.fileName?.bind (extensionOf? ·.toList)

/-- The components that follow `base`, if the path starts with it. -/
def dropPrefix? : List Component → List Component → Option (List Component)
  | [], rest => some rest
  | _ :: _, [] => none
  | a :: base, b :: rest => if a = b then dropPrefix? base rest else none

/-- Whether the path starts with all components of `base`. -/
def startsWith (path base : Path) : Bool :=
  (dropPrefix? base.components path.components).isSome

end Path

end CodeAtlas
