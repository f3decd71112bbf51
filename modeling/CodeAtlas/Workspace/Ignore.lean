import CodeAtlas.Workspace.FileTree

/-!
# Ignored files

Which files of a tree are worth listing. Entries whose names start with a dot are hidden, and ignore
files in a directory hide or show entries below it: the last rule of a file that matches counts, a
deeper file goes before a higher one, and rules for all tools go before those for version control,
which count only inside a repository.
-/

namespace CodeAtlas

/-- A line of an ignore file. -/
structure IgnoreRule where
  glob : Glob
  /-- The rule shows entries instead of hiding them. -/
  shows : Bool
  /-- The rule is about directories only. -/
  onlyDirectories : Bool
  deriving Inhabited

namespace IgnoreRule

/-- A line without blanks at its end, unless the last one is escaped. -/
def trimLine (line : Text) : Text :=
  if Text.endsWith line ['\\', ' '] then line else Text.trimEnd line

/-- A line without a slash at its end, and whether there was one. -/
def dropSlash (line : Text) : Text × Bool :=
  match line.reverse with
  | '/' :: '\\' :: rest => (rest.reverse, true)
  | '/' :: rest => (rest.reverse, true)
  | _ => (line, false)

/-- The glob of a rule: without a slash it applies at any depth, and everything below a directory
does not include the directory. -/
def globText (line : Text) (anchored : Bool) : Text :=
  let anywhere := !anchored && !line.elem '/' && line != ['*', '*']
  let line := if anywhere then "**/".toList ++ line else line
  if Text.endsWith line "/**".toList then line ++ "/*".toList else line

/-- The rule of a line, unless the line is blank, a comment or malformed. -/
def ofLine? (line : Text) : Option IgnoreRule :=
  if line.head? = some '#' then none
  else
    let line := trimLine line
    let (shows, anchored, body) := match line with
      | '\\' :: '!' :: rest => (false, false, '!' :: rest)
      | '\\' :: '#' :: rest => (false, false, '#' :: rest)
      | '!' :: '/' :: rest => (true, true, rest)
      | '!' :: rest => (true, false, rest)
      | '/' :: rest => (false, true, rest)
      | _ => (false, false, line)
    let (body, onlyDirectories) := dropSlash body
    if line.isEmpty then none
    else match Glob.parse (String.ofList (globText body anchored)) with
      | .ok glob => some { glob, shows, onlyDirectories }
      | .error _ => none

/-- The rules of an ignore file. -/
def ofText (text : Text) : List IgnoreRule :=
  let text := match text with
    | '\ufeff' :: rest => rest
    | _ => text
  (Text.lines text).filterMap ofLine?

/-- Whether a rule is about an entry, by its path from the directory of the ignore file. -/
def concerns (rule : IgnoreRule) (path : Text) (isDirectory : Bool) : Bool :=
  (isDirectory || !rule.onlyDirectories) && rule.glob.matchesWith true path

/-- Whether rules show an entry (`some true`), hide it (`some false`) or leave it open. -/
def verdict? (rules : List IgnoreRule) (path : Text) (isDirectory : Bool) : Option Bool :=
  (rules.reverse.find? (·.concerns path isDirectory)).map (·.shows)

end IgnoreRule

/-- The ignore files of one directory. -/
structure IgnoreLayer where
  /-- The number of names that lead to the directory. -/
  depth : Nat
  /-- The rules for all tools. -/
  general : List IgnoreRule
  /-- The rules for version control. -/
  versioned : List IgnoreRule
  /-- The rules of the repository that the directory is the top of. -/
  repository : List IgnoreRule
  /-- The directory is the top of a repository. -/
  isRepository : Bool
  deriving Inhabited

namespace IgnoreLayer

/-- What the rules of a layer say about the entry at the end of a chain of names. -/
def verdict? (layer : IgnoreLayer) (rules : IgnoreLayer → List IgnoreRule) (names : List String)
    (isDirectory : Bool) : Option Bool :=
  let path := "/".intercalate (names.drop layer.depth)
  IgnoreRule.verdict? (rules layer) path.toList isDirectory

/-- The layers up to the top of the innermost repository, or none outside a repository. -/
def inRepository : List IgnoreLayer → List IgnoreLayer
  | [] => []
  | layer :: rest =>
    if layer.isRepository then [layer]
    else match inRepository rest with
      | [] => []
      | inner => layer :: inner

/-- Whether an entry is shown, given the layers above it, innermost first. -/
def shows (layers : List IgnoreLayer) (names : List String) (isDirectory : Bool) : Bool :=
  let ask (layers : List IgnoreLayer) (rules : IgnoreLayer → List IgnoreRule) : Option Bool :=
    layers.findSome? (·.verdict? rules names isDirectory)
  let repository := inRepository layers
  let verdict := (ask layers general).or
    ((ask repository versioned).or (ask repository IgnoreLayer.repository))
  match verdict with
  | some shown => shown
  | none => !((names.getLast?.map String.toList).any (Text.startsWith · ['.']))

end IgnoreLayer

namespace FileTree

/-- The rules of an ignore file, none if it cannot be read. -/
def rulesAt (tree : FileTree) (names : List String) : List IgnoreRule :=
  match tree.read (pathOf names) with
  | .ok text => IgnoreRule.ofText text
  | .error _ => []

/-- The ignore files of a directory. -/
def layerAt (tree : FileTree) (names : List String) : IgnoreLayer where
  depth := names.length
  general := tree.rulesAt (names ++ [".ignore"])
  versioned := tree.rulesAt (names ++ [".gitignore"])
  repository := tree.rulesAt (names ++ [".git", "info", "exclude"])
  isRepository := (tree.realPath (pathOf (names ++ [".git"]))).toBool

/-- Whether a tree is a directory. -/
def isDirectory : FileTree → Bool
  | .directory _ => true
  | _ => false

mutual

/-- The files below a place, depth first; symbolic links are no files. -/
def walk (tree : FileTree) (layers : List IgnoreLayer) (names : List String) :
    FileTree → List (List String)
  | .file _ => [names]
  | .link _ => []
  | .directory entries => walkEntries tree (tree.layerAt names :: layers) names entries

/-- The files below the shown entries of a directory. -/
def walkEntries (tree : FileTree) (layers : List IgnoreLayer) (names : List String) :
    List (String × FileTree) → List (List String)
  | [] => []
  | (name, item) :: rest =>
    let here := names ++ [name]
    (if IgnoreLayer.shows layers here item.isDirectory then walk tree layers here item else [])
      ++ walkEntries tree layers names rest

end

/-- The files below a root, in the order of the walk. -/
def listing (tree : FileTree) (root : Path) : List Path :=
  match tree.resolve root with
  | .error _ => []
  | .ok names =>
    match tree.at? names with
    | some start => (walk tree [] names start).map pathOf
    | none => []

/-- The storage of the files below a root. -/
def storage (tree : FileTree) (root : Path) : Storage where
  read := tree.read
  isFile := tree.isFile
  listing := tree.listing root
  realPath := tree.realPath
  realPath_plain := real_path_plain

end FileTree

end CodeAtlas
