import CodeAtlas.Workspace.Storage

/-!
# A tree of files

Directories with their entries in name order, files, and symbolic links. `FileTree.resolve` follows
a path from the top of the tree through its links, and everything that is asked about a path goes
through it.
-/

namespace CodeAtlas

/-- A file, a directory or a symbolic link. -/
inductive FileTree where
  /-- A file, with its text unless its bytes are no UTF-8. -/
  | file (text : Option Text)
  /-- A directory with its entries in ascending order of their names. -/
  | directory (entries : List (String × FileTree))
  /-- A symbolic link. -/
  | link (target : Path)
  deriving Inhabited

namespace FileTree

/-- The entries of a directory. -/
def entries : FileTree → List (String × FileTree)
  | .directory entries => entries
  | _ => []

/-- The entry of a directory with a name. -/
def entry? (tree : FileTree) (name : String) : Option FileTree :=
  (tree.entries.find? (·.1 = name)).map (·.2)

/-- The tree at the end of a chain of names. -/
def at? (tree : FileTree) : List String → Option FileTree
  | [] => some tree
  | name :: rest => (tree.entry? name).bind (·.at? rest)

/-- Put an entry in its place among others. -/
def insertEntry (name : String) (tree : FileTree) :
    List (String × FileTree) → List (String × FileTree)
  | [] => [(name, tree)]
  | (other, found) :: rest =>
    if name < other then (name, tree) :: (other, found) :: rest
    else if name = other then (name, tree) :: rest
    else (other, found) :: insertEntry name tree rest

/-- Put a tree at the end of a chain of names, with directories on the way. A directory that is
there already stays as it is. -/
def insert (tree : FileTree) : List String → FileTree → FileTree
  | [], item =>
    match item, tree with
    | .directory [], .directory entries => .directory entries
    | _, _ => item
  | name :: rest, item =>
    let below := (tree.entry? name).getD (.directory [])
    .directory (insertEntry name (insert below rest item) tree.entries)

/-- The tree without the entry at the end of a chain of names. -/
def remove (tree : FileTree) : List String → FileTree
  | [] => tree
  | [name] => .directory (tree.entries.filter (·.1 ≠ name))
  | name :: rest =>
    match tree.entry? name with
    | some below => .directory (insertEntry name (remove below rest) tree.entries)
    | none => tree

/-- The steps of a path. Empty parts and single dots stay where they are, which has to be a
directory. -/
def steps (path : Path) : List Component :=
  (Text.splitBy (· = '/') path.text.toList).map fun part =>
    (Path.segmentComponent? part).getD .current

/-- The names that lead to the end of a path through symbolic links, from a directory whose names
are given in reverse. At most `links` links are followed. -/
def resolveFrom (tree : FileTree) (links : Nat) (place : List String) (path : List Component) :
    Except ReadFault (List String) :=
  match path with
  | [] => .ok place.reverse
  | component :: rest =>
    match tree.at? place.reverse with
    | some (.directory entries) =>
      match component with
      | .root | .current => resolveFrom tree links place rest
      | .parent => resolveFrom tree links (place.drop 1) rest
      | .name name =>
        match entries.find? (·.1 = name) with
        | none => .error .noSuchFile
        | some (_, .link target) =>
          match links with
          | 0 => .error .tooManyLinks
          | links + 1 =>
            -- The target is walked from where the link stands, or from the top.
            resolveFrom tree links (if target.isAbsolute then [] else place) (steps target ++ rest)
        | some _ => resolveFrom tree links (name :: place) rest
    | some _ => .error .notDirectory
    | none => .error .noSuchFile
termination_by (links, path.length)

/-- The names among the steps of a path can stand between slashes. -/
theorem is_name_of_mem_steps {path : Path} {name : String} (h : .name name ∈ steps path) :
    Path.IsName name := by
  obtain ⟨part, hpart, hname⟩ := List.mem_map.mp h
  have hslash := Path.not_mem_of_mem_split_by hpart
  cases hsegment : Path.segmentComponent? part with
  | none =>
      rw [hsegment] at hname
      contradiction
  | some component =>
      rw [hsegment] at hname
      obtain rfl : component = .name name := hname
      rcases Path.is_inner_of_segment hslash hsegment with hparent | ⟨other, hother, heq⟩
      · contradiction
      · exact Component.name.inj heq ▸ hother

/-- Every name on the way to the end of a path can stand between slashes. -/
theorem resolve_from_names {tree : FileTree} {links : Nat} {place : List String}
    {path : List Component} {names : List String} (hplace : ∀ name ∈ place, Path.IsName name)
    (hpath : ∀ name, .name name ∈ path → Path.IsName name)
    (h : tree.resolveFrom links place path = .ok names) : ∀ name ∈ names, Path.IsName name := by
  cases path with
  | nil =>
      rw [resolveFrom] at h
      intro name hname
      exact hplace name (by simpa [← Except.ok.inj h] using hname)
  | cons component rest =>
      have hrest : ∀ name, .name name ∈ rest → Path.IsName name :=
        fun name hname => hpath name (List.mem_cons_of_mem _ hname)
      rw [resolveFrom] at h
      split at h
      · split at h
        · exact resolve_from_names hplace hrest h
        · exact resolve_from_names hplace hrest h
        · exact resolve_from_names (fun name hname => hplace name (List.mem_of_mem_drop hname))
            hrest h
        · next name =>
            split at h
            · contradiction
            · next target _ =>
                split at h
                · contradiction
                · refine resolve_from_names ?_ ?_ h
                  · intro other hother
                    split at hother
                    · contradiction
                    · exact hplace other hother
                  · intro other hother
                    rcases List.mem_append.mp hother with hother | hother
                    · exact is_name_of_mem_steps hother
                    · exact hrest other hother
            · refine resolve_from_names ?_ hrest h
              intro other hother
              rcases List.mem_cons.mp hother with rfl | hother
              · exact hpath other (by simp)
              · exact hplace other hother
      · contradiction
      · contradiction
termination_by (links, path.length)

/-- The names that lead to the end of an absolute path. -/
def resolve (tree : FileTree) (path : Path) : Except ReadFault (List String) :=
  resolveFrom tree 40 [] (steps path)

/-- The absolute path of a chain of names. -/
def pathOf (names : List String) : Path :=
  Path.ofComponents (.root :: names.map .name)

/-- Whether a path is that of a regular file. -/
def isFile (tree : FileTree) (path : Path) : Bool :=
  match (tree.resolve path).toOption.bind tree.at? with
  | some (.file _) => true
  | _ => false

/-- The text of a file. -/
def read (tree : FileTree) (path : Path) : Except ReadFault Text :=
  match tree.resolve path with
  | .error fault => .error fault
  | .ok names =>
    match tree.at? names with
    | some (.file (some text)) => .ok text
    | some (.file none) => .error .notText
    | some _ => .error .isDirectory
    | none => .error .noSuchFile

/-- The path without links and dots, if something has this path. -/
def realPath (tree : FileTree) (path : Path) : Except ReadFault Path :=
  (tree.resolve path).map pathOf

/-- A path without links and dots is spelled plainly. -/
theorem real_path_plain {tree : FileTree} {path real : Path} (h : tree.realPath path = .ok real) :
    real.IsPlain := by
  unfold realPath at h
  cases hnames : tree.resolve path with
  | error fault => simp [hnames, Except.map] at h
  | ok names =>
      rw [hnames] at h
      obtain rfl : pathOf names = real := Except.ok.inj h
      have hname := resolve_from_names (by simp) (fun _ => is_name_of_mem_steps) hnames
      exact Path.is_plain_of_rooted hname

end FileTree

end CodeAtlas
