import CodeAtlas.Workspace.Storage

/-!
# Files in memory

A storage whose files are held in a list in path order. Paths are looked up with their dots carried
out, and nothing is on disk.
-/

namespace CodeAtlas

/-- Files in memory, in path order. A file without text exists and cannot be read. -/
structure MemoryFiles where
  files : List (Path × Option Text) := []
  deriving Inhabited

namespace MemoryFiles

/-- Put a file into a list in path order. -/
def insertFile (path : Path) (content : Option Text) :
    List (Path × Option Text) → List (Path × Option Text)
  | [] => [(path, content)]
  | (other, text) :: rest =>
    match Path.compare path other with
    | .lt => (path, content) :: (other, text) :: rest
    | .eq => (other, content) :: rest
    | .gt => (other, text) :: insertFile path content rest

/-- Create a file or change its content. -/
def write (memory : MemoryFiles) (path : Path) (content : Option Text) : MemoryFiles :=
  ⟨insertFile path.normalize content memory.files⟩

/-- Delete a file. -/
def remove (memory : MemoryFiles) (path : Path) : MemoryFiles :=
  ⟨memory.files.filter fun (other, _) => !other.same path.normalize⟩

/-- The content of a file, if the file exists. -/
def content? (memory : MemoryFiles) (path : Path) : Option (Option Text) :=
  (memory.files.find? fun (other, _) => other.same path.normalize).map (·.2)

/-- The storage of files in memory, listed in path order or in the opposite order. -/
def storage (memory : MemoryFiles) (reversed : Bool) : Storage where
  read path :=
    match memory.content? path with
    | none => .error .notFound
    | some none => .error .unreadable
    | some (some text) => .ok text
  isFile path := (memory.content? path).isSome
  listing :=
    let paths := memory.files.map (·.1)
    if reversed then paths.reverse else paths
  realPath _ := .error .notFound
  realPath_plain := by
    intro path real h
    contradiction

end MemoryFiles

end CodeAtlas
