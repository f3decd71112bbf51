import CodeAtlas.Config.Basic
import CodeAtlas.Failure
import CodeAtlas.Path.Plain

/-!
# Storage

Where the files of a workspace live. A storage answers four questions about the files of one root,
and nothing else about them is ever asked.
-/

namespace CodeAtlas

/-- The files under a root. -/
structure Storage where
  /-- The text of a file. -/
  read : Path → Except ReadFault Text
  /-- Whether a path is that of a regular file. -/
  isFile : Path → Bool
  /-- Every file to consider, in the order of traversal. -/
  listing : List Path
  /-- The path without symbolic links and dots, if something has this path. -/
  realPath : Path → Except ReadFault Path
  /-- A path without symbolic links and dots is spelled plainly. -/
  realPath_plain : ∀ {path real : Path}, realPath path = .ok real → real.IsPlain

namespace Path

/-- The path that follows `root`, or the path itself if it does not start with the root. -/
def below (path root : Path) : Path :=
  match dropPrefix? root.components path.components with
  | some rest => ofComponents rest
  | none => path

/-- The path relative to `root` as it is shown, with slashes for backslashes. -/
def shownBelow (path root : Path) : String :=
  String.ofList ((path.below root).text.toList.map fun c => if c = '\\' then '/' else c)

end Path

namespace Storage

/-- The path inside the root that a path stands for. A path that exists is followed through its
symbolic links; of any other the dots are carried out. -/
def resolve (storage : Storage) (root path : Path) : Except Failure Path :=
  let joined := root.join path
  let resolved := (storage.realPath joined).toOption.getD joined.normalize
  if resolved.startsWith root then .ok resolved
  else .error (.outside (if path.isAbsolute then "path outside workspace" else path.text))

/-- Whatever a path stands for inside the root is spelled plainly. -/
theorem resolve_plain {storage : Storage} {root path resolved : Path}
    (h : storage.resolve root path = .ok resolved) : resolved.IsPlain := by
  unfold resolve at h
  dsimp only at h
  split at h
  · cases hreal : storage.realPath (root.join path) with
    | ok real =>
        rw [hreal] at h
        exact Except.ok.inj h ▸ storage.realPath_plain hreal
    | error fault =>
        rw [hreal] at h
        exact Except.ok.inj h ▸ Path.normalize_is_plain _
  · contradiction

/-- Whatever a path stands for inside the root starts with the root. -/
theorem starts_with_of_resolve {storage : Storage} {root path resolved : Path}
    (h : storage.resolve root path = .ok resolved) : resolved.startsWith root = true := by
  unfold resolve at h
  dsimp only at h
  split at h
  · next hstarts => rwa [← Except.ok.inj h]
  · contradiction

/-- The name of the configuration file. -/
def configFile : String :=
  ".wayfinder.json"

/-- The configuration of a root: its configuration file, if there is one, and then the setting of
the environment. -/
def loadConfig (storage : Storage) (root : Path) (setting : Option String) :
    Except Failure Config :=
  let path := root.join ⟨configFile⟩
  if storage.isFile path then
    match storage.read path with
    | .error fault => .error (.unread configFile fault)
    | .ok text =>
      match Config.parse? text with
      | some config => .ok (config.withEnvironment setting)
      | none => .error .malformedConfig
  else .ok (Config.withEnvironment {} setting)

end Storage

end CodeAtlas
