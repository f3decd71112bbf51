import CodeAtlas.Glob.Parse

/-!
# Selecting files by globs

A filter keeps the paths that match one of its included globs, if it has any, and none of its
excluded ones.
-/

namespace CodeAtlas

/-- The globs that a request selects files by. -/
structure Scope where
  included : List String := []
  excluded : List String := []
  deriving DecidableEq, Repr, Inhabited

/-- A filter on paths relative to the workspace. -/
structure GlobFilter where
  included : List Glob
  excluded : List Glob
  deriving Inhabited

namespace GlobFilter

/-- The filter of written globs. Included globs are read first. -/
def ofGlobs (included excluded : List String) : Except GlobError GlobFilter := do
  let included ← included.mapM Glob.parse
  let excluded ← excluded.mapM Glob.parse
  pure { included, excluded }

/-- The filter of a request: its included globs replace the configured ones, and its excluded globs
add to them. -/
def ofScope (scope configured : Scope) : Except GlobError GlobFilter :=
  ofGlobs (if scope.included.isEmpty then configured.included else scope.included)
    (configured.excluded ++ scope.excluded)

/-- Whether a path passes. -/
def accepts (filter : GlobFilter) (path : Text) : Bool :=
  !filter.excluded.any (·.accepts path)
    && (filter.included.isEmpty || filter.included.any (·.accepts path))

end GlobFilter

end CodeAtlas
