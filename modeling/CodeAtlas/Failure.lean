import CodeAtlas.Glob.Parse

/-!
# Failures

Why a request has no answer. A failure is a cause; `Failure.message` words it in full, and
`Failure.report` words it for the one who made the request.
-/

namespace CodeAtlas

/-- Why a file could not be read. -/
inductive ReadFault where
  /-- A file held in memory is not there. -/
  | notFound
  /-- A file held in memory has no content. -/
  | unreadable
  /-- Nothing on disk has this path. -/
  | noSuchFile
  /-- A file stands on disk where the path needs a directory. -/
  | notDirectory
  /-- The path on disk is that of a directory. -/
  | isDirectory
  /-- The path on disk leads through too many symbolic links. -/
  | tooManyLinks
  /-- The bytes on disk are no UTF-8. -/
  | notText
  deriving DecidableEq, Repr, Inhabited

/-- The wording of a read fault. -/
def ReadFault.text : ReadFault → String
  | .notFound => "not found"
  | .unreadable => "unreadable"
  | .noSuchFile => "No such file or directory (os error 2)"
  | .notDirectory => "Not a directory (os error 20)"
  | .isDirectory => "Is a directory (os error 21)"
  | .tooManyLinks => "Too many levels of symbolic links (os error 40)"
  | .notText => "stream did not contain valid UTF-8"

/-- What is wrong with a request. -/
inductive Misuse where
  | emptyName
  | noResults
  | zeroPosition
  | zeroLine
  | noLanguage (path : String)
  deriving DecidableEq, Repr, Inhabited

/-- The wording of a misuse. -/
def Misuse.text : Misuse → String
  | .emptyName => "search name must not be empty"
  | .noResults => "maxResults must be at least 1"
  | .zeroPosition => "line and column start at 1"
  | .zeroLine => "line numbers start at 1"
  | .noLanguage path => "no language support for " ++ path

/-- The requests that have a time budget. -/
inductive Operation where
  | search
  | references
  | definition
  | implementations
  | derivedClasses
  | dependencies
  | unusedExports
  deriving DecidableEq, Repr, Inhabited

/-- The name of a request. -/
def Operation.name : Operation → String
  | .search => "searchSymbols"
  | .references => "findReferences"
  | .definition => "goToDefinition"
  | .implementations => "findImplementations"
  | .derivedClasses => "findDerivedClasses"
  | .dependencies => "analyzeDependencies"
  | .unusedExports => "findUnusedExports"

/-- Why a request has no answer. -/
inductive Failure where
  /-- A file could not be read; its path is relative to the workspace. -/
  | unread (path : String) (fault : ReadFault)
  /-- The configuration is malformed. -/
  | malformedConfig
  /-- A glob is malformed. -/
  | badGlob (error : GlobError)
  /-- A search pattern is malformed. -/
  | badPattern
  /-- The request itself is wrong. -/
  | misuse (cause : Misuse)
  /-- The path, as it is shown, lies outside the workspace. -/
  | outside (shown : String)
  /-- The time budget is used up. -/
  | timeout (operation : Operation)
  /-- The symbols of a file could not be read. -/
  | unparsed (reason : String)
  deriving DecidableEq, Repr, Inhabited

namespace Failure

/-- The wording of a malformed pattern. -/
def patternText : String :=
  "regex parse error"

/-- The full wording. Only an empty time budget runs out, so no time has been used. -/
def message : Failure → String
  | .unread path fault => "failed to read " ++ path ++ ": " ++ fault.text
  | .malformedConfig => "JSON serialization/deserialization error: malformed configuration"
  | .badGlob error => "invalid glob: " ++ error.message
  | .badPattern => "invalid pattern: " ++ patternText
  | .misuse cause => "invalid parameters: " ++ cause.text
  | .outside shown => "'" ++ shown ++ "' resolves outside the workspace root"
  | .timeout operation => "operation '" ++ operation.name ++ "' timed out after 0 ms"
  | .unparsed reason => "Parsing error: " ++ reason

/-- The full wording, followed by that of the cause behind the failure. -/
def withCause : Failure → String
  | .unread path fault => message (.unread path fault) ++ ": " ++ fault.text
  | failure => message failure

/-- The wording for the one who made the request. -/
def report : Failure → String
  | .unread path fault => "I/O failure: " ++ message (.unread path fault)
  | .badGlob error => "Invalid params: " ++ error.message
  | .badPattern => "Invalid params: " ++ patternText
  | .misuse cause => "Invalid params: " ++ cause.text
  | .outside shown => "Path is outside the workspace: " ++ shown
  | .timeout operation => "Operation '" ++ operation.name ++ "' timed out after 0 ms"
  | failure => "Internal error: " ++ message failure

end Failure

/-- The time budget of a request. Only an empty budget runs out: what fits into the others depends
on the machine and not on the request. -/
structure Deadline where
  operation : Operation
  limit : Option Nat
  deriving DecidableEq, Repr, Inhabited

namespace Deadline

/-- Whether the budget is used up at the first check. -/
def isExpired (deadline : Deadline) : Bool :=
  deadline.limit = some 0

/-- Fail if the budget is used up. -/
def check (deadline : Deadline) : Except Failure Unit :=
  if deadline.isExpired then .error (.timeout deadline.operation) else .ok ()

end Deadline

end CodeAtlas
