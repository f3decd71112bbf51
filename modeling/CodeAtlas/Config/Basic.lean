import CodeAtlas.Glob.Filter
import CodeAtlas.Json.Parse
import CodeAtlas.Path

/-!
# Configuration

The settings of a workspace, their defaults and their JSON form. A configuration may be written as
an object, whose missing fields take their defaults and whose unknown fields do not matter, or as an
array of the leading fields in order.
-/

namespace CodeAtlas

/-- The settings of a workspace. -/
structure Config where
  /-- Globs that select files when a request gives none. -/
  included : List String := []
  /-- Globs of files that are never scanned. -/
  excluded : List String :=
    ["**/node_modules/**", "**/.git/**", "**/dist/**", "**/build/**", "**/coverage/**"]
  /-- File names, up to their first dot, whose exports count as used. -/
  entryPoints : List String := ["index", "main", "app"]
  /-- Lines shown on each side of a line. -/
  contextLines : Nat := 5
  /-- The largest number of results. -/
  maxResults : Nat := 100
  /-- The largest number of imports between a scanned file and a file of the graph. -/
  maxDepth : Nat := 10
  /-- The time that a scan may take, in milliseconds. -/
  scanTimeout : Option Nat := none
  /-- Directories in which imports of packages are looked for. -/
  resolveRoots : List Path := []
  deriving DecidableEq, Repr, Inhabited

namespace Config

/-- The configured globs. -/
def scope (config : Config) : Scope :=
  { included := config.included, excluded := config.excluded }

/-- The names of the fields, in order. -/
def fieldNames : List String :=
  ["include", "exclude", "entryPoints", "contextLines", "maxResults", "maxDepth", "scanTimeoutMs",
    "resolveRoots"]

/-- The time limit that a value writes: a number, or null for none. -/
def timeout? : JsonValue → Option (Option Nat)
  | .null => some none
  | .natural value => some (some value)
  | _ => none

/-- Set the field with the given name. Other names change nothing. -/
def setField? (config : Config) (name : String) (value : JsonValue) : Option Config :=
  match name with
  | "include" => value.strings?.map fun globs => { config with included := globs }
  | "exclude" => value.strings?.map fun globs => { config with excluded := globs }
  | "entryPoints" => value.strings?.map fun names => { config with entryPoints := names }
  | "contextLines" => value.natural?.map fun count => { config with contextLines := count }
  | "maxResults" => value.natural?.map fun count => { config with maxResults := count }
  | "maxDepth" => value.natural?.map fun count => { config with maxDepth := count }
  | "scanTimeoutMs" => (timeout? value).map fun limit => { config with scanTimeout := limit }
  | "resolveRoots" =>
    value.strings?.map fun roots => { config with resolveRoots := roots.map Path.mk }
  | _ => some config

/-- Set one field after another. -/
def setFields? (config : Config) : List (String × JsonValue) → Option Config
  | [] => some config
  | (name, value) :: rest => (config.setField? name value).bind (·.setFields? rest)

/-- Whether no field of the configuration is given twice. -/
def givenOnce : List (String × JsonValue) → Bool
  | [] => true
  | (name, _) :: rest =>
    !(fieldNames.contains name && rest.any (·.1 = name)) && givenOnce rest

/-- The configuration that a value stands for. -/
def ofJson? : JsonValue → Option Config
  | .object fields => if givenOnce fields then setFields? {} fields else none
  | .array items =>
    if items.length ≤ fieldNames.length then setFields? {} (fieldNames.zip items) else none
  | _ => none

/-- The configuration that a text writes. -/
def parse? (text : Text) : Option Config :=
  (JsonValue.parse? text).bind ofJson?

/-- A natural number below 2^64, after an optional plus sign. -/
def wholeNumber? (text : Text) : Option Nat :=
  let digits := match text with
    | '+' :: rest => rest
    | _ => text
  if digits.isEmpty || !digits.all Text.isAsciiDigit then none
  else
    let value := digits.foldl (fun n c => 10 * n + (c.toNat - '0'.toNat)) 0
    if value < 0x10000000000000000 then some value else none

/-- The configuration with the time limit that a setting of the environment gives. A setting that is
no number changes nothing. -/
def withEnvironment (config : Config) (setting : Option String) : Config :=
  match setting.bind fun text => wholeNumber? (Text.trim text.toList) with
  | some limit => { config with scanTimeout := some limit }
  | none => config

/-- The value of a configuration. -/
def toJson (config : Config) : JsonValue :=
  .object [
    ("include", .strings config.included),
    ("exclude", .strings config.excluded),
    ("entryPoints", .strings config.entryPoints),
    ("contextLines", .natural config.contextLines),
    ("maxResults", .natural config.maxResults),
    ("maxDepth", .natural config.maxDepth),
    ("scanTimeoutMs", match config.scanTimeout with
      | some limit => .natural limit
      | none => .null),
    ("resolveRoots", .strings (config.resolveRoots.map Path.text))]

end Config

end CodeAtlas
