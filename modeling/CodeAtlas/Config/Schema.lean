import CodeAtlas.Config.Basic

/-!
# The schema of the configuration

A JSON schema of configurations written as objects, with the fields in alphabetical order.
-/

namespace CodeAtlas.Config

/-- The description of a field, if it has one. -/
def description : Option String → List (String × JsonValue)
  | some text => [("description", .string text)]
  | none => []

/-- The schema of a list of strings. -/
def listSchema (about : String) (given : List String) : JsonValue :=
  .object (description (some about) ++ [
    ("type", .string "array"),
    ("default", .strings given),
    ("items", .object [("type", .string "string")])])

/-- The schema of a count. -/
def countSchema (given : Nat) : JsonValue :=
  .object [
    ("type", .string "integer"),
    ("format", .string "uint"),
    ("default", .natural given),
    ("minimum", .natural 0)]

/-- The schema of the time limit. -/
def limitSchema : JsonValue :=
  .object [
    ("type", .strings ["integer", "null"]),
    ("format", .string "uint64"),
    ("default", .null),
    ("minimum", .natural 0)]

/-- The schema of configurations. -/
def schema : JsonValue :=
  let defaults : Config := {}
  .object [
    ("$schema", .string "https://json-schema.org/draft/2020-12/schema"),
    ("title", .string "EngineConfig"),
    ("description", .string "Engine-wide defaults. Every field is optional in the config file."),
    ("type", .string "object"),
    ("properties", .object [
      ("contextLines", countSchema defaults.contextLines),
      ("entryPoints", listSchema
        "Basenames (without extension) treated as entry points by unused-export detection."
        defaults.entryPoints),
      ("exclude", listSchema "Globs always excluded, merged with any query excludes."
        defaults.excluded),
      ("include", listSchema "Globs selecting files when a query gives no include list."
        defaults.included),
      ("maxDepth", countSchema defaults.maxDepth),
      ("maxResults", countSchema defaults.maxResults),
      ("resolveRoots", listSchema
        "Extra roots, relative to the workspace, tried for bare specifiers."
        (defaults.resolveRoots.map Path.text)),
      ("scanTimeoutMs", limitSchema)])]

end CodeAtlas.Config
