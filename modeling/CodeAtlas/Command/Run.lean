import CodeAtlas.Command.Arguments
import CodeAtlas.Command.Encode
import CodeAtlas.Command.Table
import CodeAtlas.Config.Schema

/-!
# Running a command

`Command.run` is the program as a function: from the files, the current directory, a setting of the
environment and the words of the command line to what is printed and the exit code.
-/

namespace CodeAtlas

/-- What a run of the program leaves behind. -/
structure Outcome where
  exit : Nat
  stdout : String := ""
  stderr : String := ""
  deriving DecidableEq, Repr, Inhabited

/-- A result that can be printed as JSON or as a table. -/
structure Printout where
  json : JsonValue
  text : String

namespace Printout

/-- A table, or a line that says that it has no rows. -/
def tableText (table : Table) : String :=
  (if table.rows.isEmpty then "No results." else table.render) ++ "\n"

/-- A result printed as a table. -/
def ofTable (json : JsonValue) (header : List String) (rows : List (List String)) : Printout :=
  { json, text := tableText { header, rows } }

/-- A result that may be absent, with what is said then. -/
def ofOption {α : Type} (absent : String) (printout : α → Printout) : Option α → Printout
  | some value => printout value
  | none => { json := .null, text := absent ++ "\n" }

/-- The printed form. -/
def print (printout : Printout) (asJson : Bool) : String :=
  if asJson then printout.json.pretty ++ "\n" else printout.text

end Printout

namespace Command

/-- A file and a line in it. -/
def placeText (workspace : Workspace) (path : Path) (line : Nat) : String :=
  workspace.relative path ++ ":" ++ toString line

/-- The columns of symbols. -/
def symbolHeader : List String :=
  ["Kind", "Name", "Container", "Location"]

/-- The row of a symbol, its name indented by its depth. -/
def symbolRow (workspace : Workspace) (depth : Nat) (symbol : Symbol) : List String :=
  [symbol.kind.word, String.ofList (List.replicate (2 * depth) ' ') ++ symbol.name,
    symbol.containerName.getD "-",
    placeText workspace symbol.location.path symbol.location.startLine]

mutual

/-- The rows of an outline. -/
def outlineRows (workspace : Workspace) (depth : Nat) : Outline → List (List String)
  | .node symbol children =>
    symbolRow workspace depth symbol :: forestRows workspace (depth + 1) children

/-- The rows of a forest. -/
def forestRows (workspace : Workspace) (depth : Nat) : List Outline → List (List String)
  | [] => []
  | first :: rest => outlineRows workspace depth first ++ forestRows workspace depth rest

end

/-- The row of a reference. -/
def referenceRow (workspace : Workspace) (reference : Reference) : List String :=
  let location := reference.location
  let place := placeText workspace location.path location.startLine
  [match location.column with
    | some column => place ++ ":" ++ toString column
    | none => place,
    if reference.isDefinition then "*" else "",
    String.ofList reference.line]

/-- The rows of lines from a number on, with a mark at one of them. -/
def lineRows (focus : Nat) : Nat → List Text → List (List String)
  | _, [] => []
  | number, line :: rest =>
    [if number = focus then ">" else "", toString number, String.ofList line]
      :: lineRows focus (number + 1) rest

/-- Lines in context as a table. -/
def contextTable (context : Context) : Table :=
  { header := ["", "Line", "Source"]
    rows := lineRows context.focusLine context.startLine context.lines }

/-- References as a table. -/
def referenceTable (workspace : Workspace) (references : List Reference) : Table :=
  { header := ["Location", "Def", "Line"], rows := references.map (referenceRow workspace) }

/-- Symbols as a printout. -/
def symbolsPrintout (workspace : Workspace) (symbols : List Symbol) : Printout :=
  .ofTable (encodeList Symbol.toJson symbols) symbolHeader (symbols.map (symbolRow workspace 0))

/-- A search result as a printout: the symbols, the context of each, and the references. -/
def searchPrintout (workspace : Workspace) (result : SearchResult) : Printout where
  json := result.toJson
  text :=
    (symbolsPrintout workspace result.symbols).text
      ++ String.join (result.contexts.map fun context =>
        "\n" ++ context.file ++ ":" ++ toString context.focusLine ++ "\n"
          ++ Printout.tableText (contextTable context))
      ++ if result.references.isEmpty then ""
        else "\n" ++ Printout.tableText (referenceTable workspace result.references)

/-- Lines in context as a printout, after the declaration that they are in. -/
def contextPrintout (context : Context) : Printout where
  json := context.toJson
  text :=
    (match context.enclosing with
      | some symbol => "in " ++ symbol.kind.word ++ " " ++ symbol.name ++ "\n"
      | none => "")
      ++ Printout.tableText (contextTable context)

/-- The columns of named values. -/
def valueHeader : List String :=
  ["Key", "Value"]

/-- The rows of a type hint. -/
def hintRows (hint : TypeHint) : List (List String) :=
  [["name", hint.name], ["kind", hint.kind.word]]
    ++ (hint.declaredType.toList.map fun type => ["type", type])
    ++ (hint.returnType.toList.map fun type => ["returns", type])
    ++ [["inferred", if hint.inferred then "true" else "false"], ["why", hint.rationale.text]]

/-- File names as a printout. -/
def filesPrintout (files : List String) : Printout :=
  .ofTable (.strings files) ["File"] (files.map ([·]))

/-- Cycles, each as the names of its files, as a printout. -/
def cyclesPrintout (cycles : List (List String)) : Printout :=
  .ofTable (encodeList JsonValue.strings cycles) ["#", "Cycle"]
    (cycles.mapIdx fun index cycle => [toString (index + 1), " -> ".intercalate cycle])

/-- The request that a command makes, and how its answer is printed. A command about the
configuration makes none. -/
def request? (workspace : Workspace) :
    Command → Option ((request : Request) × (request.Answer → Printout))
  | .search query => some ⟨.search query, searchPrintout workspace⟩
  | .symbols file =>
    some ⟨.outline file, fun outline =>
      .ofTable (.array (Outline.listJson outline)) symbolHeader (forestRows workspace 0 outline)⟩
  | .context file line size =>
    some ⟨.context file line size, .ofOption "Line is past the end of the file." contextPrintout⟩
  | .references query =>
    some ⟨.references query, fun references =>
      { json := encodeList Reference.toJson references
        text := Printout.tableText (referenceTable workspace references) }⟩
  | .hint position =>
    some ⟨.typeHint position, .ofOption "No symbol at this position." fun found =>
      .ofTable found.toJson valueHeader (hintRows found)⟩
  | .definition position =>
    some ⟨.definition position, .ofOption "No definition found." fun symbol =>
      .ofTable symbol.toJson symbolHeader [symbolRow workspace 0 symbol]⟩
  | .implementations position => some ⟨.implementations position, symbolsPrintout workspace⟩
  | .derivedClasses position => some ⟨.derivedClasses position, symbolsPrintout workspace⟩
  | .analyze query =>
    some ⟨.dependencyGraph query, fun graph =>
      let summary := graph.summary
      .ofTable summary.toJson valueHeader [
        ["files", toString summary.nodeCount],
        ["imports", toString summary.edgeCount],
        ["external", ", ".intercalate summary.externals]]⟩
  | .dependencies file =>
    some ⟨.dependencies file, fun paths => filesPrintout (paths.map workspace.relative)⟩
  | .dependents file =>
    some ⟨.dependents file, fun paths => filesPrintout (paths.map workspace.relative)⟩
  | .counts file =>
    some ⟨.edgeCounts file, .ofOption "File is not in the graph." fun edges =>
      .ofTable edges.toJson valueHeader [
        ["file", edges.file],
        ["dependencies", toString edges.dependencies],
        ["dependents", toString edges.dependents]]⟩
  | .cycles absolute =>
    some ⟨.cycles, fun cycles =>
      cyclesPrintout (cycles.map fun cycle =>
        cycle.map fun path => if absolute then path.text else workspace.relative path)⟩
  | .top limit =>
    some ⟨.mostReferenced limit, fun ranked =>
      .ofTable (encodeList (fun (path, count) => rankJson (workspace.relative path) count) ranked)
        ["File", "Dependents"]
        (ranked.map fun (path, count) => [workspace.relative path, toString count])⟩
  | .unused query =>
    some ⟨.unusedExports query, fun unused =>
      .ofTable (encodeList UnusedExport.toJson unused) ["File", "Kind", "Export", "Line"]
        (unused.map fun item => [item.file, item.symbol.kind.word, item.symbol.name,
          toString item.symbol.location.startLine])⟩
  | .config _ => none

/-- A run that failed. -/
def failed (message : String) : Outcome :=
  { exit := 1, stderr := "Error: " ++ message ++ "\n" }

/-- The run of a command about the configuration. -/
def runConfig (storage : Path → Storage) (directory : Path) (setting : Option String)
    (schema : Bool) : Outcome :=
  if schema then { exit := 0, stdout := Config.schema.pretty ++ "\n" }
  else match (storage directory).loadConfig directory setting with
    | .ok settings => { exit := 0, stdout := settings.toJson.pretty ++ "\n" }
    | .error failure => failed failure.withCause

/-- The run of a command in a directory that was given as `shown`. -/
def runIn (storage : Path → Storage) (directory shown : Path) (setting : Option String)
    (asJson : Bool) (command : Command) : Outcome :=
  match command with
  | .config schema => runConfig storage directory setting schema
  | _ =>
    match Engine.ofDirectory storage directory shown setting with
    | .error failure => failed ("cannot open workspace " ++ shown.text ++ ": " ++ failure.withCause)
    | .ok engine =>
      match command.request? engine.workspace with
      | none => { exit := 0 }
      | some ⟨request, printout⟩ =>
        match (engine.handle request).1 with
        | .ok answer => { exit := 0, stdout := (printout answer).print asJson }
        | .error failure => failed failure.report

/-- The run of a command line. -/
def run (storage : Path → Storage) (current : Path) (setting : Option String)
    (args : List String) : Outcome :=
  match Invocation.parse? args with
  | none => { exit := 2 }
  | some .version => { exit := 0, stdout := "wayfinder 0.1.0\n" }
  | some (.run root asJson command) =>
    let shown := root.getD current
    runIn storage (current.join shown) shown setting asJson command

end Command

end CodeAtlas
