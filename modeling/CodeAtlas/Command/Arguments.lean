import CodeAtlas.Engine

/-!
# Command line arguments

What the words of a command line ask for. Options may stand anywhere after the command they belong
to, attached to their values or followed by them; three options may be given at every level, and
there the deepest one counts. `Invocation.parse?` is `none` for a command line that is misused.
-/

namespace CodeAtlas

/-- How an option is used. -/
inductive OptionForm where
  /-- Given or not. -/
  | switch
  /-- With a value, at most once. -/
  | single
  /-- With a value, any number of times. -/
  | repeated
  /-- Ends the reading of the command line. -/
  | final
  deriving DecidableEq, Repr, Inhabited

/-- An option. -/
structure OptionRule where
  name : String
  letter : Option Char := none
  form : OptionForm := .single
  deriving DecidableEq, Repr, Inhabited

/-- The words at one level of a command line. -/
structure Words where
  /-- The options with their values, newest first; a switch has an empty value. -/
  options : List (String × String) := []
  /-- The other words, newest first. -/
  operands : List String := []
  /-- The name of the next level and its words. -/
  next : Option (String × List String) := none
  /-- A final option was given. -/
  isFinal : Bool := false
  deriving DecidableEq, Repr, Inhabited

namespace Words

/-- Add an option, unless it may not be given again. -/
def add? (words : Words) (rule : OptionRule) (value : String) : Option Words :=
  if rule.form ≠ .repeated && words.options.any (·.1 = rule.name) then none
  else some { words with options := (rule.name, value) :: words.options }

/-- Read the letters of a word after its hyphen. The result tells whether the last option still
waits for its value. -/
def letters? (rules : List OptionRule) : Words → Text → Option (Words × Option OptionRule)
  | words, [] => some (words, none)
  | words, c :: rest =>
    match rules.find? (·.letter = some c) with
    | none => none
    | some rule =>
      match rule.form with
      | .final => some ({ words with isFinal := true }, none)
      | .switch => (words.add? rule "").bind (letters? rules · rest)
      | .single | .repeated =>
        match rest with
        | [] => some (words, some rule)
        | '=' :: value => (words.add? rule (String.ofList value)).map (·, none)
        | value => (words.add? rule (String.ofList value)).map (·, none)

/-- Read the name of a word after its two hyphens. The result tells whether the option still waits
for its value. -/
def name? (rules : List OptionRule) (words : Words) (text : Text) :
    Option (Words × Option OptionRule) :=
  let (name, rest) := text.span (· != '=')
  match rules.find? (·.name.toList = name) with
  | none => none
  | some rule =>
    match rule.form, rest with
    | .final, [] => some ({ words with isFinal := true }, none)
    | .switch, [] => (words.add? rule "").map (·, none)
    | .final, _ :: _ | .switch, _ :: _ => none
    | _, [] => some (words, some rule)
    | _, _ :: value => (words.add? rule (String.ofList value)).map (·, none)

/-- Whether a word names options. -/
def isOption (word : String) : Bool :=
  match word.toList with
  | '-' :: _ :: _ => true
  | _ => false

/-- Read the words of one level. At a level with further levels the first operand names the next
one. After two hyphens every word is an operand. -/
def read? (rules : List OptionRule) (hasLevels : Bool) (pending : Option OptionRule) :
    Words → List String → Option Words
  | words, [] => if pending.isNone then some words else none
  | words, word :: rest =>
    match pending with
    | some rule =>
      if isOption word then none
      else (words.add? rule word).bind (read? rules hasLevels none · rest)
    | none =>
      match word.toList with
      | ['-', '-'] =>
        if hasLevels then none else some { words with operands := rest.reverse ++ words.operands }
      | '-' :: '-' :: name =>
        (name? rules words name).bind fun (words, pending) =>
          if words.isFinal then some words else read? rules hasLevels pending words rest
      | '-' :: c :: letters =>
        (letters? rules words (c :: letters)).bind fun (words, pending) =>
          if words.isFinal then some words else read? rules hasLevels pending words rest
      | _ =>
        if hasLevels then some { words with next := some (word, rest) }
        else read? rules hasLevels none { words with operands := word :: words.operands } rest

/-- The value of an option. -/
def value? (words : Words) (name : String) : Option String :=
  (words.options.find? (·.1 = name)).map (·.2)

/-- Whether an option is given. -/
def has (words : Words) (name : String) : Bool :=
  words.options.any (·.1 = name)

/-- The values of an option in the order in which they were given. -/
def values (words : Words) (name : String) : List String :=
  (words.options.reverse.filter (·.1 = name)).map (·.2)

/-- The number that an option gives, `none` if it is no number. -/
def number? (words : Words) (name : String) : Option (Option Nat) :=
  match words.value? name with
  | none => some none
  | some text => (Config.wholeNumber? text.toList).map some

/-- The globs of the options for them. -/
def scope (words : Words) : Scope :=
  { included := words.values "include", excluded := words.values "exclude" }

end Words

/-- What a command line asks for. -/
inductive Command where
  | search (query : SearchQuery)
  | symbols (file : Path)
  | context (file : Path) (line : Nat) (size : Option Nat)
  | references (query : ReferenceQuery)
  | hint (position : Position)
  | definition (position : Position)
  | implementations (position : Position)
  | derivedClasses (position : Position)
  | analyze (query : GraphQuery)
  | dependencies (file : Path)
  | dependents (file : Path)
  | counts (file : Path)
  | cycles (absolute : Bool)
  | top (limit : Nat)
  | unused (query : GraphQuery)
  | config (schema : Bool)
  deriving DecidableEq, Repr, Inhabited

/-- A command with the options of every level. -/
inductive Invocation where
  /-- Print the version. -/
  | version
  /-- Run a command in a root, with its results as JSON or as tables. -/
  | run (root : Option Path) (json : Bool) (command : Command)
  deriving DecidableEq, Repr, Inhabited

namespace Command

/-- The options of every level. -/
def commonRules : List OptionRule := [
  { name := "root", letter := some 'r' },
  { name := "json", form := .switch },
  { name := "verbose", letter := some 'v', form := .switch }]

/-- The options that select files. -/
def scopeRules : List OptionRule :=
  [{ name := "include", form := .repeated }, { name := "exclude", form := .repeated }]

/-- The options of a search. -/
def searchRules : List OptionRule := scopeRules ++ [
  { name := "kind", letter := some 'k' },
  { name := "case-sensitive", letter := some 'c', form := .switch },
  { name := "max", letter := some 'm' },
  { name := "refs", form := .switch },
  { name := "context" },
  { name := "timeout" }]

/-- The options of a request for references. -/
def referenceRules : List OptionRule := scopeRules ++ [
  { name := "max", letter := some 'm' },
  { name := "timeout" }]

/-- The options of a request for a graph. -/
def graphRules : List OptionRule := scopeRules ++ [
  { name := "external", form := .switch },
  { name := "depth" },
  { name := "timeout" }]

/-- A path, which has to have a character. -/
def path? (text : String) : Option Path :=
  if text.isEmpty then none else some ⟨text⟩

/-- The only operand as a path. -/
def file? (words : Words) : Option Path :=
  match words.operands with
  | [file] => path? file
  | _ => none

/-- Three operands as a position. -/
def position? (words : Words) : Option Position :=
  match words.operands with
  | [column, line, file] => do
    pure { path := ← path? file, line := ← Config.wholeNumber? line.toList
           column := ← Config.wholeNumber? column.toList }
  | _ => none

/-- The kind of symbol that an option gives, `none` if there is no such kind. -/
def kind? (words : Words) : Option (Option SymbolKind) :=
  match words.value? "kind" with
  | none => some none
  | some text => (SymbolKind.ofWord? text).map some

/-- A search. -/
def search? (words : Words) : Option Command :=
  match words.operands with
  | [name] => do
    pure (search {
      name, kind := ← kind? words, scope := words.scope, caseSensitive := words.has "case-sensitive"
      maxResults := ← words.number? "max", withReferences := words.has "refs"
      contextLines := ← words.number? "context", timeout := ← words.number? "timeout" })
  | _ => none

/-- A request for references. -/
def references? (words : Words) : Option Command := do
  pure (references {
    target := .position (← position? words), scope := words.scope
    maxResults := ← words.number? "max", timeout := ← words.number? "timeout" })

/-- A request for the lines around a line. -/
def context? (words : Words) : Option Command :=
  match words.operands with
  | [line, file] => do
    pure (context (← path? file) (← Config.wholeNumber? line.toList) (← words.number? "size"))
  | _ => none

/-- A request for a graph. -/
def graphQuery? (words : Words) : Option GraphQuery :=
  if words.operands.isEmpty then do
    pure {
      scope := words.scope, withPackages := words.has "external"
      maxDepth := ← words.number? "depth", timeout := ← words.number? "timeout" }
  else none

/-- A command without operands. -/
def bare? (words : Words) (command : Command) : Option Command :=
  if words.operands.isEmpty then some command else none

/-- The options of a command and what its words ask for. -/
def ofName? (name : String) : Option (List OptionRule × (Words → Option Command)) :=
  match name with
  | "search" => some (searchRules, search?)
  | "symbols" => some ([], fun words => (file? words).map symbols)
  | "context" => some ([{ name := "size", letter := some 'n' }], context?)
  | "refs" => some (referenceRules, references?)
  | "hint" => some ([], fun words => (position? words).map hint)
  | "def" => some ([], fun words => (position? words).map definition)
  | "impls" => some ([], fun words => (position? words).map implementations)
  | "derived" => some ([], fun words => (position? words).map derivedClasses)
  | "config" =>
    some ([{ name := "schema", form := .switch }],
      fun words => bare? words (config (words.has "schema")))
  | _ => none

/-- The same for the commands about dependencies. -/
def ofDependencyName? (name : String) : Option (List OptionRule × (Words → Option Command)) :=
  match name with
  | "analyze" => some (graphRules, fun words => (graphQuery? words).map analyze)
  | "of" => some ([], fun words => (file? words).map dependencies)
  | "dependents" => some ([], fun words => (file? words).map dependents)
  | "counts" => some ([], fun words => (file? words).map counts)
  | "cycles" =>
    some ([{ name := "absolute", form := .switch }],
      fun words => bare? words (cycles (words.has "absolute")))
  | "top" =>
    some ([{ name := "limit", letter := some 'n' }], fun words =>
      (words.number? "limit").bind fun limit => bare? words (top (limit.getD 10)))
  | "unused" => some (graphRules, fun words => (graphQuery? words).map unused)
  | _ => none

end Command

namespace Invocation

/-- The options of the first level. -/
def topRules : List OptionRule :=
  { name := "version", letter := some 'V', form := .final } :: Command.commonRules

/-- The root that the deepest level gives, `none` if it is empty. -/
def root? (levels : List Words) : Option (Option Path) :=
  (levels.filterMap (·.value? "root")).mapM Command.path? |>.map List.head?

/-- Read the words of a command below the given levels, which are listed innermost first. -/
def command? (levels : List Words) (args : List String)
    (found : List OptionRule × (Words → Option Command)) : Option Invocation := do
  let words ← Words.read? (Command.commonRules ++ found.1) false none {} args
  let command ← found.2 words
  let levels := words :: levels
  pure (run (← root? levels) (levels.any (·.has "json")) command)

/-- What a command line asks for. -/
def parse? (args : List String) : Option Invocation := do
  let top ← Words.read? topRules true none {} args
  let _ ← root? [top]
  if top.isFinal then return version
  let (name, rest) ← top.next
  if name = "deps" then
    let below ← Words.read? Command.commonRules true none {} rest
    let (name, rest) ← below.next
    command? [below, top] rest (← Command.ofDependencyName? name)
  else command? [top] rest (← Command.ofName? name)

end Invocation

end CodeAtlas
