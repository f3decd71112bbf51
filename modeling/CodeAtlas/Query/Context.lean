import CodeAtlas.Inquiry.Basic

/-!
# Lines in context

The lines around a line of a file, with the innermost declaration that spans it.
-/

namespace CodeAtlas

/-- The lines around a line. -/
structure Context where
  /-- The file, relative to the workspace. -/
  file : String
  startLine : Nat
  endLine : Nat
  focusLine : Nat
  lines : List Text
  enclosing : Option Symbol
  deriving DecidableEq, Repr, Inhabited

namespace Context

/-- The lines as one text. -/
def text (context : Context) : Text :=
  Text.join ['\n'] context.lines

/-- Whether a symbol can enclose lines. -/
def encloses (line : Nat) (symbol : Symbol) : Bool :=
  symbol.location.containsLine line && (symbol.kind.isContainer || symbol.kind.isCallable)

/-- The first symbol of smallest span. -/
def narrowest? : List Symbol → Option Symbol
  | [] => none
  | symbol :: rest =>
    match narrowest? rest with
    | none => some symbol
    | some other => if symbol.location.span ≤ other.location.span then some symbol else some other

/-- The innermost container or callable symbol that spans a line. -/
def enclosing? (symbols : List Symbol) (line : Nat) : Option Symbol :=
  narrowest? (symbols.filter (encloses line))

/-- The window of `size` lines on either side of a line, if the line is there. -/
def window? (file : String) (lines : List Text) (line size : Nat) (enclosing : Option Symbol) :
    Option Context :=
  if lines.length < line then none
  else
    let startLine := max (line - size) 1
    let endLine := min (line + size) lines.length
    some {
      file, startLine, endLine, focusLine := line
      lines := (lines.drop (startLine - 1)).take (endLine + 1 - startLine)
      enclosing }

/-- The lines around a line of a file, none past its last line, or why there are none. -/
def consult (workspace : Workspace) (path : Path) (line size : Nat) :
    Inquiry (Except Failure (Option Context)) :=
  if line = 0 then pure (.error (.misuse .zeroLine))
  else do
    match ← Inquiry.attempt (.content path) with
    | .error failure => return .error failure
    | .ok content =>
      let lines := Text.lines content
      if lines.length < line then return .ok none
      let enclosing := match ← Inquiry.attempt (.symbols path) with
        | .ok symbols => enclosing? symbols line
        | .error _ => none
      return .ok (window? (workspace.relative path) lines line size enclosing)

/-- The lines around a line of a file, or none past its last line. -/
def around (workspace : Workspace) (path : Path) (line size : Nat) : Inquiry (Option Context) := do
  Inquiry.ofExcept (← consult workspace path line size)

end Context

end CodeAtlas
