import CodeAtlas.Text.Basic

/-!
# Masking comments and literals

Masking blanks out the parts of a source that must not be read as code. Every blanked character
becomes as many spaces as it has bytes and line feeds stay, so byte offsets and line numbers of the
masked text are those of the source. `MaskState.next` is the whole lexical rule: read it first.
-/

namespace CodeAtlas.Text

/-- What masking blanks out. -/
inductive MaskMode where
  /-- Comments only; literals stay as they are. -/
  | comments
  /-- Comments and the contents of literals; the quotes themselves stay. -/
  | all
  deriving DecidableEq, Repr

/-- Where the masking machine stands between two characters. -/
inductive MaskState where
  /-- In plain code. -/
  | code
  /-- After a slash in code that a second slash or a star follows: the second character opens the
  comment. -/
  | opening (block : Bool)
  /-- In a comment that ends with its line. -/
  | lineComment
  /-- In a comment that ends with a star and a slash. -/
  | blockComment
  /-- After the star that closes a block comment. -/
  | closing
  /-- In a literal opened by `quote`. -/
  | literal (quote : Char)
  /-- In a literal opened by `quote`, after a backslash. -/
  | escaped (quote : Char)
  deriving DecidableEq, Repr

namespace MaskState

/-- The state after a character, given the character that follows it. -/
def next (state : MaskState) (c : Char) (following : Option Char) : MaskState :=
  match state with
  | .code =>
    if c = '/' && following = some '/' then .opening false
    else if c = '/' && following = some '*' then .opening true
    else if c = '\'' || c = '"' || c = '`' then .literal c
    else .code
  | .opening false => .lineComment
  | .opening true => .blockComment
  | .lineComment => if c = '\n' then .code else .lineComment
  | .blockComment => if c = '*' && following = some '/' then .closing else .blockComment
  | .closing => .code
  | .literal quote =>
    if c = '\\' then .escaped quote
    else if c = quote then .code
    else if c = '\n' && quote != '`' then .code
    else .literal quote
  | .escaped quote => .literal quote

/-- Whether the character read in this state stays as it is. -/
def keeps (mode : MaskMode) (state : MaskState) (c : Char) (following : Option Char) : Bool :=
  match state with
  | .code => !(c = '/' && (following = some '/' || following = some '*'))
  | .opening _ | .lineComment | .blockComment | .closing => false
  | .literal quote => mode = .comments || c = quote
  | .escaped _ => mode = .comments

end MaskState

/-- The spaces that stand for a blanked character; a line feed stands for itself. -/
def blank (c : Char) : Text :=
  if c = '\n' then ['\n'] else List.replicate c.utf8Size ' '

/-- Mask a text that is read from the given state on. -/
def maskFrom (mode : MaskMode) : MaskState → Text → Text
  | _, [] => []
  | state, c :: rest =>
    let following := rest.head?
    (if state.keeps mode c following then [c] else blank c)
      ++ maskFrom mode (state.next c following) rest

/-- The text with comments, and in mode `all` the contents of literals, blanked out. -/
def mask (mode : MaskMode) (text : Text) : Text :=
  maskFrom mode .code text

end CodeAtlas.Text
