import CodeAtlas.Module.Scan
import CodeAtlas.Proofs.Pattern.Search
import CodeAtlas.Proofs.Text.Literal

/-!
# Import and export lines

The lines of a module that only imports and re-exports, as data: `Line.text` prints one and
`Line.imports` and `Line.exports` are the records it denotes. Names and specifiers carry the
conditions under which printing is faithful. `Line.pieces` takes a printed line apart into words, marks
and quoted parts (`text_of_pieces`). Masking only changes what stands in quotes, so a masked print is
the print of masked lines (`mask_print`).
-/

namespace CodeAtlas.Module

open Pattern (Piece textOf)
open Text (IsName isNameChar reservedWords byteLength)

/-- An ASCII identifier that is neither a reserved word nor `type`. -/
structure Name where
  text : Text
  is_name : IsName text
  no_digit : ∀ c, text.head? = some c → Text.isAsciiDigit c = false
  not_reserved : String.ofList text ∉ reservedWords
  not_type : String.ofList text ≠ "type"

/-- The words that no specifier holds. -/
def statementWords : List Text :=
  ["import".toList, "export".toList, "require".toList]

/-- A specifier that can be written between single quotes and holds none of the words that
statements start with. -/
structure Specifier where
  text : Text
  ne_nil : text ≠ []
  plain : ∀ c ∈ text, c ≠ '\'' ∧ c ≠ '"' ∧ c ≠ '`' ∧ c ≠ '\\' ∧ c ≠ '\n'
  no_word : ∀ word ∈ statementWords, ¬word <:+: text

/-- A name in braces, with the name that it is given or taken under. -/
structure Item where
  name : Name
  rename : Option Name

/-- What an import with bindings takes from its module. -/
inductive Clause where
  /-- `D` -/
  | default (name : Name)
  /-- `* as N` -/
  | whole (name : Name)
  /-- `{ a, b as c }` -/
  | named (first : Item) (others : List Item)
  /-- `D, { a, b as c }` -/
  | defaultNamed (name : Name) (first : Item) (others : List Item)
  /-- `D, * as N` -/
  | defaultWhole (name other : Name)

/-- What a variable bound to a required module is. -/
inductive Binding where
  /-- `N` -/
  | plain (name : Name)
  /-- `{ a, b: c }` -/
  | items (first : Item) (others : List Item)

/-- An import or a re-export on one line. -/
inductive Line where
  /-- `import 'S';` -/
  | sideEffect (source : Specifier)
  /-- `import D from 'S';` -/
  | importFrom (clause : Clause) (source : Specifier)
  /-- `import N = require('S');` -/
  | importRequire (name : Name) (source : Specifier)
  /-- `const N = require('S');` -/
  | requireBinding (binding : Binding) (source : Specifier)
  /-- `export * from 'S';` -/
  | exportStar (source : Specifier)
  /-- `export { a as b, c } from 'S';` -/
  | exportList (first : Item) (others : List Item) (source : Specifier)

/-- How an item is renamed. -/
inductive Renaming where
  /-- With the word `as`, in imports and exports. -/
  | byWord
  /-- With a colon, in a pattern. -/
  | byColon

section Print

/-- What stands between the two names of an item. -/
def Renaming.text : Renaming → Text
  | .byWord => " as ".toList
  | .byColon => ": ".toList

/-- The text of an item. -/
def Item.text (style : Renaming) (item : Item) : Text :=
  match item.rename with
  | none => item.name.text
  | some other => item.name.text ++ style.text ++ other.text

/-- Items between a pair of braces, with a space on either side. -/
def listText (style : Renaming) (first : Item) (others : List Item) : Text :=
  ' ' :: (Text.join ", ".toList ((first :: others).map (Item.text style)) ++ [' '])

/-- Items in braces. -/
def bracesText (style : Renaming) (first : Item) (others : List Item) : Text :=
  '{' :: (listText style first others ++ ['}'])

/-- The text of a clause. -/
def Clause.text : Clause → Text
  | .default name => name.text
  | .whole name => "* as ".toList ++ name.text
  | .named first others => bracesText .byWord first others
  | .defaultNamed name first others =>
    name.text ++ ", ".toList ++ bracesText .byWord first others
  | .defaultWhole name other => name.text ++ ", * as ".toList ++ other.text

/-- The text of a binding. -/
def Binding.text : Binding → Text
  | .plain name => name.text
  | .items first others => bracesText .byColon first others

/-- A specifier in quotes. -/
def Specifier.quoted (source : Specifier) : Text :=
  '\'' :: (source.text ++ ['\''])

/-- A call of `require`. -/
def Specifier.call (source : Specifier) : Text :=
  "require(".toList ++ source.quoted ++ [')']

/-- The text of a line up to its semicolon. -/
def Line.text : Line → Text
  | .sideEffect source => "import ".toList ++ source.quoted
  | .importFrom clause source => "import ".toList ++ clause.text ++ " from ".toList ++ source.quoted
  | .importRequire name source => "import ".toList ++ name.text ++ " = ".toList ++ source.call
  | .requireBinding binding source =>
    "const ".toList ++ binding.text ++ " = ".toList ++ source.call
  | .exportStar source => "export * from ".toList ++ source.quoted
  | .exportList first others source =>
    "export ".toList ++ bracesText .byWord first others ++ " from ".toList ++ source.quoted

/-- Lines with a semicolon each, divided by line feeds; `ended` says whether one ends the last line.
-/
def print (ended : Bool) : List Line → Text
  | [] => []
  | line :: rest =>
    line.text ++ ';' :: ((if rest.isEmpty && !ended then [] else ['\n']) ++ print ended rest)

end Print

section Denote

/-- A text as the string that records hold. -/
abbrev Name.string (name : Name) : String :=
  String.ofList name.text

/-- A specifier as the string that records hold. -/
abbrev Specifier.string (source : Specifier) : String :=
  String.ofList source.text

/-- The import of an item in braces. -/
def Item.import (source : Specifier) (item : Item) : Import :=
  { name := item.name.string, source := source.string, localName := item.rename.map Name.string }

/-- The import of a name as the default. -/
def Name.default (source : Specifier) (name : Name) : Import :=
  { name := name.string, source := source.string, isDefault := true }

/-- The imports of a clause. -/
def Clause.imports (source : Specifier) : Clause → List Import
  | .default name => [name.default source]
  | .whole name => [.whole source.string (some name.string)]
  | .named first others => (first :: others).map (Item.import source)
  | .defaultNamed name first others =>
    name.default source :: (first :: others).map (Item.import source)
  | .defaultWhole name other =>
    [name.default source, .whole source.string (some other.string)]

/-- The imports that a line denotes. -/
def Line.imports : Line → List Import
  | .sideEffect source => [{ name := "", source := source.string }]
  | .importFrom clause source => clause.imports source
  | .importRequire name source => [.whole source.string (some name.string)]
  | .requireBinding (.plain name) source => [.whole source.string (some name.string)]
  | .requireBinding (.items first others) source => (first :: others).map (Item.import source)
  | .exportStar _ | .exportList _ _ _ => []

/-- The re-export of an item in braces, under the name that it is given. -/
def Item.export (source : Specifier) (item : Item) : Export :=
  { name := (item.rename.getD item.name).string, isReExport := true, source := some source.string }

/-- The exports that a line denotes. -/
def Line.exports : Line → List Export
  | .exportStar source => [{ name := "*", isReExport := true, source := some source.string }]
  | .exportList first others source => (first :: others).map (Item.export source)
  | _ => []

/-- The module that a line takes names from. -/
def Line.importSource? : Line → Option String
  | .sideEffect source | .importFrom _ source | .importRequire _ source
  | .requireBinding _ source => some source.string
  | .exportStar _ | .exportList _ _ _ => none

/-- The module whose names a line passes on. -/
def Line.exportSource? : Line → Option String
  | .exportStar source | .exportList _ _ source => some source.string
  | _ => none

/-- Whether a line binds names. -/
def Line.binds : Line → Bool
  | .sideEffect _ => false
  | _ => true

/-- The extents of the lines that bind names, without their semicolons; the first line starts at
`offset`. -/
def bindingsFrom (offset : Nat) : List Line → List ByteRange
  | [] => []
  | line :: rest =>
    (if line.binds then [⟨offset, offset + byteLength line.text⟩] else []) ++
      bindingsFrom (offset + byteLength line.text + 2) rest

end Denote

section Pieces

/-- The character after the first name of an item that is renamed. -/
def Renaming.after : Renaming → Char
  | .byWord => ' '
  | .byColon => ':'

/-- The pieces between that character and the second name. -/
def Renaming.pieces : Renaming → List Piece
  | .byWord => [.word "as".toList ' ']
  | .byColon => [.mark ' ']

/-- The pieces of an item and of the character after it. -/
def Item.pieces (style : Renaming) (after : Char) (item : Item) : List Piece :=
  match item.rename with
  | none => [.word item.name.text after]
  | some other => .word item.name.text style.after :: (style.pieces ++ [.word other.text after])

/-- The pieces of items up to the space after the last one. -/
def listPieces (style : Renaming) : Item → List Item → List Piece
  | item, [] => item.pieces style ' '
  | item, next :: rest => item.pieces style ',' ++ .mark ' ' :: listPieces style next rest

/-- The pieces of items in braces. -/
def bracesPieces (style : Renaming) (first : Item) (others : List Item) : List Piece :=
  .mark '{' :: .mark ' ' :: (listPieces style first others ++ [.mark '}'])

/-- The pieces of a clause and the space after it. -/
def Clause.pieces : Clause → List Piece
  | .default name => [.word name.text ' ']
  | .whole name => [.mark '*', .mark ' ', .word "as".toList ' ', .word name.text ' ']
  | .named first others => bracesPieces .byWord first others ++ [.mark ' ']
  | .defaultNamed name first others =>
    .word name.text ',' :: .mark ' ' :: (bracesPieces .byWord first others ++ [.mark ' '])
  | .defaultWhole name other =>
    [.word name.text ',', .mark ' ', .mark '*', .mark ' ', .word "as".toList ' ',
      .word other.text ' ']

/-- The pieces of a binding and the space after it. -/
def Binding.pieces : Binding → List Piece
  | .plain name => [.word name.text ' ']
  | .items first others => bracesPieces .byColon first others ++ [.mark ' ']

/-- The pieces from the word `from` on. -/
def Specifier.fromPieces (source : Specifier) : List Piece :=
  [.word "from".toList ' ', .quoted source.text, .mark ';']

/-- The pieces from a call of `require` on. -/
def Specifier.callPieces (source : Specifier) : List Piece :=
  [.word "require".toList '(', .quoted source.text, .mark ')', .mark ';']

/-- The word that a line starts with. -/
def Line.head : Line → Text
  | .sideEffect _ | .importFrom _ _ | .importRequire _ _ => "import".toList
  | .requireBinding _ _ => "const".toList
  | .exportStar _ | .exportList _ _ _ => "export".toList

/-- The pieces of a line after its first word and a space, with the semicolon. -/
def Line.tail : Line → List Piece
  | .sideEffect source => [.quoted source.text, .mark ';']
  | .importFrom clause source => clause.pieces ++ source.fromPieces
  | .importRequire name source =>
    .word name.text ' ' :: .mark '=' :: .mark ' ' :: source.callPieces
  | .requireBinding binding source => binding.pieces ++ .mark '=' :: .mark ' ' :: source.callPieces
  | .exportStar source => .mark '*' :: .mark ' ' :: source.fromPieces
  | .exportList first others source =>
    bracesPieces .byWord first others ++ .mark ' ' :: source.fromPieces

/-- The pieces of a line with its semicolon. -/
def Line.pieces (line : Line) : List Piece :=
  .word line.head ' ' :: line.tail

/-- Pieces one after another. -/
@[simp] theorem text_of_append (left right : List Piece) :
    textOf (left ++ right) = textOf left ++ textOf right :=
  List.flatMap_append

/-- A piece and the others. -/
@[simp] theorem text_of_cons (piece : Piece) (pieces : List Piece) :
    textOf (piece :: pieces) = piece.text ++ textOf pieces :=
  List.flatMap_cons

/-- No pieces. -/
@[simp] theorem text_of_nil : textOf [] = [] :=
  rfl

/-- The text of the pieces of an item. -/
theorem Item.text_of_pieces (style : Renaming) (after : Char) (item : Item) :
    textOf (item.pieces style after) = item.text style ++ [after] := by
  have hstyle : style.text = style.after :: textOf style.pieces := by cases style <;> rfl
  rw [Item.pieces, Item.text]
  split
  · simp [Piece.text]
  · simp [Piece.text, hstyle]

/-- The text of the pieces of items. -/
theorem text_of_list_pieces (style : Renaming) (first : Item) (others : List Item) :
    ' ' :: textOf (listPieces style first others) = listText style first others := by
  rw [listText, List.cons.injEq]
  refine ⟨rfl, ?_⟩
  induction others generalizing first with
  | nil => rw [listPieces, Item.text_of_pieces]; rfl
  | cons next rest ih =>
      rw [listPieces, text_of_append, Item.text_of_pieces, text_of_cons, ih]
      simp [Piece.text, Text.join]

/-- The text of the pieces of items in braces. -/
theorem text_of_braces_pieces (style : Renaming) (first : Item) (others : List Item) :
    textOf (bracesPieces style first others) = bracesText style first others := by
  rw [bracesText, ← text_of_list_pieces, bracesPieces]
  simp [Piece.text]

/-- The text of the pieces of a clause. -/
theorem Clause.text_of_pieces (clause : Clause) : textOf clause.pieces = clause.text ++ [' '] := by
  have hcomma : ", ".toList = [','] ++ [' '] := rfl
  have hstar : "* as ".toList = ['*'] ++ ([' '] ++ ("as".toList ++ [' '])) := rfl
  have hboth : ", * as ".toList = [','] ++ ([' '] ++ "* as ".toList) := rfl
  cases clause <;> unfold Clause.pieces Clause.text <;>
    simp only [hcomma, hboth, hstar, text_of_cons, text_of_append, text_of_nil,
      text_of_braces_pieces, Piece.text, List.append_nil, List.append_assoc]

/-- The text of the pieces of a binding. -/
theorem Binding.text_of_pieces (binding : Binding) :
    textOf binding.pieces = binding.text ++ [' '] := by
  cases binding <;> simp [Binding.pieces, Binding.text, text_of_braces_pieces, Piece.text]

/-- The text of the pieces from the word `from` on. -/
theorem Specifier.text_of_from_pieces (source : Specifier) :
    textOf source.fromPieces = "from ".toList ++ source.quoted ++ [';'] := by
  have hword : "from ".toList = "from".toList ++ [' '] := rfl
  unfold fromPieces Specifier.quoted
  simp only [hword, text_of_cons, text_of_nil, Piece.text, List.append_nil, List.append_assoc]

/-- The text of the pieces from a call of `require` on. -/
theorem Specifier.text_of_call_pieces (source : Specifier) :
    textOf source.callPieces = source.call ++ [';'] := by
  have hword : "require(".toList = "require".toList ++ ['('] := rfl
  unfold callPieces Specifier.call Specifier.quoted
  simp only [hword, text_of_cons, text_of_nil, Piece.text, List.append_nil, List.append_assoc]

/-- The text of the pieces of a line. -/
theorem Line.text_of_pieces (line : Line) : textOf line.pieces = line.text ++ [';'] := by
  have himport : "import ".toList = "import".toList ++ [' '] := rfl
  have hconst : "const ".toList = "const".toList ++ [' '] := rfl
  have hexport : "export ".toList = "export".toList ++ [' '] := rfl
  have hstar : "export * from ".toList =
      "export".toList ++ ([' '] ++ (['*'] ++ ([' '] ++ "from ".toList))) := rfl
  have hassign : " = ".toList = [' '] ++ (['='] ++ [' ']) := rfl
  have hfrom : " from ".toList = [' '] ++ "from ".toList := rfl
  cases line with
  | sideEffect source =>
      unfold Line.pieces Line.head Line.tail Line.text Specifier.quoted
      simp only [himport, text_of_cons, text_of_nil, Piece.text, List.append_nil,
        List.append_assoc]
  | importFrom clause source =>
      unfold Line.pieces Line.head Line.tail Line.text
      simp only [himport, hfrom, text_of_cons, text_of_append, Clause.text_of_pieces,
        Specifier.text_of_from_pieces, Piece.text, List.append_assoc]
  | importRequire name source =>
      unfold Line.pieces Line.head Line.tail Line.text
      simp only [himport, hassign, text_of_cons, Specifier.text_of_call_pieces, Piece.text,
        List.append_assoc]
  | requireBinding binding source =>
      unfold Line.pieces Line.head Line.tail Line.text
      simp only [hconst, hassign, text_of_cons, text_of_append, Binding.text_of_pieces,
        Specifier.text_of_call_pieces, Piece.text, List.append_assoc]
  | exportStar source =>
      unfold Line.pieces Line.head Line.tail Line.text
      simp only [hstar, text_of_cons, Specifier.text_of_from_pieces, Piece.text,
        List.append_assoc]
  | exportList first others source =>
      unfold Line.pieces Line.head Line.tail Line.text
      simp only [hexport, hfrom, text_of_cons, text_of_append, text_of_braces_pieces,
        Specifier.text_of_from_pieces, Piece.text, List.append_assoc]

end Pieces

section Chars

/-- A character of names or one of the marks. -/
def isPartChar (marks : String) (c : Char) : Bool :=
  isNameChar c || marks.toList.contains c

/-- A character that items are made of. -/
abbrev isItemChar : Char → Bool :=
  isPartChar " :"

/-- A character that lists of items are made of. -/
abbrev isListChar : Char → Bool :=
  isPartChar " :,"

/-- A character that clauses and bindings are made of. -/
abbrev isClauseChar : Char → Bool :=
  isPartChar " :,{}*"

/-- A character of some kind is no character of another kind. -/
theorem ne_of_part_char {marks : String} {c d : Char} (hc : isPartChar marks c = true)
    (hd : isPartChar marks d = false) : c ≠ d := by
  rintro rfl
  rw [hc] at hd
  cases hd

/-- With more marks there are more characters. -/
theorem is_part_char_mono {marks others : String} {c : Char} (h : isPartChar marks c = true)
    (hmarks : ∀ d ∈ marks.toList, d ∈ others.toList) : isPartChar others c = true := by
  rw [isPartChar, Bool.or_eq_true, List.contains_iff_mem] at h ⊢
  exact h.imp_right (hmarks c)

/-- A name has characters of names only. -/
theorem Name.part_chars (name : Name) {marks : String} :
    ∀ c ∈ name.text, isPartChar marks c = true :=
  fun c hc => Bool.or_eq_true_iff.mpr (Or.inl (name.is_name.chars c hc))

/-- An item has characters of items only. -/
theorem Item.item_chars (style : Renaming) (item : Item) :
    ∀ c ∈ item.text style, isItemChar c = true := by
  rw [Item.text]
  split
  · exact item.name.part_chars
  · next other _ =>
      have hstyle : ∀ c ∈ style.text, isItemChar c = true := by cases style <;> decide
      exact List.forall_mem_append.mpr
        ⟨List.forall_mem_append.mpr ⟨item.name.part_chars, hstyle⟩, other.part_chars⟩

/-- A list of items has characters of lists only. -/
theorem list_chars (style : Renaming) (first : Item) (others : List Item) :
    ∀ c ∈ listText style first others, isListChar c = true := by
  have hitem : ∀ item : Item, ∀ c ∈ item.text style, isListChar c = true := fun item c hc =>
    is_part_char_mono (item.item_chars style c hc) (by decide)
  have hjoin : ∀ items : List Item, ∀ c ∈ Text.join ", ".toList (items.map (Item.text style)),
      isListChar c = true := by
    intro items
    induction items with
    | nil => intro c hc; cases hc
    | cons item rest ih =>
        cases rest with
        | nil => exact hitem item
        | cons next rest =>
            exact List.forall_mem_append.mpr
              ⟨List.forall_mem_append.mpr ⟨hitem item, by decide⟩, ih⟩
  exact List.forall_mem_cons.mpr ⟨by decide, List.forall_mem_append.mpr ⟨hjoin _, by decide⟩⟩

/-- Items in braces have characters of clauses only. -/
theorem braces_clause_chars (style : Renaming) (first : Item) (others : List Item) :
    ∀ c ∈ bracesText style first others, isClauseChar c = true := by
  have hlist : ∀ c ∈ listText style first others, isClauseChar c = true := fun c hc =>
    is_part_char_mono (list_chars style first others c hc) (by decide)
  exact List.forall_mem_cons.mpr ⟨by decide, List.forall_mem_append.mpr ⟨hlist, by decide⟩⟩

/-- A clause has characters of clauses only. -/
theorem Clause.clause_chars (clause : Clause) : ∀ c ∈ clause.text, isClauseChar c = true := by
  have hstar : ∀ c ∈ "* as ".toList, isClauseChar c = true := by decide
  have hcomma : ∀ c ∈ ", ".toList, isClauseChar c = true := by decide
  have hboth : ∀ c ∈ ", * as ".toList, isClauseChar c = true := by decide
  cases clause with
  | default name => exact name.part_chars
  | whole name => exact List.forall_mem_append.mpr ⟨hstar, name.part_chars⟩
  | named first others => exact braces_clause_chars _ first others
  | defaultNamed name first others =>
      exact List.forall_mem_append.mpr ⟨List.forall_mem_append.mpr ⟨name.part_chars, hcomma⟩,
        braces_clause_chars _ first others⟩
  | defaultWhole name other =>
      exact List.forall_mem_append.mpr ⟨List.forall_mem_append.mpr ⟨name.part_chars, hboth⟩,
        other.part_chars⟩

/-- A binding has characters of clauses only. -/
theorem Binding.clause_chars (binding : Binding) : ∀ c ∈ binding.text, isClauseChar c = true := by
  cases binding with
  | plain name => exact name.part_chars
  | items first others => exact braces_clause_chars _ first others

end Chars

section Mask

open Text (MaskMode IsPlain maskFrom maskedPart)

/-- A specifier after masking: as it is, or as many spaces as it has bytes. -/
def Specifier.masked (mode : MaskMode) (source : Specifier) : Specifier :=
  match mode with
  | .comments => source
  | .all => {
    text := List.replicate (byteLength source.text) ' '
    ne_nil := by
      simpa [Text.byte_length_eq_zero] using source.ne_nil
    plain := by
      intro c hc
      rw [List.eq_of_mem_replicate hc]
      decide
    no_word := by
      rintro word hword ⟨front, back, heq⟩
      have hspaces : ∀ c ∈ word, c = ' ' := by
        intro c hc
        refine List.eq_of_mem_replicate (n := byteLength source.text) ?_
        rw [← heq]
        simp [hc]
      have hletter : ∀ word ∈ statementWords, ¬∀ c ∈ word, c = ' ' := by decide
      exact hletter word hword hspaces }

/-- A line after masking. -/
def Line.masked (mode : MaskMode) : Line → Line
  | .sideEffect source => .sideEffect (source.masked mode)
  | .importFrom clause source => .importFrom clause (source.masked mode)
  | .importRequire name source => .importRequire name (source.masked mode)
  | .requireBinding binding source => .requireBinding binding (source.masked mode)
  | .exportStar source => .exportStar (source.masked mode)
  | .exportList first others source => .exportList first others (source.masked mode)

/-- With only comments blanked out, a line stays as it is. -/
theorem Line.masked_comments (line : Line) : line.masked .comments = line := by
  cases line <;> rfl

/-- Masking keeps or blanks out what a specifier has between its quotes. -/
theorem Specifier.mask_quoted (mode : MaskMode) (source : Specifier) (rest : Text) :
    maskFrom mode .code (source.quoted ++ rest) =
      (source.masked mode).quoted ++ maskFrom mode .code rest := by
  have hpart : ∀ c ∈ source.text, c ≠ '\'' ∧ c ≠ '\\' ∧ c ≠ '\n' := by
    intro c hc
    obtain ⟨hquote, -, -, hslash, hfeed⟩ := source.plain c hc
    exact ⟨hquote, hslash, hfeed⟩
  have hmasked : (source.masked mode).text = maskedPart mode source.text := by cases mode <;> rfl
  have hmask := Text.mask_from_literal mode (Or.inl rfl) (by decide) hpart rest
  unfold Specifier.quoted
  rw [hmasked]
  simpa using hmask

/-- A quote is one of three characters. -/
instance (c : Char) : Decidable (Text.IsQuote c) :=
  inferInstanceAs (Decidable (_ ∨ _))

/-- Plain characters can be told from others. -/
instance (c : Char) : Decidable (IsPlain c) :=
  inferInstanceAs (Decidable (_ ∧ _))

/-- A character of a clause is plain. -/
theorem is_plain_of_clause_char {c : Char} (h : isClauseChar c = true) : IsPlain c := by
  refine ⟨ne_of_part_char h (by decide), ?_⟩
  rintro (heq | heq | heq)
  · exact ne_of_part_char h (by decide) heq
  · exact ne_of_part_char h (by decide) heq
  · exact ne_of_part_char h (by decide) heq

/-- Characters of clauses stay as they are. -/
theorem mask_from_clause (mode : MaskMode) {part : Text}
    (hpart : ∀ c ∈ part, isClauseChar c = true) (rest : Text) :
    maskFrom mode .code (part ++ rest) = part ++ maskFrom mode .code rest :=
  Text.mask_from_plain mode (fun c hc => is_plain_of_clause_char (hpart c hc)) rest

/-- A call of `require` after masking. -/
theorem Specifier.mask_call (mode : MaskMode) (source : Specifier) (rest : Text) :
    maskFrom mode .code (source.call ++ ';' :: rest) =
      (source.masked mode).call ++ ';' :: maskFrom mode .code rest := by
  have hclose : ∀ c ∈ [')', ';'], IsPlain c := by decide
  have hmask := Text.mask_from_plain mode hclose rest
  unfold Specifier.call
  rw [List.append_assoc, List.append_assoc, List.append_assoc,
    Text.mask_from_plain mode (by decide), mask_quoted]
  simpa using hmask

/-- A specifier in quotes and the semicolon after masking. -/
theorem Specifier.mask_ended (mode : MaskMode) (source : Specifier) (rest : Text) :
    maskFrom mode .code (source.quoted ++ ';' :: rest) =
      (source.masked mode).quoted ++ ';' :: maskFrom mode .code rest := by
  have hend : ∀ c ∈ [';'], IsPlain c := by decide
  rw [mask_quoted]
  exact congrArg _ (Text.mask_from_plain mode hend rest)

/-- A line after masking. -/
theorem Line.mask_text (mode : MaskMode) (line : Line) (rest : Text) :
    maskFrom mode .code (line.text ++ ';' :: rest) =
      (line.masked mode).text ++ ';' :: maskFrom mode .code rest := by
  have himport : ∀ c ∈ "import ".toList, IsPlain c := by decide
  have hassign : ∀ c ∈ " = ".toList, IsPlain c := by decide
  have hfrom : ∀ c ∈ " from ".toList, IsPlain c := by decide
  have hconst : ∀ c ∈ "const ".toList, IsPlain c := by decide
  have hexport : ∀ c ∈ "export ".toList, IsPlain c := by decide
  have hstar : ∀ c ∈ "export * from ".toList, IsPlain c := by decide
  cases line with
  | sideEffect source =>
      unfold Line.masked Line.text
      rw [List.append_assoc, Text.mask_from_plain mode himport, source.mask_ended,
        List.append_assoc]
  | importFrom clause source =>
      unfold Line.masked Line.text
      rw [List.append_assoc, List.append_assoc, List.append_assoc,
        Text.mask_from_plain mode himport, mask_from_clause mode clause.clause_chars,
        Text.mask_from_plain mode hfrom, source.mask_ended]
      simp only [List.append_assoc]
  | importRequire name source =>
      unfold Line.masked Line.text
      rw [List.append_assoc, List.append_assoc, List.append_assoc,
        Text.mask_from_plain mode himport, mask_from_clause mode name.part_chars,
        Text.mask_from_plain mode hassign, source.mask_call]
      simp only [List.append_assoc]
  | requireBinding binding source =>
      unfold Line.masked Line.text
      rw [List.append_assoc, List.append_assoc, List.append_assoc,
        Text.mask_from_plain mode hconst, mask_from_clause mode binding.clause_chars,
        Text.mask_from_plain mode hassign, source.mask_call]
      simp only [List.append_assoc]
  | exportStar source =>
      unfold Line.masked Line.text
      rw [List.append_assoc, Text.mask_from_plain mode hstar, source.mask_ended,
        List.append_assoc]
  | exportList first others source =>
      unfold Line.masked Line.text
      rw [List.append_assoc, List.append_assoc, List.append_assoc,
        Text.mask_from_plain mode hexport,
        mask_from_clause mode (braces_clause_chars .byWord first others),
        Text.mask_from_plain mode hfrom, source.mask_ended]
      simp only [List.append_assoc]

/-- A printed module after masking is the print of its masked lines. -/
theorem mask_print (mode : MaskMode) (ended : Bool) (lines : List Line) :
    Text.mask mode (print ended lines) = print ended (lines.map (Line.masked mode)) := by
  rw [Text.mask]
  induction lines with
  | nil => rfl
  | cons line rest ih =>
      have hgap : ∀ c ∈ (if rest.isEmpty && !ended then [] else ['\n']), IsPlain c := by
        split <;> decide
      rw [print, Line.mask_text, Text.mask_from_plain mode hgap, ih, List.map_cons, print,
        List.isEmpty_map]

end Mask

end CodeAtlas.Module
