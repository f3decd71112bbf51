import CodeAtlas.Proofs.Query.Reference
import CodeAtlas.Proofs.Symbol.Located
import CodeAtlas.Proofs.Text.Touched
import CodeAtlas.Workspace.Memory

/-!
# A cursor on a declaration

A symbol is declared at a column of a text if its name is an identifier and stands there as a whole
word (`Symbol.IsDeclaredAt`). A cursor before, inside or right behind this word is on the symbol, or
on one that coincides with it in name, line and column, whatever else has the name on the line or in
other files. A search for references from there gives this symbol's definition first, if it may give
anything (`declaration_under_cursor`).
-/

namespace CodeAtlas

/-- The name of a symbol is an identifier that stands in a text as a whole word, at the line and the
column of the symbol. -/
structure Symbol.IsDeclaredAt (symbol : Symbol) (content : Text) (column : Nat) : Prop where
  name : Text.IsIdentifier symbol.name.toList
  located : symbol.location.column = some column
  stands : Text.IsWordAt symbol.name.toList content symbol.location.startLine column

/-- Two symbols agree in name, line and column. -/
structure Symbol.Coincides (left right : Symbol) : Prop where
  name : left.name = right.name
  line : left.location.startLine = right.location.startLine
  column : left.location.column = right.location.column

namespace Navigation

variable {symbols : List Symbol} {symbol : Symbol} {column : Nat}

/-- Where a symbol is declared at a column, one is found that coincides with it. -/
theorem exists_declared_at (hmem : symbol ∈ symbols)
    (hcolumn : symbol.location.column = some column) :
    ∃ found ∈ symbols, found.Coincides symbol ∧
      declaredAt? symbols symbol.name symbol.location.startLine column = some found := by
  set onLine := symbols.filter fun other =>
    other.name = symbol.name && other.location.startLine = symbol.location.startLine with honLine
  have hself : symbol ∈ onLine := List.mem_filter.mpr ⟨hmem, by simp⟩
  obtain ⟨found, hfound⟩ : ∃ found, onLine.find? (·.location.column = some column) = some found :=
    Option.isSome_iff_exists.mp (List.find?_isSome.mpr ⟨symbol, hself, by simpa using hcolumn⟩)
  obtain ⟨hsymbol, hplace⟩ := List.mem_filter.mp (List.mem_of_find?_eq_some hfound)
  simp only [Bool.and_eq_true, decide_eq_true_eq] at hplace
  have hsame : found.location.column = some column := by simpa using List.find?_some hfound
  refine ⟨found, hsymbol, ⟨hplace.1, hplace.2, hsame.trans hcolumn.symm⟩, ?_⟩
  rw [declaredAt?, ← honLine, hfound, Option.some_or]

/-- A cursor before, inside or right behind a declaration is on a symbol that coincides with the one
declared there. -/
theorem eval_symbol_at_declaration {workspace : Workspace} {path file : Path} {content : Text}
    {found : Symbol} (hresolve : workspace.resolve path = .ok file)
    (hcontent : workspace.answer (.content file) = .ok content)
    (hsymbols : workspace.answer (.symbols file) = .ok symbols)
    (hdeclared : symbol.IsDeclaredAt content column)
    (hfound : declaredAt? symbols symbol.name symbol.location.startLine column = some found)
    {offset : Nat} (hoffset : offset ≤ symbol.name.toList.length) :
    (symbolAt workspace ⟨path, symbol.location.startLine, column + offset⟩).eval workspace.answer =
      .ok (some found) := by
  have hcursor := hdeclared.stands.identifier_at hdeclared.name hoffset
  obtain ⟨i, -, hline, hcolumn⟩ := hdeclared.stands
  have horigin : origin workspace ⟨path, symbol.location.startLine, column + offset⟩ = .ok file := by
    have hplace : ¬(decide (symbol.location.startLine = 0) || decide (column + offset = 0)) = true := by
      simp only [Bool.or_eq_true, decide_eq_true_eq]
      omega
    rw [origin, if_neg hplace, hresolve]
  rw [symbolAt, Inquiry.eval_bind, Inquiry.eval_of_except, horigin]
  refine (Inquiry.eval_bind workspace.answer (Inquiry.get (.content file)) _).trans ?_
  rw [Inquiry.eval_get, hcontent]
  dsimp only [bind, Except.bind]
  rw [hcursor]
  refine (Inquiry.eval_bind workspace.answer (Inquiry.get (.symbols file)) _).trans ?_
  rw [Inquiry.eval_get, hsymbols]
  dsimp only [bind, Except.bind]
  rw [String.ofList_toList, hfound]
  rfl

end Navigation

namespace Reference

/-- References that begin with the definition of a symbol and hold no other definition. -/
def BeginWith (workspace : Workspace) (symbol : Symbol) (references : List Reference) : Prop :=
  ∃ rest, references = definitionEntry workspace.answer symbol :: rest ∧
    ∀ reference ∈ rest, reference.isDefinition = false

variable {workspace : Workspace} {symbol : Symbol}

/-- The most references that a request may give. -/
def allowed (workspace : Workspace) (query : ReferenceQuery) : Nat :=
  query.maxResults.getD workspace.config.maxResults

/-- References from a place are those to the symbol at that place. -/
theorem eval_find_at {query : ReferenceQuery} {position : Position}
    (htarget : query.target = .position position)
    (hsymbol : (Navigation.symbolAt workspace position).eval workspace.answer = .ok (some symbol)) :
    (find workspace query).eval workspace.answer =
      (collect workspace symbol query.scope (allowed workspace query)
        { operation := .references, limit := query.timeout.or workspace.config.scanTimeout }).eval
        workspace.answer := by
  rw [find, Inquiry.eval_bind, htarget, target, hsymbol]
  rfl

/-- The definition of a symbol and what may be given of the uses in files begin with the
definition. -/
theorem begin_with_definition {room : Nat} (hroom : 0 < room) (files : List Path) :
    BeginWith workspace symbol ((definitionEntry workspace.answer symbol ::
      files.flatMap (uses workspace.answer symbol)).take room) := by
  obtain ⟨more, rfl⟩ := Nat.exists_eq_succ_of_ne_zero hroom.ne'
  refine ⟨_, List.take_succ_cons, fun reference hreference => ?_⟩
  obtain ⟨file, -, huse⟩ := List.mem_flatMap.mp (List.mem_of_mem_take hreference)
  exact (mem_uses huse).1

/-- A cursor before, inside or right behind the name of a declared symbol is on one symbol of the
file that coincides with it, whatever else has its name. References from there that may be given, if
there is time and the scope can be read, begin with the definition of this symbol, and no other one
is among them. -/
theorem declaration_under_cursor {path file : Path} {content : Text} {symbols : List Symbol}
    {column : Nat} (hparser : ∀ parser, workspace.parser = some parser → parser.Located)
    (hresolve : workspace.resolve path = .ok file)
    (hcontent : workspace.answer (.content file) = .ok content)
    (hsymbols : workspace.answer (.symbols file) = .ok symbols) (hmem : symbol ∈ symbols)
    (hdeclared : symbol.IsDeclaredAt content column) :
    ∃ found ∈ symbols, found.Coincides symbol ∧ found.location.path = file ∧
      ∀ offset ≤ symbol.name.toList.length,
        (Navigation.symbolAt workspace ⟨path, symbol.location.startLine, column + offset⟩).eval
          workspace.answer = .ok (some found) ∧
        ∀ query : ReferenceQuery,
          query.target = .position ⟨path, symbol.location.startLine, column + offset⟩ →
          0 < allowed workspace query →
          (find workspace query).eval workspace.answer ≠ .error (.timeout .references) →
          (∀ files, workspace.eligible query.scope = .ok files →
            ∃ references, (find workspace query).eval workspace.answer = .ok references ∧
              BeginWith workspace found references) ∧
          ∀ failure, workspace.eligible query.scope = .error failure →
            (find workspace query).eval workspace.answer = .error failure := by
  obtain ⟨found, hfound, hmeets, hat⟩ := Navigation.exists_declared_at hmem hdeclared.located
  refine ⟨found, hfound, hmeets,
    Workspace.fits_of_located hparser (.symbols file) symbols hsymbols found hfound,
    fun offset hoffset => ?_⟩
  have hcursor := Navigation.eval_symbol_at_declaration hresolve hcontent hsymbols hdeclared hat hoffset
  refine ⟨hcursor, fun query htarget hroom htime => ?_⟩
  have hword : Text.IsWord found.name.toList := hmeets.name ▸ hdeclared.name.is_word
  have hcollect := eval_find_at htarget hcursor
  have hfind := eval_collect hword hroom (hcollect ▸ htime)
  rw [hcollect, hfind]
  constructor
  · intro files hfiles
    rw [hfiles]
    exact ⟨_, rfl, begin_with_definition hroom files⟩
  · intro failure hfailure
    rw [hfailure]
    rfl

/-- A file that declares three variables on one line, two of them under one name. -/
def variablesText : Text :=
  "const é = 1, a = 2, a = 3;".toList

/-- A workspace with this file. -/
def variablesFile : Workspace where
  root := ⟨"/ws"⟩
  storage := MemoryFiles.storage ⟨[(⟨"/ws/a.ts"⟩, some variablesText)]⟩ false
  parser := some SymbolParser.ofLines

/-- A variable of the file. -/
def variableAt (name : String) (column : Nat) : Symbol where
  name
  kind := .constant
  location := { path := ⟨"/ws/a.ts"⟩, startLine := 1, endLine := 1, column := some column }
  details := some "const é = 1, a = 2, a = 3"

/-- The place right behind the last name. -/
def behindLastName : Position :=
  ⟨⟨"/ws/a.ts"⟩, 1, 22⟩

/-- The last of the variables is declared where its name stands. -/
theorem last_variable_declared : (variableAt "a" 21).IsDeclaredAt variablesText 21 where
  name := ⟨⟨by decide, List.all_eq_true.mp (by decide)⟩, by decide⟩
  located := rfl
  stands := ⟨20, by decide +kernel, by decide +kernel, by decide +kernel⟩

/-- Of two variables of one name on a line, a cursor right behind the second one is on it, and the
references from there begin with its definition. -/
theorem last_variable_under_cursor :
    (Navigation.symbolAt variablesFile behindLastName).eval variablesFile.answer =
      .ok (some (variableAt "a" 21)) ∧
    ∃ references, (find variablesFile { target := .position behindLastName }).eval
        variablesFile.answer = .ok references ∧
      BeginWith variablesFile (variableAt "a" 21) references := by
  have hparser : ∀ parser, variablesFile.parser = some parser → parser.Located := by
    rintro parser ⟨⟩
    exact SymbolParser.of_lines_located
  -- One evaluation for all these facts scans the file once.
  obtain ⟨hresolve, hcontent, hsymbols, hfiles, htime⟩ :
      variablesFile.resolve ⟨"/ws/a.ts"⟩ = .ok ⟨"/ws/a.ts"⟩ ∧
      variablesFile.answer (.content ⟨"/ws/a.ts"⟩) = .ok variablesText ∧
      variablesFile.answer (.symbols ⟨"/ws/a.ts"⟩) =
        .ok [variableAt "é" 7, variableAt "a" 14, variableAt "a" 21] ∧
      variablesFile.eligible {} = .ok [⟨"/ws/a.ts"⟩] ∧
      (find variablesFile { target := .position behindLastName }).eval variablesFile.answer ≠
        .error (.timeout .references) := by
    decide +kernel
  obtain ⟨found, hfound, hmeets, -, hcursor⟩ := declaration_under_cursor hparser hresolve hcontent
    hsymbols (by simp) last_variable_declared
  obtain rfl : found = variableAt "a" 21 := by
    have hcolumn : found.location.column = some 21 := hmeets.column
    simp only [List.mem_cons, List.not_mem_nil, or_false] at hfound
    rcases hfound with rfl | rfl | rfl
    · exact absurd hcolumn (by decide)
    · exact absurd hcolumn (by decide)
    · rfl
  obtain ⟨hsymbol, hfind⟩ := hcursor 1 (by decide)
  exact ⟨hsymbol, (hfind _ rfl (by decide) htime).1 _ hfiles⟩

/-- Where a request may give no references, the definition is not given either, although the cursor
is on a declaration in a selected file. -/
theorem no_references_allowed :
    (variableAt "a" 21).IsDeclaredAt variablesText 21 ∧
    variablesFile.answer (.content ⟨"/ws/a.ts"⟩) = .ok variablesText ∧
    variablesFile.answer (.symbols ⟨"/ws/a.ts"⟩) =
      .ok [variableAt "é" 7, variableAt "a" 14, variableAt "a" 21] ∧
    variablesFile.eligible {} = .ok [⟨"/ws/a.ts"⟩] ∧
    (find variablesFile { target := .position behindLastName, maxResults := some 0 }).eval
      variablesFile.answer = .ok [] :=
  ⟨last_variable_declared, by decide +kernel⟩

end Reference

end CodeAtlas
