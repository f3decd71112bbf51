import CodeAtlas.Proofs.Module.Record
import CodeAtlas.Proofs.Search.Budget

/-!
# Where an imported name leads

Read `IsFirstDeclaring` first: it says which file the definition of an imported name is taken from.
It need not be the file that the name is imported from: any file that the origin imports directly
will do, and the first one of them in the order of traversal that declares the name is taken
(`imported_name_leads_to_first`). The file that the name is imported from is taken just if no other
direct import that declares the name comes before it (`earlier_import_goes_first`).
-/

namespace CodeAtlas

/-- A module names what it imports from among its specifiers. -/
theorem Module.source_is_specifier {content : Text} {module : ModuleSyntax} {item : Import}
    (h : Module.scan? content = some module) (hitem : item ∈ module.imports) :
    item.source ∈ module.specifiers := by
  obtain ⟨findings, rfl, hnames, -⟩ := Module.exists_findings_of_scan h
  have hsource : findings.Names item.source := by
    obtain ⟨entry, hentry, heq⟩ := List.mem_map.mp hitem
    exact Or.inl ⟨entry, List.mem_mergeSort.mp hentry, congrArg Import.source heq⟩
  obtain ⟨form, found, hstatement, -⟩ := (hnames item.source).mp hsource
  have hne : item.source ≠ "" := by
    intro heq
    exact hstatement.source_ne_nil (by rw [heq]; rfl)
  exact (Module.mem_specifiers_of_findings hne).mpr hsource

/-- The syntax of a module is read off its text. -/
theorem Workspace.exists_scan_of_answer {workspace : Workspace} {path : Path} {module : ModuleSyntax}
    (h : workspace.answer (.modules path) = .ok module) :
    ∃ content, Module.scan? content = some module := by
  obtain ⟨parser, -, h⟩ := bind_eq_ok.mp h
  obtain ⟨content, -, h⟩ := bind_eq_ok.mp h
  refine ⟨content, ?_⟩
  change orUnparsed (Module.scan? content) = .ok module at h
  cases hscan : Module.scan? content with
  | none =>
      rw [hscan] at h
      contradiction
  | some found =>
      rw [hscan] at h
      exact congrArg some (Except.ok.inj h)

/-- What a module imports from a file of the workspace is one of its direct imports. -/
theorem Workspace.mem_internal_targets {workspace : Workspace} {file target : Path}
    {module : ModuleSyntax} {item : Import} (hmodule : workspace.answer (.modules file) = .ok module)
    (hitem : item ∈ module.imports)
    (hresolve : workspace.resolveImport file item.source false = .internal target) :
    target ∈ workspace.internalTargets file module.specifiers false := by
  obtain ⟨content, hscan⟩ := exists_scan_of_answer hmodule
  refine List.mem_eraseDups.mpr (List.mem_filterMap.mpr
    ⟨item.source, Module.source_is_specifier hscan hitem, ?_⟩)
  rw [hresolve]
  rfl

namespace Navigation

open Search (wantedIn)

/-- The files that are looked through for a name, in order: the selected ones, and first the origin
if it is not one of them. -/
def visited (files : List Path) (origin : Path) : List Path :=
  if files.contains origin then files else origin :: files

/-- The symbols of a file can be read, and one of them has the name. -/
def Declares (workspace : Workspace) (name : String) (path : Path) : Prop :=
  ∃ symbols, workspace.answer (.symbols path) = .ok symbols ∧ ∃ symbol ∈ symbols, symbol.name = name

/-- Of the files looked through, the first one that is imported directly and declares the name. -/
structure IsFirstDeclaring (workspace : Workspace) (name : String) (files imported : List Path)
    (first : Path) : Prop where
  visited : first ∈ files
  direct : first ∈ imported
  declares : Declares workspace name first
  earlier : ∀ other ∈ files.takeWhile (· ≠ first), other ∈ imported →
    ¬Declares workspace name other

section First

variable {workspace : Workspace} {name : String} {files imported : List Path} {first other : Path}

/-- A member of a list stands behind those that come before it. -/
theorem exists_before (h : first ∈ files) :
    ∃ before after, files = before ++ first :: after ∧ before = files.takeWhile (· ≠ first) := by
  obtain ⟨before, after, hsplit, hnot⟩ := List.eq_append_cons_of_mem h
  refine ⟨before, after, hsplit, ?_⟩
  rw [hsplit, List.takeWhile_append_of_pos fun other hother =>
    decide_eq_true (ne_of_mem_of_not_mem hother hnot)]
  simp

/-- There is one first file. -/
theorem IsFirstDeclaring.unique (h : IsFirstDeclaring workspace name files imported first)
    (h' : IsFirstDeclaring workspace name files imported other) : first = other := by
  by_contra hne
  -- Of two members of a list, one stands before the other.
  have hbefore : ∀ files : List Path, first ∈ files → other ∈ files →
      first ∈ files.takeWhile (· ≠ other) ∨ other ∈ files.takeWhile (· ≠ first) := by
    intro files hfirst hother
    induction files with
    | nil => cases hfirst
    | cons file rest ih =>
        by_cases hfile : file = first
        · exact Or.inl (by simp [hfile, hne])
        · by_cases hfile' : file = other
          · exact Or.inr (by simp [hfile', Ne.symm hne])
          · have hrest := ih ((List.mem_cons.mp hfirst).resolve_left (Ne.symm hfile))
              ((List.mem_cons.mp hother).resolve_left (Ne.symm hfile'))
            simpa [hfile, hfile', Ne.symm hfile, Ne.symm hfile'] using hrest
  rcases hbefore files h.visited h'.visited with hfirst | hother
  · exact h'.earlier first hfirst h.direct h.declares
  · exact h.earlier other hother h'.direct h'.declares

/-- A file that is imported directly and declares the name is the first one just if none before it
is. -/
theorem IsFirstDeclaring.eq_iff (h : IsFirstDeclaring workspace name files imported first)
    (hvisited : other ∈ files) (hdirect : other ∈ imported)
    (hdeclares : Declares workspace name other) :
    first = other ↔
      ∀ file ∈ files.takeWhile (· ≠ other), file ∈ imported → ¬Declares workspace name file := by
  constructor
  · rintro rfl
    exact h.earlier
  · intro hearlier
    exact h.unique ⟨hvisited, hdirect, hdeclares, hearlier⟩

/-- There is a first file if there is any. -/
theorem exists_first_declaring (hvisited : other ∈ files) (hdirect : other ∈ imported)
    (hdeclares : Declares workspace name other) :
    ∃ first, IsFirstDeclaring workspace name files imported first := by
  induction files with
  | nil => cases hvisited
  | cons file rest ih =>
      by_cases hfile : file ∈ imported ∧ Declares workspace name file
      · exact ⟨file, List.mem_cons_self, hfile.1, hfile.2, by simp⟩
      · have hne : other ≠ file := fun heq => hfile (heq ▸ ⟨hdirect, hdeclares⟩)
        obtain ⟨first, hfirst⟩ := ih ((List.mem_cons.mp hvisited).resolve_left hne)
        refine ⟨first, List.mem_cons_of_mem file hfirst.visited, hfirst.direct, hfirst.declares, ?_⟩
        have hfirst' : file ≠ first := fun heq => hfile (heq ▸ ⟨hfirst.direct, hfirst.declares⟩)
        have hrest : (file :: rest).takeWhile (· ≠ first) = file :: rest.takeWhile (· ≠ first) :=
          List.takeWhile_cons_of_pos (by simpa using hfirst')
        rw [hrest]
        exact List.forall_mem_cons.mpr ⟨fun hmem hdecl => hfile ⟨hmem, hdecl⟩, hfirst.earlier⟩

end First

section Eval

variable {oracle : (question : Question) → Except Failure question.Answer} {deadline : Deadline}

/-- Where there is time, the symbols of files with a name are those of each file. -/
theorem eval_named_in (hcheck : deadline.check = .ok ()) (name : String) (files : List Path) :
    (namedIn deadline name files).eval oracle =
      .ok (files.flatMap (wantedIn oracle fun symbol => symbol.name = name)) := by
  induction files with
  | nil => rfl
  | cons file rest ih =>
      rw [namedIn, Inquiry.eval_bind, Inquiry.eval_check, hcheck]
      refine (Inquiry.eval_bind oracle (Inquiry.attempt (.symbols file)) _).trans ?_
      rw [Inquiry.eval_attempt]
      refine (Inquiry.eval_bind oracle (namedIn deadline name rest) _).trans ?_
      rw [ih, List.flatMap_cons, wantedIn]
      rfl

/-- Without time, no file is looked through. -/
theorem eval_named_in_of_expired {failure : Failure} (hcheck : deadline.check = .error failure)
    (name : String) (file : Path) (rest : List Path) :
    (namedIn deadline name (file :: rest)).eval oracle = .error failure := by
  rw [namedIn, Inquiry.eval_bind, Inquiry.eval_check, hcheck]
  rfl

end Eval

section Definition

variable {workspace : Workspace} {file : Path} {name : String} {module : ModuleSyntax}
  {files : List Path} {symbol : Symbol}

/-- The symbols with a name in the files looked through. -/
def named (workspace : Workspace) (name : String) (files : List Path) : List Symbol :=
  files.flatMap (wantedIn workspace.answer fun symbol => symbol.name = name)

/-- The first symbol of a name in a direct import stands in the first file that declares the name. -/
theorem find_named_of_first {imported : List Path} {first : Path} {symbols : List Symbol}
    (hlocated : ∀ path symbols, workspace.answer (.symbols path) = .ok symbols →
      ∀ symbol ∈ symbols, symbol.location.path = path)
    (hsame : ∀ path ∈ files, imported.any (·.same path) = true ↔ path ∈ imported)
    (hfirst : IsFirstDeclaring workspace name files imported first)
    (hsymbols : workspace.answer (.symbols first) = .ok symbols)
    (hsymbol : symbols.find? (·.name = name) = some symbol) :
    (named workspace name files).find? (fun symbol => imported.any (·.same symbol.location.path)) =
      some symbol := by
  obtain ⟨before, after, hsplit, hbefore⟩ := exists_before hfirst.visited
  have hin : ∀ path ∈ files, ∀ found ∈ wantedIn workspace.answer (fun s => s.name = name) path,
      imported.any (·.same found.location.path) = true → path ∈ imported ∧
        Declares workspace name path := by
    intro path hpath found hfound hdirect
    unfold wantedIn at hfound
    split at hfound
    · next others hothers =>
        obtain ⟨hmem, hname⟩ := List.mem_filter.mp hfound
        rw [hlocated path others hothers found hmem] at hdirect
        exact ⟨(hsame path hpath).mp hdirect, others, hothers, found, hmem, of_decide_eq_true hname⟩
    · cases hfound
  have hnone : (before.flatMap (wantedIn workspace.answer fun s => s.name = name)).find?
      (fun symbol => imported.any (·.same symbol.location.path)) = none := by
    refine List.find?_eq_none.mpr fun found hfound hdirect => ?_
    obtain ⟨path, hpath, hfound⟩ := List.mem_flatMap.mp hfound
    obtain ⟨hmem, hdeclares⟩ := hin path (hsplit ▸ List.mem_append_left _ hpath) found hfound hdirect
    exact hfirst.earlier path (hbefore ▸ hpath) hmem hdeclares
  have hhead : (wantedIn workspace.answer (fun s => s.name = name) first).find?
      (fun symbol => imported.any (·.same symbol.location.path)) = some symbol := by
    have hdirect : imported.any (·.same symbol.location.path) = true := by
      rw [hlocated first symbols hsymbols symbol (List.mem_of_find?_eq_some hsymbol)]
      exact (hsame first hfirst.visited).mpr hfirst.direct
    have hfilter : (symbols.filter (·.name = name)).head? = some symbol := by
      rw [List.head?_filter, hsymbol]
    obtain ⟨rest, hrest⟩ := List.head?_eq_some_iff.mp hfilter
    simp only [wantedIn, hsymbols]
    rw [hrest]
    exact List.find?_cons_of_pos hdirect
  rw [named, hsplit, List.flatMap_append, List.flatMap_cons, List.find?_append, hnone,
    List.find?_append, hhead]
  rfl

/-- Where there is time, the definition of an imported name is the first symbol of that name in a
direct import, if there is one. -/
theorem eval_definition_of_imported (hmodule : workspace.answer (.modules file) = .ok module)
    (himport : ∃ item ∈ module.imports, item.binding = name)
    (hfiles : workspace.eligible {} = .ok files)
    (hcheck : (deadline workspace .definition).check = .ok ())
    (hfound : (named workspace name (visited files file)).find? (fun symbol =>
      (workspace.internalTargets file module.specifiers false).any
        (·.same symbol.location.path)) = some symbol) :
    (definitionOf workspace file name).eval workspace.answer = .ok (some symbol) := by
  have hcandidates : (candidates workspace file name).eval workspace.answer =
      .ok (named workspace name (visited files file)) := by
    rw [candidates, Inquiry.eval_bind, Inquiry.eval_of_except, hfiles]
    exact eval_named_in hcheck name (visited files file)
  have hbinds : module.imports.any (·.binding = name) = true := by
    obtain ⟨item, hitem, hbinding⟩ := himport
    exact List.any_eq_true.mpr ⟨item, hitem, decide_eq_true hbinding⟩
  have himported : (importsName file name).eval workspace.answer = .ok true := by
    rw [importsName, Inquiry.eval_bind, Inquiry.eval_attempt, hmodule]
    exact congrArg Except.ok hbinds
  have hdependencies : (directDependencies workspace file).eval workspace.answer =
      .ok (.ok (workspace.internalTargets file module.specifiers false)) := by
    rw [directDependencies, Inquiry.eval_bind, Inquiry.eval_attempt, hmodule]
    rfl
  rw [definitionOf, Inquiry.eval_bind, hcandidates]
  change Inquiry.eval workspace.answer (if _ ≤ 1 then _ else _) = _
  split
  · next hone =>
      -- A single symbol is taken as it is, and it is the one that is found.
      obtain ⟨only, honly⟩ : ∃ only, named workspace name (visited files file) = [only] := by
        refine List.length_eq_one_iff.mp (Nat.le_antisymm hone ?_)
        exact List.length_pos_of_mem (List.mem_of_find?_eq_some hfound)
      have hsymbol := List.mem_of_find?_eq_some hfound
      rw [honly] at hsymbol ⊢
      rw [List.mem_singleton.mp hsymbol]
      rfl
  · refine (Inquiry.eval_bind workspace.answer (importsName file name) _).trans ?_
    rw [himported]
    refine (Inquiry.eval_bind workspace.answer (directDependencies workspace file) _).trans ?_
    rw [hdependencies]
    exact congrArg (fun found => Except.ok (Option.or found _)) hfound

/-- Without time, there is no definition where there is a file to look through. -/
theorem eval_definition_of_expired (hfiles : workspace.eligible {} = .ok files)
    (hexpired : (deadline workspace .definition).isExpired = true) :
    (definitionOf workspace file name).eval workspace.answer = .error (.timeout .definition) := by
  have hcheck : (deadline workspace .definition).check = .error (.timeout .definition) :=
    if_pos hexpired
  obtain ⟨first, rest, hvisited⟩ : ∃ first rest, visited files file = first :: rest := by
    unfold visited
    split
    · next hmem =>
        exact List.exists_cons_of_ne_nil (List.ne_nil_of_mem (List.contains_iff_mem.mp hmem))
    · exact ⟨file, files, rfl⟩
  have hcandidates : (candidates workspace file name).eval workspace.answer =
      .error (.timeout .definition) := by
    rw [candidates, Inquiry.eval_bind, Inquiry.eval_of_except, hfiles]
    change Inquiry.eval workspace.answer (namedIn _ name (visited files file)) = _
    rw [hvisited]
    exact eval_named_in_of_expired hcheck name first rest
  rw [definitionOf, Inquiry.eval_bind, hcandidates]
  rfl

/-- The files that are looked through are held by the workspace. -/
theorem visited_holds (hfiles : workspace.eligible {} = .ok files) (hfile : workspace.Holds file) :
    ∀ path ∈ visited files file, workspace.Holds path := by
  intro path hpath
  unfold visited at hpath
  split at hpath
  · exact Workspace.eligible_holds hfiles hpath
  · rcases List.mem_cons.mp hpath with rfl | hpath
    · exact hfile
    · exact Workspace.eligible_holds hfiles hpath

/-- The selected files are among those that are looked through. -/
theorem mem_visited {path : Path} (hpath : path ∈ files) : path ∈ visited files file := by
  unfold visited
  split
  · exact hpath
  · exact List.mem_cons_of_mem file hpath

/-- A position is in a file that the workspace holds. -/
theorem origin_holds {position : Position} (h : origin workspace position = .ok file) :
    workspace.Holds file := by
  unfold origin at h
  split at h
  · contradiction
  · exact Workspace.resolve_holds h

end Definition

/-- Where the definition of an imported name is found, if there is time. The cursor is in a file that
imports the name, under itself or as an alias, with a specifier that leads to the selected file
`target`, and a symbol of `target` has the name. Then there is a definition: the first symbol of the
name in the first of the files looked through that the origin imports directly and that declares the
name. It is in `target` just if no direct import that is looked through before declares the name,
whatever the files declare that are not imported, and whatever the origin declares itself. -/
theorem imported_name_leads_to_first {workspace : Workspace} {position : Position}
    {file target : Path} {content name : Text} {column : Nat} {module : ModuleSyntax} {item : Import}
    {files : List Path}
    (hparser : ∀ parser, workspace.parser = some parser → parser.Located)
    (horigin : origin workspace position = .ok file)
    (hcontent : workspace.answer (.content file) = .ok content)
    (hcursor : Text.identifierAt? content position.line position.column = some (name, column))
    (hmodule : workspace.answer (.modules file) = .ok module)
    (hitem : item ∈ module.imports) (hbinding : item.binding = String.ofList name)
    (hresolve : workspace.resolveImport file item.source false = .internal target)
    (hfiles : workspace.eligible {} = .ok files) (htarget : target ∈ files)
    (hdeclares : Declares workspace (String.ofList name) target)
    (htime : (definition workspace position).eval workspace.answer ≠
      .error (.timeout .definition)) :
    ∃ first symbols symbol,
      IsFirstDeclaring workspace (String.ofList name) (visited files file)
        (workspace.internalTargets file module.specifiers false) first ∧
      workspace.answer (.symbols first) = .ok symbols ∧
      symbols.find? (·.name = String.ofList name) = some symbol ∧
      (definition workspace position).eval workspace.answer = .ok (some symbol) ∧
      (first = target ↔ ∀ other ∈ (visited files file).takeWhile (· ≠ target),
        other ∈ workspace.internalTargets file module.specifiers false →
          ¬Declares workspace (String.ofList name) other) := by
  have heval : (definition workspace position).eval workspace.answer =
      (definitionOf workspace file (String.ofList name)).eval workspace.answer := by
    rw [definition, Inquiry.eval_bind, Inquiry.eval_of_except, horigin]
    refine (Inquiry.eval_bind workspace.answer (Inquiry.get (.content file)) _).trans ?_
    rw [Inquiry.eval_get, hcontent]
    dsimp only [bind, Except.bind]
    rw [hcursor]
  have hcheck : (deadline workspace .definition).check = .ok () :=
    if_neg fun hexpired => htime (heval.trans (eval_definition_of_expired hfiles hexpired))
  have hdirect := Workspace.mem_internal_targets hmodule hitem hresolve
  have hvisited : target ∈ visited files file := mem_visited htarget
  have hlocated : ∀ path symbols, workspace.answer (.symbols path) = .ok symbols →
      ∀ symbol ∈ symbols, symbol.location.path = path :=
    fun path => Workspace.fits_of_located hparser (.symbols path)
  -- The paths that are compared are plain, so naming the same place means being equal.
  have hsame : ∀ path ∈ visited files file,
      (workspace.internalTargets file module.specifiers false).any (·.same path) = true ↔
        path ∈ workspace.internalTargets file module.specifiers false := by
    intro path hpath
    have hplain := (visited_holds hfiles (origin_holds horigin) path hpath).1
    rw [List.any_eq_true]
    constructor
    · rintro ⟨other, hother, heq⟩
      exact ((Workspace.internal_targets_holds hother).1.same_iff hplain).mp heq ▸ hother
    · exact fun hmem => ⟨path, hmem, Path.same_refl path⟩
  obtain ⟨first, hfirst⟩ := exists_first_declaring hvisited hdirect hdeclares
  obtain ⟨symbols, hsymbols, hsome⟩ := hfirst.declares
  obtain ⟨symbol, hsymbol⟩ : ∃ symbol, symbols.find? (·.name = String.ofList name) = some symbol :=
    Option.isSome_iff_exists.mp (List.find?_isSome.mpr (by simpa using hsome))
  refine ⟨first, symbols, symbol, hfirst, hsymbols, hsymbol, ?_,
    hfirst.eq_iff hvisited hdirect hdeclares⟩
  rw [heval]
  exact eval_definition_of_imported hmodule ⟨item, hitem, hbinding⟩ hfiles hcheck
    (find_named_of_first hlocated hsame hfirst hsymbols hsymbol)

/-- A file that imports a name, and two files that declare it. -/
def rivalFiles (importing : String) : Workspace where
  root := ⟨"/ws"⟩
  storage := MemoryFiles.storage
    ⟨[(⟨"/ws/a.ts"⟩, some importing.toList), (⟨"/ws/c.ts"⟩, some "const n = 1;".toList),
      (⟨"/ws/d.ts"⟩, some "const n = 2;".toList)]⟩ false
  parser := some SymbolParser.ofLines

/-- The symbol that the imported file declares. -/
def importedSymbol : Symbol where
  name := "n"
  kind := .constant
  location := { path := ⟨"/ws/d.ts"⟩, startLine := 1, endLine := 1, column := some 7 }
  details := some "const n = 2"

/-- The place of the name in its import. -/
def importedName : Position :=
  ⟨⟨"/ws/a.ts"⟩, 1, 10⟩

/-- Of two files that declare the name, the imported one has the definition, although the other one
comes first. -/
theorem definition_in_imported_file :
    (definition (rivalFiles "import { n } from './d';") importedName).eval
      (rivalFiles "import { n } from './d';").answer = .ok (some importedSymbol) := by
  have hparser : ∀ parser, (rivalFiles "import { n } from './d';").parser = some parser →
      parser.Located := by
    rintro parser ⟨⟩
    exact SymbolParser.of_lines_located
  -- One evaluation for all these facts scans each file once.
  obtain ⟨hmodule, hresolve, hsymbols, hfiles, htime, horigin, hcontent, hcursor, hothers⟩ :
      (rivalFiles "import { n } from './d';").answer (.modules ⟨"/ws/a.ts"⟩) =
        .ok { imports := [{ name := "n", source := "./d" }], bindingRanges := [⟨0, 23⟩] } ∧
      (rivalFiles "import { n } from './d';").resolveImport ⟨"/ws/a.ts"⟩ "./d" false =
        .internal ⟨"/ws/d.ts"⟩ ∧
      (rivalFiles "import { n } from './d';").answer (.symbols ⟨"/ws/d.ts"⟩) =
        .ok [importedSymbol] ∧
      (rivalFiles "import { n } from './d';").eligible {} =
        .ok [⟨"/ws/a.ts"⟩, ⟨"/ws/c.ts"⟩, ⟨"/ws/d.ts"⟩] ∧
      (definition (rivalFiles "import { n } from './d';") importedName).eval
        (rivalFiles "import { n } from './d';").answer ≠ .error (.timeout .definition) ∧
      origin (rivalFiles "import { n } from './d';") importedName = .ok ⟨"/ws/a.ts"⟩ ∧
      (rivalFiles "import { n } from './d';").answer (.content ⟨"/ws/a.ts"⟩) =
        .ok "import { n } from './d';".toList ∧
      Text.identifierAt? "import { n } from './d';".toList importedName.line
        importedName.column = some (['n'], 10) ∧
      ∀ other ∈ [(⟨"/ws/a.ts"⟩ : Path), ⟨"/ws/c.ts"⟩],
        other ∉ (rivalFiles "import { n } from './d';").internalTargets ⟨"/ws/a.ts"⟩ ["./d"]
          false := by
    decide +kernel
  obtain ⟨first, symbols, symbol, -, hfirst, hsymbol, heval, hiff⟩ :=
    imported_name_leads_to_first hparser horigin hcontent hcursor hmodule List.mem_cons_self rfl
      hresolve hfiles (by decide) ⟨_, hsymbols, importedSymbol, by simp, rfl⟩ htime
  obtain rfl : first = ⟨"/ws/d.ts"⟩ :=
    hiff.mpr fun other hother hdirect => (hothers other hother hdirect).elim
  obtain rfl := Except.ok.inj (hsymbols.symm.trans hfirst)
  rw [heval, ← hsymbol]
  rfl

/-- A file that the origin takes from as well and that comes first has the definition, although the
origin imports the name from another one. The origin binds the name once, without an alias, and the
selected file that it imports the name from declares it at the top level. -/
theorem earlier_import_goes_first :
    let workspace := rivalFiles "import { n } from './d'; export * from './c';"
    (workspace.answer (.modules ⟨"/ws/a.ts"⟩)).map (·.imports) =
      .ok [{ name := "n", source := "./d" }] ∧
    workspace.resolveImport ⟨"/ws/a.ts"⟩ "./d" false = .internal ⟨"/ws/d.ts"⟩ ∧
    workspace.eligible {} = .ok [⟨"/ws/a.ts"⟩, ⟨"/ws/c.ts"⟩, ⟨"/ws/d.ts"⟩] ∧
    workspace.answer (.symbols ⟨"/ws/d.ts"⟩) = .ok [importedSymbol] ∧
    ((definition workspace importedName).eval workspace.answer).map
      (Option.map (·.location.path)) = .ok (some ⟨"/ws/c.ts"⟩) := by
  decide +kernel

end Navigation

end CodeAtlas
