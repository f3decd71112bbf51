import CodeAtlas.Proofs.Inquiry.Cache

/-!
# Symbols are located in the file they are read from

`SymbolParser.Located` says so of a way of reading symbols. It holds of reading lines, of reading
the structure of a program, and of asking one reader after another, so it holds of the default
(`SymbolParser.default_located`). Every symbol is made by `symbolAt?` or by `Program.symbol`; all
else only passes symbols on, which is what the rules for `Gives` follow.
-/

namespace CodeAtlas

/-- The symbols of a file are located in it. -/
def SymbolParser.Located (parser : SymbolParser) : Prop :=
  ∀ path text symbols, parser.parse path text = .ok symbols →
    ∀ symbol ∈ symbols, symbol.location.path = path

namespace Declaration

/-- Whatever a computation gives satisfies a condition. -/
def Gives {α : Type} (good : α → Prop) (result : Option α) : Prop :=
  ∀ value, result = some value → good value

section Rules

variable {α β : Type} {good : α → Prop} {fine : β → Prop}

/-- A value that satisfies the condition is given. -/
theorem gives_some {value : α} (h : good value) : Gives good (some value) :=
  fun _ heq => Option.some.inj heq ▸ h

/-- A choice gives what both of its sides give. -/
theorem gives_ite {condition : Prop} [Decidable condition] {yes no : Option α}
    (hyes : Gives good yes) (hno : Gives good no) :
    Gives good (if condition then yes else no) := by
  split
  · exact hyes
  · exact hno

/-- A computation gives what the next one gives. -/
theorem Gives.bind {result : Option α} {next : α → Option β} (h : Gives good result)
    (hnext : ∀ value, good value → Gives fine (next value)) : Gives fine (result >>= next) := by
  intro last hlast
  obtain ⟨value, hvalue, hlast⟩ := Option.bind_eq_some_iff.mp hlast
  exact hnext value (h value hvalue) last hlast

/-- A computation gives what the next one gives, whatever it goes on from. -/
theorem gives_bind {result : Option α} {next : α → Option β}
    (h : ∀ value, Gives fine (next value)) : Gives fine (result >>= next) :=
  @Gives.bind _ _ (fun _ => True) _ _ _ (fun _ _ => trivial) fun value _ => h value

/-- A list is made of what its items give. -/
theorem gives_map_m {f : α → Option β} (h : ∀ item, Gives fine (f item)) (items : List α) :
    Gives (fun values => ∀ value ∈ values, fine value) (items.mapM f) := by
  induction items with
  | nil => exact gives_some (by simp)
  | cons item rest ih =>
      rw [List.mapM_cons]
      refine (h item).bind fun value hvalue => ih.bind fun values hvalues => gives_some ?_
      exact List.forall_mem_cons.mpr ⟨hvalue, hvalues⟩

end Rules

/-- The symbols that a line adds are located in the file. -/
def Contribution.Located (source : Source) (contribution : Contribution) : Prop :=
  ∀ symbol ∈ contribution.symbols, symbol.location.path = source.path

variable {source : Source}

/-- A line that adds no symbols. -/
theorem located_empty {exports : List (String × Bool)} {opens : Option Frame} :
    Contribution.Located source { exports, opens } := by
  simp [Contribution.Located]

section Statements

variable {name line : Text} {kind : SymbolKind} {offset : Nat} {depth : Int}
  {container : Option String} {modifiers : List Modifier} {found : Pattern.Match}

/-- A symbol is made in the file. -/
theorem symbol_at_located {endLine : Option Nat} :
    Gives (fun symbol => symbol.location.path = source.path)
      (symbolAt? source name kind offset endLine container modifiers) :=
  gives_bind fun _ => gives_some rfl

/-- A line that adds one symbol. -/
theorem single_symbol_located {endLine : Option Nat} {opens : Option Frame} :
    Gives (Contribution.Located source) (do
      let symbol ← symbolAt? source name kind offset endLine container modifiers
      pure { symbols := [symbol], opens }) :=
  symbol_at_located.bind fun symbol hsymbol =>
    gives_some (by simpa [Contribution.Located] using hsymbol)

/-- A container is located in the file. -/
theorem container_line_located {number : Nat} {frameKind : FrameKind} :
    Gives (Contribution.Located source)
      (containerLine? source line offset depth container found number kind frameKind) :=
  gives_bind fun _ => gives_bind fun _ => single_symbol_located

/-- A class is located in the file. -/
theorem class_line_located :
    Gives (Contribution.Located source) (classLine? source line offset depth container found) := by
  unfold classLine?
  dsimp only
  split
  · exact single_symbol_located
  · split
    · exact single_symbol_located
    · exact gives_some located_empty

/-- A function is located in the file. -/
theorem function_line_located :
    Gives (Contribution.Located source) (functionLine? source line offset container found) := by
  unfold functionLine?
  dsimp only
  split
  · exact single_symbol_located
  · split
    · exact single_symbol_located
    · exact gives_some located_empty

/-- Variables are located in the file. -/
theorem variable_line_located :
    Gives (Contribution.Located source) (variableLine? source line offset container found) := by
  refine gives_bind fun rest => ?_
  refine (gives_map_m (fun _ => gives_bind fun _ => gives_bind fun names =>
    gives_map_m (fun _ => symbol_at_located) _) _).bind fun symbols hsymbols =>
      gives_some fun symbol hsymbol => ?_
  obtain ⟨group, hgroup, hsymbol⟩ := List.mem_flatten.mp hsymbol
  exact hsymbols group hgroup symbol hsymbol

/-- A list of exports adds no symbols. -/
theorem export_line_symbols : (exportLine line).symbols = [] := by
  unfold exportLine
  split
  · split <;> rfl
  · split <;> rfl

/-- The symbols that a statement declares are located in the file. -/
theorem statement_line_located :
    Gives (Contribution.Located source) (statementLine? source line offset depth container) := by
  unfold statementLine?
  dsimp only
  split
  · exact class_line_located
  split
  · exact container_line_located
  split
  · exact container_line_located
  split
  · exact container_line_located
  split
  · exact gives_bind fun _ => gives_bind fun _ => single_symbol_located
  split
  · exact function_line_located
  split
  · exact variable_line_located
  split
  · exact gives_some located_empty
  · refine gives_some fun symbol hsymbol => ?_
    rw [export_line_symbols] at hsymbol
    cases hsymbol

end Statements

section Members

variable {line : Text} {offset : Nat} {name : String} {found : Pattern.Match}

/-- The symbols among optional ones are located where these are. -/
theorem gives_filter_map {α : Type} {f : α → Option (Option Symbol)} {path : Path}
    (h : ∀ item, Gives (∀ symbol ∈ ·, symbol.location.path = path) (f item)) (items : List α) :
    Gives (fun found => ∀ symbol ∈ found.filterMap id, symbol.location.path = path)
      (items.mapM f) := by
  intro found hfound symbol hsymbol
  obtain ⟨item, hitem, hsome⟩ := List.mem_filterMap.mp hsymbol
  exact gives_map_m h items found hfound item hitem symbol hsome

/-- An optional symbol that is there is made in the file. -/
theorem optional_symbol_located {name : Text} {kind : SymbolKind} {endLine : Option Nat}
    {container : Option String} {modifiers : List Modifier} :
    Gives (∀ symbol ∈ ·, symbol.location.path = source.path) (do
      let symbol ← symbolAt? source name kind offset endLine container modifiers
      return some symbol) :=
  symbol_at_located.bind fun symbol hsymbol => gives_some (by simpa using hsymbol)

/-- The parameters of a constructor are located in the file. -/
theorem constructor_parameters_located {nameAt : Nat} :
    Gives (∀ symbol ∈ ·, symbol.location.path = source.path)
      (constructorParameters? source nameAt name) := by
  unfold constructorParameters?
  dsimp only
  split
  · split
    · refine gives_bind fun list => (gives_filter_map (fun item => ?_) _).bind
        fun symbols hsymbols => gives_some hsymbols
      split
      · refine gives_bind fun _ => gives_bind fun _ => ?_
        split
        · exact gives_some (by simp)
        · exact optional_symbol_located
      · exact gives_some (by simp)
    · exact gives_some (by simp)
  · exact gives_some (by simp)

/-- A method and its parameters are located in the file. -/
theorem method_line_located :
    Gives (Contribution.Located source) (methodLine? source line offset name found) := by
  refine gives_bind fun _ => gives_bind fun text => ?_
  dsimp only
  split
  · exact gives_some located_empty
  · refine symbol_at_located.bind fun symbol hsymbol => ?_
    split
    · refine constructor_parameters_located.bind fun parameters hparameters => gives_some ?_
      exact List.forall_mem_cons.mpr ⟨hsymbol, hparameters⟩
    · exact gives_some (by simpa [Contribution.Located] using hsymbol)

/-- A property is located in the file. -/
theorem property_line_located :
    Gives (Contribution.Located source) (propertyLine? source line offset name found) := by
  refine gives_bind fun _ => gives_bind fun text => ?_
  dsimp only
  refine gives_ite (gives_some located_empty) (gives_bind fun _ => gives_ite ?_ ?_)
  · exact gives_bind fun _ => gives_bind fun _ => single_symbol_located
  · exact gives_bind fun _ => single_symbol_located

/-- The members of a class are located in the file. -/
theorem class_body_line_located :
    Gives (Contribution.Located source) (classBodyLine? source line offset name) := by
  unfold classBodyLine?
  split
  · exact method_line_located
  · split
    · exact property_line_located
    · exact gives_some located_empty

/-- The members of an interface are located in the file. -/
theorem interface_body_line_located :
    Gives (Contribution.Located source) (interfaceBodyLine? source line offset name) := by
  unfold interfaceBodyLine?
  split
  · refine gives_bind fun _ => gives_bind fun _ => ?_
    dsimp only
    split
    · exact gives_some located_empty
    · exact single_symbol_located
  · exact gives_some located_empty

/-- The members of an enumeration are located in the file. -/
theorem enum_body_line_located :
    Gives (Contribution.Located source) (enumBodyLine? source line offset name) := by
  refine (gives_filter_map (fun item => ?_) _).bind fun symbols hsymbols => gives_some hsymbols
  unfold enumMember?
  dsimp only
  split
  · exact gives_some (by simp)
  · split
    · exact gives_some (by simp)
    · exact optional_symbol_located

/-- The symbols that a line declares are located in the file. -/
theorem contribution_located {depth : Int} {frame : Option Frame} :
    Gives (Contribution.Located source) (contribution? source line offset depth frame) := by
  unfold contribution?
  split
  · exact statement_line_located
  · split
    · exact statement_line_located
    · exact class_body_line_located
    · exact interface_body_line_located
    · exact enum_body_line_located

end Members

/-- The symbols that the lines declare are located in the file. -/
theorem read_lines_located {frames : List Frame} {number offset : Nat} {depth : Int}
    {lines : List Text} :
    Gives (∀ contribution ∈ ·, Contribution.Located source contribution)
      (readLines? source frames number offset depth lines) := by
  induction lines generalizing frames number offset depth with
  | nil => exact gives_some (by simp)
  | cons line rest ih =>
      rw [readLines?]
      dsimp only
      split
      · refine contribution_located.bind fun found hfound => ih.bind fun later hlater => ?_
        exact gives_some (List.forall_mem_cons.mpr ⟨hfound, hlater⟩)
      · refine ih.bind fun later hlater => ?_
        exact gives_some (List.forall_mem_cons.mpr ⟨located_empty, hlater⟩)

/-- Marking an export leaves symbols where they are. -/
theorem apply_export_keeps (good : Location → Prop) {symbols : List Symbol}
    (listed : String × Bool) (h : ∀ symbol ∈ symbols, good symbol.location) :
    ∀ symbol ∈ applyExport symbols listed, good symbol.location := by
  intro symbol hsymbol
  obtain ⟨before, hbefore, rfl⟩ := List.mem_map.mp hsymbol
  split
  · split
    · exact h before hbefore
    · exact h before hbefore
  · exact h before hbefore

/-- Marking all exports leaves symbols where they are. -/
theorem apply_exports_keeps (good : Location → Prop) {symbols : List Symbol}
    (exports : List (String × Bool)) (h : ∀ symbol ∈ symbols, good symbol.location) :
    ∀ symbol ∈ exports.foldl applyExport symbols, good symbol.location := by
  induction exports generalizing symbols with
  | nil => exact h
  | cons listed rest ih => exact ih (apply_export_keeps good listed h)

/-- The symbols that are read line by line are located in the file. -/
theorem scan_located {path : Path} {content : Text} :
    Gives (∀ symbol ∈ ·, symbol.location.path = path) (scan? path content) := by
  refine read_lines_located.bind fun contributions hcontributions => gives_some ?_
  refine apply_exports_keeps (·.path = path) _ fun symbol hsymbol => ?_
  obtain ⟨contribution, hcontribution, hsymbol⟩ := List.mem_flatMap.mp hsymbol
  exact hcontributions contribution hcontribution symbol hsymbol

end Declaration

namespace Grammar.Program

variable {program : Program}

/-- The symbols are located in the file of the program. -/
def Locates (program : Program) (symbols : List Symbol) : Prop :=
  ∀ symbol ∈ symbols, symbol.location.path = program.path

theorem locates_nil : program.Locates [] :=
  nofun

/-- A symbol is made in the file of the program. -/
theorem locates_cons {name : Text} {kind : SymbolKind} {extent : Extent} {anchor : Nat}
    {container : Option String} {modifiers : List Modifier} {rest : List Symbol}
    (h : program.Locates rest) :
    program.Locates (program.symbol name kind extent anchor container modifiers :: rest) :=
  List.forall_mem_cons.mpr ⟨rfl, h⟩

/-- What locates the symbols of every item locates all of them. -/
theorem locates_flat_map {α : Type} {items : List α} {f : α → List Symbol}
    (h : ∀ item ∈ items, program.Locates (f item)) : program.Locates (items.flatMap f) := by
  intro symbol hsymbol
  obtain ⟨item, hitem, hsymbol⟩ := List.mem_flatMap.mp hsymbol
  exact h item hitem symbol hsymbol

/-- Symbols that are made in the file are located there. -/
theorem locates_map {α : Type} {items : List α} {f : α → Symbol}
    (h : ∀ item, (f item).location.path = program.path) : program.Locates (items.map f) := by
  intro symbol hsymbol
  obtain ⟨item, _, rfl⟩ := List.mem_map.mp hsymbol
  exact h item

/-- The symbols of a class member are located in the file of the program. -/
theorem class_member_located (className : String) (member : Member) :
    program.Locates (program.classMember className member) := by
  unfold classMember
  dsimp only
  split
  · split
    · exact locates_cons (locates_map fun _ => rfl)
    · split
      · exact locates_nil
      · exact locates_cons locates_nil
  · exact locates_cons locates_nil

/-- The symbols of an interface member are located in the file of the program. -/
theorem interface_member_located (interfaceName : String) (member : Member) :
    program.Locates (program.interfaceMember interfaceName member) := by
  unfold interfaceMember
  dsimp only
  split
  · split
    · exact locates_nil
    · exact locates_cons locates_nil
  · exact locates_cons locates_nil

/-- The symbols of a statement are located in the file of the program. -/
theorem collect_located (container : Option String) (inherited : List Modifier)
    (statement : Statement) :
    program.Locates (program.collect container inherited statement).1 := by
  cases statement with
  | classDecl extent name modifiers members =>
      rw [collect]
      exact locates_cons (locates_flat_map fun member _ => class_member_located _ member)
  | interfaceDecl extent name members =>
      rw [collect]
      exact locates_cons (locates_flat_map fun member _ => interface_member_located _ member)
  | enumDecl extent name members =>
      rw [collect]
      exact locates_cons (locates_map fun _ => rfl)
  | typeAlias extent name =>
      rw [collect]
      exact locates_cons locates_nil
  | function extent name modifiers =>
      rw [collect]
      exact locates_cons locates_nil
  | «variables» isConst declarators =>
      rw [collect]
      exact locates_flat_map fun declarator _ => locates_map fun _ => rfl
  | namespaceDecl extent name isModule body =>
      rw [collect]
      refine locates_cons (locates_flat_map fun inner hinner => ?_)
      obtain ⟨statement, hstatement, rfl⟩ := List.mem_map.mp hinner
      exact collect_located _ _ statement
  | ambient inner =>
      rw [collect]
      exact collect_located container _ inner
  | exported isDefault inner =>
      rw [collect]
      exact collect_located container _ inner
  | exportList names =>
      rw [collect]
      exact locates_nil
  | other =>
      rw [collect]
      exact locates_nil

end Grammar.Program

/-- The symbols that are read from the structure of a program are located in its file. -/
theorem Grammar.symbols_located (path : Path) (content : Text) :
    ∀ symbol ∈ Grammar.symbols path content, symbol.location.path = path := by
  let program : Program := ⟨path, content⟩
  refine Declaration.apply_exports_keeps (·.path = path) _ ?_
  have hlocated (statements : List Statement) :
      program.Locates ((statements.map (program.collect none [])).flatMap (·.1)) := by
    refine Program.locates_flat_map fun found hfound => ?_
    obtain ⟨statement, _, rfl⟩ := List.mem_map.mp hfound
    exact Program.collect_located none [] statement
  exact hlocated _

namespace SymbolParser

/-- Asking one reader after another locates symbols as both of them do. -/
theorem Located.orElse {primary secondary : SymbolParser} (hprimary : primary.Located)
    (hsecondary : secondary.Located) : (primary.orElse secondary).Located := by
  intro path text symbols h
  unfold SymbolParser.orElse at h
  dsimp only at h
  split at h
  · next hparse => exact hprimary path text symbols (hparse.trans h)
  · exact hsecondary path text symbols h

/-- Reading lines locates symbols in the file. -/
theorem of_lines_located : ofLines.Located := by
  intro path text symbols h
  unfold ofLines at h
  dsimp only at h
  split at h
  · next found hfound => exact Except.ok.inj h ▸ Declaration.scan_located found hfound
  · contradiction

/-- Reading the structure of a program locates symbols in the file. -/
theorem of_structure_located : ofStructure.Located := by
  intro path text symbols h
  exact Except.ok.inj h ▸ Grammar.symbols_located path text

/-- The default reader locates symbols in the file. -/
theorem default_located : SymbolParser.default.Located :=
  of_structure_located.orElse of_lines_located

end SymbolParser

/-- The answers of a workspace fit if its parser locates symbols in the file it reads. -/
theorem Workspace.fits_of_located {workspace : Workspace}
    (h : ∀ parser, workspace.parser = some parser → parser.Located) : workspace.Fits := by
  intro question value hanswer
  cases question with
  | symbols path =>
      obtain ⟨parser, text, hparser, -, hparse⟩ := Cache.exists_parse_of_answer hanswer
      exact h parser hparser path text value hparse
  | content path => trivial
  | modules path => trivial
  | headers path => trivial

end CodeAtlas
