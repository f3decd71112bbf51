import CodeAtlas.Proofs.Graph.Declared
import CodeAtlas.Proofs.Symbol.Located
import CodeAtlas.Query.Navigation
import CodeAtlas.Workspace.Memory
import Mathlib.Data.List.Nodup
import Mathlib.Data.List.Pairwise

/-!
# Which classes are found as implementers and heirs

A search for the classes that implement or extend a name reads the headers of every selected file and
takes, for each header that is wanted, a class symbol of the header's name: one that starts on the
header's line if there is one, and else the first one of the file. Read `IsJoined` first: it says of a
file that no header has to make do with a class of another line and that no two headers meet at one
class. Just then every class that is found stands at a header that is wanted and none is found twice
(`classes_joined_iff`). A class expression has a header and no symbol, so its header is given to another
class of the same name (`namesake_of_expression_found`).
-/

namespace CodeAtlas

/-- A header heads a class symbol that has its name and starts on its line. -/
structure ClassHeader.Heads (header : ClassHeader) (symbol : Symbol) : Prop where
  kind : symbol.kind = .classDef
  name : symbol.name = header.name
  line : symbol.location.startLine = header.line

namespace Navigation

/-- Some class symbol has the name of a header. -/
def NamesClass (symbols : List Symbol) (header : ClassHeader) : Prop :=
  ∃ symbol ∈ symbols, symbol.kind = .classDef ∧ symbol.name = header.name

/-- Of the headers that are wanted, each one whose name a class symbol has heads a class symbol, and
no two of these share both name and line. -/
structure IsJoined (symbols : List Symbol) (headers : List ClassHeader)
    (wanted : ClassHeader → Bool) : Prop where
  headed : ∀ header ∈ headers, wanted header = true → NamesClass symbols header →
    ∃ symbol ∈ symbols, header.Heads symbol
  apart : headers.Pairwise fun header other => wanted header = true → wanted other = true →
    NamesClass symbols header → header.name = other.name → header.line ≠ other.line

instance (header : ClassHeader) (symbol : Symbol) : Decidable (header.Heads symbol) :=
  decidable_of_iff (symbol.kind = .classDef ∧ symbol.name = header.name ∧
    symbol.location.startLine = header.line) ⟨fun h => ⟨h.1, h.2.1, h.2.2⟩, fun h => ⟨h.1, h.2, h.3⟩⟩

instance (symbols : List Symbol) (header : ClassHeader) : Decidable (NamesClass symbols header) :=
  inferInstanceAs (Decidable (∃ symbol ∈ symbols, symbol.kind = .classDef ∧ symbol.name = header.name))

instance (symbols : List Symbol) (headers : List ClassHeader) (wanted : ClassHeader → Bool) :
    Decidable (IsJoined symbols headers wanted) :=
  decidable_of_iff ((∀ header ∈ headers, wanted header = true → NamesClass symbols header →
      ∃ symbol ∈ symbols, header.Heads symbol) ∧
    headers.Pairwise fun header other => wanted header = true → wanted other = true →
      NamesClass symbols header → header.name = other.name → header.line ≠ other.line)
    ⟨fun h => ⟨h.1, h.2⟩, fun h => ⟨h.1, h.2⟩⟩

section Join

variable {symbols : List Symbol} {headers : List ClassHeader} {wanted : ClassHeader → Bool}
  {header other : ClassHeader} {symbol : Symbol}

/-- The class symbols of a name. -/
def classesNamed (symbols : List Symbol) (name : String) : List Symbol :=
  symbols.filter fun symbol => symbol.kind = .classDef && symbol.name = name

/-- The class symbols of a name are those of the symbols that are classes and have it. -/
theorem mem_classes_named {name : String} :
    symbol ∈ classesNamed symbols name ↔
      symbol ∈ symbols ∧ symbol.kind = .classDef ∧ symbol.name = name := by
  simp [classesNamed]

/-- A header is given the first class symbol of its name on its line, or else the first one. -/
theorem class_of_eq_some_iff : classOf? symbols header = some symbol ↔
    (classesNamed symbols header.name).find? (·.location.startLine = header.line) = some symbol ∨
      (classesNamed symbols header.name).find? (·.location.startLine = header.line) = none ∧
        (classesNamed symbols header.name).head? = some symbol :=
  Option.or_eq_some_iff

/-- The class symbol that a header is given is a class symbol of its name. -/
theorem class_of_eq_some (h : classOf? symbols header = some symbol) :
    symbol ∈ symbols ∧ symbol.kind = .classDef ∧ symbol.name = header.name := by
  rcases class_of_eq_some_iff.mp h with h | ⟨-, h⟩
  · exact mem_classes_named.mp (List.mem_of_find?_eq_some h)
  · exact mem_classes_named.mp (List.mem_of_mem_head? h)

/-- A header whose name a class symbol has is given a class symbol. -/
theorem NamesClass.exists_class (h : NamesClass symbols header) :
    ∃ symbol, classOf? symbols header = some symbol := by
  obtain ⟨symbol, hnamed⟩ := h
  refine Option.ne_none_iff_exists'.mp fun hnone => ?_
  have hempty : (classesNamed symbols header.name).head? = none := (Option.or_eq_none_iff.mp hnone).2
  have hmem := mem_classes_named.mpr hnamed
  rw [List.head?_eq_none_iff.mp hempty] at hmem
  cases hmem

/-- Headers that share name and line are given the same class symbol. -/
theorem class_of_congr (hname : header.name = other.name) (hline : header.line = other.line) :
    classOf? symbols header = classOf? symbols other := by
  rw [classOf?, classOf?, hname, hline]

/-- A header that heads a class symbol heads the one that it is given. -/
theorem heads_class_of (hheaded : ∃ other ∈ symbols, header.Heads other)
    (h : classOf? symbols header = some symbol) : header.Heads symbol := by
  obtain ⟨-, hkind, hname⟩ := class_of_eq_some h
  rcases class_of_eq_some_iff.mp h with hfound | ⟨hnone, -⟩
  · exact ⟨hkind, hname, by simpa using List.find?_some hfound⟩
  · obtain ⟨other, hother, hheads⟩ := hheaded
    have hmem := mem_classes_named.mpr ⟨hother, hheads.kind, hheads.name⟩
    exact absurd (decide_eq_true hheads.line) (List.find?_eq_none.mp hnone other hmem)

/-- The class symbol that a header is given without heading it is given to the header that heads it as
well: it is the first one of its name. -/
theorem class_of_shared (h : classOf? symbols header = some symbol) (hnot : ¬header.Heads symbol)
    (hother : other.Heads symbol) : classOf? symbols other = some symbol := by
  obtain ⟨-, hkind, hname⟩ := class_of_eq_some h
  have hnames : header.name = other.name := hname.symm.trans hother.name
  rcases class_of_eq_some_iff.mp h with hfound | ⟨-, hhead⟩
  · exact absurd ⟨hkind, hname, by simpa using List.find?_some hfound⟩ hnot
  · obtain ⟨rest, hrest⟩ := List.head?_eq_some_iff.mp hhead
    rw [hnames] at hrest
    refine class_of_eq_some_iff.mpr (Or.inl ?_)
    rw [hrest]
    exact List.find?_cons_of_pos (decide_eq_true hother.line)

/-- The class symbols of the headers that are wanted. -/
def classesOf (symbols : List Symbol) (headers : List ClassHeader) (wanted : ClassHeader → Bool) :
    List Symbol :=
  (headers.filter wanted).filterMap (classOf? symbols)

/-- The class symbols of headers are given to one of them each. -/
theorem mem_classes_of : symbol ∈ classesOf symbols headers wanted ↔
    ∃ header ∈ headers, wanted header = true ∧ classOf? symbols header = some symbol := by
  simp only [classesOf, List.mem_filterMap, List.mem_filter, and_assoc]

/-- Two headers, if both are wanted, are not given the same class symbol. -/
def GivenApart (symbols : List Symbol) (wanted : ClassHeader → Bool) (header other : ClassHeader) :
    Prop :=
  wanted header = true → wanted other = true →
    ∀ symbol, classOf? symbols header = some symbol → classOf? symbols other ≠ some symbol

instance : Std.Symm (GivenApart symbols wanted) where
  symm _ _ h hother hheader symbol hsymbol hfound := h hheader hother symbol hfound hsymbol

/-- No class symbol is given twice just if no two headers are given the same. -/
theorem classes_of_nodup_iff : (classesOf symbols headers wanted).Nodup ↔
    headers.Pairwise (GivenApart symbols wanted) := by
  rw [classesOf, List.Nodup, List.pairwise_filterMap, List.pairwise_filter]
  constructor
  · intro h
    exact h.imp fun hne hheader hother symbol hsymbol hshared =>
      hne hheader hother symbol hsymbol symbol hshared rfl
  · intro h
    refine h.imp fun hapart hheader hother symbol hsymbol found hfound heq => ?_
    exact hapart hheader hother symbol hsymbol (heq ▸ hfound)

/-- If every class symbol that is given stands at a header that is wanted and none is given twice, the
headers are joined to classes of their own. -/
theorem is_joined_of_headed (hheaded : ∀ symbol ∈ classesOf symbols headers wanted,
      ∃ header ∈ headers, wanted header = true ∧ header.Heads symbol)
    (hnodup : (classesOf symbols headers wanted).Nodup) : IsJoined symbols headers wanted := by
  have hapart := classes_of_nodup_iff.mp hnodup
  refine ⟨fun header hheader hwanted hnames => ?_, hapart.imp ?_⟩
  · obtain ⟨symbol, hsymbol⟩ := hnames.exists_class
    by_cases hheads : header.Heads symbol
    · exact ⟨symbol, (class_of_eq_some hsymbol).1, hheads⟩
    · -- The header at which the class stands is given it as well.
      obtain ⟨own, hown, hownWanted, hownHeads⟩ :=
        hheaded symbol (mem_classes_of.mpr ⟨header, hheader, hwanted, hsymbol⟩)
      have hne : header ≠ own := fun heq => hheads (heq ▸ hownHeads)
      exact absurd (class_of_shared hsymbol hheads hownHeads)
        (hapart.forall hheader hown hne hwanted hownWanted symbol hsymbol)
  · intro header other hgiven hwanted hother hnames hname hline
    obtain ⟨symbol, hsymbol⟩ := hnames.exists_class
    exact hgiven hwanted hother symbol hsymbol (class_of_congr hname hline ▸ hsymbol)

/-- If headers are joined to classes of their own, every class symbol that is given stands at its
header. -/
theorem IsJoined.heads (h : IsJoined symbols headers wanted) (hheader : header ∈ headers)
    (hwanted : wanted header = true) (hsymbol : classOf? symbols header = some symbol) :
    header.Heads symbol := by
  obtain ⟨hmem, hkind, hname⟩ := class_of_eq_some hsymbol
  exact heads_class_of (h.headed header hheader hwanted ⟨symbol, hmem, hkind, hname⟩) hsymbol

/-- If headers are joined to classes of their own, no class symbol is given twice. -/
theorem IsJoined.nodup (h : IsJoined symbols headers wanted) :
    (classesOf symbols headers wanted).Nodup := by
  refine classes_of_nodup_iff.mpr (h.apart.imp_of_mem ?_)
  intro header other hheader hother hapart hwanted hwanted' symbol hsymbol hshared
  have hheads := h.heads hheader hwanted hsymbol
  have hheads' := h.heads hother hwanted' hshared
  exact hapart hwanted hwanted' ⟨symbol, (class_of_eq_some hsymbol).1, hheads.kind, hheads.name⟩
    (hheads.name.symm.trans hheads'.name) (hheads.line.symm.trans hheads'.line)

end Join

section Files

variable {oracle : (question : Question) → Except Failure question.Answer} {deadline : Deadline}
  {wanted : ClassHeader → Bool} {files : List Path} {found : List Symbol}

/-- The class symbols of the headers of a file that are wanted. A file that cannot be read has none. -/
def classesOfFile (oracle : (question : Question) → Except Failure question.Answer)
    (wanted : ClassHeader → Bool) (file : Path) : List Symbol :=
  match oracle (.headers file), oracle (.symbols file) with
  | .ok headers, .ok symbols => classesOf symbols headers wanted
  | _, _ => []

/-- What a search through files gives are the class symbols of each of them. -/
theorem found_of_classes_in (h : (classesIn deadline wanted files).eval oracle = .ok found) :
    found = files.flatMap (classesOfFile oracle wanted) := by
  induction files generalizing found with
  | nil => exact (Except.ok.inj h).symm
  | cons file rest ih =>
      have hrest : ∀ first, (classesIn deadline wanted rest >>= fun later =>
          (pure (first ++ later) : Inquiry (List Symbol))).eval oracle = .ok found →
            found = first ++ rest.flatMap (classesOfFile oracle wanted) := by
        intro first hfirst
        rw [Inquiry.eval_bind] at hfirst
        obtain ⟨later, hlater, heq⟩ := bind_eq_ok.mp hfirst
        rw [← ih hlater]
        exact (Except.ok.inj heq).symm
      rw [classesIn, Inquiry.eval_bind] at h
      obtain ⟨-, -, h⟩ := bind_eq_ok.mp h
      replace h := (Inquiry.eval_bind oracle (Inquiry.attempt (.headers file)) _).symm.trans h
      rw [Inquiry.eval_attempt] at h
      rw [List.flatMap_cons, classesOfFile]
      cases hheaders : oracle (.headers file) with
      | error failure =>
          rw [hheaders] at h
          exact hrest [] h
      | ok headers =>
          rw [hheaders] at h
          change Inquiry.eval oracle (if (headers.filter wanted).isEmpty = true then _ else _) = _ at h
          split at h
          · next hempty =>
              have hnone : ∀ symbols, classesOf symbols headers wanted = [] := by
                intro symbols
                rw [classesOf, List.isEmpty_iff.mp hempty, List.filterMap_nil]
              cases oracle (.symbols file) with
              | error failure => exact hrest [] h
              | ok symbols => exact (hnone symbols).symm ▸ hrest [] h
          · replace h := (Inquiry.eval_bind oracle (Inquiry.get (.symbols file)) _).symm.trans h
            obtain ⟨symbols, hsymbols, h⟩ := bind_eq_ok.mp h
            rw [Inquiry.eval_get] at hsymbols
            rw [hsymbols]
            exact hrest _ h

/-- The class symbols of a file's headers are those of the headers and symbols read from it. -/
theorem mem_classes_of_file {file : Path} {symbol : Symbol} :
    symbol ∈ classesOfFile oracle wanted file ↔ ∃ headers symbols,
      oracle (.headers file) = .ok headers ∧ oracle (.symbols file) = .ok symbols ∧
        symbol ∈ classesOf symbols headers wanted := by
  unfold classesOfFile
  split
  · next headers symbols hheaders hsymbols => simp [hheaders, hsymbols]
  · next hunread =>
      refine ⟨nofun, fun ⟨headers, symbols, hheaders, hsymbols, _⟩ => ?_⟩
      exact absurd hsymbols (hunread headers symbols hheaders)

/-- A class symbol of one of the files has the name of a header of that file that is wanted. -/
def IsNamedInHeader (workspace : Workspace) (files : List Path) (wanted : ClassHeader → Bool)
    (symbol : Symbol) : Prop :=
  ∃ file ∈ files, ∃ headers symbols, workspace.answer (.headers file) = .ok headers ∧
    workspace.answer (.symbols file) = .ok symbols ∧ symbol ∈ symbols ∧ symbol.kind = .classDef ∧
      ∃ header ∈ headers, wanted header = true ∧ symbol.name = header.name

/-- A class symbol of one of the files stands at a header of that file that is wanted: it has the
header's name and starts on the header's line. -/
def StandsAtHeader (workspace : Workspace) (files : List Path) (wanted : ClassHeader → Bool)
    (symbol : Symbol) : Prop :=
  ∃ file ∈ files, ∃ headers symbols, workspace.answer (.headers file) = .ok headers ∧
    workspace.answer (.symbols file) = .ok symbols ∧ symbol ∈ symbols ∧
      ∃ header ∈ headers, wanted header = true ∧ header.Heads symbol

/-- In each of the files that can be read, the headers that are wanted are joined to classes of their
own. -/
def JoinsAll (workspace : Workspace) (files : List Path) (wanted : ClassHeader → Bool) : Prop :=
  ∀ file ∈ files, ∀ headers symbols, workspace.answer (.headers file) = .ok headers →
    workspace.answer (.symbols file) = .ok symbols → IsJoined symbols headers wanted

/-- What is found for the headers that are wanted: class symbols of their names, all standing at such
a header and none found twice just if headers are joined to classes of their own. -/
structure FindsClasses (workspace : Workspace) (files : List Path) (wanted : ClassHeader → Bool)
    (found : List Symbol) : Prop where
  named : ∀ symbol ∈ found, IsNamedInHeader workspace files wanted symbol
  joined : (∀ symbol ∈ found, StandsAtHeader workspace files wanted symbol) ∧ found.Nodup ↔
    JoinsAll workspace files wanted

variable {workspace : Workspace}

/-- The class symbols of the headers of different files are different. -/
theorem classes_of_files_nodup_iff (wanted : ClassHeader → Bool) (hfits : workspace.Fits)
    (hnodup : files.Nodup) :
    (files.flatMap (classesOfFile workspace.answer wanted)).Nodup ↔
      ∀ file ∈ files, (classesOfFile workspace.answer wanted file).Nodup := by
  have hpath : ∀ file, ∀ symbol ∈ classesOfFile workspace.answer wanted file,
      symbol.location.path = file := by
    intro file symbol hsymbol
    obtain ⟨headers, symbols, -, hsymbols, hmem⟩ := mem_classes_of_file.mp hsymbol
    obtain ⟨header, -, -, hclass⟩ := mem_classes_of.mp hmem
    exact hfits (.symbols file) symbols hsymbols symbol (class_of_eq_some hclass).1
  rw [List.nodup_flatMap]
  refine and_iff_left (hnodup.imp fun {file other} hne symbol hsymbol hshared => hne ?_)
  exact (hpath file symbol hsymbol).symm.trans (hpath other symbol hshared)

/-- A symbol that is found in a file stands at a header just if it stands at one of this file. -/
theorem stands_at_header_iff (hfits : workspace.Fits) {file : Path} (hfile : file ∈ files)
    {headers : List ClassHeader} {symbols : List Symbol} {symbol : Symbol}
    (hheaders : workspace.answer (.headers file) = .ok headers)
    (hsymbols : workspace.answer (.symbols file) = .ok symbols) (hsymbol : symbol ∈ symbols) :
    StandsAtHeader workspace files wanted symbol ↔
      ∃ header ∈ headers, wanted header = true ∧ header.Heads symbol := by
  constructor
  · rintro ⟨other, -, headers', symbols', hheaders', hsymbols', hsymbol', hheads⟩
    -- The symbol names its file, so the header is in the same one.
    obtain rfl : file = other := (hfits (.symbols file) symbols hsymbols symbol hsymbol).symm.trans
      (hfits (.symbols other) symbols' hsymbols' symbol hsymbol')
    rwa [Except.ok.inj (hheaders.symm.trans hheaders')]
  · exact fun hheads => ⟨file, hfile, headers, symbols, hheaders, hsymbols, hsymbol, hheads⟩

/-- What a search through selected files finds. -/
theorem finds_classes_where (hfits : workspace.Fits) (hfiles : workspace.eligible {} = .ok files)
    {operation : Operation}
    (h : (classesWhere workspace operation wanted).eval workspace.answer = .ok found) :
    FindsClasses workspace files wanted found := by
  rw [classesWhere, Inquiry.eval_bind, Inquiry.eval_of_except, hfiles] at h
  obtain rfl := found_of_classes_in h
  have hnodup := classes_of_files_nodup_iff wanted hfits (GraphBuild.eligible_nodup hfiles)
  refine ⟨fun symbol hsymbol => ?_, ⟨fun ⟨hstands, hdistinct⟩ => ?_, fun hjoins => ⟨?_, ?_⟩⟩⟩
  · obtain ⟨file, hfile, hsymbol⟩ := List.mem_flatMap.mp hsymbol
    obtain ⟨headers, symbols, hheaders, hsymbols, hmem⟩ := mem_classes_of_file.mp hsymbol
    obtain ⟨header, hheader, hwanted, hclass⟩ := mem_classes_of.mp hmem
    obtain ⟨hsymbol, hkind, hname⟩ := class_of_eq_some hclass
    exact ⟨file, hfile, headers, symbols, hheaders, hsymbols, hsymbol, hkind, header, hheader, hwanted,
      hname⟩
  · intro file hfile headers symbols hheaders hsymbols
    have hfile' : classesOfFile workspace.answer wanted file = classesOf symbols headers wanted := by
      simp only [classesOfFile, hheaders, hsymbols]
    refine is_joined_of_headed (fun symbol hsymbol => ?_) (hfile' ▸ hnodup.mp hdistinct file hfile)
    obtain ⟨header, -, -, hclass⟩ := mem_classes_of.mp hsymbol
    refine (stands_at_header_iff hfits hfile hheaders hsymbols (class_of_eq_some hclass).1).mp ?_
    exact hstands symbol (List.mem_flatMap.mpr ⟨file, hfile, hfile' ▸ hsymbol⟩)
  · intro symbol hsymbol
    obtain ⟨file, hfile, hsymbol⟩ := List.mem_flatMap.mp hsymbol
    obtain ⟨headers, symbols, hheaders, hsymbols, hmem⟩ := mem_classes_of_file.mp hsymbol
    obtain ⟨header, hheader, hwanted, hclass⟩ := mem_classes_of.mp hmem
    refine (stands_at_header_iff hfits hfile hheaders hsymbols (class_of_eq_some hclass).1).mpr ?_
    have hjoined := hjoins file hfile headers symbols hheaders hsymbols
    exact ⟨header, hheader, hwanted, hjoined.heads hheader hwanted hclass⟩
  · refine hnodup.mpr fun file hfile => ?_
    unfold classesOfFile
    split
    · next headers symbols hheaders hsymbols =>
        exact (hjoins file hfile headers symbols hheaders hsymbols).nodup
    · exact List.nodup_nil

end Files

/-- What is found for the symbol under a cursor. For an interface, the implementers that are found are
class symbols of headers that name it in their `implements` clause; they all stand at such headers, on
their lines, and none is found twice, just if the headers of this kind are joined to classes of their
own in every selected file. For a class, the same holds of its heirs and the `extends` clauses. -/
theorem classes_joined_iff {workspace : Workspace} {position : Position} {target : Symbol}
    {files : List Path} {found : List Symbol}
    (hparser : ∀ parser, workspace.parser = some parser → parser.Located)
    (hfiles : workspace.eligible {} = .ok files)
    (htarget : (symbolAt workspace position).eval workspace.answer = .ok (some target)) :
    (target.kind = .interfaceDef →
      (implementations workspace position).eval workspace.answer = .ok found →
        FindsClasses workspace files (isImplementer target.name) found) ∧
    (target.kind = .classDef →
      (derivedClasses workspace position).eval workspace.answer = .ok found →
        FindsClasses workspace files (isHeir target.name) found) := by
  have hfits := Workspace.fits_of_located hparser
  constructor
  · intro hkind hfound
    rw [implementations, Inquiry.eval_bind, htarget] at hfound
    change Inquiry.eval workspace.answer (if target.kind = .interfaceDef then _ else _) = _ at hfound
    rw [if_pos hkind] at hfound
    exact finds_classes_where hfits hfiles hfound
  · intro hkind hfound
    rw [derivedClasses, Inquiry.eval_bind, htarget] at hfound
    change Inquiry.eval workspace.answer (if target.kind = .classDef then _ else _) = _ at hfound
    rw [if_pos hkind] at hfound
    exact finds_classes_where hfits hfiles hfound

/-- A workspace of one file. -/
def singleFile (text : String) : Workspace where
  root := ⟨"/ws"⟩
  storage := MemoryFiles.storage ⟨[(⟨"/ws/a.ts"⟩, some text.toList)]⟩ false
  parser := some SymbolParser.ofLines

/-- The place of the name of an interface that a file begins with. -/
def interfaceName : Position :=
  ⟨⟨"/ws/a.ts"⟩, 1, 11⟩

/-- The interface. -/
def interfaceSymbol : Symbol where
  name := "I"
  kind := .interfaceDef
  location := { path := ⟨"/ws/a.ts"⟩, startLine := 1, endLine := 1, column := some 11 }
  details := some "interface I {}"

/-- A class of a workspace of one file that takes one line. -/
def lineClass (line : Nat) (containerName : Option String) (clause : String) : Symbol where
  name := "A"
  kind := .classDef
  location := { path := ⟨"/ws/a.ts"⟩, startLine := line, endLine := line, column := some 7 }
  containerName
  details := some ("class A" ++ clause ++ " {}")

/-- Two classes of one name that implement an interface, one of them inside a namespace. -/
def twoImplementers : Workspace :=
  singleFile "interface I {}\nclass A implements I {}\nnamespace N \x7b\nclass A implements I {}\n\x7d"

/-- Both classes are found, each at its own header. -/
theorem both_implementers_found :
    (implementations twoImplementers interfaceName).eval twoImplementers.answer =
      .ok [lineClass 2 none " implements I", lineClass 4 (some "N") " implements I"] ∧
    (∀ symbol ∈ [lineClass 2 none " implements I", lineClass 4 (some "N") " implements I"],
      StandsAtHeader twoImplementers [⟨"/ws/a.ts"⟩] (isImplementer "I") symbol) ∧
    [lineClass 2 none " implements I", lineClass 4 (some "N") " implements I"].Nodup := by
  have hparser : ∀ parser, twoImplementers.parser = some parser → parser.Located := by
    rintro parser ⟨⟩
    exact SymbolParser.of_lines_located
  -- One evaluation for all these facts scans the file once.
  obtain ⟨hfiles, htarget, hfound, hjoined⟩ :
      twoImplementers.eligible {} = .ok [⟨"/ws/a.ts"⟩] ∧
      (symbolAt twoImplementers interfaceName).eval twoImplementers.answer =
        .ok (some interfaceSymbol) ∧
      (implementations twoImplementers interfaceName).eval twoImplementers.answer =
        .ok [lineClass 2 none " implements I", lineClass 4 (some "N") " implements I"] ∧
      ∀ headers ∈ (twoImplementers.answer (.headers ⟨"/ws/a.ts"⟩)).toOption,
        ∀ symbols ∈ (twoImplementers.answer (.symbols ⟨"/ws/a.ts"⟩)).toOption,
          IsJoined symbols headers (isImplementer "I") := by
    decide +kernel
  have hjoins : JoinsAll twoImplementers [⟨"/ws/a.ts"⟩] (isImplementer "I") := by
    intro file hfile headers symbols hheaders hsymbols
    obtain rfl := List.mem_singleton.mp hfile
    exact hjoined headers (by rw [hheaders]; rfl) symbols (by rw [hsymbols]; rfl)
  have hfinds := (classes_joined_iff hparser hfiles htarget).1 rfl hfound
  exact ⟨hfound, hfinds.joined.mpr hjoins⟩

/-- A class that implements nothing, and two class expressions of its name that implement an
interface. -/
def classAndExpressions : Workspace :=
  singleFile
    "interface I {}\nclass A {}\nconst x = class A implements I {}, y = class A implements I {};"

/-- A class expression has a header but no symbol, so another class of the same name is found in its
place, although it does not implement the interface, and is found once for each of them. -/
theorem namesake_of_expression_found :
    classAndExpressions.eligible {} = .ok [⟨"/ws/a.ts"⟩] ∧
    (symbolAt classAndExpressions interfaceName).eval classAndExpressions.answer =
      .ok (some interfaceSymbol) ∧
    (implementations classAndExpressions interfaceName).eval classAndExpressions.answer =
      .ok [lineClass 2 none "", lineClass 2 none ""] ∧
    ¬StandsAtHeader classAndExpressions [⟨"/ws/a.ts"⟩] (isImplementer "I") (lineClass 2 none "") := by
  obtain ⟨hfiles, htarget, hfound, hnone⟩ :
      classAndExpressions.eligible {} = .ok [⟨"/ws/a.ts"⟩] ∧
      (symbolAt classAndExpressions interfaceName).eval classAndExpressions.answer =
        .ok (some interfaceSymbol) ∧
      (implementations classAndExpressions interfaceName).eval classAndExpressions.answer =
        .ok [lineClass 2 none "", lineClass 2 none ""] ∧
      ∀ headers ∈ (classAndExpressions.answer (.headers ⟨"/ws/a.ts"⟩)).toOption,
        ∀ header ∈ headers, isImplementer "I" header = true →
          ¬header.Heads (lineClass 2 none "") := by
    decide +kernel
  refine ⟨hfiles, htarget, hfound, ?_⟩
  rintro ⟨file, hfile, headers, symbols, hheaders, -, -, header, hheader, hwanted, hheads⟩
  obtain rfl := List.mem_singleton.mp hfile
  exact hnone headers (by rw [hheaders]; rfl) header hheader hwanted hheads

end Navigation

end CodeAtlas
