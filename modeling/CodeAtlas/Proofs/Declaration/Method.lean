import CodeAtlas.Proofs.Declaration.Printed

/-!
# Classes whose methods have any names

A method may be named by any ASCII identifier, also by a special word; only what starts a statement
and the constructor's name are kept apart (`MethodName`). A class with one method a line is read as
the class and its methods in their order, without those whose names are words that may lead a member
(`methods_reported_iff`).
-/

namespace CodeAtlas.Declaration

open Text (isNamePart isAsciiDigit Nested AreRows continued join)

/-- An ASCII identifier that starts no statement and does not name the constructor. -/
structure MethodName where
  text : Text
  ne_nil : text ≠ [] := by decide
  chars : ∀ c ∈ text, isNamePart c = true := by decide
  no_digit : ∀ c ∈ text.head?, isAsciiDigit c = false := by decide
  not_control : String.ofList text ∉ Language.controlKeywords := by decide
  not_constructor : String.ofList text ≠ "constructor" := by decide

/-- The name as symbols carry it. -/
def MethodName.word (name : MethodName) : String :=
  String.ofList name.text

/-- The name is one of the words that may lead a member. -/
def MethodName.leadsMembers (name : MethodName) : Bool :=
  Language.memberModifiers.contains name.word

/-- The line of a method with an empty body. -/
def methodRow (indent : Nat) (name : MethodName) : Text :=
  indentation indent ++ (name.text ++ Member.method.tail)

/-- The first line of a class. -/
def classOpening (name : Name) : Text :=
  rowOf 0 (words false FrameKind.ofClass.keyword) name [' ', '{']

/-- The lines of a class with one method a line, and `blanks` empty ones. -/
def classRows (indent blanks : Nat) (name : Name) (methods : List MethodName) : List Text :=
  classOpening name ::
    (methods.map (methodRow indent) ++ closingRow 0 :: List.replicate blanks [])

/-- The text of a class with one method a line, and `blanks` line feeds after it. -/
def printClass (indent blanks : Nat) (name : Name) (methods : List MethodName) : Text :=
  join ['\n'] (classRows indent blanks name methods)

/-- The entries of methods on lines from `number` on, those that are kept. -/
def methodEntries (keep : MethodName → Bool) (container : String) :
    (number : Nat) → List MethodName → List Entry
  | _, [] => []
  | number, name :: rest =>
    (if keep name then [⟨name.word, .method, some container, number, number, []⟩] else []) ++
      methodEntries keep container (number + 1) rest

section Rows

variable {indent blanks : Nat} {name : Name} {methods : List MethodName}

/-- The name of a method is an ASCII identifier. -/
theorem MethodName.is_plain_word (name : MethodName) : IsPlainWord name.text :=
  ⟨name.ne_nil, name.chars, name.no_digit⟩

/-- The line of a method is made of few characters. -/
theorem method_row_chars (indent : Nat) (name : MethodName) :
    ∀ c ∈ methodRow indent name, isRowChar c = true := by
  show ∀ c ∈ indentation indent ++ ([] ++ (name.text ++ Member.method.tail)), isRowChar c = true
  exact indented_row_chars (List.forall_mem_nil _) name.chars (by decide)

/-- The lines of a class are made of few characters. -/
theorem class_row_chars (indent blanks : Nat) (name : Name) (methods : List MethodName) :
    ∀ row ∈ classRows indent blanks name methods, ∀ c ∈ row, isRowChar c = true := by
  refine List.forall_mem_cons.mpr ⟨row_of_row_chars (words_row_chars (by decide)) (by decide),
    List.forall_mem_append.mpr ⟨fun row hrow => ?_, List.forall_mem_cons.mpr
      ⟨by decide, fun row hrow => ?_⟩⟩⟩
  · obtain ⟨method, -, rfl⟩ := List.mem_map.mp hrow
    exact method_row_chars indent method
  · rw [List.eq_of_mem_replicate hrow]
    exact List.forall_mem_nil _

/-- The lines of methods hold no line feed. -/
theorem method_rows (indent : Nat) (methods : List MethodName) :
    AreRows (methods.map (methodRow indent)) := by
  intro row hrow hfeed
  obtain ⟨method, -, rfl⟩ := List.mem_map.mp hrow
  exact absurd (method_row_chars indent method _ hfeed) (by decide)

/-- The braces of the line of a method match. -/
theorem nested_method_row (indent : Nat) (name : MethodName) : Nested (methodRow indent name) :=
  (nested_indentation indent).append ((Text.nested_of_no_braces fun c hc =>
    no_brace_of_part (Or.inl (name.chars c hc))).append nested_callable)

/-- The braces of the lines of methods match. -/
theorem nested_methods (indent : Nat) (methods : List MethodName) :
    Nested (continued (methods.map (methodRow indent))) := by
  induction methods with
  | nil => exact .nil
  | cons first rest ih =>
      rw [List.map_cons, Text.continued_cons]
      exact Nested.cons_feed ((nested_method_row indent first).append ih)

end Rows

section Reading

variable {path : Path} {above : List Text} {frame : Frame} {opened : List Frame} {depth : Int}

/-- A word that may lead a member is read as no method; every other name is read as its method. -/
theorem read_method (path : Path) (opened : List Frame) (indent : Nat) (name : MethodName)
    (below : List Text) (habove : AreRows above) (hkind : frame.kind = .ofClass)
    (hend : above.length < frame.endLine) (hdepth : depth = frame.bodyDepth) :
    Leads (methodEntries (!·.leadsMembers) frame.name (above.length + 1) [name])
      (readBelow? path above (methodRow indent name :: below) (frame :: opened) depth)
      (readBelow? path (above ++ [methodRow indent name]) below (frame :: opened) depth) := by
  have htells := method_tells path habove indent name.is_plain_word name.not_control
    name.not_constructor below frame.name
  have hentries : methodEntries (!·.leadsMembers) frame.name (above.length + 1) [name] =
      if name.word ∈ Language.memberModifiers then []
        else [⟨name.word, .method, some frame.name, above.length + 1, above.length + 1, []⟩] := by
    by_cases hleads : name.word ∈ Language.memberModifiers
    · simp [methodEntries, MethodName.leadsMembers, hleads]
    · simp [methodEntries, MethodName.leadsMembers, hleads]
  have hcontribution : contribution? (Source.ofRows path (above ++ methodRow indent name :: below))
      (methodRow indent name) (Text.byteLength (Text.ended above)) depth (frame :: opened).head? =
      classBodyLine? (Source.ofRows path (above ++ methodRow indent name :: below))
        (methodRow indent name) (Text.byteLength (Text.ended above)) frame.name := by
    rw [List.head?_cons, contribution?, hkind]
  have hopened : ∀ first, (frame :: opened).head? = some first → above.length < first.endLine := by
    intro first hfirst
    obtain rfl := Option.some.inj hfirst
    exact hend
  have hread := read_row (List.forall_mem_nil _) hopened hdepth (hcontribution ▸ htells)
  rw [depth_after_of_nested (nested_method_row indent name)] at hread
  rw [hentries]
  exact hread

/-- The methods of a class are read one after the other. -/
theorem read_methods (path : Path) (indent : Nat) (methods : List MethodName) (below : List Text)
    (habove : AreRows above) (hkind : frame.kind = .ofClass)
    (hend : above.length + methods.length < frame.endLine) (hdepth : depth = frame.bodyDepth) :
    Leads (methodEntries (!·.leadsMembers) frame.name (above.length + 1) methods)
      (readBelow? path above (methods.map (methodRow indent) ++ below) (frame :: opened) depth)
      (readBelow? path (above ++ methods.map (methodRow indent)) below (frame :: opened) depth) := by
  induction methods generalizing above with
  | nil =>
      rw [List.map_nil, List.append_nil]
      exact .refl _
  | cons first rest ih =>
      rw [List.length_cons] at hend
      have hfirst := read_method path opened indent first
        (rest.map (methodRow indent) ++ below) habove hkind (by omega) hdepth
      have hnext : AreRows (above ++ [methodRow indent first]) :=
        habove.append (method_rows indent [first])
      have hlength : (above ++ [methodRow indent first]).length = above.length + 1 := by
        rw [List.length_append, List.length_singleton]
      have hrest := ih hnext (by rw [hlength]; omega)
      rw [hlength, List.append_assoc] at hrest
      have hall := hfirst.trans hrest
      simpa only [methodEntries, List.append_nil, List.map_cons, List.cons_append,
        List.nil_append] using hall

/-- The methods of a class are read in it. -/
theorem read_class_body (path : Path) (indent : Nat) (name : Name) (methods : List MethodName)
    (below : List Text) :
    ReadsRows path [classOpening name] (methods.map (methodRow indent)) below
      [⟨name.word, .ofClass, 1, methods.length + 2⟩] 1
      [⟨name.word, .ofClass, 1, methods.length + 2⟩]
      (methodEntries (!·.leadsMembers) name.word 2 methods) := by
  have hopening : AreRows [classOpening name] := by
    refine List.forall_mem_singleton.mpr fun hfeed => ?_
    have hchar := class_row_chars indent 0 name methods _ List.mem_cons_self _ hfeed
    exact absurd hchar (by decide)
  have hframe : (Frame.mk name.word .ofClass 1 (methods.length + 2)).kind = .ofClass := rfl
  have hend : [classOpening name].length + methods.length <
      (Frame.mk name.word .ofClass 1 (methods.length + 2)).endLine := by
    rw [List.length_singleton]
    show 1 + methods.length < methods.length + 2
    omega
  exact ⟨[], List.forall_mem_nil _, read_methods path indent methods below hopening hframe hend rfl⟩

/-- A class is read as its entry and those of its methods. -/
theorem read_class (path : Path) (indent blanks : Nat) (name : Name) (methods : List MethodName) :
    Leads (⟨name.word, .classDef, none, 1, methods.length + 2, []⟩ ::
        methodEntries (!·.leadsMembers) name.word 2 methods)
      (readBelow? path [] (classRows indent blanks name methods) [] 0) (some []) := by
  have hlength : (methods.map (methodRow indent)).length = methods.length := List.length_map _
  have hframe : Frame.mk name.word .ofClass 1 (methods.length + 2) =
      ⟨name.word, .ofClass, 0 + 1,
        ([] : List Text).length + (methods.map (methodRow indent)).length + 2⟩ := by
    rw [hlength, List.length_nil, Nat.zero_add]
    rfl
  have hnone : AreRows ([] : List Text) := List.forall_mem_nil _
  have hstale : ∀ frame ∈ ([] : List Frame), frame.endLine ≤ ([] : List Text).length :=
    List.forall_mem_nil _
  have hstands : Stands .ofNamespace none 0 ([] : List Text).length [] := ⟨rfl, rfl, rfl⟩
  have hclass := read_block path 0 false .ofClass name (method_rows indent methods)
    (nested_methods indent methods) (List.replicate blanks []) hnone hstale hstands hframe
    (read_class_body path indent name methods _)
  have hblanks := read_blanks path
    ([] ++ classOpening name :: (methods.map (methodRow indent) ++ [closingRow 0])) blanks
    [⟨name.word, .ofClass, 1, methods.length + 2⟩] (by simp)
  have hall := hclass.trans hblanks
  rw [hlength, List.append_nil, List.length_nil, Nat.zero_add, Nat.zero_add] at hall
  exact hall

end Reading

section Reported

/-- Every method has its entry exactly if all are kept. -/
theorem method_entries_eq_iff (keep : MethodName → Bool) (container : String) (number : Nat)
    (methods : List MethodName) :
    methodEntries keep container number methods = methodEntries (fun _ => true) container number methods ↔
      ∀ name ∈ methods, keep name = true := by
  have hlength : ∀ (keep : MethodName → Bool) (number : Nat) (methods : List MethodName),
      (methodEntries keep container number methods).length = methods.countP keep := by
    intro keep number methods
    induction methods generalizing number with
    | nil => rfl
    | cons first rest ih =>
        rw [methodEntries, List.length_append, ih, List.countP_cons, Nat.add_comm]
        cases keep first <;> rfl
  constructor
  · intro heq name hname
    have hcount := congrArg List.length heq
    rw [hlength, hlength, List.countP_true] at hcount
    exact List.countP_eq_length.mp hcount name hname
  · intro hkeep
    induction methods generalizing number with
    | nil => rfl
    | cons first rest ih =>
        obtain ⟨hfirst, hrest⟩ := List.forall_mem_cons.mp hkeep
        rw [methodEntries, methodEntries, hfirst, ih _ hrest]

/-- The symbols of a class are its own and those of the methods that are kept. -/
theorem parse_class (path : Path) (indent blanks : Nat) (name : Name) (methods : List MethodName) :
    ∃ symbols, SymbolParser.ofLines.parse path (printClass indent blanks name methods) = .ok symbols ∧
      symbols.map Symbol.entry = ⟨name.word, .classDef, none, 1, methods.length + 2, []⟩ ::
        methodEntries (!·.leadsMembers) name.word 2 methods := by
  have hne : classRows indent blanks name methods ≠ [] := List.cons_ne_nil _ _
  obtain ⟨symbols, hscan, hentries⟩ := scan_rows path hne
    (class_row_chars indent blanks name methods) (read_class path indent blanks name methods)
  exact ⟨symbols, by simp [SymbolParser.ofLines, printClass, hscan], hentries⟩

/-- A class with one method a line is read as the class and then those of its methods, in their order
and on their lines, whose names are no words that may lead a member. So all of them are reported
exactly if no name is such a word. -/
theorem methods_reported_iff (path : Path) (indent blanks : Nat) (name : Name)
    (methods : List MethodName) :
    ∃ symbols, SymbolParser.ofLines.parse path (printClass indent blanks name methods) = .ok symbols ∧
      symbols.map Symbol.entry = ⟨name.word, .classDef, none, 1, methods.length + 2, []⟩ ::
        methodEntries (!·.leadsMembers) name.word 2 methods ∧
      (symbols.map Symbol.entry = ⟨name.word, .classDef, none, 1, methods.length + 2, []⟩ ::
          methodEntries (fun _ => true) name.word 2 methods ↔
        ∀ method ∈ methods, method.word ∉ Language.memberModifiers) := by
  obtain ⟨symbols, hparse, hentries⟩ := parse_class path indent blanks name methods
  refine ⟨symbols, hparse, hentries, ?_⟩
  rw [hentries, List.cons_inj_right, method_entries_eq_iff]
  simp [MethodName.leadsMembers]

/-- A method `get` of a class is not reported, while a method `run` beside it is. -/
theorem method_named_get_unreported :
    ∃ symbols, SymbolParser.ofLines.parse ⟨"a.ts"⟩ (printClass 0 1 { text := ['C'] }
        [{ text := ['r', 'u', 'n'] }, { text := ['g', 'e', 't'] }]) = .ok symbols ∧
      symbols.map Symbol.entry = [⟨"C", .classDef, none, 1, 4, []⟩,
        ⟨"run", .method, some "C", 2, 2, []⟩] := by
  obtain ⟨symbols, hparse, hentries⟩ := parse_class ⟨"a.ts"⟩ 0 1 { text := ['C'] }
    [{ text := ['r', 'u', 'n'] }, { text := ['g', 'e', 't'] }]
  exact ⟨symbols, hparse, hentries.trans (by decide)⟩

example : printClass 0 1 { text := ['C'] } [{ text := ['r', 'u', 'n'] }, { text := ['g', 'e', 't'] }] =
    "class C \x7b\nrun() \x7b\x7d\nget() \x7b\x7d\n\x7d\n".toList := by
  decide

end Reported

end CodeAtlas.Declaration
