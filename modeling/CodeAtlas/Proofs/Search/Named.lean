import CodeAtlas.Proofs.Pattern.Ahead
import CodeAtlas.Proofs.Search.Budget

/-!
# Searching an identifier by its name

Of the characters of an identifier only the dollar sign has a meaning in a pattern: it stands for the
end of the text. So a name with a dollar sign is read as a pattern (`parse_identifier`), and that
pattern matches the name just if there is nothing else in it (`matches_name_iff`). All other names are
looked for as parts of names. `identifier_found_iff` puts this together: read `ReadsAsItself` first,
which says of which names a search finds the symbols.
-/

namespace CodeAtlas

namespace Text

variable {name : Text}

/-- An identifier is made of identifier characters, and there is one. -/
theorem is_word_of_is_identifier (h : isIdentifier name = true) : IsWord name := by
  cases name with
  | nil => cases h
  | cons c rest =>
      obtain ⟨hstart, hrest⟩ := Bool.and_eq_true_iff.mp h
      refine ⟨List.cons_ne_nil c rest, List.forall_mem_cons.mpr ⟨?_, List.all_eq_true.mp hrest⟩⟩
      simp only [isIdentStart, isIdentChar, isAlphanumeric, Bool.or_eq_true] at hstart ⊢
      tauto

end Text

namespace Pattern

variable {flags : Flags} {name rest : Text} {c : Char}

/-- What a character of an identifier is read as. -/
def ofIdentChar (flags : Flags) (c : Char) : Pattern :=
  if c = '$' then .textEnd else .char (cased flags (.one c))

/-- No repetition is written before the end or before an identifier character. -/
theorem repeated_none {fuel : Nat} (item : Pattern) (h : ∀ c ∈ rest, Text.isIdentChar c = true) :
    repeated? flags (fuel + 1) item rest = some (item, rest) := by
  have hno : ∀ d, Text.isIdentChar d = false → ∀ later, rest = d :: later → False := by
    rintro d hd later rfl
    rw [h d List.mem_cons_self] at hd
    cases hd
  rw [repeated?] <;> exact hno _ (by decide)

/-- A character of an identifier is read as one item. -/
theorem branch_ident_char (hmulti : flags.multiLine = false) (hverbose : flags.verbose = false)
    (hc : Text.isIdentChar c = true) (hrest : ∀ c ∈ rest, Text.isIdentChar c = true) (fuel : Nat)
    (seen : List Pattern) :
    branch? (fuel + 2) flags seen (c :: rest) =
      branch? (fuel + 1) flags (ofIdentChar flags c :: seen) rest := by
  have hne : ∀ d, Text.isIdentChar d = false → c ≠ d := by
    rintro d hd rfl
    rw [hc] at hd
    cases hd
  by_cases hdollar : c = '$'
  · subst hdollar
    rw [branch?, hmulti]
    simp only [Bool.false_eq_true, if_false]
    rw [repeated_none _ hrest]
    rfl
  · rw [branch?]
    · simp only [hverbose, Bool.false_and, Bool.false_eq_true, if_false]
      rw [repeated_none _ hrest, ofIdentChar, if_neg hdollar]
    -- No other character that has a meaning is an identifier character.
    all_goals first
      | exact hdollar
      | exact hne _ (by decide)
      | exact fun _ hparen => absurd hparen (hne _ (by decide))

/-- An identifier is read character by character. -/
theorem branch_identifier (hmulti : flags.multiLine = false) (hverbose : flags.verbose = false)
    (hname : ∀ c ∈ name, Text.isIdentChar c = true) (fuel : Nat) (seen : List Pattern) :
    branch? (fuel + name.length + 1) flags seen name =
      some (.sequence (seen.reverse ++ name.map (ofIdentChar flags)), flags, []) := by
  induction name generalizing seen with
  | nil => rw [branch?, List.map_nil, List.append_nil]
  | cons c rest ih =>
      obtain ⟨hc, hrest⟩ := List.forall_mem_cons.mp hname
      rw [List.length_cons, ← Nat.add_assoc, branch_ident_char hmulti hverbose hc hrest, ih hrest,
        List.reverse_cons, List.append_assoc]
      rfl

/-- An identifier between nothing else is a pattern that has one item for each of its characters. -/
theorem parse_identifier (hname : ∀ c ∈ name, Text.isIdentChar c = true) (ignoreCase : Bool) :
    parse? ignoreCase name = some (.sequence (name.map (ofIdentChar { ignoreCase }))) := by
  have hbranch : branch? (name.length + 2 + name.length + 1) { ignoreCase } [] name =
      some (.sequence ([] ++ name.map (ofIdentChar { ignoreCase })), { ignoreCase }, []) :=
    branch_identifier rfl rfl hname (name.length + 2) []
  have hfuel : 2 * name.length + 4 = name.length + 2 + name.length + 1 + 1 := by omega
  rw [parse?, hfuel, alternatives?, hbranch]
  rfl

section Match

variable {α : Type} {before : Option Char} {offset : Nat} {groups : Groups} {next : Continuation α}

/-- A first pattern and then others are matched one after another. -/
theorem run_sequence_cons (first : Pattern) (others : List Pattern) (cursor : Text.Cursor)
    (groups : Groups) (next : Continuation α) :
    run (.sequence (first :: others)) cursor groups next =
      run first cursor groups fun cursor groups => run (.sequence others) cursor groups next := by
  cases others with
  | nil => rfl
  | cons second others => rfl

/-- What the items of a name can be matched with: nothing follows a dollar sign, and every other
character is read. -/
def Follows (flags : Flags) : (name rest : Text) → Prop
  | [], _ => True
  | c :: name, rest =>
    if c = '$' then rest = [] ∧ Follows flags name rest
    else ∃ d tail, rest = d :: tail ∧ (cased flags (.one c)).contains d = true ∧
      Follows flags name tail

/-- The items of a name match nothing else. -/
theorem follows_of_run (h : run (.sequence (name.map (ofIdentChar flags))) ⟨before, offset, rest⟩ groups
      next ≠ none) : Follows flags name rest := by
  induction name generalizing before offset rest groups with
  | nil => trivial
  | cons c name ih =>
      rw [List.map_cons, run_sequence_cons, ofIdentChar] at h
      rw [Follows]
      split at h
      · next hdollar =>
          rw [if_pos hdollar]
          rw [run, assert] at h
          split at h
          · next hend => exact ⟨List.isEmpty_iff.mp hend, ih h⟩
          · exact absurd rfl h
      · next hdollar =>
          rw [if_neg hdollar]
          rw [run] at h
          dsimp only at h
          split at h
          · exact absurd rfl h
          · next d tail =>
              split at h
              · next hd => exact ⟨d, tail, rfl, hd, ih h⟩
              · exact absurd rfl h

/-- At the end there is nothing but dollar signs to match. -/
theorem Follows.all_dollar (h : Follows flags name []) : ∀ c ∈ name, c = '$' := by
  induction name with
  | nil => nofun
  | cons c name ih =>
      rw [Follows] at h
      split at h
      · next hdollar => exact List.forall_mem_cons.mpr ⟨hdollar, ih h.2⟩
      · obtain ⟨d, tail, heq, -⟩ := h
        cases heq

/-- A name with a dollar sign ends with one if its items match something. -/
theorem Follows.last_dollar (h : Follows flags name rest) (hdollar : '$' ∈ name) :
    name.getLast? = some '$' := by
  induction name generalizing rest with
  | nil => cases hdollar
  | cons c name ih =>
      rw [Follows] at h
      split at h
      · next hc =>
          obtain ⟨rfl, hname⟩ := h
          have hall : ∀ d ∈ c :: name, d = '$' := List.forall_mem_cons.mpr ⟨hc, hname.all_dollar⟩
          rw [List.getLast?_eq_some_getLast (List.cons_ne_nil c name),
            hall _ (List.getLast_mem (List.cons_ne_nil c name))]
      · next hc =>
          obtain ⟨d, tail, -, -, hname⟩ := h
          have hmem := (List.mem_cons.mp hdollar).resolve_left (Ne.symm hc)
          rw [List.getLast?_cons, ih hname hmem]
          rfl

/-- Only the dollar sign itself is the dollar sign or differs from it in case. -/
theorem eq_of_cased_dollar (h : (cased flags (.one c)).contains '$' = true) : c = '$' := by
  have hfold : Text.foldOrbit '$' = ['$'] := by decide +kernel
  rw [cased] at h
  split at h
  · simpa [CharSet.contains, hfold, eq_comm] using h
  · simpa [CharSet.contains, eq_comm] using h

/-- The items of a name with a dollar sign match nothing that ends with one. -/
theorem Follows.last_ne (h : Follows flags name rest) (hdollar : '$' ∈ name) :
    rest.getLast? ≠ some '$' := by
  induction name generalizing rest with
  | nil => cases hdollar
  | cons c name ih =>
      rw [Follows] at h
      split at h
      · rw [h.1]
        nofun
      · next hc =>
          obtain ⟨d, tail, rfl, hd, hname⟩ := h
          have hmem := (List.mem_cons.mp hdollar).resolve_left (Ne.symm hc)
          intro hlast
          rw [List.getLast?_cons] at hlast
          cases htail : tail.getLast? with
          | none =>
              rw [htail] at hlast
              obtain rfl : d = '$' := Option.some.inj hlast
              exact hc (eq_of_cased_dollar hd)
          | some e =>
              rw [htail] at hlast
              exact ih hname hmem (htail.trans hlast)

/-- A search that finds a match has found it somewhere. -/
theorem exists_match_of_search_from {pattern : Pattern}
    (h : searchFrom? pattern before offset rest ≠ none) :
    ∃ front back before offset, rest = front ++ back ∧
      matchAt? pattern ⟨before, offset, back⟩ ≠ none := by
  induction rest generalizing before offset with
  | nil =>
      refine ⟨[], [], before, offset, rfl, fun hnone => h ?_⟩
      rw [searchFrom?, hnone]
  | cons c rest ih =>
      cases hhere : matchAt? pattern ⟨before, offset, c :: rest⟩ with
      | some found => exact ⟨[], c :: rest, before, offset, rfl, by rw [hhere]; exact Option.some_ne_none found⟩
      | none =>
          rw [searchFrom?, hhere] at h
          obtain ⟨front, back, before, offset, rfl, hmatch⟩ := ih h
          exact ⟨c :: front, back, before, offset, rfl, hmatch⟩

/-- Dollar signs match at the end. -/
theorem run_dollars (hname : ∀ c ∈ name, c = '$') :
    run (.sequence (name.map (ofIdentChar flags))) ⟨before, offset, []⟩ groups next =
      next ⟨before, offset, []⟩ groups := by
  induction name with
  | nil => rfl
  | cons c name ih =>
      obtain ⟨hc, hname⟩ := List.forall_mem_cons.mp hname
      rw [List.map_cons, run_sequence_cons, ofIdentChar, if_pos hc]
      exact ih hname

/-- A name with a dollar sign matches itself just if it is made of dollar signs. -/
theorem matches_name_iff (hdollar : '$' ∈ name) :
    (sequence (name.map (ofIdentChar flags))).matchesIn name = true ↔ ∀ c ∈ name, c = '$' := by
  rw [matchesIn, search?, Option.isSome_map, Option.isSome_iff_ne_none]
  constructor
  · intro h
    obtain ⟨front, back, before, offset, hname, hmatch⟩ := exists_match_of_search_from h
    have hfollows := follows_of_run hmatch
    cases back with
    | nil => exact hfollows.all_dollar
    | cons c back =>
        -- The last item reads the end of the name, which is the dollar sign that it stands behind.
        refine absurd ?_ (hfollows.last_ne hdollar)
        rw [← hfollows.last_dollar hdollar, hname, List.getLast?_append_of_ne_nil front (by simp)]
  · intro hall
    rw [← List.append_nil name]
    refine search_from_ne_none ?_
    rw [matchAt?, List.append_nil, run_dollars hall]
    exact Option.some_ne_none _

end Match

end Pattern

/-- A name that is looked for as it stands: it has no dollar sign, or nothing else. -/
def ReadsAsItself (name : Text) : Prop :=
  '$' ∉ name ∨ ∀ c ∈ name, c = '$'

namespace NameMatcher

variable {name : Text}

/-- No identifier character but the dollar sign has a meaning in a pattern. -/
theorem pattern_char_iff (hname : ∀ c ∈ name, Text.isIdentChar c = true) :
    name.any (patternChars.elem ·) = true ↔ '$' ∈ name := by
  have honly : ∀ c ∈ patternChars, Text.isIdentChar c = true → c = '$' := by decide
  rw [List.any_eq_true]
  constructor
  · rintro ⟨c, hc, hpattern⟩
    exact honly c (List.elem_iff.mp hpattern) (hname c hc) ▸ hc
  · exact fun hdollar => ⟨'$', hdollar, rfl⟩

/-- A text contains itself. -/
theorem contains_self (text : Text) : Text.contains text text = true := by
  have hstarts : Text.startsWith text text = true := Text.starts_with_iff.mpr List.take_length
  rw [Text.contains.eq_def, hstarts, Bool.true_or]

/-- An identifier can be looked for, and it is found in itself just if it is looked for as it stands.
-/
theorem exists_of_identifier (hword : Text.IsWord name) (caseSensitive : Bool) :
    ∃ matcher, ofQuery? name caseSensitive = some matcher ∧
      (matcher.accepts name = true ↔ ReadsAsItself name) := by
  have hdelimited : delimited? name = none := by
    unfold delimited?
    split
    · exact absurd (hword.ident '/' List.mem_cons_self) (by decide)
    · rfl
  have hpattern := pattern_char_iff hword.ident
  rw [ofQuery?, hdelimited]
  by_cases hdollar : '$' ∈ name
  · refine ⟨.pattern (.sequence (name.map (Pattern.ofIdentChar { ignoreCase := !caseSensitive }))),
      ?_, ?_⟩
    · simp only [hpattern.mpr hdollar, if_true, Pattern.parse_identifier hword.ident]
    · exact (Pattern.matches_name_iff hdollar).trans (or_iff_right (not_not.mpr hdollar)).symm
  · refine ⟨ofPart name caseSensitive, ?_, iff_of_true ?_ (Or.inl hdollar)⟩
    · simp only [mt hpattern.mp hdollar, Bool.false_eq_true, if_false]
    · cases caseSensitive
      · exact contains_self (Text.lowercase name)
      · exact contains_self name

end NameMatcher

namespace Search

section Eval

variable {oracle : (question : Question) → Except Failure question.Answer} {α β : Type}
  {workspace : Workspace} {query : SearchQuery} {matcher : NameMatcher} {files : List Path}

/-- An inquiry comes to an end with a value, whatever the answers to its questions are. -/
def Ends (oracle : (question : Question) → Except Failure question.Answer)
    (inquiry : Inquiry α) : Prop :=
  ∃ value, inquiry.eval oracle = .ok value

/-- What goes on from one inquiry that ends to another ends. -/
theorem Ends.bind {inquiry : Inquiry α} {next : α → Inquiry β} (h : Ends oracle inquiry)
    (hnext : ∀ value, Ends oracle (next value)) : Ends oracle (inquiry >>= next) := by
  obtain ⟨value, hvalue⟩ := h
  obtain ⟨result, hresult⟩ := hnext value
  exact ⟨result, by rw [Inquiry.eval_bind, hvalue]; exact hresult⟩

/-- A value is the end. -/
theorem ends_pure (value : α) : Ends oracle (pure value) :=
  ⟨value, rfl⟩

/-- A question whose failure is looked at does not fail. -/
theorem ends_attempt (question : Question) : Ends oracle (Inquiry.attempt question) :=
  ⟨_, rfl⟩

/-- Asking for a context ends. -/
theorem ends_consult (path : Path) (line size : Nat) :
    Ends oracle (Context.consult workspace path line size) := by
  rw [Context.consult]
  split
  · exact ends_pure _
  · refine (ends_attempt (.content path)).bind fun answer => ?_
    split
    · exact ends_pure _
    · dsimp only
      split
      · exact ends_pure _
      · exact (ends_attempt (.symbols path)).bind fun _ => ends_pure _

/-- Asking for the contexts of symbols ends. -/
theorem ends_contexts_of (size : Nat) (symbols : List Symbol) :
    Ends oracle (contextsOf workspace size symbols) := by
  induction symbols with
  | nil => exact ends_pure _
  | cons symbol rest ih =>
      refine (ends_consult symbol.location.path symbol.location.startLine size).bind fun answer => ?_
      split
      · exact ih.bind fun _ => ends_pure _
      · exact ih

/-- Asking for references ends if there is time or nothing to read. -/
theorem ends_asked_references (hfiles : workspace.eligible query.scope = .ok files)
    (htime : files = [] ∨ (deadlineOf workspace query).check = .ok ()) (symbols : List Symbol) :
    Ends workspace.answer (askedReferences workspace query symbols) := by
  have hcollect : ∀ symbol room, (Reference.collect workspace symbol query.scope room
      (deadlineOf workspace query)).eval workspace.answer =
        .ok ((unlimitedReferences workspace files symbol).take room) :=
    fun _ room => Reference.eval_collect_files hfiles htime room
  unfold askedReferences
  split
  · exact ⟨_, eval_references_to hcollect (budget workspace query) symbols⟩
  · exact ends_pure _

/-- Where the items of all files fit, no file is left out. -/
theorem filling_eq_self {items : Path → List Symbol} {room : Nat}
    (h : (files.flatMap items).length ≤ room) : filling items room files = files :=
  have hfills := filling_fills items room files
  hfills.begins.eq_of_length_le (hfills.longest files List.prefix_rfl h).length_le

/-- A search that does not run out of time gives all wanted symbols of the selected files, if they fit
into the budget. -/
theorem eval_find_matching (hfiles : workspace.eligible query.scope = .ok files)
    (hfits : (files.flatMap (wantedIn workspace.answer (isWanted query matcher))).length ≤
      budget workspace query)
    (htime : (findMatching workspace query matcher).eval workspace.answer ≠
      .error (.timeout .search)) :
    ∃ result, (findMatching workspace query matcher).eval workspace.answer = .ok result ∧
      result.symbols = files.flatMap (wantedIn workspace.answer (isWanted query matcher)) := by
  have hread := nothing_or_time hfiles htime
  have hsymbols : (symbolsIn (deadlineOf workspace query) (isWanted query matcher)
      (budget workspace query) files).eval workspace.answer =
        .ok (files.flatMap (wantedIn workspace.answer (isWanted query matcher))) := by
    rcases hread with rfl | hcheck
    · rfl
    · rw [eval_symbols_in hcheck, filling_eq_self hfits]
  have hends : Ends workspace.answer (contextsOf workspace (contextSize workspace query)
      (files.flatMap (wantedIn workspace.answer (isWanted query matcher)))) := ends_contexts_of _ _
  obtain ⟨contexts, hcontexts⟩ := hends
  obtain ⟨references, hreferences⟩ := ends_asked_references hfiles hread
    (files.flatMap (wantedIn workspace.answer (isWanted query matcher)))
  refine ⟨{ symbols := _, references, contexts }, ?_, rfl⟩
  rw [findMatching, Inquiry.eval_bind, Inquiry.eval_of_except, hfiles]
  refine (Inquiry.eval_bind workspace.answer (symbolsIn _ _ _ files) _).trans ?_
  rw [hsymbols]
  refine (Inquiry.eval_bind workspace.answer (contextsOf workspace _ _) _).trans ?_
  rw [hcontexts]
  refine (Inquiry.eval_bind workspace.answer (askedReferences workspace query _) _).trans ?_
  rw [hreferences]
  rfl

/-- A symbol of a file that is read is wanted just if its name is accepted. -/
theorem mem_wanted_iff {file : Path} (hfile : file ∈ files) {symbols : List Symbol}
    (hread : oracle (.symbols file) = .ok symbols) {symbol : Symbol} (hsymbol : symbol ∈ symbols)
    (hkind : query.kind.all (symbol.kind = ·) = true) :
    symbol ∈ files.flatMap (wantedIn oracle (isWanted query matcher)) ↔
      matcher.accepts symbol.name.toList = true := by
  constructor
  · intro h
    obtain ⟨other, -, hother⟩ := List.mem_flatMap.mp h
    unfold wantedIn at hother
    split at hother
    · exact (Bool.and_eq_true_iff.mp (List.mem_filter.mp hother).2).2
    · cases hother
  · intro haccepts
    refine List.mem_flatMap.mpr ⟨file, hfile, ?_⟩
    rw [wantedIn, hread]
    exact List.mem_filter.mpr ⟨hsymbol, by rw [isWanted, hkind, haccepts]; rfl⟩

end Eval

/-- Every identifier can be searched for, in either case mode. It matches its own name just if it is
looked for as it stands: if it has no dollar sign, or nothing else. For these names, and no others, a
search whose budget has room for all matches and that does not run out of time gives each symbol of
the selected files that has exactly this name and the kind that is asked for. -/
theorem identifier_found_iff (name : String) (caseSensitive : Bool)
    (hname : Text.isIdentifier name.toList = true) :
    ∃ matcher, NameMatcher.ofQuery? name.toList caseSensitive = some matcher ∧
      (matcher.accepts name.toList = true ↔ ReadsAsItself name.toList) ∧
      ∀ (workspace : Workspace) (query : SearchQuery) (files : List Path) (file : Path)
        (symbols : List Symbol) (symbol : Symbol),
        query.name = name → query.caseSensitive = caseSensitive →
        workspace.eligible query.scope = .ok files → file ∈ files →
        workspace.answer (.symbols file) = .ok symbols → symbol ∈ symbols → symbol.name = name →
        query.kind.all (symbol.kind = ·) = true → 0 < budget workspace query →
        (files.flatMap (wantedIn workspace.answer (isWanted query matcher))).length ≤
          budget workspace query →
        (find workspace query).eval workspace.answer ≠ .error (.timeout .search) →
        ∃ result, (find workspace query).eval workspace.answer = .ok result ∧
          (symbol ∈ result.symbols ↔ ReadsAsItself name.toList) := by
  have hword := Text.is_word_of_is_identifier hname
  obtain ⟨matcher, hmatcher, haccepts⟩ := NameMatcher.exists_of_identifier hword caseSensitive
  refine ⟨matcher, hmatcher, haccepts, ?_⟩
  rintro workspace query files file symbols symbol rfl rfl hfiles hfile hread hsymbol hsame hkind
    hmax hfits htime
  have hfind : find workspace query = findMatching workspace query matcher := by
    rw [find, Text.trim_word hword, if_neg (by simpa using hword.ne_nil), if_neg (by omega)]
    simp only [hmatcher]
  rw [hfind] at htime ⊢
  obtain ⟨result, heval, hresult⟩ := eval_find_matching hfiles hfits htime
  refine ⟨result, heval, ?_⟩
  rw [hresult, mem_wanted_iff hfile hread hsymbol hkind, hsame]
  exact haccepts

/-- A file with two variables whose names have a dollar sign. -/
def dollarFiles : Workspace where
  root := ⟨"/ws"⟩
  storage := MemoryFiles.storage
    ⟨[(⟨"/ws/a.ts"⟩, some "const $ = 1;\nconst a$ = 2;\n".toList)]⟩ false
  parser := some SymbolParser.ofLines

/-- A search for a name as it is written. -/
def exactQuery (name : String) : SearchQuery where
  name := name
  caseSensitive := true

/-- The names that the file declares. -/
theorem dollar_names :
    (dollarFiles.answer (.symbols ⟨"/ws/a.ts"⟩)).map (·.map (·.name)) = .ok ["$", "a$"] := by
  decide +kernel

/-- The variable whose name is the dollar sign alone is found. -/
theorem dollar_name_found :
    ∃ result, (find dollarFiles (exactQuery "$")).eval dollarFiles.answer = .ok result ∧
      ∃ symbol ∈ result.symbols, symbol.name = "$" := by
  have htime : ((find dollarFiles (exactQuery "$")).eval dollarFiles.answer).isOk = true := by
    decide +kernel
  have hnames := dollar_names
  cases hread : dollarFiles.answer (.symbols ⟨"/ws/a.ts"⟩) with
  | error failure =>
      rw [hread] at hnames
      cases hnames
  | ok symbols =>
      rw [hread] at hnames
      have hlist : symbols.map (·.name) = ["$", "a$"] := Except.ok.inj hnames
      obtain ⟨symbol, hsymbol, hname⟩ : ∃ symbol ∈ symbols, symbol.name = "$" :=
        List.mem_map.mp (hlist ▸ List.mem_cons_self)
      obtain ⟨matcher, -, -, hfound⟩ := identifier_found_iff "$" true (by decide)
      have hfits : ([⟨"/ws/a.ts"⟩].flatMap (wantedIn dollarFiles.answer
          (isWanted (exactQuery "$") matcher))).length ≤ 2 := by
        have hlength : symbols.length = 2 := by simpa using congrArg List.length hlist
        rw [List.flatMap_singleton, wantedIn, hread]
        exact (List.length_filter_le _ _).trans hlength.le
      obtain ⟨result, heval, hiff⟩ := hfound dollarFiles (exactQuery "$") [⟨"/ws/a.ts"⟩] ⟨"/ws/a.ts"⟩
        symbols symbol rfl rfl rfl List.mem_cons_self hread hsymbol hname rfl (by decide)
        (hfits.trans (by decide)) fun htimeout => by rw [htimeout] at htime; cases htime
      exact ⟨result, heval, symbol, hiff.mpr (Or.inr (by decide)), hname⟩

/-- The variable whose name has a dollar sign and a letter is declared, but not found: the pattern that
its name is read as does not match it. -/
theorem mixed_name_missed :
    Text.isIdentifier "a$".toList = true ∧
      (∃ matcher, NameMatcher.ofQuery? "a$".toList true = some matcher ∧
        matcher.accepts "a$".toList = false) ∧
      (dollarFiles.answer (.symbols ⟨"/ws/a.ts"⟩)).map (·.map (·.name)) = .ok ["$", "a$"] ∧
      ((find dollarFiles (exactQuery "a$")).eval dollarFiles.answer).map (·.symbols) = .ok [] := by
  have hmatcher : (NameMatcher.ofQuery? "a$".toList true).map (·.accepts "a$".toList) = some false := by
    decide +kernel
  refine ⟨by decide, Option.map_eq_some_iff.mp hmatcher, dollar_names, by decide +kernel⟩

end Search

end CodeAtlas
