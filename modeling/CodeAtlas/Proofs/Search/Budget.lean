import CodeAtlas.Proofs.Inquiry.Cache
import CodeAtlas.Proofs.Query.Reference
import CodeAtlas.Proofs.Scanner.Declaration
import CodeAtlas.Proofs.Symbol.Located
import CodeAtlas.Search.Basic
import Mathlib.Data.List.Infix

/-!
# The budget of a search

Read `Fills` first: the files that a search gets to are the longest row of files, from the first one
on, whose wanted symbols fit into the budget. `find_within_budget` says what a search gives: the
wanted symbols of these files, a context for each of them, and the first references to them. All of
it is a front of what a larger budget gives.
-/

namespace CodeAtlas.Search

section Files

variable {items : Path → List Symbol} {room : Nat} {files front : List Path}

/-- The longest row of files, from the first one on, whose items fit into a room. -/
structure Fills (items : Path → List Symbol) (room : Nat) (files front : List Path) : Prop where
  begins : front <+: files
  fits : (front.flatMap items).length ≤ room
  longest : ∀ other, other <+: files → (other.flatMap items).length ≤ room → other <+: front

/-- The files to be taken one after another as long as their items fit into the room that is left.
-/
def filling (items : Path → List Symbol) : (room : Nat) → List Path → List Path
  | _, [] => []
  | room, file :: rest =>
    if room < (items file).length then []
    else file :: filling items (room - (items file).length) rest

/-- Files taken one after another are the longest row that fits. -/
theorem filling_fills (items : Path → List Symbol) (room : Nat) (files : List Path) :
    Fills items room files (filling items room files) := by
  induction files generalizing room with
  | nil => exact ⟨List.prefix_rfl, Nat.zero_le _, fun other hother _ => hother⟩
  | cons file rest ih =>
      rw [filling]
      split
      · next hfull =>
          refine ⟨List.nil_prefix, Nat.zero_le _, fun other hother hfits => ?_⟩
          cases other with
          | nil => exact List.prefix_rfl
          | cons first later =>
              obtain ⟨rfl, -⟩ := List.cons_prefix_cons.mp hother
              rw [List.flatMap_cons, List.length_append] at hfits
              omega
      · next hroom =>
          obtain ⟨hbegins, hfits, hlongest⟩ := ih (room - (items file).length)
          refine ⟨List.cons_prefix_cons.mpr ⟨rfl, hbegins⟩, ?_, fun other hother hother' => ?_⟩
          · rw [List.flatMap_cons, List.length_append]
            omega
          · cases other with
            | nil => exact List.nil_prefix
            | cons first later =>
                obtain ⟨rfl, hlater⟩ := List.cons_prefix_cons.mp hother
                rw [List.flatMap_cons, List.length_append] at hother'
                exact List.cons_prefix_cons.mpr ⟨rfl, hlongest later hlater (by omega)⟩

/-- In a smaller room there is a front of what fits into a larger one. -/
theorem Fills.front_of_le {smaller : Nat} {front' : List Path} (h : Fills items room files front)
    (h' : Fills items smaller files front') (hle : smaller ≤ room) : front' <+: front :=
  h.longest front' h'.begins (h'.fits.trans hle)

/-- A front of files has a front of their items. -/
theorem flat_map_front {α β : Type} {few many : List α} (h : few <+: many) (f : α → List β) :
    few.flatMap f <+: many.flatMap f := by
  obtain ⟨rest, rfl⟩ := h
  exact ⟨rest.flatMap f, List.flatMap_append.symm⟩

end Files

section Eval

variable {oracle : (question : Question) → Except Failure question.Answer} {deadline : Deadline}

/-- The wanted symbols of a file. A file whose symbols cannot be read has none. -/
def wantedIn (oracle : (question : Question) → Except Failure question.Answer)
    (wanted : Symbol → Bool) (file : Path) : List Symbol :=
  match oracle (.symbols file) with
  | .ok symbols => symbols.filter wanted
  | .error _ => []

/-- Where there is time, the wanted symbols are those of the files whose symbols fit. -/
theorem eval_symbols_in (hcheck : deadline.check = .ok ()) (wanted : Symbol → Bool) (room : Nat)
    (files : List Path) :
    (symbolsIn deadline wanted room files).eval oracle =
      .ok ((filling (wantedIn oracle wanted) room files).flatMap (wantedIn oracle wanted)) := by
  induction files generalizing room with
  | nil => rfl
  | cons file rest ih =>
      rw [symbolsIn, Inquiry.eval_bind, Inquiry.eval_check, hcheck, filling]
      refine (Inquiry.eval_bind oracle (Inquiry.attempt (.symbols file)) _).trans ?_
      rw [Inquiry.eval_attempt]
      cases hsymbols : oracle (.symbols file) with
      | error failure =>
          have hnone : wantedIn oracle wanted file = [] := by simp only [wantedIn, hsymbols]
          rw [hnone, List.length_nil, if_neg (Nat.not_lt_zero room), List.flatMap_cons, hnone]
          exact ih room
      | ok symbols =>
          have hfound : symbols.filter wanted = wantedIn oracle wanted file := by
            simp only [wantedIn, hsymbols]
          change Inquiry.eval oracle (if room < (symbols.filter wanted).length then _ else _) = _
          rw [hfound]
          split
          · rfl
          · next hroom =>
              rw [List.flatMap_cons]
              split
              · next hexact =>
                  -- The budget is used up: whatever files follow, no symbol of theirs fits.
                  have hzero : room - (wantedIn oracle wanted file).length = 0 := by omega
                  have hfits := (filling_fills (wantedIn oracle wanted) 0 rest).fits
                  have hnone := List.length_eq_zero_iff.mp (Nat.le_zero.mp hfits)
                  rw [hzero, hnone, List.append_nil]
                  rfl
              · refine (Inquiry.eval_bind oracle (symbolsIn deadline wanted _ rest) _).trans ?_
                rw [ih]
                rfl

/-- The context of a symbol, if there is one. -/
def contextOf (oracle : (question : Question) → Except Failure question.Answer)
    (workspace : Workspace) (size : Nat) (symbol : Symbol) : Option Context :=
  match (Context.consult workspace symbol.location.path symbol.location.startLine size).eval oracle
    with
  | .ok (.ok found) => found
  | _ => none

/-- A symbol has a context that is focused on its first line. -/
def HasContext (oracle : (question : Question) → Except Failure question.Answer)
    (workspace : Workspace) (size : Nat) (symbol : Symbol) (context : Context) : Prop :=
  (Context.consult workspace symbol.location.path symbol.location.startLine size).eval oracle =
      .ok (.ok (some context)) ∧
    context.focusLine = symbol.location.startLine

variable {workspace : Workspace} {size : Nat} {symbols : List Symbol}

/-- Where every symbol has a context, there is one for each of them. -/
theorem eval_contexts_of (h : ∀ symbol ∈ symbols, ∃ context,
      HasContext oracle workspace size symbol context) :
    (contextsOf workspace size symbols).eval oracle =
        .ok (symbols.filterMap (contextOf oracle workspace size)) ∧
      List.Forall₂ (HasContext oracle workspace size) symbols
        (symbols.filterMap (contextOf oracle workspace size)) := by
  induction symbols with
  | nil => exact ⟨rfl, List.Forall₂.nil⟩
  | cons symbol rest ih =>
      obtain ⟨⟨context, hcontext⟩, hrest⟩ := List.forall_mem_cons.mp h
      obtain ⟨heval, hall⟩ := ih hrest
      have hsome : contextOf oracle workspace size symbol = some context := by
        rw [contextOf, hcontext.1]
      rw [List.filterMap_cons_some hsome]
      refine ⟨?_, List.Forall₂.cons hcontext hall⟩
      rw [contextsOf, Inquiry.eval_bind, hcontext.1]
      refine (Inquiry.eval_bind oracle (contextsOf workspace size rest) _).trans ?_
      rw [heval]
      rfl

/-- A line of a file that can be read has a context. -/
theorem exists_context {symbol : Symbol} {content : Text}
    (hcontent : oracle (.content symbol.location.path) = .ok content)
    (hline : Declaration.StartsIn content symbol) :
    ∃ context, HasContext oracle workspace size symbol context := by
  obtain ⟨hpos, hle⟩ := hline
  have hlong : ¬(Text.lines content).length < symbol.location.startLine := by omega
  have heval : (Context.consult workspace symbol.location.path symbol.location.startLine
      size).eval oracle = .ok (.ok (Context.window? (workspace.relative symbol.location.path)
        (Text.lines content) symbol.location.startLine size
        ((oracle (.symbols symbol.location.path)).toOption.bind
          (Context.enclosing? · symbol.location.startLine)))) := by
    rw [Context.consult, if_neg (by omega)]
    refine (Inquiry.eval_bind oracle (Inquiry.attempt (.content symbol.location.path)) _).trans ?_
    rw [Inquiry.eval_attempt, hcontent]
    change Inquiry.eval oracle (if (Text.lines content).length < symbol.location.startLine
      then _ else _) = _
    rw [if_neg hlong]
    refine (Inquiry.eval_bind oracle (Inquiry.attempt (.symbols symbol.location.path)) _).trans ?_
    rw [Inquiry.eval_attempt]
    cases oracle (.symbols symbol.location.path) <;> rfl
  rw [Context.window?, if_neg hlong] at heval
  exact ⟨_, heval, rfl⟩

/-- The references to symbols are those to each of them, one symbol after another, up to the room. -/
theorem eval_references_to {scope : Scope} {unlimited : Symbol → List Reference}
    (hcollect : ∀ symbol room, (Reference.collect workspace symbol scope room deadline).eval oracle =
      .ok ((unlimited symbol).take room)) (room : Nat) (symbols : List Symbol) :
    (referencesTo workspace scope deadline room symbols).eval oracle =
      .ok ((symbols.flatMap unlimited).take room) := by
  induction symbols generalizing room with
  | nil => simp [referencesTo]
  | cons symbol rest ih =>
      cases room with
      | zero => rfl
      | succ room =>
          have hleft : room + 1 - ((unlimited symbol).take (room + 1)).length =
              room + 1 - (unlimited symbol).length := by
            rw [List.length_take]
            omega
          rw [referencesTo, Inquiry.eval_bind, hcollect]
          refine (Inquiry.eval_bind oracle (referencesTo workspace scope deadline _ rest) _).trans ?_
          rw [ih, hleft, List.flatMap_cons, List.take_append]
          rfl
          exact fun h => nomatch h

end Eval

section Find

variable {workspace : Workspace} {query : SearchQuery} {matcher : NameMatcher} {files : List Path}

/-- The symbols that are read off the lines of a file are located in it, on lines that it has. -/
theorem symbol_of_lines (hparser : workspace.parser = some SymbolParser.ofLines) {file : Path}
    {symbols : List Symbol} (h : workspace.answer (.symbols file) = .ok symbols) {symbol : Symbol}
    (hsymbol : symbol ∈ symbols) :
    ∃ content, workspace.answer (.content symbol.location.path) = .ok content ∧
      Declaration.StartsIn content symbol := by
  obtain ⟨parser, content, hsome, hcontent, hparse⟩ := Cache.exists_parse_of_answer h
  obtain rfl : parser = SymbolParser.ofLines := Option.some.inj (hsome.symm.trans hparser)
  have hpath := SymbolParser.of_lines_located file content symbols hparse symbol hsymbol
  obtain ⟨found, hfound, hlines⟩ := Declaration.scan_yields file content
  have hsame : found = symbols := by
    rw [SymbolParser.ofLines] at hparse
    dsimp only at hparse
    rw [hfound] at hparse
    exact Except.ok.inj hparse
  exact ⟨content, hpath ▸ hcontent, hlines symbol (hsame ▸ hsymbol)⟩

/-- Every symbol that is found has a context. -/
theorem exists_context_of_wanted (hparser : workspace.parser = some SymbolParser.ofLines)
    {wanted : Symbol → Bool} {front : List Path} {size : Nat} {symbol : Symbol}
    (h : symbol ∈ front.flatMap (wantedIn workspace.answer wanted)) :
    ∃ context, HasContext workspace.answer workspace size symbol context := by
  obtain ⟨file, -, hmem⟩ := List.mem_flatMap.mp h
  unfold wantedIn at hmem
  split at hmem
  · next symbols hsymbols =>
      obtain ⟨content, hcontent, hline⟩ :=
        symbol_of_lines hparser hsymbols (List.mem_filter.mp hmem).1
      exact exists_context hcontent hline
  · cases hmem

/-- Every reference to a symbol in files. -/
def unlimitedReferences (workspace : Workspace) (files : List Path) (symbol : Symbol) :
    List Reference :=
  Reference.definitionEntry workspace.answer symbol ::
    files.flatMap (Reference.lineUses workspace.answer symbol)

/-- What a search gives: the wanted symbols of the files that fit into the budget, their contexts and
the first references to them. -/
def resultWithin (workspace : Workspace) (query : SearchQuery) (matcher : NameMatcher)
    (files : List Path) (max : Nat) : SearchResult :=
  let wanted := wantedIn workspace.answer (isWanted query matcher)
  let symbols := (filling wanted max files).flatMap wanted
  { symbols
    references := if query.withReferences then
        (symbols.flatMap (unlimitedReferences workspace files)).take max
      else []
    contexts := symbols.filterMap (contextOf workspace.answer workspace (contextSize workspace query)) }

/-- Every symbol of the result has its context. -/
theorem result_contexts (hparser : workspace.parser = some SymbolParser.ofLines)
    (query : SearchQuery) (matcher : NameMatcher) (files : List Path) (max : Nat) :
    (contextsOf workspace (contextSize workspace query)
        (resultWithin workspace query matcher files max).symbols).eval workspace.answer =
      .ok (resultWithin workspace query matcher files max).contexts ∧
    List.Forall₂ (HasContext workspace.answer workspace (contextSize workspace query))
      (resultWithin workspace query matcher files max).symbols
      (resultWithin workspace query matcher files max).contexts :=
  eval_contexts_of fun _ hsymbol => exists_context_of_wanted hparser hsymbol

/-- A search through the selected files gives its result if there is time or nothing to read. -/
theorem eval_find_files (hparser : workspace.parser = some SymbolParser.ofLines)
    (hfiles : workspace.eligible query.scope = .ok files)
    (htime : files = [] ∨ (deadlineOf workspace query).check = .ok ()) :
    (findMatching workspace query matcher).eval workspace.answer =
      .ok (resultWithin workspace query matcher files (budget workspace query)) := by
  have hsymbols : (symbolsIn (deadlineOf workspace query) (isWanted query matcher)
      (budget workspace query) files).eval workspace.answer =
        .ok (resultWithin workspace query matcher files (budget workspace query)).symbols := by
    rcases htime with rfl | hcheck
    · rfl
    · exact eval_symbols_in hcheck _ _ files
  have hcontexts := (result_contexts hparser query matcher files (budget workspace query)).1
  have hcollect : ∀ symbol room, (Reference.collect workspace symbol query.scope room
      (deadlineOf workspace query)).eval workspace.answer =
        .ok ((unlimitedReferences workspace files symbol).take room) :=
    fun _ room => Reference.eval_collect_files hfiles htime room
  have hreferences : (askedReferences workspace query (resultWithin workspace query matcher files
      (budget workspace query)).symbols).eval workspace.answer =
        .ok (resultWithin workspace query matcher files (budget workspace query)).references := by
    unfold askedReferences resultWithin
    split
    · exact eval_references_to hcollect (budget workspace query) _
    · rfl
  rw [findMatching, Inquiry.eval_bind, Inquiry.eval_of_except, hfiles]
  refine (Inquiry.eval_bind workspace.answer (symbolsIn _ _ _ files) _).trans ?_
  rw [hsymbols]
  refine (Inquiry.eval_bind workspace.answer (contextsOf workspace _ _) _).trans ?_
  rw [hcontexts]
  refine (Inquiry.eval_bind workspace.answer (askedReferences workspace query _) _).trans ?_
  rw [hreferences]
  rfl

/-- A search that does not run out of time has time, or nothing to read. -/
theorem nothing_or_time (hfiles : workspace.eligible query.scope = .ok files)
    (htime : (findMatching workspace query matcher).eval workspace.answer ≠
      .error (.timeout .search)) :
    files = [] ∨ (deadlineOf workspace query).check = .ok () := by
  by_cases hexpired : (deadlineOf workspace query).isExpired = true
  · cases files with
    | nil => exact Or.inl rfl
    | cons file rest =>
        have hcheck : (deadlineOf workspace query).check = .error (.timeout .search) :=
          if_pos hexpired
        refine False.elim (htime ?_)
        rw [findMatching, Inquiry.eval_bind, Inquiry.eval_of_except, hfiles]
        refine (Inquiry.eval_bind workspace.answer (symbolsIn _ _ _ (file :: rest)) _).trans ?_
        rw [symbolsIn, Inquiry.eval_bind, Inquiry.eval_check, hcheck]
        rfl
  · exact Or.inr (if_neg hexpired)

/-- With a smaller budget, a search gives a front of everything. -/
theorem result_front (workspace : Workspace) (query : SearchQuery) (matcher : NameMatcher)
    (files : List Path) {smaller max : Nat} (hle : smaller ≤ max) :
    let part := resultWithin workspace query matcher files smaller
    let result := resultWithin workspace query matcher files max
    part.symbols <+: result.symbols ∧ part.contexts <+: result.contexts ∧
      part.references <+: result.references := by
  have hfiles : ∀ items, filling items smaller files <+: filling items max files := fun items =>
    (filling_fills items max files).front_of_le (filling_fills items smaller files) hle
  have hsymbols := flat_map_front (hfiles (wantedIn workspace.answer (isWanted query matcher)))
    (wantedIn workspace.answer (isWanted query matcher))
  refine ⟨hsymbols, hsymbols.filterMap _, ?_⟩
  unfold resultWithin
  split
  · have hall := flat_map_front hsymbols (unlimitedReferences workspace files)
    exact (List.IsPrefix.take hall smaller).trans (List.take_prefix_take_left hle)
  · exact List.prefix_rfl

end Find

/-- What a search gives whose request is in order, if it does not run out of time. The symbols are
the wanted ones of the longest row of selected files, from the first one on, whose wanted symbols
fit into the budget; each of them has a context that is focused on it; and the references are the
first ones of those to each symbol in turn, up to the budget. With a smaller budget, each of the
three lists is a front of what it is with a larger one. -/
theorem find_within_budget (workspace : Workspace) (query : SearchQuery) (matcher : NameMatcher)
    (hparser : workspace.parser = some SymbolParser.ofLines)
    (hname : (Text.trim query.name.toList).isEmpty = false)
    (hmax : 0 < budget workspace query)
    (hmatcher : NameMatcher.ofQuery? query.name.toList query.caseSensitive = some matcher)
    (htime : (find workspace query).eval workspace.answer ≠ .error (.timeout .search)) :
    (∀ failure, workspace.eligible query.scope = .error failure →
      (find workspace query).eval workspace.answer = .error failure) ∧
    ∀ files, workspace.eligible query.scope = .ok files →
      ∃ result, (find workspace query).eval workspace.answer = .ok result ∧
        (∃ front,
          Fills (wantedIn workspace.answer (isWanted query matcher)) (budget workspace query) files
            front ∧
          result.symbols =
            front.flatMap (wantedIn workspace.answer (isWanted query matcher))) ∧
        List.Forall₂ (HasContext workspace.answer workspace (contextSize workspace query))
          result.symbols result.contexts ∧
        (∃ unlimited : Symbol → List Reference,
          (∀ symbol room, (Reference.collect workspace symbol query.scope room
            (deadlineOf workspace query)).eval workspace.answer =
              .ok ((unlimited symbol).take room)) ∧
          result.references = if query.withReferences then
            (result.symbols.flatMap unlimited).take (budget workspace query) else []) ∧
        ∀ smaller, 0 < smaller → smaller ≤ budget workspace query →
          ∃ part, (find workspace { query with maxResults := some smaller }).eval
              workspace.answer = .ok part ∧
            part.symbols <+: result.symbols ∧ part.contexts <+: result.contexts ∧
            part.references <+: result.references := by
  have hfind : ∀ max, 0 < budget workspace { query with maxResults := max } →
      find workspace { query with maxResults := max } =
        findMatching workspace { query with maxResults := max } matcher := by
    intro max hpos
    rw [find, if_neg (by simp [hname]), if_neg (by omega)]
    simp only [hmatcher]
  rw [hfind query.maxResults hmax] at htime ⊢
  refine ⟨fun failure hfailure => ?_, fun files hfiles => ?_⟩
  · rw [findMatching, Inquiry.eval_bind, Inquiry.eval_of_except, hfailure]
    rfl
  · have hread := nothing_or_time hfiles htime
    refine ⟨resultWithin workspace query matcher files (budget workspace query),
      eval_find_files hparser hfiles hread, ⟨_, filling_fills _ _ files, rfl⟩,
      (result_contexts hparser query matcher files _).2,
      ⟨_, fun symbol room => Reference.eval_collect_files hfiles hread room, rfl⟩, ?_⟩
    intro smaller hpos hle
    refine ⟨resultWithin workspace query matcher files smaller, ?_,
      result_front workspace query matcher files hle⟩
    rw [hfind (some smaller) hpos]
    exact eval_find_files hparser hfiles hread

/-- A file with two variables, and a file with one. -/
def searchedFiles : Workspace where
  root := ⟨"/ws"⟩
  storage := MemoryFiles.storage
    ⟨[(⟨"/ws/a.ts"⟩, some "let f = 1;\nlet ff = f;".toList),
      (⟨"/ws/b.ts"⟩, some "let fff = 2;".toList)]⟩ false
  parser := some SymbolParser.ofLines

/-- A search for at most two variables. -/
def searchedQuery : SearchQuery where
  name := "f"
  caseSensitive := true
  maxResults := some 2
  withReferences := true

/-- The variables of the first file use up the budget. -/
theorem find_within_budget_two_files :
    ∃ result, (find searchedFiles searchedQuery).eval searchedFiles.answer = .ok result ∧
      result.symbols.map (·.name) = ["f", "ff"] ∧
      result.symbols.length = result.contexts.length := by
  have hnames : ((find searchedFiles searchedQuery).eval searchedFiles.answer).map
      (fun result => result.symbols.map (·.name)) = .ok ["f", "ff"] := by
    decide +kernel
  obtain ⟨-, hresult⟩ := find_within_budget searchedFiles searchedQuery (.substring ['f'] true) rfl
    (by decide) (by decide) rfl fun htimeout => by rw [htimeout] at hnames; contradiction
  obtain ⟨result, heval, -, hcontexts, -⟩ := hresult [⟨"/ws/a.ts"⟩, ⟨"/ws/b.ts"⟩] rfl
  rw [heval] at hnames
  exact ⟨result, heval, Except.ok.inj hnames, hcontexts.length_eq⟩

end CodeAtlas.Search
