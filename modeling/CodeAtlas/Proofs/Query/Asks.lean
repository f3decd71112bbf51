import CodeAtlas.Proofs.Graph.Inside
import CodeAtlas.Proofs.Inquiry.Asks
import CodeAtlas.Query.Hint
import CodeAtlas.Query.Unused
import CodeAtlas.Search.Basic

/-!
# Which files the queries read

`Covers workspace within` says that every path that the workspace resolves lies in `within`. Then
all questions of every query are about paths in `within`, because queries only ask about files that
were selected, resolved, imported, or found as the location of a symbol. There is one statement for
each query, in the order in which they use each other.
-/

namespace CodeAtlas

/-- Whatever a path stands for in the workspace lies in `within`. -/
def Covers (workspace : Workspace) (within : Path → Prop) : Prop :=
  ∀ {path resolved : Path}, workspace.resolve path = .ok resolved → within resolved

/-- A symbol is located in one of the files of `within`. -/
def Symbol.LocatedIn (within : Path → Prop) (symbol : Symbol) : Prop :=
  within symbol.location.path

variable {workspace : Workspace} {within : Path → Prop}

/-- Selected files are covered. -/
theorem Covers.eligible (h : Covers workspace within) {scope : Scope} {files : List Path}
    (hfiles : workspace.eligible scope = .ok files) {path : Path} (hpath : path ∈ files) :
    within path := by
  obtain ⟨_, _, _, _, _, hresolve⟩ := (Workspace.mem_eligible hfiles).mp hpath
  exact h hresolve

/-- Selecting files gives covered files. -/
theorem Covers.asks_eligible (h : Covers workspace within) (scope : Scope) :
    (Inquiry.ofExcept (workspace.eligible scope)).Asks within fun files =>
      ∀ file ∈ files, within file :=
  Inquiry.asks_of_except fun _ hfiles _ hfile => h.eligible hfiles hfile

/-- The symbols of a file are located in it. -/
theorem located_in_of_fits {path : Path} {symbols : List Symbol} (hpath : within path)
    (hfits : (Question.symbols path).Fits symbols) :
    ∀ symbol ∈ symbols, symbol.LocatedIn within := by
  intro symbol hsymbol
  rw [Symbol.LocatedIn, hfits symbol hsymbol]
  exact hpath

namespace Navigation

open Inquiry

theorem asks_origin (h : Covers workspace within) (position : Position) :
    (ofExcept (origin workspace position)).Asks within within := by
  refine asks_of_except fun file hfile => ?_
  unfold origin at hfile
  split at hfile
  · contradiction
  · exact h hfile

theorem asks_named_in (deadline : Deadline) (name : String) {files : List Path}
    (hfiles : ∀ file ∈ files, within file) :
    (namedIn deadline name files).Asks within fun found =>
      ∀ symbol ∈ found, symbol.LocatedIn within := by
  induction files with
  | nil => exact asks_pure (by simp)
  | cons file rest ih =>
      obtain ⟨hfile, hrest⟩ := List.forall_mem_cons.mp hfiles
      refine asks_check_bind (asks_attempt_bind hfile (fun symbols hfits => ?_) fun failure => ?_)
      · refine (ih hrest).bind fun later hlater => asks_pure fun symbol hsymbol => ?_
        rcases List.mem_append.mp hsymbol with hsymbol | hsymbol
        · exact located_in_of_fits hfile hfits symbol (List.mem_filter.mp hsymbol).1
        · exact hlater symbol hsymbol
      · exact (ih hrest).bind fun later hlater => asks_pure hlater

theorem asks_candidates (h : Covers workspace within) {file : Path} (hfile : within file)
    (name : String) :
    (candidates workspace file name).Asks within fun found =>
      ∀ symbol ∈ found, symbol.LocatedIn within := by
  refine (h.asks_eligible {}).bind fun files hfiles => asks_named_in _ name ?_
  split
  · exact hfiles
  · exact List.forall_mem_cons.mpr ⟨hfile, hfiles⟩

theorem asks_direct_dependencies {file : Path} (hfile : within file) :
    (directDependencies workspace file).Asks within fun _ => True :=
  asks_attempt_bind hfile (fun _ _ => asks_pure trivial) fun _ => asks_pure trivial

theorem asks_imports_name {file : Path} (hfile : within file) (name : String) :
    (importsName file name).Asks within fun _ => True :=
  asks_attempt_bind hfile (fun _ _ => asks_pure trivial) fun _ => asks_pure trivial

theorem asks_definition_of (h : Covers workspace within) {file : Path} (hfile : within file)
    (name : String) :
    (definitionOf workspace file name).Asks within fun found =>
      ∀ symbol ∈ found, symbol.LocatedIn within := by
  refine (asks_candidates h hfile name).bind fun found hfound => ?_
  have hhead : ∀ symbol ∈ found.head?, symbol.LocatedIn within := fun symbol hsymbol =>
    hfound symbol (List.mem_of_mem_head? hsymbol)
  split
  · exact asks_pure hhead
  · refine (asks_imports_name hfile name).bind fun imported _ => ?_
    dsimp only
    split
    · next symbol hown =>
        refine asks_pure fun other hother => ?_
        obtain rfl := Option.some.inj hother
        exact hfound _ (List.mem_of_find?_eq_some hown)
    · refine (asks_direct_dependencies hfile).bind fun dependencies _ => asks_pure ?_
      intro symbol hsymbol
      rcases Option.or_eq_some_iff.mp hsymbol with hsymbol | ⟨_, hsymbol⟩
      · exact hfound symbol (List.mem_of_find?_eq_some hsymbol)
      · exact hhead symbol hsymbol

theorem asks_definition (h : Covers workspace within) (position : Position) :
    (definition workspace position).Asks within fun _ => True := by
  refine (asks_origin h position).bind fun file hfile => ?_
  refine (asks_get hfile).bind fun content _ => ?_
  split
  · exact asks_pure trivial
  · exact (asks_definition_of h hfile _).trivially

/-- A symbol declared on a line is one of the symbols. -/
theorem mem_of_declared_at {symbols : List Symbol} {name : String} {line column : Nat}
    {symbol : Symbol} (h : declaredAt? symbols name line column = some symbol) :
    symbol ∈ symbols := by
  rcases Option.or_eq_some_iff.mp h with h | ⟨_, h⟩
  · exact (List.mem_filter.mp (List.mem_of_find?_eq_some h)).1
  · exact (List.mem_filter.mp (List.mem_of_mem_head? h)).1

theorem asks_symbol_at (h : Covers workspace within) (position : Position) :
    (symbolAt workspace position).Asks within fun found =>
      ∀ symbol ∈ found, symbol.LocatedIn within := by
  refine (asks_origin h position).bind fun file hfile => ?_
  refine (asks_get hfile).bind fun content _ => ?_
  split
  · exact asks_pure (by simp)
  · next name column _ =>
      refine (asks_get hfile).bind fun symbols hfits => ?_
      split
      · next symbol hdeclared =>
          refine asks_pure fun other hother => ?_
          obtain rfl := Option.some.inj hother
          exact located_in_of_fits hfile hfits _ (mem_of_declared_at hdeclared)
      · exact asks_definition_of h hfile _

theorem asks_classes_in (deadline : Deadline) (wanted : ClassHeader → Bool) {files : List Path}
    (hfiles : ∀ file ∈ files, within file) :
    (classesIn deadline wanted files).Asks within fun _ => True := by
  induction files with
  | nil => exact asks_pure trivial
  | cons file rest ih =>
      obtain ⟨hfile, hrest⟩ := List.forall_mem_cons.mp hfiles
      have hlater : ∀ found : List Symbol, (do
          return found ++ (← classesIn deadline wanted rest)).Asks within fun _ => True :=
        fun _ => (ih hrest).bind fun _ _ => asks_pure trivial
      refine asks_check_bind (asks_attempt_bind hfile (fun headers _ => ?_) fun _ => hlater [])
      dsimp only
      split
      · exact hlater []
      · exact (asks_get hfile).bind fun symbols _ => hlater _

theorem asks_classes_where (h : Covers workspace within) (operation : Operation)
    (wanted : ClassHeader → Bool) :
    (classesWhere workspace operation wanted).Asks within fun _ => True :=
  (h.asks_eligible {}).bind fun _ hfiles => asks_classes_in _ wanted hfiles

theorem asks_methods_in (deadline : Deadline) (target : Symbol) {files : List Path}
    (hfiles : ∀ file ∈ files, within file) :
    (methodsIn deadline target files).Asks within fun _ => True := by
  induction files with
  | nil => exact asks_pure trivial
  | cons file rest ih =>
      obtain ⟨hfile, hrest⟩ := List.forall_mem_cons.mp hfiles
      refine asks_check_bind (asks_attempt_bind hfile (fun _ _ => ?_) fun _ => ?_)
      · exact (ih hrest).bind fun _ _ => asks_pure trivial
      · exact (ih hrest).bind fun _ _ => asks_pure trivial

theorem asks_implementations (h : Covers workspace within) (position : Position) :
    (implementations workspace position).Asks within fun _ => True := by
  refine (asks_symbol_at h position).bind fun found _ => ?_
  split
  · exact asks_pure trivial
  · split
    · exact asks_classes_where h _ _
    · split
      · exact (h.asks_eligible {}).bind fun _ hfiles => asks_methods_in _ _ hfiles
      · exact asks_pure trivial

theorem asks_derived_classes (h : Covers workspace within) (position : Position) :
    (derivedClasses workspace position).Asks within fun _ => True := by
  refine (asks_symbol_at h position).bind fun found _ => ?_
  split
  · exact asks_pure trivial
  · split
    · exact asks_classes_where h _ _
    · exact asks_pure trivial

end Navigation

namespace Hint

open Inquiry

theorem asks_of_position (h : Covers workspace within) (position : Position) :
    (ofPosition workspace position).Asks within fun _ => True := by
  refine (Navigation.asks_symbol_at h position).bind fun found hfound => ?_
  split
  · exact asks_pure trivial
  · next symbol =>
      refine (asks_get (hfound symbol rfl)).bind fun content _ => ?_
      exact (asks_of_except fun _ _ => trivial).bind fun _ _ => asks_pure trivial

end Hint

namespace Context

open Inquiry

theorem asks_consult {path : Path} (hpath : within path) (line size : Nat) :
    (consult workspace path line size).Asks within fun _ => True := by
  unfold consult
  split
  · exact asks_pure trivial
  · refine asks_attempt_bind hpath (fun content _ => ?_) fun failure => asks_pure trivial
    dsimp only
    split
    · exact asks_pure trivial
    · exact asks_attempt_bind hpath (fun _ _ => asks_pure trivial) fun _ => asks_pure trivial

theorem asks_around {path : Path} (hpath : within path) (line size : Nat) :
    (around workspace path line size).Asks within fun _ => True :=
  (asks_consult hpath line size).bind fun _ _ => asks_of_except fun _ _ => trivial

end Context

namespace Reference

open Inquiry

theorem asks_in_files (deadline : Deadline) (symbol : Symbol) {files : List Path}
    (hfiles : ∀ file ∈ files, within file) (room : Nat) :
    (inFiles deadline symbol room files).Asks within fun _ => True := by
  induction files generalizing room with
  | nil => exact asks_pure trivial
  | cons file rest ih =>
      obtain ⟨hfile, hrest⟩ := List.forall_mem_cons.mp hfiles
      refine asks_check_bind (asks_attempt_bind hfile (fun content _ => ?_) fun _ => ih hrest room)
      dsimp only
      split
      · have hlater : ∀ uses : List Reference, (if room < uses.length then return uses.take room
            else return uses ++ (← inFiles deadline symbol (room - uses.length) rest)
              : Inquiry (List Reference)).Asks within fun _ => True := by
          intro uses
          split
          · exact asks_pure trivial
          · exact (ih hrest _).bind fun _ _ => asks_pure trivial
        exact asks_attempt_bind hfile (fun _ _ => hlater _) fun _ => hlater _
      · exact ih hrest room

theorem asks_definition_of {symbol : Symbol} (h : symbol.LocatedIn within) :
    (definitionOf symbol).Asks within fun _ => True :=
  asks_attempt_bind h (fun _ _ => asks_pure trivial) fun _ => asks_pure trivial

theorem asks_collect (h : Covers workspace within) {symbol : Symbol}
    (hsymbol : symbol.LocatedIn within) (scope : Scope) (max : Nat) (deadline : Deadline) :
    (collect workspace symbol scope max deadline).Asks within fun _ => True := by
  cases max with
  | zero => exact asks_pure trivial
  | succ room =>
      refine (asks_definition_of hsymbol).bind fun definition _ => ?_
      refine (h.asks_eligible scope).bind fun files hfiles => ?_
      exact (asks_in_files deadline symbol hfiles room).bind fun _ _ => asks_pure trivial

theorem asks_target (h : Covers workspace within) (wanted : ReferenceTarget) :
    (target workspace wanted).Asks within fun found =>
      ∀ symbol ∈ found, symbol.LocatedIn within := by
  cases wanted with
  | symbol symbol =>
      have hpath : (ofExcept (workspace.resolve symbol.location.path)).Asks within within :=
        asks_of_except fun _ hresolve => h hresolve
      refine hpath.bind fun path hwithin => asks_pure fun found hfound => ?_
      exact Option.some.inj hfound ▸ hwithin
  | position position => exact Navigation.asks_symbol_at h position

theorem asks_find (h : Covers workspace within) (query : ReferenceQuery) :
    (find workspace query).Asks within fun _ => True := by
  refine (asks_target h query.target).bind fun found hfound => ?_
  split
  · exact asks_pure trivial
  · next symbol => exact asks_collect h (hfound symbol rfl) _ _ _

end Reference

namespace Search

open Inquiry

theorem asks_symbols_in (deadline : Deadline) (wanted : Symbol → Bool) {files : List Path}
    (hfiles : ∀ file ∈ files, within file) (room : Nat) :
    (symbolsIn deadline wanted room files).Asks within fun found =>
      ∀ symbol ∈ found, symbol.LocatedIn within := by
  induction files generalizing room with
  | nil => exact asks_pure (by simp)
  | cons file rest ih =>
      obtain ⟨hfile, hrest⟩ := List.forall_mem_cons.mp hfiles
      refine asks_check_bind (asks_attempt_bind hfile (fun symbols hfits => ?_) fun _ =>
        ih hrest room)
      have hfound : ∀ symbol ∈ symbols.filter wanted, symbol.LocatedIn within :=
        fun symbol hsymbol => located_in_of_fits hfile hfits symbol (List.mem_filter.mp hsymbol).1
      dsimp only
      split
      · exact asks_pure (by simp)
      · split
        · exact asks_pure hfound
        · refine (ih hrest _).bind fun later hlater => asks_pure fun symbol hsymbol => ?_
          exact (List.mem_append.mp hsymbol).elim (hfound symbol) (hlater symbol)

theorem asks_contexts_of (size : Nat) {symbols : List Symbol}
    (h : ∀ symbol ∈ symbols, symbol.LocatedIn within) :
    (contextsOf workspace size symbols).Asks within fun _ => True := by
  induction symbols with
  | nil => exact asks_pure trivial
  | cons symbol rest ih =>
      obtain ⟨hsymbol, hrest⟩ := List.forall_mem_cons.mp h
      refine (Context.asks_consult hsymbol _ _).bind fun answer _ => ?_
      split
      · exact (ih hrest).bind fun _ _ => asks_pure trivial
      · exact ih hrest

theorem asks_references_to (h : Covers workspace within) (scope : Scope) (deadline : Deadline)
    {symbols : List Symbol} (hsymbols : ∀ symbol ∈ symbols, symbol.LocatedIn within)
    (room : Nat) :
    (referencesTo workspace scope deadline room symbols).Asks within fun _ => True := by
  induction symbols generalizing room with
  | nil => exact asks_pure trivial
  | cons symbol rest ih =>
      obtain ⟨hsymbol, hrest⟩ := List.forall_mem_cons.mp hsymbols
      cases room with
      | zero => exact asks_pure trivial
      | succ room =>
          refine (Reference.asks_collect h hsymbol scope (room + 1) deadline).bind fun found _ => ?_
          exact (ih hrest _).bind fun _ _ => asks_pure trivial

theorem asks_asked_references (h : Covers workspace within) (query : SearchQuery)
    {symbols : List Symbol} (hsymbols : ∀ symbol ∈ symbols, symbol.LocatedIn within) :
    (askedReferences workspace query symbols).Asks within fun _ => True := by
  unfold askedReferences
  split
  · exact asks_references_to h _ _ hsymbols _
  · exact asks_pure trivial

theorem asks_find_matching (h : Covers workspace within) (query : SearchQuery)
    (matcher : NameMatcher) :
    (findMatching workspace query matcher).Asks within fun _ => True := by
  refine (h.asks_eligible query.scope).bind fun files hfiles => ?_
  refine (asks_symbols_in _ _ hfiles _).bind fun symbols hsymbols => ?_
  refine (asks_contexts_of _ hsymbols).bind fun contexts _ => ?_
  exact (asks_asked_references h query hsymbols).bind fun _ _ => asks_pure trivial

theorem asks_find (h : Covers workspace within) (query : SearchQuery) :
    (find workspace query).Asks within fun _ => True := by
  unfold find
  split
  · exact asks_fail _
  split
  · exact asks_fail _
  split
  · exact asks_fail _
  · exact asks_find_matching h query _

end Search

namespace GraphBuild

open Inquiry

theorem asks_scan_files (h : Covers workspace within) (withPackages : Bool) {files : List Path}
    (hfiles : ∀ file ∈ files, within file) :
    (scanFiles workspace withPackages files).Asks within fun scans => ∀ scan ∈ scans,
      scan.node.dependencies = [] ∧ within scan.node.path ∧
        ∀ path, .internal path ∈ scan.targets → within path := by
  induction files with
  | nil => exact asks_pure (by simp)
  | cons file rest ih =>
      obtain ⟨hfile, hrest⟩ := List.forall_mem_cons.mp hfiles
      refine asks_attempt_bind hfile (fun module _ => ?_) fun _ => ?_
      · refine (ih hrest).bind fun later hlater => asks_pure ?_
        refine List.forall_mem_cons.mpr ⟨⟨rfl, hfile, fun path hpath => ?_⟩, hlater⟩
        obtain ⟨specifier, _, htarget⟩ := List.mem_map.mp hpath
        obtain ⟨_, hresolve⟩ := Workspace.exists_resolve_of_internal htarget
        exact h hresolve
      · exact (ih hrest).bind fun later hlater => asks_pure hlater

theorem asks_expand (h : Covers workspace within) (withPackages : Bool) (deadline : Deadline)
    (hops : Nat) {state : State} (hnext : ∀ file ∈ state.next, within file)
    (hnodes : ∀ node ∈ state.nodes, node.LiesIn within) :
    (expand workspace withPackages deadline hops state).Asks within fun final =>
      ∀ node ∈ final.nodes, node.LiesIn within := by
  induction hops generalizing state with
  | zero =>
      unfold expand
      split
      · exact asks_pure hnodes
      · refine asks_check_bind ?_
        refine (asks_scan_files h withPackages hnext).bind fun scans hscans => asks_pure ?_
        have hmerges := merges_scans false { state with next := [] } fun scan hscan =>
          (hscans scan hscan).1
        exact hmerges.nodes_lie_in hnodes fun scan hscan => (hscans scan hscan).2
  | succ hops ih =>
      unfold expand
      split
      · exact asks_pure hnodes
      · refine asks_check_bind ?_
        refine (asks_scan_files h withPackages hnext).bind fun scans hscans => ?_
        have hmerges := merges_scans true { state with next := [] } fun scan hscan =>
          (hscans scan hscan).1
        refine ih ?_ (hmerges.nodes_lie_in hnodes fun scan hscan => (hscans scan hscan).2)
        obtain ⟨new, _, hafter, hnew⟩ := hmerges.grown
        intro file hfile
        obtain ⟨_, scan, hscan, htarget⟩ := hnew file (by simpa [hafter] using hfile)
        exact (hscans scan hscan).2.2 file htarget

end GraphBuild

theorem Graph.asks_build (h : Covers workspace within) (query : GraphQuery) :
    (Graph.build workspace query).Asks within fun graph => graph.LiesIn within := by
  refine (h.asks_eligible query.scope).bind fun seeds hseeds => ?_
  refine (GraphBuild.asks_expand h _ _ _ hseeds (by simp)).bind fun state hstate => ?_
  exact Inquiry.asks_pure (GraphBuild.finish_lies_in hstate)

namespace UnusedExport

open Inquiry

theorem asks_of_nodes (deadline : Deadline) {nodes : List Node}
    (h : ∀ node ∈ nodes, within node.path) :
    (ofNodes deadline nodes).Asks within fun _ => True := by
  induction nodes with
  | nil => exact asks_pure trivial
  | cons node rest ih =>
      obtain ⟨hnode, hrest⟩ := List.forall_mem_cons.mp h
      refine asks_check_bind (asks_attempt_bind hnode (fun _ _ => ?_) fun _ => ?_)
      · exact (ih hrest).bind fun _ _ => asks_pure trivial
      · exact (ih hrest).bind fun _ _ => asks_pure trivial

theorem asks_find {graph : Graph} (h : ∀ entry ∈ graph.nodes, within entry.2.path)
    (query : GraphQuery) : (find workspace graph query).Asks within fun _ => True := by
  refine (asks_of_except fun _ _ => trivial).bind fun filter _ => asks_of_nodes _ ?_
  intro node hnode
  obtain ⟨entry, hentry, rfl⟩ := List.mem_map.mp (List.mem_filter.mp hnode).1
  exact h entry hentry

end UnusedExport

end CodeAtlas
