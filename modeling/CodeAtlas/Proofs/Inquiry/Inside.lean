import CodeAtlas.Proofs.Inquiry.Cache
import CodeAtlas.Proofs.Symbol.Located
import CodeAtlas.Proofs.Workspace.Import

/-!
# Caches that stay inside

`Cache.LiesIn within` says that a cache remembers nothing at paths outside `within`, and symbols only
at the path where they are located. An inquiry that asks about paths in `within` keeps this and, as
its answers fit, gives what it is said to give (`Inquiry.run_lies_in`), whether what is remembered is
still stored or not. It is answered alike whatever reading a path outside the root would give
(`Inquiry.run_outside`).
-/

namespace CodeAtlas

namespace PathMap

variable {α : Type} {p : Path → α → Prop} {map : PathMap α}

/-- Every entry of a map has a property. -/
def All (p : Path → α → Prop) (map : PathMap α) : Prop :=
  ∀ entry ∈ map, p entry.1 entry.2

theorem all_nil (p : Path → α → Prop) : All p [] :=
  nofun

/-- Forgetting a path leaves entries with the property. -/
theorem All.erase (h : map.All p) (path : Path) : (map.erase path).All p :=
  fun entry hentry => h entry (List.mem_filter.mp hentry).1

/-- An entry with the property may be put into a map. -/
theorem All.put (h : map.All p) {path : Path} {value : α} (hvalue : p path value) :
    (map.put path value).All p :=
  List.forall_mem_cons.mpr ⟨hvalue, h.erase path⟩

/-- A value that is found has the property. -/
theorem All.of_get (h : map.All p) {path : Path} {value : α} (hvalue : map.get? path = some value) :
    p path value := by
  obtain ⟨entry, hentry, rfl⟩ := Option.map_eq_some_iff.mp hvalue
  have hpath : entry.1 = path := by simpa using List.find?_some hentry
  exact hpath ▸ h entry (List.mem_of_find?_eq_some hentry)

end PathMap

namespace Cache

/-- The paths at which something is remembered. -/
def paths (cache : Cache) : List Path :=
  cache.contents.map (·.1) ++ cache.symbols.map (·.1) ++ cache.modules.map (·.1)
    ++ cache.headers.map (·.1)

/-- Everything that is remembered is so at a path in `within`, and symbols are located there. -/
structure LiesIn (within : Path → Prop) (cache : Cache) : Prop where
  contents : cache.contents.All fun path _ => within path
  symbols : cache.symbols.All fun path entry =>
    within path ∧ (Question.symbols path).Fits entry.value
  modules : cache.modules.All fun path _ => within path
  headers : cache.headers.All fun path _ => within path

variable {within : Path → Prop} {workspace : Workspace} {cache : Cache}

/-- An empty cache remembers nothing outside. -/
theorem lies_in_empty (within : Path → Prop) : LiesIn within {} :=
  ⟨PathMap.all_nil _, PathMap.all_nil _, PathMap.all_nil _, PathMap.all_nil _⟩

/-- The paths of a cache lie where everything that it remembers does. -/
theorem LiesIn.of_mem_paths (h : LiesIn within cache) {path : Path} (hpath : path ∈ cache.paths) :
    within path := by
  simp only [paths, List.mem_append, List.mem_map, or_assoc] at hpath
  rcases hpath with ⟨entry, hentry, rfl⟩ | ⟨entry, hentry, rfl⟩ | ⟨entry, hentry, rfl⟩ |
    ⟨entry, hentry, rfl⟩
  · exact h.contents entry hentry
  · exact (h.symbols entry hentry).1
  · exact h.modules entry hentry
  · exact h.headers entry hentry

/-- Counting a remembered answer remembers nothing else. -/
theorem LiesIn.hit (h : LiesIn within cache) : LiesIn within cache.hit :=
  ⟨h.contents, h.symbols, h.modules, h.headers⟩

/-- Counting another answer remembers nothing else. -/
theorem LiesIn.miss (h : LiesIn within cache) : LiesIn within cache.miss :=
  ⟨h.contents, h.symbols, h.modules, h.headers⟩

/-- Forgetting a file remembers nothing else. -/
theorem LiesIn.invalidate (h : LiesIn within cache) (path : Path) :
    LiesIn within (cache.invalidate path) :=
  ⟨h.contents.erase path, h.symbols.erase path, h.modules, h.headers⟩

/-- Reading a file remembers its text at its path. -/
theorem content_lies_in (h : LiesIn within cache) {path : Path} (hpath : within path) :
    LiesIn within (cache.content workspace path).2 := by
  unfold content
  split
  · exact h.hit
  · split
    · exact ⟨h.contents.put hpath, h.symbols, h.modules, h.headers⟩
    · exact h.miss

section Derive

variable {α : Type} {gives : α → Prop}

/-- Answering a question about the syntax of a file gives what is known or made, and remembers it. -/
theorem syntax_of_lies_in (h : LiesIn within cache) {path : Path} (hpath : within path)
    {make : SymbolParser → Text → Except Failure α} {look : Cache → Option (Derived α)}
    {store : Cache → Derived α → Cache}
    (hlook : ∀ {cache entry}, LiesIn within cache → look cache = some entry → gives entry.value)
    (hmake : ∀ {parser text value}, workspace.parser = some parser →
      make parser text = .ok value → gives value)
    (hstore : ∀ {cache entry}, LiesIn within cache → gives entry.value →
      LiesIn within (store cache entry)) :
    (∀ value, (cache.syntaxOf workspace path make look store).1 = .ok value → gives value) ∧
      LiesIn within (cache.syntaxOf workspace path make look store).2 := by
  have hcontent : LiesIn within (cache.content workspace path).2 := content_lies_in h hpath
  unfold syntaxOf
  cases hparser : workspace.parserFor path with
  | error failure => exact ⟨nofun, h⟩
  | ok parser =>
      have hworkspace := parser_of_parser_for hparser
      rcases hresult : cache.content workspace path with ⟨failure | text, after⟩
      · rw [hresult] at hcontent
        exact ⟨nofun, hcontent⟩
      · rw [hresult] at hcontent
        dsimp only at hcontent ⊢
        rcases derived_cases (look after) text (make parser) store after with
          ⟨entry, hentry, _, heq⟩ | ⟨value, hvalue, heq⟩ | ⟨failure, _, heq⟩
        · rw [heq]
          exact ⟨fun value hvalue => Except.ok.inj hvalue ▸ hlook hcontent hentry, hcontent.hit⟩
        · have hgives := hmake hworkspace hvalue
          rw [heq]
          exact ⟨fun other hother => Except.ok.inj hother ▸ hgives, hstore hcontent.miss hgives⟩
        · rw [heq]
          exact ⟨nofun, hcontent.miss⟩

end Derive

/-- Answering a question about a path in `within` gives an answer that fits, and remembers it. -/
theorem ask_lies_in (hparser : ∀ parser, workspace.parser = some parser → parser.Located)
    (h : LiesIn within cache) {question : Question} (hpath : within question.path) :
    (∀ value, (cache.ask workspace question).1 = .ok value → question.Fits value) ∧
      LiesIn within (cache.ask workspace question).2 := by
  cases question with
  | content path => exact ⟨fun _ _ => trivial, content_lies_in h hpath⟩
  | symbols path =>
      refine syntax_of_lies_in h hpath ?_ ?_ ?_
      · exact fun hcache hentry => (hcache.symbols.of_get hentry).2
      · intro parser text value hworkspace hmake
        exact hparser parser hworkspace path text value (map_error_eq_ok.mp hmake)
      · exact fun hcache hfits =>
          ⟨hcache.contents, hcache.symbols.put ⟨hpath, hfits⟩, hcache.modules, hcache.headers⟩
  | modules path =>
      exact syntax_of_lies_in h hpath (fun _ _ => trivial)
        (fun _ _ => trivial) fun hcache _ =>
          ⟨hcache.contents, hcache.symbols, hcache.modules.put hpath, hcache.headers⟩
  | headers path =>
      exact syntax_of_lies_in h hpath (fun _ _ => trivial)
        (fun _ _ => trivial) fun hcache _ =>
          ⟨hcache.contents, hcache.symbols, hcache.modules, hcache.headers.put hpath⟩

/-- Reading a file that the workspace holds does not depend on what lies outside the root. -/
theorem content_outside (read : Path → Except ReadFault Text) {path : Path}
    (h : workspace.Holds path) :
    cache.content (workspace.withOutside read) path = cache.content workspace path := by
  have hcontent : (workspace.withOutside read).content path = workspace.content path := by
    rw [Workspace.content, Workspace.content, Workspace.read_outside h]
    rfl
  rw [content, content, hcontent]

/-- A question about a file that the workspace holds is answered alike whatever lies outside the
root. -/
theorem ask_outside (read : Path → Except ReadFault Text) {question : Question}
    (h : workspace.Holds question.path) :
    cache.ask (workspace.withOutside read) question = cache.ask workspace question := by
  cases question with
  | content path => exact content_outside read h
  | symbols path | modules path | headers path =>
      have hcontent : cache.content (workspace.withOutside read) path =
          cache.content workspace path := content_outside read h
      simp only [ask, syntaxOf, hcontent]
      rfl

end Cache

namespace Inquiry

variable {workspace : Workspace} {cache : Cache} {α : Type} {gives : α → Prop}
  {inquiry : Inquiry α}

/-- An inquiry about paths in `within` gives what it is said to give and remembers nothing outside,
even if what is remembered has changed since. -/
theorem run_lies_in (hparser : ∀ parser, workspace.parser = some parser → parser.Located)
    {within : Path → Prop} (hasks : inquiry.Asks within gives) (h : cache.LiesIn within) :
    (∀ value, (inquiry.run workspace cache).1 = .ok value → gives value) ∧
      (inquiry.run workspace cache).2.LiesIn within := by
  induction inquiry generalizing cache with
  | done value => exact ⟨fun other hother => Except.ok.inj hother ▸ hasks, h⟩
  | fail failure => exact ⟨nofun, h⟩
  | ask question next ih =>
      obtain ⟨hpath, hnext⟩ := hasks
      obtain ⟨hfits, hcache⟩ := Cache.ask_lies_in hparser h hpath
      exact ih _ (hnext _ hfits) hcache

/-- An inquiry about files that the workspace holds is answered alike whatever lies outside the
root. -/
theorem run_outside (hparser : ∀ parser, workspace.parser = some parser → parser.Located)
    (hasks : inquiry.Asks workspace.Holds gives) (h : cache.LiesIn workspace.Holds)
    (read : Path → Except ReadFault Text) :
    inquiry.run (workspace.withOutside read) cache = inquiry.run workspace cache := by
  induction inquiry generalizing cache with
  | done value => rfl
  | fail failure => rfl
  | ask question next ih =>
      obtain ⟨hpath, hnext⟩ := hasks
      obtain ⟨hfits, hcache⟩ := Cache.ask_lies_in hparser h hpath
      rw [run, run, Cache.ask_outside read hpath]
      exact ih _ (hnext _ hfits) hcache

end Inquiry

end CodeAtlas
