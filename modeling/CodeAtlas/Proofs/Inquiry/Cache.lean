import CodeAtlas.Inquiry.Cache
import CodeAtlas.Proofs.Inquiry.Asks
import CodeAtlas.Proofs.Workspace.Change

/-!
# Remembered answers are right

Invariants of a cache. `Cache.Paired` holds whatever happens to the files: symbols are remembered
only together with the text they come from. `Cache.Faithful` bounds how far the cache lags behind
the files: only texts of pending paths may have changed. When nothing is pending, an inquiry that is
answered from the cache gives what the files themselves give (`run_faithful`). `Cache.UpToDate` adds
that nothing is remembered outside the workspace, so that changes there do not matter.
-/

namespace CodeAtlas

/-- Another failure in place of a failure leaves the values alone. -/
theorem map_error_eq_ok {α ε δ : Type} {result : Except ε α} {f : ε → δ} {value : α} :
    result.mapError f = .ok value ↔ result = .ok value := by
  cases result with
  | error failure =>
      change Except.error (f failure) = .ok value ↔ _
      simp only [reduceCtorEq]
  | ok found =>
      change Except.ok found = .ok value ↔ _
      rw [Except.ok.injEq, Except.ok.injEq]

/-- A computation that goes on with another has a value only if both have one. -/
theorem bind_eq_ok {α β ε : Type} {result : Except ε α} {next : α → Except ε β} {value : β} :
    result >>= next = .ok value ↔ ∃ middle, result = .ok middle ∧ next middle = .ok value := by
  cases result <;> simp [Bind.bind, Except.bind]

/-- Every remembered value is what `make` gives for the path and the text it is remembered with. -/
def PathMap.Remembers {α : Type} (make : Path → Text → Except Failure α)
    (map : PathMap (Derived α)) : Prop :=
  ∀ path entry, map.get? path = some entry → make path entry.source = .ok entry.value

/-- Another value that `make` gives can be remembered. -/
theorem PathMap.Remembers.put {α : Type} {make : Path → Text → Except Failure α}
    {map : PathMap (Derived α)} (h : map.Remembers make) {path : Path} {entry : Derived α}
    (hentry : make path entry.source = .ok entry.value) : (map.put path entry).Remembers make := by
  intro other found hfound
  rw [get_put] at hfound
  split at hfound
  · next heq => rwa [heq, ← Option.some.inj hfound]
  · exact h other found hfound

/-- What is remembered may be forgotten. -/
theorem PathMap.Remembers.erase {α : Type} {make : Path → Text → Except Failure α}
    {map : PathMap (Derived α)} (h : map.Remembers make) (path : Path) :
    (map.erase path).Remembers make := by
  intro other found hfound
  rw [get_erase] at hfound
  split at hfound
  · contradiction
  · exact h other found hfound

namespace Cache

/-- Every path with symbols has the text that they were derived from. -/
def Paired (cache : Cache) : Prop :=
  ∀ path entry, cache.symbols.get? path = some entry →
    cache.contents.get? path = some entry.source

/-- Every remembered text is the one that is stored at its path, unless the path is pending, and
every derived answer belongs to its own text. -/
structure Faithful (workspace : Workspace) (pending : List Path) (cache : Cache) : Prop where
  stored : ∀ path text, cache.contents.get? path = some text → path ∉ pending →
    workspace.storage.read path = .ok text
  symbols : ∀ parser, workspace.parser = some parser →
    cache.symbols.Remembers fun path => Workspace.derive parser (.symbols path)
  modules : ∀ parser, workspace.parser = some parser →
    cache.modules.Remembers fun path => Workspace.derive parser (.modules path)
  headers : ∀ parser, workspace.parser = some parser →
    cache.headers.Remembers fun path => Workspace.derive parser (.headers path)

/-- The cache is faithful, and every remembered text is at a path that the workspace holds. -/
structure UpToDate (workspace : Workspace) (pending : List Path) (cache : Cache) : Prop
    extends Faithful workspace pending cache where
  held : ∀ path text, cache.contents.get? path = some text → workspace.Holds path

variable {workspace : Workspace} {pending : List Path} {cache : Cache}

/-- An empty cache is faithful. -/
theorem faithful_empty (workspace : Workspace) (pending : List Path) :
    Faithful workspace pending {} := by
  constructor <;> simp [PathMap.Remembers]

/-- An empty cache is up to date. -/
theorem up_to_date_empty (workspace : Workspace) (pending : List Path) :
    UpToDate workspace pending {} :=
  ⟨faithful_empty workspace pending, by simp⟩

/-- In an empty cache there are no symbols without their texts. -/
theorem paired_empty : Paired {} := by
  simp [Paired]

/-- Counting a remembered answer leaves a cache faithful. -/
theorem Faithful.hit (h : Faithful workspace pending cache) :
    Faithful workspace pending cache.hit :=
  ⟨h.stored, h.symbols, h.modules, h.headers⟩

/-- Counting another answer leaves a cache faithful. -/
theorem Faithful.miss (h : Faithful workspace pending cache) :
    Faithful workspace pending cache.miss :=
  ⟨h.stored, h.symbols, h.modules, h.headers⟩

/-- A text is remembered as it is stored. -/
theorem Faithful.put_content (h : Faithful workspace pending cache) {path : Path} {text : Text}
    (hread : workspace.storage.read path = .ok text) :
    Faithful workspace pending { cache with contents := cache.contents.put path text } where
  stored other found hfound hpending := by
    rw [PathMap.get_put] at hfound
    split at hfound
    · next heq => exact heq ▸ Option.some.inj hfound ▸ hread
    · exact h.stored other found hfound hpending
  symbols := h.symbols
  modules := h.modules
  headers := h.headers

/-- A text is the answer for a file if it is stored there. -/
theorem content_eq_ok {path : Path} {text : Text} :
    workspace.content path = .ok text ↔ workspace.storage.read path = .ok text :=
  map_error_eq_ok

/-- A faithful cache gives the text that is stored. -/
theorem content_faithful (h : Faithful workspace [] cache) (path : Path) :
    (cache.content workspace path).1 = workspace.content path ∧
      Faithful workspace [] (cache.content workspace path).2 := by
  unfold content
  split
  · next text hknown =>
      have hread := h.stored path text hknown List.not_mem_nil
      exact ⟨(content_eq_ok.mpr hread).symm, h.hit⟩
  · split
    · next text hcontent =>
        exact ⟨hcontent.symm, h.miss.put_content (content_eq_ok.mp hcontent)⟩
    · next failure hcontent => exact ⟨hcontent.symm, h.miss⟩

section Derive

variable {α : Type} {store : Cache → Derived α → Cache}

/-- A derived answer is the one that is known for this very text, or else it is made: then it is
stored, or making it fails. -/
theorem derived_cases (known : Option (Derived α)) (text : Text) (make : Text → Except Failure α)
    (store : Cache → Derived α → Cache) (cache : Cache) :
    (∃ entry, known = some entry ∧ entry.source = text ∧
      derived known text make store cache = (.ok entry.value, cache.hit)) ∨
    (∃ value, make text = .ok value ∧
      derived known text make store cache =
        (.ok value, store cache.miss { source := text, value })) ∨
    (∃ failure, make text = .error failure ∧
      derived known text make store cache = (.error failure, cache.miss)) := by
  have hfresh : (∃ value, make text = .ok value ∧ derived none text make store cache =
        (.ok value, store cache.miss { source := text, value })) ∨
      (∃ failure, make text = .error failure ∧
        derived none text make store cache = (.error failure, cache.miss)) := by
    cases hmake : make text with
    | ok value => exact Or.inl ⟨value, rfl, by simp [derived, hmake]⟩
    | error failure => exact Or.inr ⟨failure, rfl, by simp [derived, hmake]⟩
  cases known with
  | none => exact Or.inr hfresh
  | some entry =>
      by_cases heq : entry.source = text
      · exact Or.inl ⟨entry, rfl, heq, by simp [derived, heq]⟩
      · have hmiss : derived (some entry) text make store cache =
            derived none text make store cache := by
          simp [derived, heq]
        rw [hmiss]
        exact Or.inr hfresh

/-- A faithful cache gives what is derived from a text, if what it knows belongs to its text. -/
theorem derived_faithful (h : Faithful workspace [] cache) {known : Option (Derived α)}
    {text : Text} {make : Text → Except Failure α}
    (hknown : ∀ entry, known = some entry → make entry.source = .ok entry.value)
    (hstore : ∀ value, make text = .ok value →
      Faithful workspace [] (store cache.miss { source := text, value })) :
    (derived known text make store cache).1 = make text ∧
      Faithful workspace [] (derived known text make store cache).2 := by
  rcases derived_cases known text make store cache with ⟨entry, hentry, rfl, heq⟩ |
    ⟨value, hmake, heq⟩ | ⟨failure, hmake, heq⟩
  · rw [heq, hknown entry hentry]
    exact ⟨rfl, h.hit⟩
  · rw [heq, hmake]
    exact ⟨rfl, hstore value hmake⟩
  · rw [heq, hmake]
    exact ⟨rfl, h.miss⟩

variable {path : Path} {make : SymbolParser → Text → Except Failure α}
  {look : Cache → Option (Derived α)}

/-- A file whose language is supported is read by the parser of the workspace. -/
theorem parser_of_parser_for {parser : SymbolParser} (h : workspace.parserFor path = .ok parser) :
    workspace.parser = some parser := by
  unfold Workspace.parserFor at h
  split at h
  · contradiction
  · next found hfound =>
      split at h
      · rw [hfound, Except.ok.inj h]
      · contradiction

/-- Symbols that are the answer for a file were parsed from the text of this file. -/
theorem exists_parse_of_answer {symbols : List Symbol}
    (h : workspace.answer (.symbols path) = .ok symbols) :
    ∃ parser text, workspace.parser = some parser ∧ workspace.content path = .ok text ∧
      parser.parse path text = .ok symbols := by
  rw [Workspace.answer, bind_eq_ok] at h
  obtain ⟨parser, hparser, h⟩ := h
  obtain ⟨text, htext, h⟩ := bind_eq_ok.mp h
  exact ⟨parser, text, parser_of_parser_for hparser, htext, map_error_eq_ok.mp h⟩

/-- A faithful cache gives what is derived from the text of a file, if what it looks up and
stores belongs to its text. -/
theorem syntax_of_faithful (h : Faithful workspace [] cache)
    (hlook : ∀ {parser cache entry}, workspace.parser = some parser →
      Faithful workspace [] cache → look cache = some entry →
      make parser entry.source = .ok entry.value)
    (hstore : ∀ {parser cache entry}, workspace.parser = some parser →
      Faithful workspace [] cache → make parser entry.source = .ok entry.value →
      Faithful workspace [] (store cache entry)) :
    (cache.syntaxOf workspace path make look store).1 = (do
        let parser ← workspace.parserFor path
        make parser (← workspace.content path)) ∧
      Faithful workspace [] (cache.syntaxOf workspace path make look store).2 := by
  obtain ⟨hcontent, hcache⟩ := content_faithful h path
  unfold syntaxOf
  cases hparser : workspace.parserFor path with
  | error failure => exact ⟨rfl, h⟩
  | ok parser =>
      have hworkspace := parser_of_parser_for hparser
      rcases hresult : cache.content workspace path with ⟨_ | text, after⟩
      · rw [hresult] at hcontent hcache
        exact ⟨by rw [← hcontent]; rfl, hcache⟩
      · rw [hresult] at hcontent hcache
        rw [← hcontent]
        exact derived_faithful hcache (fun _ => hlook hworkspace hcache)
          fun _ hmake => hstore hworkspace hcache.miss hmake

end Derive

/-- A faithful cache answers a question as the files do. -/
theorem ask_faithful (h : Faithful workspace [] cache) (question : Question) :
    (cache.ask workspace question).1 = workspace.answer question ∧
      Faithful workspace [] (cache.ask workspace question).2 := by
  cases question with
  | content path => exact content_faithful h path
  | symbols path =>
      refine syntax_of_faithful h (fun hparser h hlook => ?_) fun hparser h hmake => ?_
      · exact h.symbols _ hparser path _ hlook
      · exact ⟨h.stored, fun parser hother => (h.symbols parser hother).put
          (by rwa [← Option.some.inj (hparser.symm.trans hother)]), h.modules, h.headers⟩
  | modules path =>
      refine syntax_of_faithful h (fun hparser h hlook => ?_) fun hparser h hmake => ?_
      · exact h.modules _ hparser path _ hlook
      · exact ⟨h.stored, h.symbols, fun parser hother => (h.modules parser hother).put
          (by rwa [← Option.some.inj (hparser.symm.trans hother)]), h.headers⟩
  | headers path =>
      refine syntax_of_faithful h (fun hparser h hlook => ?_) fun hparser h hmake => ?_
      · exact h.headers _ hparser path _ hlook
      · exact ⟨h.stored, h.symbols, h.modules, fun parser hother =>
          (h.headers parser hother).put
            (by rwa [← Option.some.inj (hparser.symm.trans hother)])⟩

/-- Reading a file adds no text at another path. -/
theorem get_content {path other : Path} {text : Text}
    (h : (cache.content workspace path).2.contents.get? other = some text) :
    other = path ∨ cache.contents.get? other = some text := by
  unfold content at h
  split at h
  · exact Or.inr h
  · split at h
    · rw [PathMap.get_put] at h
      split at h
      · next heq => exact Or.inl heq
      · exact Or.inr h
    · exact Or.inr h

/-- Deriving an answer leaves the texts alone, if storing it does. -/
theorem derived_contents {α : Type} {known : Option (Derived α)} {text : Text}
    {make : Text → Except Failure α} {store : Cache → Derived α → Cache}
    (hstore : ∀ cache entry, (store cache entry).contents = cache.contents) :
    (derived known text make store cache).2.contents = cache.contents := by
  rcases derived_cases known text make store cache with ⟨_, _, _, heq⟩ | ⟨_, _, heq⟩ | ⟨_, _, heq⟩
  · rw [heq, hit]
  · rw [heq, hstore, miss]
  · rw [heq, miss]

/-- A question about the syntax of a file reads its text or leaves the texts alone. -/
theorem syntax_of_contents {α : Type} {path : Path}
    {make : SymbolParser → Text → Except Failure α} {look : Cache → Option (Derived α)}
    {store : Cache → Derived α → Cache}
    (hstore : ∀ cache entry, (store cache entry).contents = cache.contents) :
    (cache.syntaxOf workspace path make look store).2.contents = cache.contents ∨
      (cache.syntaxOf workspace path make look store).2.contents =
        (cache.content workspace path).2.contents := by
  unfold syntaxOf
  cases workspace.parserFor path with
  | error failure => exact Or.inl rfl
  | ok parser =>
      rcases cache.content workspace path with ⟨_ | text, after⟩
      · exact Or.inr rfl
      · exact Or.inr (derived_contents hstore)

/-- Answering a question adds no text at another path. -/
theorem get_ask {question : Question} {other : Path} {text : Text}
    (h : (cache.ask workspace question).2.contents.get? other = some text) :
    other = question.path ∨ cache.contents.get? other = some text := by
  have hsyntax : ∀ path, (cache.ask workspace question).2.contents = cache.contents ∨
      (cache.ask workspace question).2.contents = (cache.content workspace path).2.contents →
      other = path ∨ cache.contents.get? other = some text := by
    rintro path (heq | heq) <;> rw [heq] at h
    · exact Or.inr h
    · exact get_content h
  cases question with
  | content path => exact get_content h
  | symbols path => exact hsyntax path (syntax_of_contents fun _ _ => rfl)
  | modules path => exact hsyntax path (syntax_of_contents fun _ _ => rfl)
  | headers path => exact hsyntax path (syntax_of_contents fun _ _ => rfl)

/-- An up-to-date cache answers a question about a path of the workspace as the files do. -/
theorem ask_up_to_date (h : UpToDate workspace [] cache) {question : Question}
    (hheld : workspace.Holds question.path) :
    (cache.ask workspace question).1 = workspace.answer question ∧
      UpToDate workspace [] (cache.ask workspace question).2 := by
  obtain ⟨hanswer, hfaithful⟩ := ask_faithful h.toFaithful question
  refine ⟨hanswer, hfaithful, fun path text hknown => ?_⟩
  rcases get_ask hknown with rfl | hknown
  · exact hheld
  · exact h.held path text hknown

/-- An up-to-date cache gives the text that is stored. -/
theorem content_up_to_date (h : UpToDate workspace [] cache) {path : Path}
    (hheld : workspace.Holds path) :
    (cache.content workspace path).1 = workspace.content path ∧
      UpToDate workspace [] (cache.content workspace path).2 :=
  @ask_up_to_date workspace cache h (.content path) hheld

/-- A text that was given for a file is remembered. -/
theorem content_remembered {path : Path} {text : Text}
    (h : (cache.content workspace path).1 = .ok text) :
    (cache.content workspace path).2.contents.get? path = some text := by
  unfold content at h ⊢
  split at h
  · next known hknown => exact Except.ok.inj h ▸ hknown
  · split at h
    · rw [PathMap.get_put, if_pos rfl, Except.ok.inj h]
    · contradiction

/-- A remembered text is given again, whatever is stored. -/
theorem content_of_remembered {path : Path} {text : Text}
    (h : cache.contents.get? path = some text) :
    (cache.content workspace path).1 = .ok text := by
  simp only [content, h]

/-- Reading a file keeps symbols with their texts. -/
theorem content_paired (h : cache.Paired) (path : Path) :
    (cache.content workspace path).2.Paired := by
  unfold content
  split
  · exact h
  · next hunknown =>
      split
      · intro other entry hentry
        -- A path without a text has no symbols either, so the new text replaces none.
        have hother := h other entry hentry
        have hne : other ≠ path := fun heq => by simp [heq, hunknown] at hother
        rwa [PathMap.get_put, if_neg hne]
      · exact h

/-- Deriving an answer keeps symbols with their texts, if storing it does. -/
theorem syntax_of_paired {α : Type} {path : Path} {make : SymbolParser → Text → Except Failure α}
    {look : Cache → Option (Derived α)} {store : Cache → Derived α → Cache} (h : cache.Paired)
    (hstore : ∀ {cache : Cache} {entry}, cache.Paired →
      cache.contents.get? path = some entry.source → (store cache entry).Paired) :
    (cache.syntaxOf workspace path make look store).2.Paired := by
  have hpaired : (cache.content workspace path).2.Paired := content_paired h path
  have hknown : ∀ text, (cache.content workspace path).1 = .ok text →
      (cache.content workspace path).2.contents.get? path = some text := fun _ => content_remembered
  unfold syntaxOf
  split
  · exact h
  · next parser _ =>
      rcases hresult : cache.content workspace path with ⟨_ | text, after⟩
      · rw [hresult] at hpaired
        exact hpaired
      · rw [hresult] at hpaired hknown
        dsimp only at hpaired hknown ⊢
        rcases derived_cases (look after) text (make parser) store after with ⟨_, _, _, heq⟩ |
          ⟨_, _, heq⟩ | ⟨_, _, heq⟩
        · rw [heq]
          exact hpaired
        · rw [heq]
          exact hstore hpaired (hknown text rfl)
        · rw [heq]
          exact hpaired

/-- Answering a question keeps symbols with their texts. -/
theorem ask_paired (h : cache.Paired) (question : Question) :
    (cache.ask workspace question).2.Paired := by
  cases question with
  | content path => exact content_paired h path
  | symbols path =>
      refine syntax_of_paired h fun {cache entry} hpaired hknown other found hfound => ?_
      rw [PathMap.get_put] at hfound
      split at hfound
      · next heq => rwa [heq, ← Option.some.inj hfound]
      · exact hpaired other found hfound
  | modules path => exact syntax_of_paired h fun hpaired _ => hpaired
  | headers path => exact syntax_of_paired h fun hpaired _ => hpaired

/-- Forgetting a file keeps symbols with their texts. -/
theorem Paired.invalidate (h : cache.Paired) (path : Path) : (cache.invalidate path).Paired := by
  intro other entry hentry
  rw [Cache.invalidate, PathMap.get_erase] at hentry
  rw [Cache.invalidate, PathMap.get_erase]
  split at hentry
  · contradiction
  · next hne => rw [if_neg hne, h other entry hentry]

/-- Forgetting a file settles its path. -/
theorem Faithful.invalidate (h : Faithful workspace pending cache) (path : Path) :
    Faithful workspace (pending.filter (· ≠ path)) (cache.invalidate path) where
  stored other text hknown hpending := by
    rw [Cache.invalidate, PathMap.get_erase] at hknown
    split at hknown
    · contradiction
    · next hne => exact h.stored other text hknown fun hmem => hpending (by simp [hmem, hne])
  symbols parser hparser := (h.symbols parser hparser).erase path
  modules := h.modules
  headers := h.headers

/-- Forgetting a file leaves a cache up to date. -/
theorem UpToDate.invalidate (h : UpToDate workspace pending cache) (path : Path) :
    UpToDate workspace (pending.filter (· ≠ path)) (cache.invalidate path) := by
  refine ⟨h.toFaithful.invalidate path, fun other text hknown => ?_⟩
  rw [Cache.invalidate, PathMap.get_erase] at hknown
  split at hknown
  · contradiction
  · exact h.held other text hknown

/-- A change that shows only at a path makes this path pending. -/
theorem UpToDate.change (h : UpToDate workspace pending cache) {path : Path} {storage : Storage}
    (hchange : workspace.ChangesOnly path storage) :
    UpToDate (workspace.withStorage storage) (path :: pending) cache where
  held := h.held
  stored other text hknown hpending := by
    obtain ⟨hne, hnot⟩ := not_or.mp (fun hmem => hpending (List.mem_cons.mpr hmem))
    exact hchange other (h.held other text hknown) hne text (h.stored other text hknown hnot)
  symbols := h.symbols
  modules := h.modules
  headers := h.headers

end Cache

/-- A question that is asked alone is answered from the cache. -/
theorem Inquiry.run_get (workspace : Workspace) (question : Question) (cache : Cache) :
    (get question).run workspace cache = cache.ask workspace question := by
  unfold get run
  rcases cache.ask workspace question with ⟨failure | value, later⟩ <;> rfl

/-- Answering an inquiry keeps symbols with their texts. -/
theorem Inquiry.run_paired {workspace : Workspace} {α : Type} (inquiry : Inquiry α) {cache : Cache}
    (h : cache.Paired) : (inquiry.run workspace cache).2.Paired := by
  induction inquiry generalizing cache with
  | done value => exact h
  | fail failure => exact h
  | ask question next ih => exact ih _ (Cache.ask_paired h question)

/-- An inquiry that is answered from a faithful cache gives what the files give. -/
theorem Inquiry.run_faithful {workspace : Workspace} {α : Type} (inquiry : Inquiry α)
    {cache : Cache} (h : cache.Faithful workspace []) :
    (inquiry.run workspace cache).1 = inquiry.eval workspace.answer ∧
      (inquiry.run workspace cache).2.Faithful workspace [] := by
  induction inquiry generalizing cache with
  | done value => exact ⟨rfl, h⟩
  | fail failure => exact ⟨rfl, h⟩
  | ask question next ih =>
      obtain ⟨hanswer, hcache⟩ := Cache.ask_faithful h question
      rw [run, eval, ← hanswer]
      exact ih _ hcache

/-- The answers of the workspace fit their questions. -/
def Workspace.Fits (workspace : Workspace) : Prop :=
  ∀ question value, workspace.answer question = .ok value → question.Fits value

/-- An inquiry that is answered from an up-to-date cache gives what the files give. -/
theorem Inquiry.run_up_to_date {workspace : Workspace} (hfits : workspace.Fits) {α : Type}
    {gives : α → Prop} {inquiry : Inquiry α} (hasks : inquiry.Asks workspace.Holds gives)
    {cache : Cache} (h : cache.UpToDate workspace []) :
    (inquiry.run workspace cache).1 = inquiry.eval workspace.answer ∧
      (inquiry.run workspace cache).2.UpToDate workspace [] := by
  induction inquiry generalizing cache with
  | done value => exact ⟨rfl, h⟩
  | fail failure => exact ⟨rfl, h⟩
  | ask question next ih =>
      obtain ⟨hheld, hnext⟩ := hasks
      obtain ⟨hanswer, hcache⟩ := Cache.ask_up_to_date h hheld
      rw [run, eval, ← hanswer]
      exact ih _ (hnext _ fun value hvalue => hfits question value (hanswer ▸ hvalue)) hcache

end CodeAtlas
