import CodeAtlas.Inquiry.Basic

/-!
# Remembering answers

A cache remembers the texts of files and what was derived from them. A derived answer is remembered
with its text and used again only for the same text, so it stays right when a text is forgotten.
`Inquiry.run` answers the questions of an inquiry from a cache and fills it on the way.
-/

namespace CodeAtlas

/-- A partial map from paths, as a list without repeated paths. -/
abbrev PathMap (α : Type) := List (Path × α)

namespace PathMap

/-- The value of a path. -/
def get? {α : Type} (map : PathMap α) (path : Path) : Option α :=
  (List.find? (·.1 = path) map).map (·.2)

/-- The map without a path. -/
def erase {α : Type} (map : PathMap α) (path : Path) : PathMap α :=
  List.filter (·.1 ≠ path) map

/-- The map with a value at a path. -/
def put {α : Type} (map : PathMap α) (path : Path) (value : α) : PathMap α :=
  (path, value) :: map.erase path

@[simp] theorem get_nil {α : Type} (path : Path) : get? ([] : PathMap α) path = none :=
  rfl

/-- Erasing a path leaves the values of the others. -/
theorem get_erase {α : Type} (map : PathMap α) (path other : Path) :
    (map.erase path).get? other = if other = path then none else map.get? other := by
  unfold get? erase
  rw [List.find?_filter]
  split
  · next heq => simp [heq]
  · next hne =>
      congr 2
      funext entry
      by_cases h : entry.1 = other <;> simp [h, hne]

/-- Putting a value at a path leaves the values of the others. -/
theorem get_put {α : Type} (map : PathMap α) (path other : Path) (value : α) :
    (map.put path value).get? other = if other = path then some value else map.get? other := by
  by_cases h : other = path
  · simp [put, get?, h]
  · have herase := map.get_erase path other
    simp_all [put, get?, eq_comm]

end PathMap

/-- A value derived from a text. -/
structure Derived (α : Type) where
  source : Text
  value : α
  deriving Inhabited

/-- What is remembered about files. -/
structure Cache where
  contents : PathMap Text := []
  symbols : PathMap (Derived (List Symbol)) := []
  modules : PathMap (Derived ModuleSyntax) := []
  headers : PathMap (Derived (List ClassHeader)) := []
  /-- How often an answer was remembered. -/
  hits : Nat := 0
  /-- How often an answer had to be worked out. -/
  misses : Nat := 0
  deriving Inhabited

namespace Cache

/-- One more remembered answer. -/
def hit (cache : Cache) : Cache :=
  { cache with hits := cache.hits + 1 }

/-- One more answer worked out. -/
def miss (cache : Cache) : Cache :=
  { cache with misses := cache.misses + 1 }

/-- The text of a file. -/
def content (workspace : Workspace) (path : Path) (cache : Cache) : Except Failure Text × Cache :=
  match cache.contents.get? path with
  | some text => (.ok text, cache.hit)
  | none =>
    match workspace.content path with
    | .ok text => (.ok text, { cache.miss with contents := cache.contents.put path text })
    | .error failure => (.error failure, cache.miss)

/-- A derived answer: the remembered one if it belongs to the text, else the one that `make` gives,
which `store` puts into the cache. -/
def derived {α : Type} (known : Option (Derived α)) (text : Text) (make : Text → Except Failure α)
    (store : Cache → Derived α → Cache) (cache : Cache) : Except Failure α × Cache :=
  let fresh : Except Failure α × Cache :=
    match make text with
    | .ok value => (.ok value, store cache.miss { source := text, value })
    | .error failure => (.error failure, cache.miss)
  match known with
  -- An answer that was derived from another text of this path does not count.
  | some entry => if entry.source = text then (.ok entry.value, cache.hit) else fresh
  | none => fresh

/-- Answer a question about the syntax of a file in a supported language. -/
def syntaxOf (workspace : Workspace) (path : Path) {α : Type}
    (make : SymbolParser → Text → Except Failure α) (look : Cache → Option (Derived α))
    (store : Cache → Derived α → Cache) (cache : Cache) : Except Failure α × Cache :=
  match workspace.parserFor path with
  | .error failure => (.error failure, cache)
  | .ok parser =>
    match cache.content workspace path with
    | (.error failure, cache) => (.error failure, cache)
    | (.ok text, cache) => derived (look cache) text (make parser) store cache

/-- Answer a question. -/
def ask (workspace : Workspace) (question : Question) (cache : Cache) :
    Except Failure question.Answer × Cache :=
  match question with
  | .content path => cache.content workspace path
  | .symbols path =>
    cache.syntaxOf workspace path (fun parser => Workspace.derive parser (.symbols path))
      (·.symbols.get? path) fun cache entry =>
        { cache with symbols := cache.symbols.put path entry }
  | .modules path =>
    cache.syntaxOf workspace path (fun parser => Workspace.derive parser (.modules path))
      (·.modules.get? path) fun cache entry =>
        { cache with modules := cache.modules.put path entry }
  | .headers path =>
    cache.syntaxOf workspace path (fun parser => Workspace.derive parser (.headers path))
      (·.headers.get? path) fun cache entry =>
        { cache with headers := cache.headers.put path entry }

/-- Forget the text and the symbols of one file. -/
def invalidate (path : Path) (cache : Cache) : Cache :=
  { cache with contents := cache.contents.erase path, symbols := cache.symbols.erase path }

/-- The counts of a cache. -/
structure Stats where
  contentEntries : Nat
  symbolEntries : Nat
  hits : Nat
  misses : Nat
  deriving DecidableEq, Repr, Inhabited

/-- The counts of this cache. -/
def stats (cache : Cache) : Stats :=
  { contentEntries := cache.contents.length, symbolEntries := cache.symbols.length
    hits := cache.hits, misses := cache.misses }

end Cache

/-- The result of an inquiry whose questions a cache answers, with the cache afterwards. -/
def Inquiry.run {α : Type} (workspace : Workspace) : Inquiry α → Cache → Except Failure α × Cache
  | .done value, cache => (.ok value, cache)
  | .fail failure, cache => (.error failure, cache)
  | .ask question next, cache =>
    let (answer, cache) := cache.ask workspace question
    (next answer).run workspace cache

end CodeAtlas
