import CodeAtlas.Path.Order
import CodeAtlas.Proofs.Path.Join
import CodeAtlas.Workspace.Basic
import CodeAtlas.Workspace.Ignore
import CodeAtlas.Workspace.Memory

/-!
# Changes that show at one path

`Workspace.ChangesOnly` says that a text can get lost or change at one path only. Writing and
deleting files in memory is such a change, and so are writing and deleting files in a tree without
symbolic links. Through a link, one change shows at two paths.
-/

namespace CodeAtlas

namespace Workspace

/-- The workspace with other files. -/
def withStorage (workspace : Workspace) (storage : Storage) : Workspace :=
  { workspace with storage }

/-- With other files, a change shows only at a path: at every other path that the workspace holds, a
text stays as it was. -/
def ChangesOnly (workspace : Workspace) (path : Path) (storage : Storage) : Prop :=
  ∀ other, workspace.Holds other → other ≠ path → ∀ text,
    workspace.storage.read other = .ok text → storage.read other = .ok text

end Workspace

namespace MemoryFiles

variable {workspace : Workspace} {memory : MemoryFiles} {reversed : Bool}

/-- A file that is put into a list leaves the files at other places. -/
theorem find_insert_file {path target : Path} (h : path.same target = false) (content : Option Text)
    (files : List (Path × Option Text)) :
    (insertFile path content files).find? (fun entry => entry.1.same target) =
      files.find? fun entry => entry.1.same target := by
  induction files with
  | nil => simp [insertFile, h]
  | cons entry rest ih =>
      obtain ⟨other, text⟩ := entry
      rw [insertFile]
      split
      · rw [List.find?_cons_of_neg (by simp [h])]
      · next heq =>
          -- The entry that is replaced names the same place, which is not the target.
          have hsame : path.same other = true := Path.compare_eq_iff.mp heq
          have hother : other.same target = false :=
            Bool.eq_false_iff.mpr fun hall => by simp [Path.same_trans hsame hall] at h
          rw [List.find?_cons_of_neg (by simp [hother]), List.find?_cons_of_neg (by simp [hother])]
      · rw [List.find?_cons, List.find?_cons, ih]

/-- Writing a file leaves the files at other paths. -/
theorem content_write {path other : Path} (h : path.normalize.same other.normalize = false)
    (content : Option Text) :
    (memory.write path content).content? other = memory.content? other := by
  unfold content? write
  rw [find_insert_file h]

/-- Deleting a file leaves the files at other paths. -/
theorem content_remove {path other : Path} (h : path.normalize.same other.normalize = false) :
    (memory.remove path).content? other = memory.content? other := by
  unfold content? remove
  rw [List.find?_filter]
  congr 2
  funext entry
  cases hother : entry.1.same other.normalize with
  | false => simp [hother]
  | true =>
      have hpath : entry.1.same path.normalize = false := by
        refine Bool.eq_false_iff.mpr fun hsame => ?_
        rw [Path.same_comm] at hsame
        simp [Path.same_trans hsame hother] at h
      simp [hother, hpath]

/-- Where the contents at other paths stay, a change shows only at its path. -/
theorem changes_only_of_content {after : MemoryFiles} {path : Path}
    (hstorage : workspace.storage = memory.storage reversed)
    (h : ∀ {other : Path}, path.normalize.same other.normalize = false →
      after.content? other = memory.content? other) :
    workspace.ChangesOnly path.normalize (after.storage reversed) := by
  intro other hheld hne text hread
  have hother : path.normalize.same other.normalize = false := by
    rw [show other.normalize = other from hheld.1]
    refine Bool.eq_false_iff.mpr fun hsame => hne ?_
    exact (((Path.normalize_is_plain path).same_iff hheld.1).mp hsame).symm
  rw [hstorage] at hread
  simpa only [storage, h hother] using hread

/-- Writing a file in memory shows only at its path. -/
theorem write_changes_only (hstorage : workspace.storage = memory.storage reversed) (path : Path)
    (content : Option Text) :
    workspace.ChangesOnly path.normalize ((memory.write path content).storage reversed) :=
  changes_only_of_content hstorage fun h => content_write h content

/-- Deleting a file in memory shows only at its path. -/
theorem remove_changes_only (hstorage : workspace.storage = memory.storage reversed) (path : Path) :
    workspace.ChangesOnly path.normalize ((memory.remove path).storage reversed) :=
  changes_only_of_content hstorage content_remove

end MemoryFiles

namespace FileTree

variable {tree : FileTree}

/-- A tree without symbolic links. -/
def LinkFree (tree : FileTree) : Prop :=
  ∀ names target, tree.at? names ≠ some (.link target)

/-- The tree at the end of two chains is the one at the end of the second, from the end of the
first. -/
theorem at_append (tree : FileTree) (names rest : List String) :
    tree.at? (names ++ rest) = (tree.at? names).bind (·.at? rest) := by
  induction names generalizing tree with
  | nil => rfl
  | cons name names ih =>
      rw [List.cons_append, at?, at?, Option.bind_assoc]
      congr 1
      funext below
      exact ih below

/-- The entry of a directory is the tree one name further. -/
theorem at_entry {place : List String} {entries : List (String × FileTree)} {name : String}
    (h : tree.at? place.reverse = some (.directory entries)) :
    tree.at? (name :: place).reverse = (entries.find? (·.1 = name)).map (·.2) := by
  rw [List.reverse_cons, at_append, h]
  change ((entries.find? (·.1 = name)).map (·.2)).bind (·.at? []) = _
  exact Option.bind_fun_some _

/-- Only directories have something below them. -/
theorem exists_entries_of_at {name : String} {rest : List String} {item : FileTree}
    (h : tree.at? (name :: rest) = some item) :
    ∃ entries found, tree = .directory entries ∧
      entries.find? (·.1 = name) = some found ∧ found.2.at? rest = some item := by
  cases tree with
  | directory entries =>
      obtain ⟨below, hbelow, hitem⟩ := Option.bind_eq_some_iff.mp h
      obtain ⟨found, hfound, rfl⟩ := Option.map_eq_some_iff.mp hbelow
      exact ⟨entries, found, rfl, hfound, hitem⟩
  | file text => contradiction
  | link target => contradiction

/-- Without links, names lead to the end of their chain or nowhere. -/
theorem resolve_from_link_free (hlinks : tree.LinkFree) {links : Nat}
    {place names result : List String}
    (h : tree.resolveFrom links place (names.map .name) = .ok result) :
    result = place.reverse ++ names := by
  induction names generalizing place with
  | nil =>
      rw [List.map_nil, resolveFrom] at h
      rw [List.append_nil, Except.ok.inj h]
  | cons name rest ih =>
      rw [List.map_cons, resolveFrom] at h
      split at h
      · next entries hplace =>
          dsimp only at h
          split at h
          · contradiction
          · next target hfound =>
              have hlink : tree.at? (name :: place).reverse = some (.link target) := by
                rw [at_entry hplace, hfound]
                rfl
              exact absurd hlink (hlinks _ target)
          · simpa using ih h
      · contradiction
      · contradiction

/-- Names lead to a file at the end of their chain. -/
theorem resolve_from_of_at {links : Nat} {place names : List String} {text : Option Text}
    (h : tree.at? (place.reverse ++ names) = some (.file text)) :
    tree.resolveFrom links place (names.map .name) = .ok (place.reverse ++ names) := by
  induction names generalizing place with
  | nil => rw [List.map_nil, resolveFrom, List.append_nil]
  | cons name rest ih =>
      have hrest : tree.at? ((name :: place).reverse ++ rest) = some (.file text) := by
        simpa using h
      rw [at_append] at h
      obtain ⟨below, hbelow, hfile⟩ := Option.bind_eq_some_iff.mp h
      obtain ⟨entries, found, rfl, hfound, hend⟩ := exists_entries_of_at hfile
      rw [List.map_cons, resolveFrom, hbelow]
      dsimp only
      rw [hfound]
      split
      · contradiction
      · -- A link has no entries, and it is not the file at the end either.
        next target heq =>
          rw [Option.some.inj heq] at hend
          cases rest with
          | nil => cases hend
          | cons next rest => cases hend
      · simpa using ih hrest

/-- The spelling of a chain of names starts at the top and goes along the names. -/
theorem steps_path_of {names : List String} (hnames : ∀ name ∈ names, Path.IsName name)
    (hne : names ≠ []) : steps (pathOf names) = .current :: names.map .name := by
  have hspelled : (pathOf names).text.toList = '/' :: ("/".intercalate names).toList := by
    simp [pathOf, Path.ofComponents, Component.spelling, Function.comp_def]
  rw [steps, hspelled]
  have hsplit := Path.split_by_intercalate (fun name h => (hnames name h).1) hne
  simp only [Text.splitBy, decide_true, if_true, hsplit, List.map_cons, List.map_map]
  congr 1
  refine List.map_congr_left fun name hname => ?_
  rw [Function.comp, (hnames name hname).2]
  rfl

/-- The way to the end of a chain of names starts in a directory at the top. -/
theorem resolve_path_of {names : List String} (hnames : ∀ name ∈ names, Path.IsName name)
    (hne : names ≠ []) :
    tree.resolve (pathOf names) =
      match tree with
      | .directory _ => tree.resolveFrom 40 [] (names.map .name)
      | _ => .error .notDirectory := by
  rw [resolve, steps_path_of hnames hne, resolveFrom]
  cases tree <;> rfl

/-- The top of a tree is not read as a file. -/
theorem read_top_ne_ok (tree : FileTree) (text : Text) : tree.read (pathOf []) ≠ .ok text := by
  have hsteps : steps (pathOf []) = [.current, .current] := by decide
  rw [read, resolve, hsteps, resolveFrom]
  cases tree with
  | directory entries =>
    simp [at?, resolveFrom]
  | file text => simp [at?]
  | link target => simp [at?]

/-- The path of a chain of names leads along it, if there is a file at the end. -/
theorem resolve_of_at {names : List String} (hnames : ∀ name ∈ names, Path.IsName name)
    (hne : names ≠ []) {text : Option Text} (h : tree.at? names = some (.file text)) :
    tree.resolve (pathOf names) = .ok names := by
  obtain ⟨name, rest, rfl⟩ := List.exists_cons_of_ne_nil hne
  obtain ⟨entries, found, rfl, _, _⟩ := exists_entries_of_at h
  rw [resolve_path_of hnames hne]
  have hresolve : (directory entries).resolveFrom 40 [] ((name :: rest).map .name) =
      .ok (name :: rest) := resolve_from_of_at h
  exact hresolve

/-- A file is read at the end of its chain of names. -/
theorem read_of_at {names : List String} (hnames : ∀ name ∈ names, Path.IsName name)
    (hne : names ≠ []) {text : Text} (h : tree.at? names = some (.file (some text))) :
    tree.read (pathOf names) = .ok text := by
  rw [read, resolve_of_at hnames hne h]
  dsimp only
  rw [h]

/-- Without links, whatever is read at the end of a chain of names is a file there. -/
theorem at_of_read (hlinks : tree.LinkFree) {names : List String}
    (hnames : ∀ name ∈ names, Path.IsName name) {text : Text}
    (h : tree.read (pathOf names) = .ok text) :
    names ≠ [] ∧ tree.at? names = some (.file (some text)) := by
  have hne : names ≠ [] := by
    rintro rfl
    exact read_top_ne_ok tree text h
  refine ⟨hne, ?_⟩
  rw [read, resolve_path_of hnames hne] at h
  cases tree with
  | directory entries =>
      dsimp only at h
      split at h
      · contradiction
      · next result hresult =>
          obtain rfl : result = names := resolve_from_link_free hlinks hresult
          split at h
          · next heq => rw [heq, Except.ok.inj h]
          · contradiction
          · contradiction
          · contradiction
  | file text => contradiction
  | link target => contradiction

/-- After an entry was put in its place, its name leads to it and the other names lead where they
led. -/
theorem find_insert_entry (name other : String) (item : FileTree)
    (entries : List (String × FileTree)) :
    ((insertEntry name item entries).find? (·.1 = other)).map (·.2) =
      if other = name then some item else (entries.find? (·.1 = other)).map (·.2) := by
  induction entries with
  | nil =>
      by_cases h : other = name
      · simp [insertEntry, h]
      · simp [insertEntry, h, Ne.symm h]
  | cons entry rest ih =>
      obtain ⟨found, below⟩ := entry
      rw [insertEntry]
      by_cases h : other = name
      · subst h
        split
        · simp
        · split
          · simp
          · next hne => simpa [Ne.symm hne] using ih
      · rw [if_neg h] at ih ⊢
        split
        · simp [Ne.symm h]
        · split
          · next heq => simp [← heq, Ne.symm h]
          · rw [List.find?_cons, List.find?_cons]
            split
            · rfl
            · exact ih

/-- What is put at the end of a chain of names leaves alone what is neither above nor below it. -/
theorem at_insert (item : FileTree) {names other : List String} (h : ¬ names <+: other)
    (h' : ¬ other <+: names) : (tree.insert names item).at? other = tree.at? other := by
  induction names generalizing tree other with
  | nil => exact absurd List.nil_prefix h
  | cons name rest ih =>
      cases other with
      | nil => exact absurd List.nil_prefix h'
      | cons first others =>
          rw [List.cons_prefix_cons] at h h'
          rw [insert, at?, at?, entry?, entries, find_insert_entry]
          by_cases hfirst : first = name
          · subst hfirst
            rw [if_pos rfl, Option.bind_some,
              ih (fun hprefix => h ⟨rfl, hprefix⟩) fun hprefix => h' ⟨rfl, hprefix⟩]
            cases tree.entry? first with
            | some below => rfl
            | none =>
                -- Only the way itself is new below an entry that was not there.
                cases others with
                | nil => exact absurd ⟨rfl, List.nil_prefix⟩ h'
                | cons next others => rfl
          · rw [if_neg hfirst]
            rfl

/-- What is deleted leaves alone what is neither above nor below it. -/
theorem at_remove {names other : List String} (h : ¬ names <+: other) (h' : ¬ other <+: names) :
    (tree.remove names).at? other = tree.at? other := by
  induction names generalizing tree other with
  | nil => exact absurd List.nil_prefix h
  | cons name rest ih =>
      cases other with
      | nil => exact absurd List.nil_prefix h'
      | cons first others =>
          rw [List.cons_prefix_cons] at h h'
          cases rest with
          | nil =>
              have hfirst : first ≠ name := fun heq => h ⟨heq.symm, List.nil_prefix⟩
              rw [remove, at?, at?, entry?, entry?, entries, List.find?_filter]
              congr 3
              funext entry
              by_cases hentry : entry.1 = first <;> simp [hentry, hfirst]
          | cons next rest =>
              rw [remove]
              · cases hbelow : tree.entry? name with
                | none => rfl
                | some below =>
                    dsimp only
                    rw [at?, at?, entry?, entries, find_insert_entry]
                    by_cases hfirst : first = name
                    · subst hfirst
                      rw [if_pos rfl, hbelow]
                      exact ih (fun hprefix => h ⟨rfl, hprefix⟩) fun hprefix => h' ⟨rfl, hprefix⟩
                    · rw [if_neg hfirst]
                      rfl
              · nofun

/-- There are no files above or below the end of a chain of names. -/
def Clear (tree : FileTree) (names : List String) : Prop :=
  ∀ other text, tree.at? other = some (.file text) → other ≠ names →
    ¬ names <+: other ∧ ¬ other <+: names

/-- There is nothing below a file. -/
theorem at_below_file {names rest : List String} {text : Option Text} {item : FileTree}
    (h : tree.at? names = some (.file text)) (hrest : tree.at? (names ++ rest) = some item) :
    rest = [] := by
  rw [at_append, h] at hrest
  cases rest with
  | nil => rfl
  | cons name rest => exact nomatch hrest

/-- There are no files above or below a file. -/
theorem clear_of_file {names : List String} {text : Option Text}
    (h : tree.at? names = some (.file text)) : tree.Clear names := by
  refine fun other found hother hne => ⟨?_, ?_⟩
  · rintro ⟨rest, rfl⟩
    exact hne (by simp [at_below_file h hother])
  · rintro ⟨rest, rfl⟩
    exact hne (by simp [at_below_file hother h])

/-- There are no files above or below a place for a new file in a directory. -/
theorem clear_of_new {place : List String} {name : String} {entries : List (String × FileTree)}
    (hplace : tree.at? place = some (.directory entries)) (h : tree.at? (place ++ [name]) = none) :
    tree.Clear (place ++ [name]) := by
  refine fun other found hother hne => ⟨?_, ?_⟩
  · rintro ⟨rest, rfl⟩
    rw [at_append, h] at hother
    contradiction
  · intro hprefix
    rcases List.prefix_concat_iff.mp hprefix with heq | ⟨rest, rfl⟩
    · exact hne heq
    · rw [at_below_file hother hplace, List.append_nil, hother] at hplace
      exact nomatch hplace

/-- A path that a workspace with an absolute root holds is a chain of names from the top. -/
theorem exists_names_of_holds {workspace : Workspace} (habsolute : workspace.root.isAbsolute = true)
    {path : Path} (h : workspace.Holds path) :
    ∃ names, (∀ name ∈ names, Path.IsName name) ∧ path = pathOf names := by
  obtain ⟨hplain, hstarts⟩ := h
  obtain ⟨names, hnames, hplace | hplace⟩ := (Path.is_place_of_components path).reverse_eq
  · have hspelled : path = Path.ofComponents (names.map .name) := by
      rw [← hplace]
      exact hplain.symm
    rw [Path.startsWith, Path.components_of_absolute habsolute, hspelled,
      Path.components_of_names hnames] at hstarts
    cases names with
    | nil => contradiction
    | cons name names => simp [Path.dropPrefix?] at hstarts
  · exact ⟨names, hnames, by rw [pathOf, ← hplace]; exact hplain.symm⟩

section Changes

variable {workspace : Workspace} {root : Path} {names : List String}
  (hstorage : workspace.storage = tree.storage root) (habsolute : workspace.root.isAbsolute = true)
  (hlinks : tree.LinkFree) (hclear : tree.Clear names)

include hstorage habsolute hlinks hclear

/-- Where everything that is neither above nor below a place stays, a change shows only there. -/
theorem changes_only_of_at {after : FileTree}
    (h : ∀ other, ¬ names <+: other → ¬ other <+: names → after.at? other = tree.at? other) :
    workspace.ChangesOnly (pathOf names) (after.storage root) := by
  intro path hheld hne text hread
  obtain ⟨other, hnames, rfl⟩ := exists_names_of_holds habsolute hheld
  rw [hstorage] at hread
  -- Without links, the text comes from a file at the very names, which the change leaves alone.
  obtain ⟨hother, hfile⟩ := at_of_read hlinks hnames hread
  obtain ⟨hbelow, habove⟩ := hclear other _ hfile fun heq => hne (heq ▸ rfl)
  exact read_of_at hnames hother ((h other hbelow habove).trans hfile)

/-- Writing a file in a tree without links shows only at its path. -/
theorem insert_changes_only (item : FileTree) :
    workspace.ChangesOnly (pathOf names) ((tree.insert names item).storage root) :=
  changes_only_of_at hstorage habsolute hlinks hclear fun _ => at_insert item

/-- Deleting a file in a tree without links shows only at its path. -/
theorem remove_changes_only :
    workspace.ChangesOnly (pathOf names) ((tree.remove names).storage root) :=
  changes_only_of_at hstorage habsolute hlinks hclear fun _ => at_remove

end Changes

end FileTree

end CodeAtlas
