import CodeAtlas.Proofs.Graph.Cycle

/-!
# First paths

Read `FirstPath` first. A search in depth that prefers earlier files and earlier imports comes to a
file along one path only, and this path can be told from the graph alone: at none of its files does
an earlier choice lead to its end around the files before. There is at most one such path to a file
(`FirstPath.unique`), and two files that lead to each other are reached through the same first files
(`FirstPath.shares_front`).
-/

namespace CodeAtlas.Graph

variable {graph : Graph}

@[simp] theorem listed_reverse (paths : List Path) (path : Path) :
    listed paths.reverse path = listed paths path := by
  simp [listed]

/-- What is listed stays so in front of further paths. -/
theorem listed_append_left {left : List Path} {path : Path} (h : listed left path = true)
    (right : List Path) : listed (left ++ right) path = true := by
  simp [h]

/-- Where a path can go on, in order: to every file if it is empty, else to the imports of its last
file. -/
def choices (graph : Graph) (front : List Path) : List Path :=
  match front.getLast? with
  | none => graph.paths
  | some file => (graph.node? file).elim [] (·.dependencies)

/-- `Leads graph avoided source target` says that imports lead from `source` to the place of
`target`, and that none of the files on the way, both ends included, is avoided. -/
def Leads (graph : Graph) (avoided : List Path) (source target : Path) : Prop :=
  listed avoided source = false ∧ ∃ last, last.same target = true ∧
    Relation.ReflTransGen (fun file next => graph.Imports file next ∧ listed avoided next = false)
      source last

/-- `FirstPath graph path` says that the path goes through distinct files of the graph, and that
none of the choices before the one it takes leads to its last file around the files before. -/
structure FirstPath (graph : Graph) (path : List Path) : Prop where
  distinct : Distinct path
  is_node : ∀ file ∈ path, (graph.node? file).isSome = true
  first : ∀ front file rest, path = front ++ file :: rest →
    ∃ before after, graph.choices front = before ++ file :: after ∧
      ∀ other ∈ before, ∀ last ∈ path.getLast?, ¬ graph.Leads front other last

/-- Imports lead to a place, however that is spelled. -/
theorem Leads.of_same {avoided : List Path} {source target other : Path}
    (h : graph.Leads avoided source target) (hsame : target.same other = true) :
    graph.Leads avoided source other := by
  obtain ⟨hsource, last, hlast, hwalk⟩ := h
  exact ⟨hsource, last, Path.same_trans hlast hsame, hwalk⟩

/-- Fewer files to avoid leave a walk open. -/
theorem Leads.mono {avoided fewer : List Path} {source target : Path}
    (h : graph.Leads avoided source target)
    (hfewer : ∀ file, listed fewer file = true → listed avoided file = true) :
    graph.Leads fewer source target := by
  have hnot : ∀ file, listed avoided file = false → listed fewer file = false := by
    intro file hfile
    rw [← Bool.not_eq_true] at hfile ⊢
    exact fun hlisted => hfile (hfewer file hlisted)
  obtain ⟨hsource, last, hlast, hwalk⟩ := h
  refine ⟨hnot source hsource, last, hlast, ?_⟩
  exact Relation.ReflTransGen.mono (fun _ next h => ⟨h.1, hnot next h.2⟩) _ _ hwalk

/-- Where imports lead, they lead on. -/
theorem Leads.trans {avoided : List Path} {source middle target : Path}
    (h : graph.Leads avoided source middle) (h' : graph.Leads avoided middle target) :
    graph.Leads avoided source target := by
  obtain ⟨hsource, last, hlast, hwalk⟩ := h
  obtain ⟨_, final, hfinal, hwalk'⟩ := h'
  -- The second walk may start at another spelling of the place where the first one ends.
  rcases Relation.ReflTransGen.cases_head hwalk' with rfl | ⟨next, ⟨himport, hnext⟩, hrest⟩
  · exact ⟨hsource, last, Path.same_trans hlast hfinal, hwalk⟩
  · have himport' : graph.Imports last next := himport.of_same_source (Path.same_comm ▸ hlast)
    exact ⟨hsource, final, hfinal, hwalk.trans (.head ⟨himport', hnext⟩ hrest)⟩

/-- The first file of a chain of imports leads to the last one. -/
theorem leads_of_is_chain {avoided : List Path} {first last : Path} {rest : List Path}
    (hchain : (first :: rest).IsChain graph.Imports)
    (havoided : ∀ file ∈ first :: rest, listed avoided file = false)
    (hlast : last ∈ (first :: rest).getLast?) : graph.Leads avoided first last := by
  induction rest generalizing first with
  | nil =>
      obtain rfl : first = last := by simpa using hlast
      exact ⟨havoided first (by simp), first, Path.same_refl _, .refl⟩
  | cons next rest ih =>
      obtain ⟨himport, hchain⟩ := List.isChain_cons_cons.mp hchain
      obtain ⟨hnext, final, hfinal, hwalk⟩ := ih hchain
        (fun file hfile => havoided file (List.mem_cons_of_mem _ hfile)) (by simpa using hlast)
      exact ⟨havoided first (by simp), final, hfinal, .head ⟨himport, hnext⟩ hwalk⟩

/-- The files after a cut of a distinct list are not among those before it. -/
theorem Distinct.listed_front {front back : List Path} (h : Distinct (front ++ back)) {file : Path}
    (hfile : file ∈ back) : listed front file = false := by
  rw [← Bool.not_eq_true, listed_iff]
  rintro ⟨other, hother, hsame⟩
  have hnot := (List.pairwise_append.mp h).2.2 other hother file hfile
  rw [hsame] at hnot
  contradiction

namespace FirstPath

/-- Every file of a first path imports the next one. -/
theorem imports_next {path front rest : List Path} {file last : Path} (h : graph.FirstPath path)
    (hpath : path = front ++ file :: rest) (hlast : last ∈ front.getLast?) :
    graph.Imports last file := by
  obtain ⟨before, after, hchoices, _⟩ := h.first front file rest hpath
  obtain ⟨node, hnode⟩ := Option.isSome_iff_exists.mp
    (h.is_node last (hpath ▸ List.mem_append_left _ (List.mem_of_getLast? hlast)))
  have hdependencies : node.dependencies = before ++ file :: after := by
    rw [choices, Option.mem_def.mp hlast] at hchoices
    simpa [hnode] using hchoices
  refine ⟨node, hnode, ?_, h.is_node file (by simp [hpath])⟩
  rw [hdependencies]
  simp

/-- A first path is a chain of imports. -/
theorem is_chain {path : List Path} (h : graph.FirstPath path) : path.IsChain graph.Imports := by
  -- The induction is on the files gone through so far.
  have hfront : ∀ front rest, path = front ++ rest → front.IsChain graph.Imports := by
    intro front
    induction front using List.reverseRecOn with
    | nil => exact fun _ _ => List.isChain_nil
    | append_singleton front file ih =>
        intro rest hpath
        have hpath' : path = front ++ file :: rest := by simpa using hpath
        refine List.isChain_append.mpr ⟨ih _ hpath', List.isChain_singleton _, ?_⟩
        intro last hlast next hnext
        obtain rfl : file = next := by simpa using hnext
        exact h.imports_next hpath' hlast
  exact hfront path [] (by simp)

/-- Every file of a first path leads to the last one around the files before it. -/
theorem leads {path front rest : List Path} {file last : Path} (h : graph.FirstPath path)
    (hpath : path = front ++ file :: rest) (hlast : last ∈ path.getLast?) :
    graph.Leads front file last := by
  have hchain : (front ++ file :: rest).IsChain graph.Imports := hpath ▸ h.is_chain
  have hdistinct : Distinct (front ++ file :: rest) := hpath ▸ h.distinct
  refine leads_of_is_chain (List.isChain_append.mp hchain).2.1 ?_ ?_
  · exact fun other hother => hdistinct.listed_front hother
  · simpa [hpath, List.getLast?_append] using hlast

/-- Two first paths that agree so far go on alike, if the next file of each leads to the end of the
other one. -/
theorem next_eq {front rest rest' : List Path} {next next' last last' : Path}
    (h : graph.FirstPath (front ++ next :: rest)) (h' : graph.FirstPath (front ++ next' :: rest'))
    (hlast : last ∈ (front ++ next :: rest).getLast?)
    (hlast' : last' ∈ (front ++ next' :: rest').getLast?)
    (hleads : graph.Leads front next last') (hleads' : graph.Leads front next' last) :
    next = next' := by
  obtain ⟨before, after, hchoices, hfirst⟩ := h.first front next rest rfl
  obtain ⟨before', after', hchoices', hfirst'⟩ := h'.first front next' rest' rfl
  have hnot : next ∉ before' := fun hmem => hfirst' next hmem last' hlast' hleads
  have hnot' : next' ∉ before := fun hmem => hfirst next' hmem last hlast hleads'
  rw [hchoices] at hchoices'
  -- Neither of the two choices comes before the other one.
  rcases List.append_eq_append_iff.mp hchoices' with ⟨between, hbefore, hafter⟩ |
    ⟨between, hbefore, hafter⟩
  · cases between with
    | nil => exact (List.cons.inj hafter).1
    | cons first _ =>
        obtain rfl : next = first := (List.cons.inj hafter).1
        simp [hbefore] at hnot
  · cases between with
    | nil => exact (List.cons.inj hafter).1.symm
    | cons first _ =>
        obtain rfl : next' = first := (List.cons.inj hafter).1
        simp [hbefore] at hnot'

/-- A first path that goes on ends at none of the files before. -/
theorem not_same_last {front rest : List Path} {next last file : Path}
    (h : graph.FirstPath (front ++ next :: rest)) (hlast : last ∈ (front ++ next :: rest).getLast?)
    (hfile : file ∈ front) : ¬ file.same last = true := by
  have hmem : last ∈ next :: rest := by
    rw [List.getLast?_append, List.getLast?_cons] at hlast
    exact List.mem_of_getLast? (by simpa [List.getLast?_cons] using hlast)
  have hnot := h.distinct.listed_front hmem
  intro hsame
  rw [listed_iff.mpr ⟨file, hfile, hsame⟩] at hnot
  contradiction

/-- Two first paths to one file that agree so far agree to the end. -/
theorem unique_of_front {front rest rest' : List Path} {last last' : Path}
    (h : graph.FirstPath (front ++ rest)) (h' : graph.FirstPath (front ++ rest'))
    (hlast : last ∈ (front ++ rest).getLast?) (hlast' : last' ∈ (front ++ rest').getLast?)
    (hsame : last.same last' = true) : rest = rest' := by
  induction rest generalizing front rest' with
  | nil =>
      cases rest' with
      | nil => rfl
      | cons next' rest' =>
          rw [List.append_nil] at hlast
          exact False.elim (h'.not_same_last hlast' (List.mem_of_getLast? hlast) hsame)
  | cons next rest ih =>
      cases rest' with
      | nil =>
          rw [List.append_nil] at hlast'
          have hsame' : last'.same last = true := Path.same_comm ▸ hsame
          exact False.elim (h.not_same_last hlast (List.mem_of_getLast? hlast') hsame')
      | cons next' rest' =>
          have hleads := (h.leads rfl hlast).of_same hsame
          have hleads' := (h'.leads rfl hlast').of_same (Path.same_comm ▸ hsame)
          obtain rfl := h.next_eq h' hlast hlast' hleads hleads'
          have hlonger : graph.FirstPath ((front ++ [next]) ++ rest) := by simpa using h
          have hlonger' : graph.FirstPath ((front ++ [next]) ++ rest') := by simpa using h'
          rw [ih hlonger hlonger' (by simpa using hlast) (by simpa using hlast')]

/-- There is at most one first path to a file. -/
theorem unique {path path' : List Path} {last last' : Path} (h : graph.FirstPath path)
    (h' : graph.FirstPath path') (hlast : last ∈ path.getLast?) (hlast' : last' ∈ path'.getLast?)
    (hsame : last.same last' = true) : path = path' :=
  @unique_of_front graph [] path path' last last' h h' hlast hlast' hsame

/-- The front of a first path is the first path to its own end. -/
theorem take {front rest : List Path} {file : Path} (h : graph.FirstPath (front ++ file :: rest)) :
    graph.FirstPath (front ++ [file]) where
  distinct := h.distinct.sublist (by simp)
  is_node other hother := h.is_node other (by
    rcases List.mem_append.mp hother with hother | hother
    · exact List.mem_append_left _ hother
    · simp [List.mem_singleton.mp hother])
  first front' file' rest' hsplit := by
    have hsplit' : front ++ file :: rest = front' ++ file' :: (rest' ++ rest) := by
      have := congrArg (· ++ rest) hsplit
      simpa using this
    obtain ⟨before, after, hchoices, hfirst⟩ := h.first front' file' _ hsplit'
    refine ⟨before, after, hchoices, ?_⟩
    intro other hother last hlast hleads
    obtain rfl : file = last := by simpa using hlast
    obtain ⟨final, hfinal⟩ : ∃ final, final ∈ (front ++ file :: rest).getLast? := by
      simp [List.getLast?_append, List.getLast?_cons]
    -- What leads to the end of the front would lead on to the end of the path.
    have hfront : ∀ path, listed front' path = true → listed front path = true := by
      intro path hpath
      have hlength := congrArg List.length hsplit
      simp only [List.length_append, List.length_cons, List.length_nil] at hlength
      have hprefix : front' <+: front ++ [file] := ⟨_, hsplit.symm⟩
      have hprefix : front' <+: front :=
        List.prefix_of_prefix_length_le hprefix (List.prefix_append _ _) (by omega)
      obtain ⟨other, hother, hsame⟩ := listed_iff.mp hpath
      exact listed_iff.mpr ⟨other, hprefix.subset hother, hsame⟩
    exact hfirst other hother final hfinal (hleads.trans ((h.leads rfl hfinal).mono hfront))

/-- Two first paths that agree so far go on alike, if their ends lead to each other. -/
theorem next_shared {common front path : List Path} {next file other last : Path}
    (h : graph.FirstPath (common ++ next :: front))
    (hfile : file ∈ (common ++ next :: front).getLast?) (h' : graph.FirstPath (common ++ path))
    (hlast : last ∈ (common ++ path).getLast?) (hsame : last.same other = true)
    (hto : graph.Leads common file other) (hback : graph.Leads common other file) :
    ∃ rest, path = next :: rest := by
  cases path with
  | nil =>
      -- Such a path would end at one of the files to go around.
      have hmem : last ∈ common := List.mem_of_getLast? (by simpa using hlast)
      have hnot := hback.1
      rw [listed_iff.mpr ⟨last, hmem, hsame⟩] at hnot
      contradiction
  | cons next' rest =>
      have hleads : graph.Leads common next last :=
        (h.leads rfl hfile).trans (hto.of_same (Path.same_comm ▸ hsame))
      have hleads' : graph.Leads common next' file :=
        ((h'.leads rfl hlast).of_same hsame).trans hback
      obtain rfl := h.next_eq h' hfile hlast hleads hleads'
      exact ⟨rest, rfl⟩

/-- A first path to a file, and one to another file: if the two lead to each other around the files
before the first of them, then the second path goes through the first one. -/
theorem shares_front {common front path : List Path} {file other last : Path}
    (h : graph.FirstPath (common ++ (front ++ [file]))) (h' : graph.FirstPath (common ++ path))
    (hlast : last ∈ (common ++ path).getLast?) (hsame : last.same other = true)
    (hto : graph.Leads (common ++ front) file other)
    (hback : graph.Leads (common ++ front) other file) :
    ∃ rest, path = front ++ file :: rest := by
  induction front generalizing common path with
  | nil =>
      rw [List.append_nil] at hto hback
      exact h.next_shared (by simp) h' hlast hsame hto hback
  | cons next front ih =>
      have hcommon : ∀ path, listed common path = true →
          listed (common ++ next :: front) path = true :=
        fun path hpath => listed_append_left hpath _
      obtain ⟨rest, rfl⟩ := h.next_shared (by simp [List.getLast?_cons]) h' hlast hsame
        (hto.mono hcommon) (hback.mono hcommon)
      have hlonger : graph.FirstPath ((common ++ [next]) ++ (front ++ [file])) := by simpa using h
      have hlonger' : graph.FirstPath ((common ++ [next]) ++ rest) := by simpa using h'
      obtain ⟨rest', rfl⟩ := ih hlonger hlonger' (by simpa using hlast) (by simpa using hto)
        (by simpa using hback)
      exact ⟨rest', rfl⟩

end FirstPath

end CodeAtlas.Graph
