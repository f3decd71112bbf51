import CodeAtlas.Proofs.Module.Denote
import CodeAtlas.Proofs.Module.Merge
import CodeAtlas.Proofs.Module.Places

/-!
# Printed lines are read back

The scan of printed lines gives what the lines denote (`scan_print`): every form gives the findings of
its own lines, no bare call is left over, and sorting by offset puts them in the order of the lines.
-/

namespace CodeAtlas.Module

open Pattern (Match)
open Text (byteLength StandsAt)

section Stand

variable {code : Text} {offset : Nat}

/-- What a line has in front of its quoted specifier. -/
def Line.ahead : Line → Text
  | .sideEffect _ => "import ".toList
  | .importFrom clause _ => "import ".toList ++ clause.text ++ " from ".toList
  | .importRequire name _ => "import ".toList ++ name.text ++ " = ".toList ++ "require(".toList
  | .requireBinding binding _ => "const ".toList ++ binding.text ++ " = ".toList ++ "require(".toList
  | .exportStar _ => "export * from ".toList
  | .exportList first others _ =>
    "export ".toList ++ bracesText .byWord first others ++ " from ".toList

/-- What a line has behind its quoted specifier. -/
def Line.behind : Line → Text
  | .importRequire _ _ | .requireBinding _ _ => [')']
  | .sideEffect _ | .importFrom _ _ | .exportStar _ | .exportList _ _ _ => []

/-- A line is its quoted specifier with what stands around it. -/
theorem Line.text_around (line : Line) :
    line.text = line.ahead ++ (line.source.quoted ++ line.behind) := by
  have hcall : ∀ (code : Text) (source : Specifier),
      code ++ source.call = code ++ "require(".toList ++ (source.quoted ++ [')']) := by
    intro code source
    rw [List.append_assoc]
    exact congrArg _ (List.append_assoc _ _ _)
  cases line with
  | sideEffect source | importFrom clause source | exportStar source | exportList first others source =>
      exact congrArg (_ ++ ·) (List.append_nil source.quoted).symm
  | importRequire name source | requireBinding binding source => exact hcall _ source

/-- The specifier of a line starts behind what stands in front of it and a quote. -/
theorem Line.specifier_start_eq (line : Line) (offset : Nat) :
    line.specifierStart offset = offset + (byteLength line.ahead + 1) := by
  have hfrom : byteLength " from ".toList = 6 := rfl
  have hassign : byteLength " = ".toList = 3 := rfl
  have hrequire : byteLength "require(".toList = 8 := rfl
  have himport : byteLength "import ".toList = 7 := rfl
  have hconst : byteLength "const ".toList = 6 := rfl
  have hexport : byteLength "export ".toList = 7 := rfl
  have hbraces : ∀ first others, byteLength (bracesText .byWord first others) =
      byteLength (listText .byWord first others) + 2 := by
    intro first others
    rw [bracesText, byteLength, Text.byte_length_append]
    exact Nat.add_comm 1 _
  cases line with
  | sideEffect source | exportStar source => rfl
  | importFrom clause source =>
      change offset + 7 + _ + 7 =
        offset + (byteLength ("import ".toList ++ clause.text ++ " from ".toList) + 1)
      rw [Text.byte_length_append, Text.byte_length_append, himport, hfrom]
      omega
  | importRequire name source =>
      change offset + 7 + _ + 12 = offset + (byteLength ("import ".toList ++ name.text ++
        " = ".toList ++ "require(".toList) + 1)
      rw [Text.byte_length_append, Text.byte_length_append, Text.byte_length_append, himport, hassign,
        hrequire]
      omega
  | requireBinding binding source =>
      change offset + 6 + _ + 12 = offset + (byteLength ("const ".toList ++ binding.text ++
        " = ".toList ++ "require(".toList) + 1)
      rw [Text.byte_length_append, Text.byte_length_append, Text.byte_length_append, hconst, hassign,
        hrequire]
      omega
  | exportList first others source =>
      change offset + 8 + _ + 8 = offset + (byteLength ("export ".toList ++
        bracesText .byWord first others ++ " from ".toList) + 1)
      rw [Text.byte_length_append, Text.byte_length_append, hexport, hbraces, hfrom]
      omega

/-- A line has its specifier where it says. -/
theorem Line.specifier_stands (line : Line) (offset : Nat) : ∃ front back,
    line.text = front ++ (line.source.text ++ back) ∧
      line.specifierStart offset = offset + byteLength front := by
  refine ⟨line.ahead ++ ['\''], '\'' :: line.behind, ?_, ?_⟩
  · rw [line.text_around, Specifier.quoted]
    simp
  · rw [line.specifier_start_eq, Text.byte_length_append]
    rfl

/-- A line has its clause where it says. -/
theorem Line.clause_stands (line : Line) {start : Nat} {clause : Text}
    (h : line.clause? offset = some (start, clause)) : ∃ front back,
      line.text = front ++ (clause ++ back) ∧ start = offset + byteLength front := by
  cases line with
  | sideEffect _ | exportStar _ => cases h
  | importFrom given source =>
      obtain ⟨rfl, rfl⟩ := Prod.mk.inj (Option.some.inj h)
      refine ⟨"import ".toList, " from ".toList ++ source.quoted, ?_, rfl⟩
      show "import ".toList ++ given.text ++ " from ".toList ++ source.quoted = _
      rw [List.append_assoc, List.append_assoc]
  | importRequire name source =>
      obtain ⟨rfl, rfl⟩ := Prod.mk.inj (Option.some.inj h)
      refine ⟨"import ".toList, " = ".toList ++ source.call, ?_, rfl⟩
      show "import ".toList ++ name.text ++ " = ".toList ++ source.call = _
      rw [List.append_assoc, List.append_assoc]
  | requireBinding binding source =>
      obtain ⟨rfl, rfl⟩ := Prod.mk.inj (Option.some.inj h)
      refine ⟨"const ".toList, " = ".toList ++ source.call, ?_, rfl⟩
      show "const ".toList ++ binding.text ++ " = ".toList ++ source.call = _
      rw [List.append_assoc, List.append_assoc]
  | exportList first others source =>
      obtain ⟨rfl, rfl⟩ := Prod.mk.inj (Option.some.inj h)
      refine ⟨"export ".toList ++ ['{'], '}' :: (" from ".toList ++ source.quoted), ?_, rfl⟩
      show "export ".toList ++ bracesText .byWord first others ++ " from ".toList ++ source.quoted = _
      rw [bracesText]
      simp only [List.append_assoc, List.cons_append, List.nil_append]

/-- The specifier of a line is read where the line stands. -/
theorem Line.specifier_text (line : Line) (h : StandsAt code offset line.text) :
    (line.found offset).text? code line.form.specifierGroup = some line.source.text := by
  obtain ⟨front, back, htext, hstart⟩ := line.specifier_stands offset
  have hgroup : (line.found offset).group? line.form.specifierGroup =
      some (line.specifierStart offset,
        line.specifierStart offset + byteLength line.source.text) := by
    rw [Match.group?, Line.found, Line.groups, List.find?_cons_of_pos (by simp)]
    rfl
  rw [Match.text?, hgroup, Option.bind_some, Text.slice_eq_some_iff]
  refine ⟨?_, rfl⟩
  rw [hstart]
  exact h.trans ⟨front, back, htext, rfl⟩

/-- The clause of a line is read where the line stands. -/
theorem Line.clause_text (line : Line) (h : StandsAt code offset line.text) {start : Nat}
    {clause : Text} (hclause : line.clause? offset = some (start, clause)) :
    (line.found offset).text? code 1 = some clause := by
  obtain ⟨front, back, htext, hstart⟩ := line.clause_stands hclause
  have hbinds : line.form.specifierGroup ≠ 1 := by
    cases line with
    | sideEffect _ | exportStar _ => cases hclause
    | importFrom _ _ | importRequire _ _ | requireBinding _ _ | exportList _ _ _ =>
        rw [Line.form]
        decide
  have hgroup : (line.found offset).group? 1 = some (start, start + byteLength clause) := by
    rw [Match.group?, Line.found, Line.groups, hclause, List.find?_cons_of_neg (by simpa using hbinds)]
    rfl
  rw [Match.text?, hgroup, Option.bind_some, Text.slice_eq_some_iff]
  refine ⟨?_, rfl⟩
  rw [hstart]
  exact h.trans ⟨front, back, htext, rfl⟩

/-- The call of `require` in a line has its specifier where the line has it. -/
theorem Line.call_text (line : Line) (hcalls : line.calls = true)
    (h : StandsAt code offset line.text) :
    (line.callFound offset).text? code 1 = some line.source.text := by
  obtain ⟨front, back, htext, hstart⟩ := line.specifier_stands offset
  have hcall : line.callStart offset + 9 = line.specifierStart offset := by
    cases line with
    | importRequire name source => rw [Line.callStart, Line.specifierStart]; omega
    | requireBinding binding source => rw [Line.callStart, Line.specifierStart]; omega
    | _ => cases hcalls
  have hgroup : (line.callFound offset).group? 1 = some (line.specifierStart offset,
      line.specifierStart offset + byteLength line.source.text) := by
    rw [Match.group?, Line.callFound, hcall]
    rfl
  rw [Match.text?, hgroup, Option.bind_some, Text.slice_eq_some_iff]
  refine ⟨?_, rfl⟩
  rw [hstart]
  exact h.trans ⟨front, back, htext, rfl⟩

/-- The lines of a print stand at their places. -/
theorem stands_at_of_mem_places {ended : Bool} {lines : List Line} {start : Nat} {place : Nat × Line}
    (hcode : StandsAt code start (print ended lines)) (h : place ∈ placesFrom start lines) :
    StandsAt code place.1 place.2.text := by
  induction lines generalizing start with
  | nil => cases h
  | cons line rest ih =>
      rw [print] at hcode
      rcases List.mem_cons.mp h with rfl | hlater
      · exact hcode.front
      · refine ih ?_ hlater
        have hback := hcode.back.tail
        have hsemicolon : (';' : Char).utf8Size = 1 := rfl
        rw [hsemicolon] at hback
        split at hback
        · next hlast =>
            rw [Bool.and_eq_true, List.isEmpty_iff] at hlast
            obtain ⟨rfl, -⟩ := hlast
            cases hlater
        · exact hback.tail

end Stand

/-- What is found in a line that starts at an offset. -/
def Line.findings (offset : Nat) (line : Line) : Findings :=
  .ofMatch (line.found offset) line.imports line.exports line.binds

/-- What is found in some places, one after another. -/
def gather (places : List (Nat × Line)) : Findings where
  imports := places.flatMap fun place => place.2.imports.map (place.1, ·)
  exports := places.flatMap fun place => place.2.exports.map (place.1, ·)
  bindings := places.flatMap fun place =>
    if place.2.binds then [⟨place.1, place.1 + byteLength place.2.text⟩] else []

section Read

variable {code : Text} {offset : Nat}

/-- Findings one after another are found in all the places together. -/
theorem foldl_findings (places : List (Nat × Line)) :
    (places.map fun place => place.2.findings place.1).foldl Findings.append {} = gather places := by
  have hfold : ∀ init : Findings,
      (places.map fun place => place.2.findings place.1).foldl Findings.append init =
        init.append (gather places) := by
    induction places with
    | nil =>
        intro init
        simp [gather, Findings.append]
    | cons place places ih =>
        intro init
        rw [List.map_cons, List.foldl_cons, ih]
        simp [gather, Findings.append, Line.findings, Findings.ofMatch, Line.found]
  rw [hfold, Findings.append]
  simp

/-- What is read item by item is what each item gives. -/
theorem map_m_of_forall {α β γ : Type} {items : List α} {found : α → β} {read? : β → Option γ}
    {given : α → γ} (hread : ∀ item ∈ items, read? (found item) = some (given item)) :
    (items.map found).mapM read? = some (items.map given) := by
  induction items with
  | nil => rfl
  | cons item items ih =>
      obtain ⟨hfirst, hlater⟩ := List.forall_mem_cons.mp hread
      rw [List.map_cons, List.mapM_cons, hfirst, ih hlater]
      rfl

/-- The lines of a form, with their offsets. -/
def placesOf (lines : List Line) (form : Form) : List (Nat × Line) :=
  (placesFrom 0 lines).filter fun place => place.2.form = form

variable (ended : Bool) (lines : List Line)

/-- A reader of a form gives what is found in the lines of the form. -/
theorem read_form (form : Form) (hbare : form ≠ .bareRequire) {read? : Match → Option Findings}
    (hread : ∀ (line : Line) (offset : Nat), line.form = form →
      StandsAt (print ended lines) offset line.text →
        read? (line.found offset) = some (line.findings offset)) :
    readAll? form.pattern (print ended lines) read? =
      some (gather (placesOf lines form)) := by
  have hplaces : ∀ place ∈ placesOf lines form,
      read? (place.2.found place.1) = some (place.2.findings place.1) := by
    intro place hplace
    obtain ⟨hmem, hform⟩ := List.mem_filter.mp hplace
    exact hread place.2 place.1 (of_decide_eq_true hform)
      (stands_at_of_mem_places (Text.stands_at_zero _) hmem)
  rw [readAll?, search_form form hbare]
  rw [placesOf] at hplaces ⊢
  rw [map_m_of_forall hplaces, Option.map_some, foldl_findings]

/-- Imports with bindings are read from their lines. -/
theorem import_froms_print :
    importFroms? (print ended lines) = some (gather (placesOf lines .importFrom)) := by
  refine read_form ended lines .importFrom (by decide) fun line offset hform hstands => ?_
  cases line with
  | importFrom clause source =>
      have hsource : groupText? (print ended lines) _ 2 = some source.string :=
        group_text_eq (Line.specifier_text _ hstands)
      rw [Line.clause_text _ hstands rfl, hsource]
      show some (Findings.ofMatch _ (clauseImports clause.text source.string) [] true) = _
      rw [clause_imports_text]
      rfl
  | _ => cases hform

/-- Imports for their side effects are read from their lines. -/
theorem side_effects_print :
    sideEffectImports? (print ended lines) = some (gather (placesOf lines .sideEffect)) := by
  refine read_form ended lines .sideEffect (by decide) fun line offset hform hstands => ?_
  cases line with
  | sideEffect source =>
      have hsource : groupText? (print ended lines) _ 1 = some source.string :=
        group_text_eq (Line.specifier_text _ hstands)
      rw [hsource]
      rfl
  | _ => cases hform

/-- Imports by assignment are read from their lines. -/
theorem import_requires_print :
    importRequires? (print ended lines) = some (gather (placesOf lines .importRequire)) := by
  refine read_form ended lines .importRequire (by decide) fun line offset hform hstands => ?_
  cases line with
  | importRequire name source =>
      have hsource : groupText? (print ended lines) _ 2 = some source.string :=
        group_text_eq (Line.specifier_text _ hstands)
      rw [group_text_eq (Line.clause_text _ hstands rfl), hsource]
      rfl
  | _ => cases hform

/-- Variables bound to required modules are read from their lines. -/
theorem require_bindings_print :
    requireBindings? (print ended lines) = some (gather (placesOf lines .requireBinding)) := by
  refine read_form ended lines .requireBinding (by decide) fun line offset hform hstands => ?_
  cases line with
  | requireBinding binding source =>
      have hsource : groupText? (print ended lines) _ 2 = some source.string :=
        group_text_eq (Line.specifier_text _ hstands)
      rw [Line.clause_text _ hstands rfl, hsource]
      show some (Findings.ofMatch _ (requireImports binding.text source.string) [] true) = _
      rw [require_imports_text]
      rfl
  | _ => cases hform

/-- Re-exports of whole modules are read from their lines. -/
theorem export_stars_print :
    exportStars? (print ended lines) = some (gather (placesOf lines .exportStar)) := by
  refine read_form ended lines .exportStar (by decide) fun line offset hform hstands => ?_
  cases line with
  | exportStar source =>
      have hsource : groupText? (print ended lines) _ 2 = some source.string :=
        group_text_eq (Line.specifier_text _ hstands)
      rw [hsource]
      rfl
  | _ => cases hform

/-- Re-exports of items are read from their lines. -/
theorem export_lists_print :
    exportLists? (print ended lines) = some (gather (placesOf lines .exportList)) := by
  refine read_form ended lines .exportList (by decide) fun line offset hform hstands => ?_
  cases line with
  | exportList first others source =>
      have hsource : groupText? (print ended lines) _ 2 = some source.string :=
        group_text_eq (Line.specifier_text _ hstands)
      rw [Line.clause_text _ hstands rfl, hsource]
      have hexports := exported_items_text first others source
      show some (Findings.ofMatch _ [] ((commaList (listText .byWord first others)).filterMap _)
        true) = _
      rw [Option.isSome_some]
      rw [hexports]
      rfl
  | _ => cases hform

/-- There are no import expressions. -/
theorem import_calls_print : importCalls? (print ended lines) = some {} := by
  have hnone : placesOf lines .importCall = [] := by
    refine List.filter_eq_nil_iff.mpr fun place _ hform => ?_
    have hform := of_decide_eq_true hform
    cases hline : place.2 <;> rw [hline] at hform <;> cases hform
  have hempty : gather (placesOf lines .importCall) = {} := by
    rw [hnone]
    rfl
  rw [← hempty]
  exact read_form ended lines .importCall (by decide) fun line offset hform => by
    cases line <;> cases hform

/-- A line with a call of `require` claims it. -/
theorem Line.claims_call {offset : Nat} (line : Line) (hcalls : line.calls = true) :
    offset ≤ line.callStart offset ∧ line.callStart offset < offset + byteLength line.text := by
  have hrest : byteLength line.source.call > 0 := Text.byte_length_pos _ _
  have hassign : byteLength " = ".toList = 3 := rfl
  cases line with
  | importRequire name source =>
      have himport : byteLength "import ".toList = 7 := rfl
      have hlength : byteLength (Line.importRequire name source).text =
          7 + byteLength name.text + 3 + byteLength source.call := by
        show byteLength ("import ".toList ++ name.text ++ " = ".toList ++ source.call) = _
        rw [Text.byte_length_append, Text.byte_length_append, Text.byte_length_append, himport,
          hassign]
      rw [hlength, Line.callStart]
      rw [Line.source] at hrest
      omega
  | requireBinding binding source =>
      have hconst : byteLength "const ".toList = 6 := rfl
      have hlength : byteLength (Line.requireBinding binding source).text =
          6 + byteLength binding.text + 3 + byteLength source.call := by
        show byteLength ("const ".toList ++ binding.text ++ " = ".toList ++ source.call) = _
        rw [Text.byte_length_append, Text.byte_length_append, Text.byte_length_append, hconst,
          hassign]
      rw [hlength, Line.callStart]
      rw [Line.source] at hrest
      omega
  | _ => cases hcalls

/-- A line that binds names is among the bindings of its form. -/
theorem mem_bindings_gather {place : Nat × Line} (hmem : place ∈ placesFrom 0 lines)
    (hbinds : place.2.binds = true) :
    ⟨place.1, place.1 + byteLength place.2.text⟩ ∈
      (gather (placesOf lines place.2.form)).bindings := by
  refine List.mem_flatMap.mpr ⟨place, List.mem_filter.mpr ⟨hmem, by simp⟩, ?_⟩
  rw [if_pos hbinds]
  exact List.mem_singleton_self _

/-- No call of `require` is left over. -/
theorem bare_requires_print : bareRequires? (print ended lines)
    ((gather (placesOf lines .importFrom)).bindings ++
      (gather (placesOf lines .importRequire)).bindings ++
        (gather (placesOf lines .requireBinding)).bindings) = some {} := by
  have hnothing : ∀ places : List (Nat × Line),
      (places.map fun _ => ({} : Findings)).foldl Findings.append {} = {} := by
    intro places
    induction places with
    | nil => rfl
    | cons place places ih => exact ih
  rw [bareRequires?, readAll?, search_require, map_m_of_forall, Option.map_some, hnothing]
  intro place hplace
  obtain ⟨hmem, hcalls⟩ := List.mem_filter.mp hplace
  have hstands : StandsAt (print ended lines) place.1 place.2.text :=
    stands_at_of_mem_places (Text.stands_at_zero _) hmem
  have hsource := group_text_eq (Line.call_text place.2 hcalls hstands)
  have hclaimed : ((gather (placesOf lines .importFrom)).bindings ++
      (gather (placesOf lines .importRequire)).bindings ++
        (gather (placesOf lines .requireBinding)).bindings).any
          (·.contains (place.2.callFound place.1).start) = true := by
    have hcontains : (⟨place.1, place.1 + byteLength place.2.text⟩ : ByteRange).contains
        (place.2.callStart place.1) = true := by
      obtain ⟨hlow, hhigh⟩ := place.2.claims_call hcalls
      rw [ByteRange.contains, decide_eq_true hlow, decide_eq_true hhigh, Bool.and_self]
    refine List.any_eq_true.mpr ⟨_, ?_, hcontains⟩
    rw [List.mem_append, List.mem_append]
    cases hline : place.2 with
    | importRequire name source =>
        have hbinding := mem_bindings_gather lines hmem (by rw [hline]; rfl)
        rw [hline] at hbinding
        exact Or.inl (Or.inr hbinding)
    | requireBinding binding source =>
        have hbinding := mem_bindings_gather lines hmem (by rw [hline]; rfl)
        rw [hline] at hbinding
        exact Or.inr hbinding
    | _ => rw [hline] at hcalls; cases hcalls
  rw [hsource]
  simp only [hclaimed]
  rfl

end Read

section Order

variable {α : Type} {key : α → Nat} {given : Nat × Line → List α} {offset k : Nat}

/-- The forms of printed lines, in the order in which they are looked for. -/
def lineForms : List Form :=
  [.importFrom, .sideEffect, .importRequire, .requireBinding, .exportStar, .exportList]

/-- Every line has one of these forms. -/
theorem Line.form_mem (line : Line) : line.form ∈ lineForms := by
  cases line <;> simp [Line.form, lineForms]

/-- The places are those of the lines. -/
theorem map_places (offset : Nat) (lines : List Line) :
    (placesFrom offset lines).map (·.2) = lines := by
  induction lines generalizing offset with
  | nil => rfl
  | cons line rest ih => rw [placesFrom, List.map_cons, ih]

/-- No line starts before the first one. -/
theorem le_of_mem_places {lines : List Line} {place : Nat × Line}
    (h : place ∈ placesFrom offset lines) : offset ≤ place.1 := by
  induction lines generalizing offset with
  | nil => cases h
  | cons line rest ih =>
      rcases List.mem_cons.mp h with rfl | hlater
      · exact Nat.le_refl _
      · exact Nat.le_trans (by omega) (ih hlater)

/-- The lines start one after another. -/
theorem places_sorted (offset : Nat) (lines : List Line) :
    (placesFrom offset lines).Pairwise fun a b => a.1 < b.1 := by
  induction lines generalizing offset with
  | nil => exact List.Pairwise.nil
  | cons line rest ih =>
      refine List.pairwise_cons.mpr ⟨fun place hplace => ?_, ih _⟩
      exact Nat.lt_of_lt_of_le (by dsimp only; omega) (le_of_mem_places hplace)

/-- At most one line starts at an offset. -/
theorem places_at (offset k : Nat) (lines : List Line) :
    (placesFrom offset lines).filter (·.1 = k) = [] ∨
      ∃ place, (placesFrom offset lines).filter (·.1 = k) = [place] := by
  have hpairwise := (places_sorted offset lines).filter (·.1 = k)
  have hkey : ∀ place ∈ (placesFrom offset lines).filter (·.1 = k), place.1 = k := fun place hplace =>
    of_decide_eq_true (List.mem_filter.mp hplace).2
  generalize (placesFrom offset lines).filter (·.1 = k) = places at hpairwise hkey
  match places with
  | [] => exact Or.inl rfl
  | [place] => exact Or.inr ⟨place, rfl⟩
  | place :: next :: rest =>
      have hlt := (List.pairwise_cons.mp hpairwise).1 next List.mem_cons_self
      rw [hkey place List.mem_cons_self, hkey next (by simp)] at hlt
      exact absurd hlt (Nat.lt_irrefl k)

/-- What is given at an offset is what the places with that offset give. -/
theorem filter_given (hkey : ∀ place, ∀ item ∈ given place, key item = place.1)
    (places : List (Nat × Line)) :
    (places.flatMap given).filter (key · = k) = (places.filter (·.1 = k)).flatMap given := by
  induction places with
  | nil => rfl
  | cons place places ih =>
      rw [List.flatMap_cons, List.filter_append, ih, List.filter_cons]
      split
      · next hplace =>
          rw [List.flatMap_cons, List.filter_eq_self.mpr fun item hitem => ?_]
          rw [hkey place item hitem]
          exact hplace
      · next hplace =>
          rw [List.filter_eq_nil_iff.mpr fun item hitem => ?_, List.nil_append]
          rw [hkey place item hitem]
          exact hplace

/-- Sorted by offset, what the lines of each form give is what the lines give one after another. -/
theorem sort_given (hkey : ∀ place, ∀ item ∈ given place, key item = place.1) (lines : List Line) :
    ((lineForms.flatMap fun form => (placesOf lines form).flatMap given).mergeSort
      fun a b => key a ≤ key b) = (placesFrom 0 lines).flatMap given := by
  refine merge_sort_eq ?_ fun k => ?_
  · refine List.pairwise_flatMap.mpr ⟨fun place _ => ?_, ?_⟩
    · refine List.pairwise_of_forall_mem_list fun a ha b hb => ?_
      rw [hkey place a ha, hkey place b hb]
    · refine (places_sorted 0 lines).imp fun hlt a ha b hb => ?_
      rw [hkey _ a ha, hkey _ b hb]
      exact Nat.le_of_lt hlt
  · have hforms : ∀ form, ((placesOf lines form).flatMap given).filter (key · = k) =
        (((placesFrom 0 lines).filter (·.1 = k)).filter (·.2.form = form)).flatMap given := by
      intro form
      rw [filter_given hkey, placesOf, List.filter_filter, List.filter_filter]
      simp only [Bool.and_comm]
    rw [List.filter_flatMap, filter_given hkey]
    simp only [hforms]
    rcases places_at 0 k lines with hnil | ⟨place, hone⟩
    · rw [hnil]
      simp
    · rw [hone]
      have hmem := place.2.form_mem
      cases hform : place.2.form with
      | bareRequire | importCall => rw [hform] at hmem; exact absurd hmem (by decide)
      | _ => simp [lineForms, hform]

end Order

section Scan

/-- The lines that import give the module they name once or several times. -/
theorem import_sources_repeat : Repeats (fun line : Line => line.imports.map (·.source))
    Line.importSource? := by
  have hitems : ∀ (source : Specifier) (first : Item) (others : List Item),
      ((first :: others).map (Item.import source)).map (·.source) =
        List.replicate (others.length + 1) source.string := by
    intro source first others
    rw [List.map_map]
    exact List.map_const'
  intro line
  cases line with
  | sideEffect source => exact Or.inr ⟨source.string, 0, rfl, rfl⟩
  | importFrom clause source =>
      cases clause with
      | default _ | whole _ => exact Or.inr ⟨source.string, 0, rfl, rfl⟩
      | named first others =>
          exact Or.inr ⟨source.string, others.length, rfl, hitems source first others⟩
      | defaultNamed name first others =>
          exact Or.inr ⟨source.string, others.length + 1, rfl,
            congrArg (source.string :: ·) (hitems source first others)⟩
      | defaultWhole _ _ => exact Or.inr ⟨source.string, 1, rfl, rfl⟩
  | importRequire name source => exact Or.inr ⟨source.string, 0, rfl, rfl⟩
  | requireBinding binding source =>
      cases binding with
      | plain _ => exact Or.inr ⟨source.string, 0, rfl, rfl⟩
      | items first others =>
          exact Or.inr ⟨source.string, others.length, rfl, hitems source first others⟩
  | exportStar _ | exportList _ _ _ => exact Or.inl ⟨rfl, rfl⟩

/-- The lines that re-export give the module they name once or several times. -/
theorem export_sources_repeat : Repeats (fun line : Line => line.exports.filterMap (·.source))
    Line.exportSource? := by
  intro line
  cases line with
  | exportStar source => exact Or.inr ⟨source.string, 0, rfl, rfl⟩
  | exportList first others source =>
      refine Or.inr ⟨source.string, others.length, rfl, ?_⟩
      have hsource : (fun item : Export => item.source) ∘ Item.export source =
          some ∘ fun _ => source.string := rfl
      show ((first :: others).map (Item.export source)).filterMap (·.source) = _
      rw [List.filterMap_map, hsource, ← List.filterMap_map, List.filterMap_some]
      exact List.map_const'
  | _ => exact Or.inl ⟨rfl, rfl⟩

/-- The module that a line names has a name. -/
theorem source_ne_empty {item : Line ⊕ Line} {value : String}
    (h : Sum.elim Line.importSource? Line.exportSource? item = some value) : value ≠ "" := by
  have hsource : ∀ source : Specifier, source.string ≠ "" := fun source heq =>
    source.ne_nil (by simpa using congrArg String.toList heq)
  rcases item with line | line <;> cases line <;>
    first
      | exact Option.some.inj h ▸ hsource _
      | cases h

/-- The modules that lines name, each once. -/
theorem specifiers_of_lines {module : ModuleSyntax} {lines : List Line}
    (himports : module.imports = lines.flatMap Line.imports)
    (hexports : module.exports = lines.flatMap Line.exports) :
    module.specifiers =
      (lines.filterMap Line.importSource? ++ lines.filterMap Line.exportSource?).eraseDups := by
  let parts : Line ⊕ Line → List String := Sum.elim (fun line => line.imports.map (·.source))
    fun line => line.exports.filterMap (·.source)
  let one? : Line ⊕ Line → Option String := Sum.elim Line.importSource? Line.exportSource?
  have hrepeats : Repeats parts one? := by
    rintro (line | line)
    · exact import_sources_repeat line
    · exact export_sources_repeat line
  have hparts : module.imports.map (·.source) ++ module.exports.filterMap (·.source) =
      (lines.map Sum.inl ++ lines.map Sum.inr).flatMap parts := by
    rw [himports, hexports, List.flatMap_append, List.flatMap_map, List.flatMap_map,
      List.map_flatMap, List.filterMap_flatMap]
    rfl
  have hones : lines.filterMap Line.importSource? ++ lines.filterMap Line.exportSource? =
      (lines.map Sum.inl ++ lines.map Sum.inr).filterMap one? := by
    rw [List.filterMap_append, List.filterMap_map, List.filterMap_map]
    rfl
  have hne : ∀ value ∈ (lines.map Sum.inl ++ lines.map Sum.inr).flatMap parts,
      (decide (value ≠ "")) = true := by
    intro value hvalue
    obtain ⟨item, -, hmem⟩ := List.mem_flatMap.mp hvalue
    rcases hrepeats item with ⟨-, hnil⟩ | ⟨given, count, hsome, hgiven⟩
    · rw [hnil] at hmem
      cases hmem
    · rw [hgiven] at hmem
      obtain rfl := List.eq_of_mem_replicate hmem
      exact decide_eq_true (source_ne_empty hsome)
  rw [ModuleSyntax.specifiers, hparts, List.filter_eq_self.mpr hne, erase_dups_flat_map hrepeats,
    hones]

/-- What is found in printed lines. -/
def findingsOf (lines : List Line) : Findings where
  imports := lineForms.flatMap fun form => (gather (placesOf lines form)).imports
  exports := lineForms.flatMap fun form => (gather (placesOf lines form)).exports
  bindings := lineForms.flatMap fun form => (gather (placesOf lines form)).bindings

/-- The scan of printed lines finds what each form finds. -/
theorem scan_findings (ended : Bool) (lines : List Line) :
    scan? (print ended lines) = some (findingsOf lines).toSyntax := by
  have hcode : Text.mask .comments (print ended lines) = print ended lines := by
    have hmasked : lines.map (Line.masked .comments) = lines :=
      (List.map_congr_left fun line _ => line.masked_comments).trans (List.map_id' lines)
    rw [mask_print, hmasked]
  have hdefaults : ∀ lines, exportDefaults? (print ended lines) = some {} := fun lines =>
    read_nothing (search_export export_default_led rfl rfl ended lines)
  have hdeclarations : ∀ lines, exportDeclarations? (print ended lines) = some {} := fun lines =>
    read_nothing (search_export export_declaration_led rfl rfl ended lines)
  have hassigns : ∀ lines, exportAssigns? (print ended lines) = some {} := fun lines =>
    read_nothing (search_export export_assign_led rfl rfl ended lines)
  unfold scan?
  simp only [hcode, mask_print .all, import_froms_print, side_effects_print, import_requires_print,
    require_bindings_print, Option.bind_eq_bind, Option.bind_some, bare_requires_print,
    import_calls_print, export_stars_print, export_lists_print, hdefaults, hdeclarations, hassigns]
  simp [findingsOf, lineForms, Findings.append]

/-- The bindings of the places are those of the lines. -/
theorem bindings_of_places (offset : Nat) (lines : List Line) :
    ((placesFrom offset lines).flatMap fun place =>
      if place.2.binds then [⟨place.1, place.1 + byteLength place.2.text⟩] else []) =
        bindingsFrom offset lines := by
  induction lines generalizing offset with
  | nil => rfl
  | cons line rest ih => rw [placesFrom, List.flatMap_cons, ih, bindingsFrom]

/-- Printed lines are read back: the scan finds the imports and exports that the lines denote, in their
order, the extent of each line that binds names, and each module that is named once, those of the
imports first. -/
theorem scan_print (ended : Bool) (lines : List Line) : ∃ module,
    scan? (print ended lines) = some module ∧ module.imports = lines.flatMap Line.imports ∧
      module.exports = lines.flatMap Line.exports ∧ module.bindingRanges = bindingsFrom 0 lines ∧
        module.specifiers =
          (lines.filterMap Line.importSource? ++ lines.filterMap Line.exportSource?).eraseDups := by
  have hrecords : ∀ {β : Type} (records : Line → List β),
      (((lineForms.flatMap fun form => (placesOf lines form).flatMap
        fun place => (records place.2).map (place.1, ·)).mergeSort fun a b => a.1 ≤ b.1).map (·.2)) =
          lines.flatMap records := by
    intro β records
    have hkey : ∀ place : Nat × Line, ∀ item ∈ (records place.2).map (place.1, ·),
        item.1 = place.1 := by
      intro place item hitem
      obtain ⟨record, -, rfl⟩ := List.mem_map.mp hitem
      rfl
    have hvalues : ∀ place : Nat × Line, ((records place.2).map (place.1, ·)).map (·.2) =
        records place.2 := by
      intro place
      rw [List.map_map]
      exact List.map_id _
    rw [sort_given hkey, List.map_flatMap]
    simp only [hvalues]
    have hplaces := List.flatMap_map (·.2) records (placesFrom 0 lines)
    rw [map_places] at hplaces
    exact hplaces.symm
  have himports : (findingsOf lines).toSyntax.imports = lines.flatMap Line.imports := hrecords _
  have hexports : (findingsOf lines).toSyntax.exports = lines.flatMap Line.exports := hrecords _
  have hbindings : (findingsOf lines).toSyntax.bindingRanges = bindingsFrom 0 lines := by
    have hkey : ∀ place : Nat × Line, ∀ item ∈ (if place.2.binds then
        [⟨place.1, place.1 + byteLength place.2.text⟩] else [] : List ByteRange),
          item.start = place.1 := by
      intro place item hitem
      split at hitem
      · rw [List.mem_singleton.mp hitem]
      · cases hitem
    exact (sort_given hkey lines).trans (bindings_of_places 0 lines)
  exact ⟨_, scan_findings ended lines, himports, hexports, hbindings,
    specifiers_of_lines himports hexports⟩

end Scan

end CodeAtlas.Module
