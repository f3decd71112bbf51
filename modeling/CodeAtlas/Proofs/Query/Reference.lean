import CodeAtlas.Proofs.Graph.Declared
import CodeAtlas.Proofs.Text.Word
import CodeAtlas.Query.Reference

/-!
# Every use is found

Read `usesIn` first: it says by the characters of a whole text which uses of a symbol a file has,
without lines, skips and early ends. `collect_complete` says that a search gives the definition and
these uses of all selected files, up to the allowed number.
-/

namespace CodeAtlas.Reference

/-- Whether a line and column of a file are where the symbol itself stands. A symbol without a
column stands on all of its line. -/
def isOwnPlace (symbol : Symbol) (file : Path) (line column : Nat) : Bool :=
  symbol.location.path.same file && symbol.location.startLine = line &&
    symbol.location.column.all (· = column)

/-- The use of a symbol at a line, column and byte of a file, unless the symbol itself stands there
or the module binds it there. -/
def use (symbol : Symbol) (file : Path) (module : Option ModuleSyntax) (number column byte : Nat)
    (line : Text) : Option Reference :=
  if isOwnPlace symbol file number column || module.any (·.isBindingOffset byte) then none
  else some {
    symbol
    location := { path := file, startLine := number, endLine := number, column := some column }
    isDefinition := false
    line := Text.trim line }

/-- The use of a symbol at a place is at that place, and the symbol itself does not stand there. -/
theorem use_eq_some {symbol : Symbol} {file : Path} {module : Option ModuleSyntax}
    {number column byte : Nat} {line : Text} {reference : Reference}
    (h : use symbol file module number column byte line = some reference) :
    isOwnPlace symbol file number column = false ∧ reference.isDefinition = false ∧
      reference.location =
        { path := file, startLine := number, endLine := number, column := some column } := by
  unfold use at h
  split at h
  · contradiction
  · next hnot =>
      obtain rfl := Option.some.inj h
      exact ⟨Bool.eq_false_iff.mpr fun hown => hnot (by simp [hown]), rfl, rfl⟩

/-- The use of a symbol at character number `i` of a text whose first line has the given number and
starts at the byte `offset`. -/
def useAt (symbol : Symbol) (file : Path) (module : Option ModuleSyntax) (number offset : Nat)
    (text : Text) (i : Nat) : Option Reference :=
  use symbol file module (number + (text.take i).count '\n') ((Text.lineBefore text i).length + 1)
    (offset + Text.byteLength (text.take i)) (Text.lineAround text i)

/-- The uses of a symbol in a text whose first line has the given number and starts at the byte
`offset`: where its name stands as a word. -/
def usesIn (symbol : Symbol) (file : Path) (module : Option ModuleSyntax) (number offset : Nat)
    (text : Text) : List Reference :=
  (Text.wordIndices symbol.name.toList none text).filterMap
    (useAt symbol file module number offset text)

variable {symbol : Symbol} {file : Path} {module : Option ModuleSyntax}

/-- The symbol itself stands at its anchor. -/
theorem is_anchor_eq (line column : Nat) :
    isAnchor symbol file line column = isOwnPlace symbol file line column := by
  unfold isAnchor isOwnPlace Location.isAnchoredAt
  cases symbol.location.column <;> simp

/-- A use on the first line. -/
theorem use_at_line {line tail : Text} (hline : '\n' ∉ line)
    (htail : tail.takeWhile (· ≠ '\n') = []) (number offset : Nat) {i : Nat}
    (hi : i ≤ line.length) :
    useAt symbol file module number offset (line ++ tail) i =
      use symbol file module number (i + 1) (offset + Text.byteLength (line.take i)) line := by
  rw [useAt, Text.count_take_line hline hi, Text.line_before_line hline hi,
    Text.line_around_line hline hi htail, List.take_append_of_le_length hi,
    List.length_take_of_le hi, Nat.add_zero]

/-- A use on the only line. -/
theorem use_at_only_line {line : Text} (hline : '\n' ∉ line) (number offset : Nat) {i : Nat}
    (hi : i ≤ line.length) :
    useAt symbol file module number offset line i =
      use symbol file module number (i + 1) (offset + Text.byteLength (line.take i)) line := by
  have hnil := @use_at_line symbol file module line [] hline rfl number offset i hi
  rwa [List.append_nil] at hnil

/-- A use on a further line is one of the text that begins there. -/
theorem use_at_further {line : Text} (hline : '\n' ∉ line) (rest : Text) (number offset i : Nat) :
    useAt symbol file module number offset (line ++ '\n' :: rest) (line.length + 1 + i) =
      useAt symbol file module (number + 1) (offset + Text.byteLength line + 1) rest i := by
  have hcount : (line ++ '\n' :: rest.take i).count '\n' = 1 + (rest.take i).count '\n' := by
    rw [List.count_append, List.count_eq_zero.mpr hline, List.count_cons_self]
    omega
  have hbytes : Text.byteLength (line ++ '\n' :: rest.take i) =
      Text.byteLength line + 1 + Text.byteLength (rest.take i) := by
    rw [Text.byte_length_append, Text.byteLength, Nat.add_assoc]
    rfl
  rw [useAt, useAt, Text.take_further, Text.line_before_further, Text.line_around_further, hcount,
    hbytes]
  simp only [Nat.add_assoc]

/-- The uses in a text are those on its first line and those on the others. -/
theorem uses_in_append (hword : Text.IsWord symbol.name.toList) {line : Text}
    (hline : '\n' ∉ line) (rest : Text) (number offset : Nat) :
    usesIn symbol file module number offset (line ++ '\n' :: rest) =
      usesIn symbol file module number offset line ++
        usesIn symbol file module (number + 1) (offset + Text.byteLength line + 1) rest := by
  have hfeed : Text.isIdentChar '\n' = false := by decide
  rw [usesIn, usesIn, usesIn, Text.word_indices_append hword hfeed, List.filterMap_append,
    List.filterMap_map]
  congr 1
  · refine List.filterMap_congr fun i hi => ?_
    have hle : i ≤ line.length := (List.mem_range.mp (List.mem_filter.mp hi).1).le
    rw [use_at_line hline (by simp) number offset hle, use_at_only_line hline number offset hle]
  · exact List.filterMap_congr fun i _ => use_at_further hline rest number offset i

/-- The uses that are looked for on a line are the uses in it. -/
theorem on_line_eq (hword : Text.IsWord symbol.name.toList) {line : Text} (hline : '\n' ∉ line)
    (number offset : Nat) :
    onLine symbol file module number offset (Text.dropReturn line) =
      usesIn symbol file module number offset line := by
  rw [onLine, Text.word_occurrences_eq hword, List.filterMap_map, usesIn,
    ← Text.word_indices_drop_return hword line]
  refine List.filterMap_congr fun i hi => ?_
  have hle : i ≤ (Text.dropReturn line).length :=
    (List.mem_range.mp (List.mem_filter.mp hi).1).le
  obtain ⟨tail, hsplit, htrim⟩ := Text.exists_drop_return line
  have htake : line.take i = (Text.dropReturn line).take i :=
    (congrArg (List.take i) hsplit).trans (List.take_append_of_le_length hle)
  have hle' : i ≤ line.length := by
    have hlength := congrArg List.length hsplit
    rw [List.length_append] at hlength
    omega
  rw [use_at_only_line hline number offset hle', use, htake, htrim]
  simp only [Function.comp, is_anchor_eq, Location.new, Nat.max_self]
  cases isOwnPlace symbol file number (i + 1) <;>
    cases module.any (·.isBindingOffset (offset + Text.byteLength (line.dropReturn.take i))) <;> rfl

/-- The uses that are looked for on the lines of a text are the uses in it. -/
theorem on_lines_eq (hword : Text.IsWord symbol.name.toList) (number offset : Nat) (text : Text) :
    onLines symbol file module number offset (Text.splitBy (· = '\n') text) =
      usesIn symbol file module number offset text := by
  by_cases hfeed : '\n' ∈ text
  · obtain ⟨line, rest, htext, hline⟩ := List.eq_append_cons_of_mem hfeed
    have hshorter : rest.length < text.length := by
      rw [htext, List.length_append, List.length_cons]
      omega
    rw [htext, Text.split_by_append hline, onLines, on_line_eq hword hline,
      on_lines_eq hword (number + 1) (offset + Text.byteLength line + 1) rest,
      uses_in_append hword hline]
  · rw [Text.split_by_of_not_mem hfeed, onLines, onLines, on_line_eq hword hfeed, List.append_nil]
termination_by text.length

section Collect

variable {oracle : (question : Question) → Except Failure question.Answer}

/-- The uses of a symbol in a file. A file that cannot be read has none. -/
def uses (oracle : (question : Question) → Except Failure question.Answer) (symbol : Symbol)
    (file : Path) : List Reference :=
  match oracle (.content file) with
  | .ok text => usesIn symbol file (oracle (.modules file)).toOption 1 0 text
  | .error _ => []

/-- The definition of a symbol as a reference. -/
def definitionEntry (oracle : (question : Question) → Except Failure question.Answer)
    (symbol : Symbol) : Reference where
  symbol := symbol
  location := symbol.location
  isDefinition := true
  line :=
    match oracle (.content symbol.location.path) with
    | .ok content => ((Text.lines content)[symbol.location.startLine - 1]?.map Text.trim).getD []
    | .error _ => []

/-- The uses in a file that can be read are those that are looked for line by line. -/
theorem uses_of_content (hword : Text.IsWord symbol.name.toList) {content : Text}
    (hcontent : oracle (.content file) = .ok content) :
    uses oracle symbol file = inFile symbol file (oracle (.modules file)).toOption content := by
  simp only [uses, hcontent]
  exact (on_lines_eq hword 1 0 content).symm

/-- A file that does not contain the name has no uses. -/
theorem uses_of_not_contains {content : Text} (hcontent : oracle (.content file) = .ok content)
    (hnot : ¬ Text.contains content symbol.name.toList = true) : uses oracle symbol file = [] := by
  simp only [uses, hcontent, usesIn,
    Text.word_indices_of_not_contains (Bool.eq_false_iff.mpr hnot), List.filterMap_nil]

/-- The uses in a file as they are looked for, line by line where the name occurs at all. A file that
cannot be read has none. -/
def lineUses (oracle : (question : Question) → Except Failure question.Answer) (symbol : Symbol)
    (file : Path) : List Reference :=
  match oracle (.content file) with
  | .ok content =>
    if Text.contains content symbol.name.toList then
      inFile symbol file (oracle (.modules file)).toOption content
    else []
  | .error _ => []

/-- The uses of a word that are looked for line by line are its uses. -/
theorem line_uses_eq (hword : Text.IsWord symbol.name.toList) :
    lineUses oracle symbol file = uses oracle symbol file := by
  cases hcontent : oracle (.content file) with
  | error failure => simp only [lineUses, uses, hcontent]
  | ok content =>
      simp only [lineUses, hcontent]
      split
      · exact (uses_of_content hword hcontent).symm
      · next hnot => exact (uses_of_not_contains hcontent hnot).symm

/-- Where there is time, the uses in files are given up to the allowed number. -/
theorem eval_in_files {deadline : Deadline} (hcheck : deadline.check = .ok ()) (room : Nat)
    (files : List Path) :
    (inFiles deadline symbol room files).eval oracle =
      .ok ((files.flatMap (lineUses oracle symbol)).take room) := by
  induction files generalizing room with
  | nil => simp [inFiles]
  | cons file rest ih =>
      rw [inFiles, Inquiry.eval_bind, Inquiry.eval_check, hcheck, List.flatMap_cons]
      refine (Inquiry.eval_bind oracle (Inquiry.attempt (.content file)) _).trans ?_
      rw [Inquiry.eval_attempt, lineUses]
      cases hcontent : oracle (.content file) with
      | error failure => exact ih room
      | ok content =>
          change Inquiry.eval oracle (if Text.contains content symbol.name.toList then _ else _) = _
          dsimp only
          split
          · refine (Inquiry.eval_bind oracle (Inquiry.attempt (.modules file)) _).trans ?_
            rw [Inquiry.eval_attempt]
            change Inquiry.eval oracle (if room < (inFile symbol file
              (oracle (.modules file)).toOption content).length then _ else _) = _
            split
            · next hfull =>
                rw [List.take_append_of_le_length hfull.le]
                rfl
            · next hroom =>
                refine (Inquiry.eval_bind oracle (inFiles deadline symbol _ rest) _).trans ?_
                rw [ih, List.take_append, List.take_of_length_le (Nat.not_lt.mp hroom)]
                rfl
          · exact ih room

/-- The definition is found whether or not its file can be read. -/
theorem eval_definition_of (oracle : (question : Question) → Except Failure question.Answer)
    (symbol : Symbol) :
    (definitionOf symbol).eval oracle = .ok (definitionEntry oracle symbol) :=
  rfl

/-- A search through the selected files gives the definition and the uses in them, up to the allowed
number, if there is time or nothing to read. -/
theorem eval_collect_files {workspace : Workspace} {scope : Scope} {files : List Path}
    (hfiles : workspace.eligible scope = .ok files) {deadline : Deadline}
    (htime : files = [] ∨ deadline.check = .ok ()) (max : Nat) :
    (collect workspace symbol scope max deadline).eval oracle =
      .ok ((definitionEntry oracle symbol :: files.flatMap (lineUses oracle symbol)).take max) := by
  cases max with
  | zero => rfl
  | succ room =>
      have hfound : (inFiles deadline symbol room files).eval oracle =
          .ok ((files.flatMap (lineUses oracle symbol)).take room) := by
        rcases htime with rfl | hcheck
        · simp [inFiles]
        · exact eval_in_files hcheck room files
      rw [collect, Inquiry.eval_bind, eval_definition_of]
      change ((Inquiry.ofExcept (workspace.eligible scope) >>= _ : Inquiry _)).eval oracle = _
      rw [Inquiry.eval_bind, Inquiry.eval_of_except, hfiles]
      change ((inFiles deadline symbol room files >>= _ : Inquiry _)).eval oracle = _
      rw [Inquiry.eval_bind, hfound]
      rfl

/-- A search that does not run out of time gives the definition and the uses in the selected files,
up to the allowed number. -/
theorem eval_collect (hword : Text.IsWord symbol.name.toList) {workspace : Workspace}
    {scope : Scope} {max : Nat} (hmax : 0 < max) {deadline : Deadline}
    (htime : (collect workspace symbol scope max deadline).eval oracle ≠
      .error (.timeout deadline.operation)) :
    (collect workspace symbol scope max deadline).eval oracle =
      (workspace.eligible scope).map fun files =>
        (definitionEntry oracle symbol :: files.flatMap (uses oracle symbol)).take max := by
  obtain ⟨room, rfl⟩ := Nat.exists_eq_succ_of_ne_zero hmax.ne'
  have huses : lineUses oracle symbol = uses oracle symbol := funext fun _ => line_uses_eq hword
  have heval : (collect workspace symbol scope (room + 1) deadline).eval oracle = (do
      let files ← workspace.eligible scope
      let found ← (inFiles deadline symbol room files).eval oracle
      .ok (definitionEntry oracle symbol :: found)) := by
    simp only [collect, Inquiry.eval_bind, Inquiry.eval_of_except, Inquiry.eval_pure,
      eval_definition_of]
    rfl
  cases hfiles : workspace.eligible scope with
  | error failure =>
      rw [heval, hfiles]
      rfl
  | ok files =>
      have htime : files = [] ∨ deadline.check = .ok () := by
        by_cases hexpired : deadline.isExpired = true
        · -- Without time, a search succeeds only where there is nothing to read.
          cases files with
          | nil => exact Or.inl rfl
          | cons file rest =>
              have hcheck : deadline.check = .error (.timeout deadline.operation) :=
                if_pos hexpired
              refine False.elim (htime ?_)
              rw [heval, hfiles]
              change (inFiles deadline symbol room (file :: rest)).eval oracle >>= _ = _
              rw [inFiles, Inquiry.eval_bind, Inquiry.eval_check, hcheck]
              rfl
        · exact Or.inr (if_neg hexpired)
      rw [eval_collect_files hfiles htime, huses]
      rfl

end Collect

section Order

/-- `Precedes left right` says that the one stands on an earlier line than the other, or further to
the left on the same line. -/
def Precedes (left right : Reference) : Prop :=
  left.location.startLine < right.location.startLine ∨
    (left.location.startLine = right.location.startLine ∧
      ∃ column ∈ left.location.column, ∃ column' ∈ right.location.column, column < column')

/-- Two references to the same line and column of a file. -/
def SamePlace (left right : Reference) : Prop :=
  left.location.path.same right.location.path = true ∧
    left.location.startLine = right.location.startLine ∧
    left.location.column = right.location.column

/-- The uses in a text follow each other line by line, from left to right. -/
theorem uses_in_precedes (number offset : Nat) (text : Text) :
    (usesIn symbol file module number offset text).Pairwise Precedes := by
  have hsorted : (Text.wordIndices symbol.name.toList none text).Pairwise (· < ·) :=
    List.pairwise_lt_range.filter _
  refine List.pairwise_filterMap.mpr (hsorted.imp_of_mem ?_)
  intro i j _ hj hij left hleft right hright
  have hlength : j ≤ text.length := (List.mem_range.mp (List.mem_filter.mp hj).1).le
  obtain ⟨_, _, hleft⟩ := use_eq_some hleft
  obtain ⟨_, _, hright⟩ := use_eq_some hright
  rw [Precedes, hleft, hright]
  rcases Text.place_lt hij hlength with hfeeds | ⟨hfeeds, hcolumns⟩
  · exact Or.inl (Nat.add_lt_add_left hfeeds number)
  · exact Or.inr ⟨congrArg (number + ·) hfeeds, _, rfl, _, rfl, Nat.succ_lt_succ hcolumns⟩

/-- The uses in a file stand in it, and not where the symbol itself stands. -/
theorem mem_uses {reference : Reference} (h : reference ∈ uses oracle symbol file) :
    reference.isDefinition = false ∧ reference.location.path = file ∧
      ∃ column, reference.location.column = some column ∧
        isOwnPlace symbol file reference.location.startLine column = false := by
  unfold uses at h
  split at h
  · obtain ⟨i, _, huse⟩ := List.mem_filterMap.mp h
    obtain ⟨hown, hdefinition, hlocation⟩ := use_eq_some huse
    rw [hlocation]
    exact ⟨hdefinition, rfl, _, rfl, hown⟩
  · contradiction

/-- The uses in a file follow each other line by line, from left to right. -/
theorem uses_precede (oracle : (question : Question) → Except Failure question.Answer)
    (symbol : Symbol) (file : Path) : (uses oracle symbol file).Pairwise Precedes := by
  unfold uses
  split
  · exact uses_in_precedes 1 0 _
  · exact List.Pairwise.nil

/-- What precedes something is not at the same place. -/
theorem Precedes.not_same_place {left right : Reference} (h : Precedes left right) :
    ¬ SamePlace left right := by
  rintro ⟨_, hline, hcolumn⟩
  rcases h with hlt | ⟨_, column, hleft, column', hright, hlt⟩
  · exact Nat.ne_of_lt hlt hline
  · rw [Option.mem_def.mp hleft, Option.mem_def.mp hright] at hcolumn
    exact Nat.ne_of_lt hlt (Option.some.inj hcolumn)

/-- No two selected files are the same place. -/
theorem eligible_apart {workspace : Workspace} {scope : Scope} {files : List Path}
    (h : workspace.eligible scope = .ok files) :
    files.Pairwise fun left right => left.same right = false := by
  refine (GraphBuild.eligible_nodup h).imp_of_mem fun {left right} hleft hright hne => ?_
  have hplain := (Workspace.eligible_holds h hleft).1
  have hplain' := (Workspace.eligible_holds h hright).1
  exact Bool.eq_false_iff.mpr fun hsame => hne ((hplain.same_iff hplain').mp hsame)

/-- No two uses in the selected files are at the same place. -/
theorem uses_apart {workspace : Workspace} {scope : Scope} {files : List Path}
    (h : workspace.eligible scope = .ok files) :
    (files.flatMap (uses oracle symbol)).Pairwise fun left right => ¬ SamePlace left right := by
  refine List.pairwise_flatMap.mpr ⟨?_, ?_⟩
  · exact fun file _ => (uses_precede oracle symbol file).imp Precedes.not_same_place
  · refine (eligible_apart h).imp fun {file other} hapart left hleft right hright hsame => ?_
    rw [SamePlace, (mem_uses hleft).2.1, (mem_uses hright).2.1, hapart] at hsame
    exact nomatch hsame.1

/-- No use is at the place of the definition. -/
theorem definition_apart {reference : Reference} (h : reference ∈ uses oracle symbol file) :
    ¬ SamePlace (definitionEntry oracle symbol) reference := by
  obtain ⟨_, hpath, column, hreference, hown⟩ := mem_uses h
  rintro ⟨hsame, hline, hcolumn⟩
  have hsame : symbol.location.path.same file = true := hpath ▸ hsame
  have hline : symbol.location.startLine = reference.location.startLine := hline
  have hcolumn : symbol.location.column = some column := hcolumn.trans hreference
  simp [isOwnPlace, hsame, hline, hcolumn] at hown

/-- The definition comes first, and only it is one. -/
theorem count_definitions {max : Nat} (hmax : 0 < max) (files : List Path) :
    ((definitionEntry oracle symbol :: files.flatMap (uses oracle symbol)).take max).countP
      (·.isDefinition) = 1 := by
  obtain ⟨room, rfl⟩ := Nat.exists_eq_succ_of_ne_zero hmax.ne'
  have hnone : ((files.flatMap (uses oracle symbol)).take room).countP (·.isDefinition) = 0 := by
    refine List.countP_eq_zero.mpr fun reference hreference => ?_
    obtain ⟨file, _, huse⟩ := List.mem_flatMap.mp (List.mem_of_mem_take hreference)
    simp [(mem_uses huse).1]
  rw [Nat.succ_eq_add_one, List.take_succ_cons, List.countP_cons, hnone]
  rfl

end Order

/-- A search for a symbol whose name is a word gives, if it does not run out of time, the first of
the definition and of all uses in the selected files that can be read, in the order of these files,
and of lines and columns within each of them. Exactly one of the references is the definition, and
no two of them are at the same place. -/
theorem collect_complete (workspace : Workspace)
    (oracle : (question : Question) → Except Failure question.Answer) (symbol : Symbol)
    (scope : Scope) (max : Nat) (deadline : Deadline) (hmax : 0 < max)
    (hword : Text.IsWord symbol.name.toList)
    (htime : (collect workspace symbol scope max deadline).eval oracle ≠
      .error (.timeout deadline.operation)) :
    (collect workspace symbol scope max deadline).eval oracle =
      (workspace.eligible scope).map (fun files =>
        (definitionEntry oracle symbol :: files.flatMap (uses oracle symbol)).take max) ∧
    (∀ file, (uses oracle symbol file).Pairwise Precedes) ∧
    ∀ found, (collect workspace symbol scope max deadline).eval oracle = .ok found →
      found.countP (·.isDefinition) = 1 ∧
      found.Pairwise fun left right => ¬ SamePlace left right := by
  have heval := eval_collect hword hmax htime
  refine ⟨heval, uses_precede oracle symbol, fun found hfound => ?_⟩
  rw [heval] at hfound
  cases hfiles : workspace.eligible scope with
  | error failure =>
      rw [hfiles] at hfound
      contradiction
  | ok files =>
      rw [hfiles] at hfound
      obtain rfl := Except.ok.inj hfound
      refine ⟨count_definitions hmax files, ?_⟩
      refine List.Pairwise.sublist (List.take_sublist _ _) (List.pairwise_cons.mpr ⟨?_, ?_⟩)
      · intro reference hreference
        obtain ⟨file, _, huse⟩ := List.mem_flatMap.mp hreference
        exact definition_apart huse
      · exact uses_apart hfiles

/-- A file with a function and two uses of it, and a file that imports and uses it. -/
def usesFiles : Workspace where
  root := ⟨"/ws"⟩
  storage := MemoryFiles.storage
    ⟨[(⟨"/ws/a.ts"⟩, some "let f = 1;\r\né f(f), ff".toList),
      (⟨"/ws/b.ts"⟩, some "import { f } from './a';\nf".toList)]⟩ false

/-- The function. -/
def usesSymbol : Symbol where
  name := "f"
  kind := .function
  location := { path := ⟨"/ws/a.ts"⟩, startLine := 1, endLine := 1, column := some 5 }

/-- Of the definition and the three uses, the first three are given. -/
theorem collect_two_files :
    ∃ found, (collect usesFiles usesSymbol {} 3 { operation := .references, limit := none }).eval
        usesFiles.answer = .ok found ∧
      found.map (fun reference => (reference.location.startLine, reference.location.column)) =
        [(1, some 5), (2, some 3), (2, some 5)] ∧
      found.countP (·.isDefinition) = 1 := by
  have hok : ((collect usesFiles usesSymbol {} 3
      { operation := .references, limit := none }).eval usesFiles.answer).toBool = true := by
    decide +kernel
  obtain ⟨hfound, _, hrest⟩ := collect_complete usesFiles usesFiles.answer usesSymbol {} 3
    { operation := .references, limit := none } (by decide)
    ⟨by decide, List.all_eq_true.mp (by decide)⟩
    fun htimeout => by rw [htimeout] at hok; contradiction
  have hfiles : usesFiles.eligible {} = .ok [⟨"/ws/a.ts"⟩, ⟨"/ws/b.ts"⟩] := rfl
  rw [hfiles] at hfound
  exact ⟨_, hfound, by decide +kernel, (hrest _ hfound).1⟩

end CodeAtlas.Reference
