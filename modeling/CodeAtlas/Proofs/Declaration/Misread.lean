import CodeAtlas.Proofs.Declaration.Skimmed

/-!
# Names that are read as exports

A word boundary stands between a dollar sign and the letters behind it, so a name that ends with
`export` behind a dollar sign starts a statement if what follows fits. In a module that is not clean
it does (`misread_of_not_clean`): a type alias becomes an export by assignment, and the body of another
declaration an export list with items. An earlier export list may take in the place where this one
starts; then the dollar sign is among its items (`dollar_of_cover`).
-/

namespace CodeAtlas.Declaration

open Pattern (Match Reads Groups Passes passes_literal passes_blank blanks optional)
open Text (byteLength isNamePart IsUnquoted continued continued_cons join head_of_cons)

/-- Behind a dollar sign `export` starts an export by assignment or an export list with items. -/
def IsMisread (text : Text) : Prop :=
  ∃ front rest, text = front ++ '$' :: rest ∧
    ((∃ below, rest = "export".toList ++ (Statement.typeAlias.tail ++ below)) ∨
      ∃ clause below, rest = listText clause ++ below ∧ '}' ∉ clause ∧ ¬Module.IsBare clause)

section Misread

variable {kind : FrameKind} {text : Text}

/-- What is misread in a part is misread in the whole. -/
theorem IsMisread.within (h : IsMisread text) (left right : Text) :
    IsMisread (left ++ (text ++ right)) := by
  obtain ⟨front, rest, rfl, hrest⟩ := h
  refine ⟨left ++ front, rest ++ right, by simp, ?_⟩
  rcases hrest with ⟨below, rfl⟩ | ⟨clause, below, rfl, hclause⟩
  · exact Or.inl ⟨below ++ right, by simp only [List.append_assoc]⟩
  · exact Or.inr ⟨clause, below ++ right, List.append_assoc _ _ _, hclause⟩

/-- What is misread behind a line feed is misread without it. -/
theorem IsMisread.behind_feed (h : IsMisread ('\n' :: text)) : IsMisread text := by
  obtain ⟨front, rest, htext, hrest⟩ := h
  cases front with
  | nil => cases (List.cons.inj htext).1
  | cons c front => exact ⟨front, rest, (List.cons.inj htext).2, hrest⟩

/-- The name of a type alias that ends with `export` behind a dollar sign is misread. -/
theorem misread_alias (indent : Nat) (front : Text) {name : Name} (hname : name.EndsInExport) :
    IsMisread (rowOf indent front name Statement.typeAlias.tail) := by
  obtain ⟨more, htext⟩ := hname
  refine ⟨indentation indent ++ (front ++ more), "export".toList ++ Statement.typeAlias.tail, ?_,
    Or.inl ⟨[], by rw [List.append_nil]⟩⟩
  simp only [rowOf, ← htext, List.append_assoc, List.cons_append]

/-- The first line of a listing starts with a character of a word. -/
theorem Listing.exists_start (width indent : Nat) {items : Listing kind} (h : items ≠ .nil) :
    ∃ c rest, continued (items.rows width indent) = '\n' :: (indentation indent ++ c :: rest) ∧
      isNamePart c = true := by
  have hfront : ∀ (front tail below : Text) (name : Name),
      (∀ c, front.head? = some c → isNamePart c = true) →
      ∃ c rest, rowOf indent front name tail ++ below = indentation indent ++ c :: rest ∧
        isNamePart c = true := by
    intro front tail below name hhead
    obtain ⟨c, more, htext, hpart, -⟩ := name.exists_head
    cases front with
    | nil => exact ⟨c, more ++ (tail ++ below), by simp [rowOf, htext], hpart⟩
    | cons d front => exact ⟨d, front ++ (name.text ++ (tail ++ below)), by simp [rowOf], hhead d rfl⟩
  have hwords : ∀ keyword ∈ declarationWords, ∀ exported, ∀ c,
      (words exported keyword).head? = some c → isNamePart c = true := by
    decide
  cases items with
  | nil => exact absurd rfl h
  | member form name others =>
      obtain ⟨c, rest, hrow, hpart⟩ :=
        hfront [] form.tail (continued (others.rows width indent)) name (by simp)
      exact ⟨c, rest, by rw [Listing.rows, continued_cons, hrow], hpart⟩
  | statement exported form name others =>
      obtain ⟨c, rest, hrow, hpart⟩ := hfront (words exported form.keyword) form.tail
        (continued (others.rows width indent)) name (hwords _ form.keyword_mem exported)
      exact ⟨c, rest, by rw [Listing.rows, continued_cons, hrow], hpart⟩
  | block exported kind name body others =>
      obtain ⟨c, rest, hrow, hpart⟩ := hfront (words exported kind.keyword) [' ', '{']
        (continued (body.rows width (indent + width) ++ closingRow indent :: others.rows width indent))
        name (hwords _ kind.keyword_mem exported)
      exact ⟨c, rest, by rw [Listing.rows, continued_cons, hrow], hpart⟩

/-- The name of a declaration with something in its body that ends with `export` behind a dollar sign is
misread. -/
theorem misread_block (width indent : Nat) (front : Text) {name : Name} (hname : name.EndsInExport)
    {body : Listing kind} (hbody : body ≠ .nil) (below : Text) :
    IsMisread (rowOf indent front name [' ', '{'] ++
      (continued (body.rows width (indent + width)) ++ '\n' :: (indentation indent ++ '}' :: below))) := by
  obtain ⟨more, htext⟩ := hname
  obtain ⟨c, first, hstart, hpart⟩ := body.exists_start width (indent + width) hbody
  have hmem : '}' ∈ continued (body.rows width (indent + width)) ++
      '\n' :: (indentation indent ++ '}' :: below) := by simp
  obtain ⟨clause, rest, hcut, hclause⟩ := List.eq_append_cons_of_mem hmem
  have hcomma : c ≠ ',' ∧ c ≠ '}' := by
    constructor <;> (rintro rfl; exact absurd hpart (by decide))
  -- The first visible character of the body comes before the first brace that closes something.
  have hitem : c ∈ clause := by
    rw [hstart] at hcut
    have hsplit : ('\n' :: indentation (indent + width) ++ [c]) ++
        (first ++ '\n' :: (indentation indent ++ '}' :: below)) = clause ++ '}' :: rest := by
      rw [← hcut]
      simp
    rcases List.append_eq_append_iff.mp hsplit with ⟨late, rfl, -⟩ | ⟨early, hearly, hlate⟩
    · simp
    · cases early with
      | nil => simp [show clause = _ from (List.append_nil clause).symm.trans hearly.symm]
      | cons d early =>
          obtain ⟨rfl, -⟩ := List.cons.inj hlate
          have hbrace : '}' ∈ '\n' :: indentation (indent + width) ++ [c] := by simp [hearly]
          simp [not_mem_indentation, hcomma.2.symm] at hbrace
  have hbare : ¬Module.IsBare clause := by
    intro hbare
    rcases hbare c hitem with rfl | hwhite
    · exact hcomma.1 rfl
    · rw [Text.not_white_space_of_name_part hpart] at hwhite
      cases hwhite
  refine ⟨indentation indent ++ (front ++ more), listText clause ++ rest, ?_,
    Or.inr ⟨clause, rest, rfl, hclause, hbare⟩⟩
  have hlist : listText clause ++ rest = "export".toList ++ ([' ', '{'] ++ (clause ++ '}' :: rest)) := by
    rw [listText, List.append_assoc, List.append_assoc]
    rfl
  rw [hlist, ← hcut]
  simp only [rowOf, ← htext, List.append_assoc, List.cons_append, List.nil_append]

/-- Something is misread in a listing that is not clean. -/
theorem misread_of_not_clean (width indent : Nat) (items : Listing kind) (h : ¬items.IsClean) :
    IsMisread (continued (items.rows width indent)) := by
  have hbehind : ∀ {front back : Text}, IsMisread back → IsMisread (front ++ back) := by
    intro front back hback
    have hwithin := hback.within front []
    rwa [List.append_nil] at hwithin
  induction items generalizing indent with
  | nil => exact absurd trivial h
  | member form name others ih =>
      rw [Listing.rows, continued_cons, ← List.cons_append]
      exact hbehind (ih indent h)
  | statement exported form name others ih =>
      rw [Listing.rows, continued_cons, ← List.cons_append]
      by_cases hothers : others.IsClean
      · obtain ⟨rfl, hname⟩ : form = .typeAlias ∧ name.EndsInExport := by
          by_contra hnone
          exact h ⟨fun hform hname => hnone ⟨hform, hname⟩, hothers⟩
        exact (misread_alias indent _ hname).within ['\n'] _
      · exact hbehind (ih indent hothers)
  | block exported kind name body others ihbody ihrest =>
      rw [Listing.continued_block]
      by_cases hothers : others.IsClean
      · by_cases hinside : body.IsClean
        · obtain ⟨hbody, hname⟩ : body ≠ .nil ∧ name.EndsInExport := by
            by_contra hnone
            exact h ⟨fun hbody hname => hnone ⟨hbody, hname⟩, hinside, hothers⟩
          exact (misread_block width indent (words exported kind.keyword) hname hbody []).within ['\n'] _
        · have hrow := (ihbody (indent + width) hinside).within
            ('\n' :: rowOf indent (words exported kind.keyword) name [' ', '{'])
            ('\n' :: closingRow indent ++ continued (others.rows width indent))
          simpa only [List.append_assoc, List.cons_append] using hrow
      · exact hbehind (ihrest indent hothers)

/-- Something is misread in a printed module that is not clean. -/
theorem misread_print (width blanks : Nat) {items : Listing .ofNamespace} (h : ¬items.IsClean) :
    IsMisread (items.print width blanks) := by
  have hmisread := misread_of_not_clean width 0 items h
  rw [Listing.print]
  cases hrows : items.rows width 0 with
  | nil =>
      rw [hrows] at hmisread
      obtain ⟨front, rest, htext, -⟩ := hmisread
      simp [continued] at htext
  | cons row rows =>
      rw [hrows] at hmisread
      have hjoin : join ['\n'] (row :: rows ++ List.replicate blanks []) =
          row ++ continued rows ++ continued (List.replicate blanks []) :=
        join_of_continued (by simp [continued])
      rw [hjoin]
      exact (IsMisread.behind_feed hmisread).within [] _

end Misread

section Found

variable {code : Text} {found : Match}

/-- One pattern reads, then another. -/
theorem reads_of_seq {first second : Pattern} {offset : Nat} {read : Text} {groups : Groups}
    (h : Reads (.seq first second) offset read groups) :
    ∃ left right older newer, read = left ++ right ∧ groups = newer ++ older ∧
      Reads first offset left older ∧ Reads second (offset + byteLength left) right newer := by
  cases h with
  | seq hfirst hsecond => exact ⟨_, _, _, _, rfl, rfl, hfirst, hsecond⟩
  | assertion h => cases h

/-- A group is recorded with what it reads. -/
theorem reads_of_group {body : Pattern} {number offset : Nat} {read : Text} {groups : Groups}
    (h : Reads (.group number body) offset read groups) :
    ∃ inner, groups = (number, offset, offset + byteLength read) :: inner := by
  cases h with
  | group _ => exact ⟨_, rfl⟩
  | assertion h => cases h

/-- What an export list reads: its braces with the items between them, recorded as the first group, and
a specifier behind them if there is one. -/
theorem list_reads {offset : Nat} {read : Text} {groups : Groups}
    (h : Reads Module.Statement.exportList offset read groups) :
    ∃ lead clause tail older newer, read = lead ++ (clause ++ '}' :: tail) ∧
      groups = newer ++ (1, offset + byteLength lead,
        offset + byteLength lead + byteLength clause) :: older ∧
      '$' ∉ lead ∧ (∀ entry ∈ newer, entry.1 ≠ 1) ∧
      (tail = [] ∨ ∃ quote ∈ tail, quote = '\'' ∨ quote = '"') := by
  obtain ⟨none, right, first, _, rfl, rfl, hnone, hright⟩ := reads_of_seq h
  obtain ⟨word, right, second, _, rfl, rfl, hword, hright⟩ := reads_of_seq hright
  obtain ⟨type, right, third, _, rfl, rfl, htype, hright⟩ := reads_of_seq hright
  obtain ⟨opening, right, fourth, _, rfl, rfl, hopening, hright⟩ := reads_of_seq hright
  obtain ⟨clause, right, _, _, rfl, rfl, hclause, hright⟩ := reads_of_seq hright
  obtain ⟨closing, tail, _, newer, rfl, rfl, hclosing, htail⟩ := reads_of_seq hright
  obtain ⟨c, hc, rfl, rfl⟩ := Module.reads_char hclosing
  obtain rfl : c = '}' := of_decide_eq_true hc
  obtain ⟨inner, rfl⟩ := reads_of_group hclause
  refine ⟨none ++ (word ++ (type ++ opening)), clause, tail,
    inner ++ (fourth ++ (third ++ (second ++ first))), newer, by simp, ?_, ?_, ?_, ?_⟩
  · simp only [Text.byte_length_append, Nat.add_assoc, List.append_assoc, List.cons_append,
      List.nil_append]
  · simp only [List.mem_append, not_or]
    exact ⟨hnone.not_mem (by decide), hword.not_mem (by decide), htype.not_mem (by decide),
      hopening.not_mem (by decide)⟩
  · rintro ⟨number, start, stop⟩ hmem rfl
    exact Module.not_mem_of_bodies_nil htail rfl hmem
  · have htail : Pattern.CanRead (optional fromSpecifier) tail := ⟨_, _, htail⟩
    obtain ⟨-, rfl⟩ | ⟨left, right, rfl, hleft, -⟩ := htail.of_rounds
    · exact Or.inl rfl
    · obtain ⟨quote, hmem, hquote⟩ := quote_of_from hleft
      exact Or.inr ⟨quote, List.mem_append_left right hmem, hquote⟩

/-- An export list of a text without quotes that takes in a dollar sign behind its start has it among
its items. -/
theorem dollar_of_cover (hquote : IsUnquoted code) {front back : Text} (hcode : code = front ++ '$' :: back)
    (hfound : found ∈ Module.Statement.exportList.searchAll code)
    (hstart : found.start < byteLength (front ++ ['$']))
    (hstop : byteLength (front ++ ['$']) < found.stop) : '$' ∈ Module.clauseOf code found := by
  obtain ⟨read, ⟨left, right, hsplit, hleft⟩, hlength, hreads⟩ := Pattern.search_all_is_in hfound
  obtain ⟨lead, clause, tail, older, newer, rfl, hgroups, hlead, hnewer, htail⟩ := list_reads hreads
  have hclause : Module.clauseOf code found = clause := by
    have hgroup : found.group? 1 = some (found.start + byteLength lead,
        found.start + byteLength lead + byteLength clause) := by
      have hnone : newer.find? (·.1 = 1) = none :=
        List.find?_eq_none.mpr fun entry hentry => by simpa using hnewer entry hentry
      rw [Match.group?, hgroups, List.find?_append, hnone]
      rfl
    have htext : found.text? code 1 = some clause := by
      rw [Match.text?, hgroup]
      refine Text.slice_eq_some_iff.mpr ⟨⟨left ++ lead, '}' :: tail ++ right, ?_, ?_⟩, rfl⟩
      · simp [hsplit]
      · rw [Text.byte_length_append, hleft]
    rw [Module.clauseOf, htext, Option.getD_some]
  have hplain : tail = [] := by
    refine htail.resolve_right ?_
    rintro ⟨quote, hmem, heq⟩
    exact hquote quote (by simp [hsplit, hmem]) (heq.imp_right Or.inl)
  -- The dollar sign lies in what is read,
  have hmem : '$' ∈ lead ++ (clause ++ '}' :: tail) := by
    have hwhole : left ++ ((lead ++ (clause ++ '}' :: tail)) ++ right) = (front ++ ['$']) ++ back := by
      rw [← hsplit, hcode]
      simp
    obtain ⟨middle, hfront, hread⟩ := Text.exists_between hwhole (by omega)
    have hinner := congrArg byteLength hfront
    rw [Text.byte_length_append left] at hinner
    obtain ⟨more, hmore, -⟩ := Text.exists_between hread.symm (by omega)
    have hlast : middle.getLast? = some '$' := by
      have hne : middle ≠ [] := by
        rintro rfl
        rw [show byteLength [] = 0 from rfl] at hinner
        omega
      have hend := congrArg List.getLast? hfront
      rw [List.getLast?_concat, List.getLast?_append, List.getLast?_eq_some_getLast hne,
        Option.some_or] at hend
      rw [List.getLast?_eq_some_getLast hne, ← hend]
    rw [hmore]
    exact List.mem_append_left more (List.mem_of_getLast? hlast)
  -- and there only between the braces.
  rw [hclause]
  simpa [hlead, hplain] using hmem

/-- A type alias behind `export` is read as an export by assignment. -/
theorem assign_passes_alias (before : Option Char) (offset : Nat) (below : Text)
    (hbefore : before.any Text.isWordChar = false) :
    ∃ groups, Passes Module.Statement.exportAssign before offset
      ("export".toList ++ ([' '] ++ ("=".toList ++ ([' '] ++ "string".toList)))) (';' :: below)
      groups := by
  let name : Name := { text := "string".toList }
  have hname : ∀ before offset, Passes Pattern.identifier before offset name.text (';' :: below) [] :=
    fun _ _ => name.passes (head_of_cons (by decide) _)
  exact ⟨_, Passes.after_boundary (Pattern.at_word_boundary hbefore rfl)
    ((passes_literal "export" _).seq ((passes_blank (Nat.zero_le 1) (head_of_cons (by decide) _)).seq
      ((passes_literal "=" _).seq ((passes_blank (Nat.zero_le 1) (head_of_cons (by decide) _)).seq
        (hname _ _).group))))⟩

/-- What is misread in a text without quotes is found as an export by assignment or in an export list
with items. -/
theorem found_of_misread (hquote : IsUnquoted code) (h : IsMisread code) :
    Module.Statement.exportAssign.searchAll code ≠ [] ∨
      ∃ found ∈ Module.Statement.exportList.searchAll code,
        ¬Module.IsBare (Module.clauseOf code found) := by
  obtain ⟨front, rest, hcode, ⟨below, rfl⟩ | ⟨clause, below, rfl, hclause, hbare⟩⟩ := h
  · left
    obtain ⟨groups, hpasses⟩ := assign_passes_alias (some '$') (byteLength (front ++ ['$'])) below rfl
    have hplace : code = (front ++ ['$']) ++ (("export".toList ++ ([' '] ++ ("=".toList ++
        ([' '] ++ "string".toList)))) ++ ';' :: below) := by
      rw [hcode, List.append_assoc front]
      rfl
    rw [hplace]
    refine Pattern.search_all_ne_nil ?_
    rw [List.getLast?_concat, Pattern.match_at_of_passes hpasses]
    exact Option.some_ne_none _
  · right
    have hbelow : IsUnquoted below := fun c hc => hquote c (by simp [hcode, hc])
    have hmatch := Pattern.match_at_of_passes
      (list_passes (some '$') (byteLength (front ++ ['$'])) rfl hclause hbelow)
    obtain ⟨other, hother, rfl | ⟨hstart, hstop⟩⟩ := Pattern.exists_cover rfl (by decide) hmatch
    · refine ⟨_, hcode ▸ hother, ?_⟩
      have hplace : code = (front ++ ['$']) ++ (listText clause ++ below) := by simp [hcode]
      rwa [hplace, clause_of_list]
    · rw [← hcode] at hother
      refine ⟨other, hother, fun hitems => ?_⟩
      have hdollar := hitems '$' (dollar_of_cover hquote hcode hother hstart hstop)
      revert hdollar
      decide

end Found

end CodeAtlas.Declaration
