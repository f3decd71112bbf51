import Mathlib.Data.List.Forall2
import CodeAtlas.Proofs.Declaration.Layout
import CodeAtlas.Proofs.Declaration.Offered

/-!
# Searching a printed module

A search for a statement that starts with `export` meets that word in a printed module only where a
declaration is exported and, behind a dollar sign, at the end of a name. `Sought` follows the search row
by row. What it finds in a printed module is what it finds at the exported declarations
(`Skims.search_print`), if the names with such an end give way to no match or are spared (`Spares`).
-/

namespace CodeAtlas.Declaration

open Pattern (Match Passes Scans Misses Led Groups)
open Text (byteLength isNameChar isNamePart IsUnquoted continued continued_cons join head_of_cons)

section Sought

variable {pattern : Pattern} {gives : Text → Match → List String → Prop}
  {front left right rest : Text} {names more : List String} {groups : Groups}

/-- A search that comes to a text without quotes finds matches in it that give the names, and goes on
behind it. -/
def Sought (pattern : Pattern) (gives : Text → Match → List String → Prop) (front text rest : Text)
    (names : List String) : Prop :=
  IsUnquoted (text ++ rest) → ∃ found parts,
    List.Forall₂ (gives (front ++ (text ++ rest))) found parts ∧ parts.flatten = names ∧
    ∀ later, Scans pattern ⟨(front ++ text).getLast?, byteLength (front ++ text), rest⟩ later →
      Scans pattern ⟨front.getLast?, byteLength front, text ++ rest⟩ (found ++ later)

/-- Nothing is found where no match starts. -/
theorem Sought.of_misses (h : Misses pattern front.getLast? left rest) :
    Sought pattern gives front left rest [] := by
  refine fun _ => ⟨[], [], .nil, rfl, fun later hlater => Scans.of_misses h ?_⟩
  rwa [List.getLast?_append, Text.byte_length_append] at hlater

/-- One match is found that gives the names. -/
theorem Sought.of_passes (hne : left ≠ [])
    (h : IsUnquoted rest → Passes pattern front.getLast? (byteLength front) left rest groups)
    (hgives : gives (front ++ (left ++ rest))
      ⟨byteLength front, byteLength front + byteLength left, groups⟩ names) :
    Sought pattern gives front left rest names := by
  intro hquote
  have hpasses := h fun c hc => hquote c (List.mem_append_right left hc)
  refine ⟨[_], [names], .cons hgives .nil, List.append_nil _, fun later hlater => .hit hne hpasses ?_⟩
  rwa [List.getLast?_append, Text.byte_length_append] at hlater

/-- One text is searched after another. -/
theorem Sought.append (hleft : Sought pattern gives front left (right ++ rest) names)
    (hright : Sought pattern gives (front ++ left) right rest more) :
    Sought pattern gives front (left ++ right) rest (names ++ more) := by
  intro hquote
  rw [List.append_assoc] at hquote ⊢
  obtain ⟨early, earlyParts, hearly, rfl, hscan⟩ := hleft hquote
  obtain ⟨late, lateParts, hlate, rfl, hgoes⟩ :=
    hright fun c hc => hquote c (List.mem_append_right left hc)
  rw [List.append_assoc front] at hlate hgoes
  refine ⟨early ++ late, earlyParts ++ lateParts, List.rel_append hearly hlate, List.flatten_append,
    fun later hlater => ?_⟩
  rw [List.append_assoc]
  exact hscan _ (hgoes later hlater)

/-- A text is passed over in front of another one. -/
theorem Sought.skip (hleft : Sought pattern gives front left (right ++ rest) [])
    (hright : Sought pattern gives (front ++ left) right rest names) :
    Sought pattern gives front (left ++ right) rest names :=
  hleft.append hright

/-- A text is passed over behind another one. -/
theorem Sought.over (hleft : Sought pattern gives front left (right ++ rest) names)
    (hright : Sought pattern gives (front ++ left) right rest []) :
    Sought pattern gives front (left ++ right) rest names := by
  have hall := hleft.append hright
  rwa [List.append_nil] at hall

/-- A search through a whole text finds what gives the names, in the order of the text. -/
theorem Sought.search (hsome : pattern.readsSome = true) (hquote : IsUnquoted left)
    (h : Sought pattern gives [] left [] names) :
    (pattern.searchAll left).Pairwise (·.start ≤ ·.start) ∧
      ∃ parts, List.Forall₂ (gives left) (pattern.searchAll left) parts ∧ parts.flatten = names := by
  obtain ⟨found, parts, hfound, hparts, hscan⟩ := h (by rwa [List.append_nil])
  have hstop : Scans pattern ⟨left.getLast?, byteLength left, []⟩ [] :=
    .stop (Pattern.match_at_of_fails (Pattern.fails_nil hsome))
  have hall := hscan [] hstop
  rw [List.append_nil, List.append_nil] at hall
  rw [List.append_nil] at hfound
  rw [Pattern.search_all_of_scans hall]
  exact ⟨hall.ascends.2, parts, hfound, hparts⟩

end Sought

/-- The keyword of a declaration and what follows its name on the line. -/
inductive IsShape : String → Text → Prop where
  | statement (form : Statement) : IsShape form.keyword form.tail
  | block (kind : FrameKind) : IsShape kind.keyword [' ', '{']

/-- A pattern has no match at `export` behind a dollar sign in front of a text. -/
def Dead (pattern : Pattern) (after : Text) : Prop :=
  ∀ offset, Pattern.matchAt? pattern ⟨some '$', offset, "export".toList ++ after⟩ = none

/-- A name ends with `export` behind a dollar sign. -/
def Name.EndsInExport (name : Name) : Prop :=
  '$' :: "export".toList <:+ name.text

namespace Listing

/-- The exported declarations of a listing and of the bodies in it. -/
def exported {kind : FrameKind} : Listing kind → List Name
  | .nil => []
  | .member _ _ rest => rest.exported
  | .statement exported _ name rest => (if exported then [name] else []) ++ rest.exported
  | .block exported _ name body rest =>
    (if exported then [name] else []) ++ (body.exported ++ rest.exported)

/-- No type alias and no declaration with something in its body has a name that ends with `export`
behind a dollar sign. -/
def IsClean {kind : FrameKind} : Listing kind → Prop
  | .nil => True
  | .member _ _ rest => rest.IsClean
  | .statement _ form name rest => (form = .typeAlias → ¬name.EndsInExport) ∧ rest.IsClean
  | .block _ _ name body rest => (body ≠ .nil → ¬name.EndsInExport) ∧ body.IsClean ∧ rest.IsClean

end Listing

/-- A listing is clean, or a pattern has no match behind any of its names. -/
def Spares {kind : FrameKind} (pattern : Pattern) (items : Listing kind) : Prop :=
  items.IsClean ∨ ((∀ below, Dead pattern (Statement.typeAlias.tail ++ below)) ∧
    ∀ below, Dead pattern ([' ', '{'] ++ below))

section Shape

variable {keyword : String} {tail : Text}

/-- The keyword of a declaration is one of those. -/
theorem IsShape.keyword_mem (h : IsShape keyword tail) : keyword ∈ declarationWords := by
  cases h with
  | statement form => exact form.keyword_mem
  | block kind => exact kind.keyword_mem

/-- What follows the name of a declaration ends it and is no place for `export`. -/
theorem IsShape.ends_name (h : IsShape keyword tail) (rest : Text) :
    (∀ c, (tail ++ rest).head? = some c → isNamePart c = false) ∧ 'e' ∉ tail := by
  cases h with
  | statement form => cases form <;> exact ⟨head_of_cons (by decide) _, by decide⟩
  | block kind => exact ⟨head_of_cons (by decide) _, by decide⟩

/-- The name of a declaration is read after its keyword. -/
theorem IsShape.declared (h : IsShape keyword tail) (name : Name) (rest : Text) :
    Module.declaredNames? (Text.dropEndWhile keyword.toList fun c => c = '*' || c = ' ')
      (name.text ++ (tail ++ rest)) = some [name.word] := by
  cases h with
  | statement form => exact form.declared name rest
  | block kind => exact kind.declared name rest

end Shape

section Led

variable {pattern : Pattern} {follow : Char → Bool} {gives : Text → Match → List String → Prop}
  {front rest tail : Text} {keyword : String}

/-- A text without the first letter of `export` is passed over. -/
theorem sought_other (hled : Led ["export".toList] follow pattern) {text : Text} (htext : 'e' ∉ text) :
    Sought pattern gives front text rest [] := by
  refine .of_misses (hled.misses_other fun word hword c hc => ?_)
  obtain rfl := List.mem_singleton.mp hword
  obtain rfl : 'e' = c := Option.some.inj hc
  exact htext

/-- A match does not start in the keyword of a declaration. -/
theorem misses_keyword (hled : Led ["export".toList] follow pattern)
    (hkeyword : keyword ∈ declarationWords) (before : Option Char) (rest : Text) :
    Misses pattern before (keyword.toList ++ [' ']) rest := by
  have hwords : ∀ word ∈ declarationWords, (word.toList ≠ [] ∧
      ∀ c ∈ word.toList, isNameChar c = true) ∧ word.toList ∉ ["export".toList] := by decide
  obtain ⟨⟨hne, hchars⟩, hother⟩ := hwords keyword hkeyword
  have hmisses : Misses pattern before (keyword.toList ++ [' ']) ([] ++ rest) :=
    hled.misses_free_word ⟨hne, hchars⟩ (by decide) (Or.inl hother)
  exact hmisses

/-- A name that gives way to no match is passed over with what follows it. -/
theorem Name.sought (name : Name) (hled : Led ["export".toList] follow pattern)
    (hdollar : follow '$' = false) (hmark : ∀ c, (tail ++ rest).head? = some c → isNamePart c = false)
    (htail : 'e' ∉ tail) (hdead : name.EndsInExport → Dead pattern (tail ++ rest)) :
    Sought pattern gives front (name.text ++ tail) rest [] := by
  have hne : name.text ≠ "export".toList := fun heq =>
    name.not_reserved (by rw [heq]; decide)
  have hname : Sought pattern gives front name.text (tail ++ rest) [] :=
    .of_misses (hled.misses_identifier hdollar name.chars hmark hne hdead)
  exact hname.skip (sought_other hled htail)

end Led

/-- A pattern is led by `export`, gives the names of the exported declarations that it offers, and
finds nothing at the end of a name, unless that is the name of a type alias or of a declaration with
something in its body. -/
structure Skims (pattern : Pattern) (follow : Char → Bool) (gives : Text → Match → List String → Prop)
    (offers : Name → List String) : Prop where
  led : Led ["export".toList] follow pattern
  dollar : follow '$' = false
  lead : ∀ {front keyword tail} (name : Name) below, IsShape keyword tail →
    front.getLast?.any Text.isWordChar = false →
    Sought pattern gives front (words true keyword) (name.text ++ (tail ++ below)) (offers name)
  member : ∀ {kind} (form : Member kind) below, Dead pattern (form.tail ++ below)
  statement : ∀ form below, form ≠ Statement.typeAlias → Dead pattern (form.tail ++ below)
  empty : ∀ {front} (name : Name) indent below, name.EndsInExport →
    Sought pattern gives front (name.text ++ ([' ', '{'] ++ '\n' :: closingRow indent)) below []

section Rows

variable {pattern : Pattern} {follow : Char → Bool} {gives : Text → Match → List String → Prop}
  {offers : Name → List String} {front rest tail : Text} {keyword : String} {kind : FrameKind}

/-- What stands in front of the name of a declaration gives what the declaration offers, if it is
exported. -/
theorem Skims.sought_words (h : Skims pattern follow gives offers) (exported : Bool) (name : Name)
    (hshape : IsShape keyword tail) (hfront : front.getLast?.any Text.isWordChar = false) :
    Sought pattern gives front (words exported keyword) (name.text ++ (tail ++ rest))
      ((if exported then [name] else []).flatMap offers) := by
  cases exported with
  | true =>
      rw [if_pos rfl, List.flatMap_singleton]
      exact h.lead name rest hshape hfront
  | false => exact .of_misses (misses_keyword h.led hshape.keyword_mem _ _)

/-- A line gives what stands in front of its name gives. -/
theorem Skims.sought_row (h : Skims pattern follow gives offers) (indent : Nat) {lead : Text}
    {name : Name} {names : List String} (hfront : front.getLast?.any Text.isWordChar = false)
    (hlead : ∀ {front}, front.getLast?.any Text.isWordChar = false →
      Sought pattern gives front lead (name.text ++ (tail ++ rest)) names)
    (hname : ∀ {front}, Sought pattern gives front (name.text ++ tail) rest []) :
    Sought pattern gives front (rowOf indent lead name tail) rest names := by
  have hspaces : (front ++ indentation indent).getLast?.any Text.isWordChar = false := by
    rw [List.getLast?_append]
    cases indent with
    | zero => exact hfront
    | succ indent =>
        rw [indentation, List.getLast?_replicate, if_neg (Nat.succ_ne_zero indent)]
        rfl
  have hindentation : Sought pattern gives front (indentation indent)
      ((lead ++ (name.text ++ tail)) ++ rest) [] :=
    sought_other h.led (not_mem_indentation indent (by decide))
  have hwords : Sought pattern gives (front ++ indentation indent) lead ((name.text ++ tail) ++ rest)
      names := by
    rw [List.append_assoc]
    exact hlead hspaces
  exact hindentation.skip (hwords.over hname)

/-- The line of a member is passed over. -/
theorem Skims.sought_member (h : Skims pattern follow gives offers) (indent : Nat) (form : Member kind)
    (name : Name) (hfront : front.getLast?.any Text.isWordChar = false) :
    Sought pattern gives front (rowOf indent [] name form.tail) rest [] := by
  obtain ⟨hmark, htail⟩ : (∀ c, (form.tail ++ rest).head? = some c → isNamePart c = false) ∧
      'e' ∉ form.tail := by
    cases form <;> exact ⟨head_of_cons (by decide) _, by decide⟩
  exact h.sought_row indent hfront (fun _ => sought_other h.led List.not_mem_nil)
    (name.sought h.led h.dollar hmark htail fun _ => h.member form rest)

/-- The line of a declaration on one line gives what the declaration offers, if it is exported. -/
theorem Skims.sought_statement (h : Skims pattern follow gives offers) (indent : Nat) (exported : Bool)
    (form : Statement) (name : Name) (hfront : front.getLast?.any Text.isWordChar = false)
    {others : Listing .ofNamespace} (hspares : Spares pattern (.statement exported form name others)) :
    Sought pattern gives front (rowOf indent (words exported form.keyword) name form.tail) rest
      ((if exported then [name] else []).flatMap offers) := by
  obtain ⟨hmark, htail⟩ := (IsShape.statement form).ends_name rest
  have hdead : name.EndsInExport → Dead pattern (form.tail ++ rest) := by
    intro hname
    by_cases hform : form = .typeAlias
    · rcases hspares with ⟨hclean, -⟩ | ⟨hdead, -⟩
      · exact absurd hname (hclean hform)
      · rw [hform]
        exact hdead rest
    · exact h.statement form rest hform
  exact h.sought_row indent hfront (h.sought_words exported name (.statement form))
    (name.sought h.led h.dollar hmark htail hdead)

/-- What follows a line feed is searched behind it. -/
theorem Skims.sought_feed (h : Skims pattern follow gives offers) {text : Text} {names : List String}
    (htext : ∀ {front}, front.getLast?.any Text.isWordChar = false →
      Sought pattern gives front text rest names) :
    Sought pattern gives front ('\n' :: text) rest names := by
  have hfeed : (front ++ ['\n']).getLast?.any Text.isWordChar = false := by
    rw [List.getLast?_concat]
    rfl
  have hline : Sought pattern gives front ['\n'] (text ++ rest) [] := sought_other h.led (by decide)
  exact hline.skip (htext hfeed)

/-- A declaration with a body gives what it offers itself and what its body gives. -/
theorem Skims.sought_block (h : Skims pattern follow gives offers) (width indent : Nat)
    (exported : Bool) (kind : FrameKind) (name : Name) (body : Listing kind)
    (hfront : front.getLast?.any Text.isWordChar = false) {others : Listing .ofNamespace}
    (hspares : Spares pattern (.block exported kind name body others))
    (hbody : ∀ front rest, Sought pattern gives front (continued (body.rows width (indent + width)))
      rest (body.exported.flatMap offers)) :
    Sought pattern gives front (rowOf indent (words exported kind.keyword) name [' ', '{'] ++
        (continued (body.rows width (indent + width)) ++ '\n' :: closingRow indent)) rest
      ((if exported then [name] else []).flatMap offers ++ body.exported.flatMap offers) := by
  have hclosing : 'e' ∉ '\n' :: closingRow indent := by
    simp only [closingRow, List.mem_cons, List.mem_append, not_or]
    exact ⟨by decide, not_mem_indentation indent (by decide), by decide, List.not_mem_nil⟩
  by_cases hempty : body = .nil ∧ name.EndsInExport
  · -- A match behind the name takes the whole of the empty body.
    obtain ⟨rfl, hname⟩ := hempty
    have hshape : rowOf indent (words exported kind.keyword) name [' ', '{'] ++
        (continued ((Listing.nil : Listing kind).rows width (indent + width)) ++
          '\n' :: closingRow indent) =
        rowOf indent (words exported kind.keyword) name ([' ', '{'] ++ '\n' :: closingRow indent) := by
      simp [rowOf, Listing.rows, continued]
    rw [hshape, Listing.exported, List.flatMap_nil, List.append_nil]
    refine h.sought_row indent hfront (fun hfront => ?_) (h.empty name indent rest hname)
    rw [List.append_assoc]
    exact h.sought_words exported name (.block kind) hfront
  · have hdead : ∀ below, name.EndsInExport → Dead pattern ([' ', '{'] ++ below) := by
      intro below hname
      rcases hspares with ⟨hclean, -⟩ | ⟨-, hdead⟩
      · exact absurd hname (hclean fun hbody => hempty ⟨hbody, hname⟩)
      · exact hdead below
    obtain ⟨hmark, htail⟩ := (IsShape.block kind).ends_name
      (continued (body.rows width (indent + width)) ++ '\n' :: closingRow indent ++ rest)
    have hrow := h.sought_row indent hfront
      (h.sought_words exported name (.block kind)) (name.sought h.led h.dollar hmark htail (hdead _))
    exact hrow.append ((hbody _ _).over (sought_other h.led hclosing))

/-- A declaration with a body behind a line feed, and the listing behind it. -/
theorem Listing.continued_block (width indent : Nat) (exported : Bool) (name : Name)
    (body : Listing kind) (others : Listing .ofNamespace) :
    continued ((Listing.block exported kind name body others).rows width indent) =
      ('\n' :: (rowOf indent (words exported kind.keyword) name [' ', '{'] ++
        (continued (body.rows width (indent + width)) ++ '\n' :: closingRow indent))) ++
        continued (others.rows width indent) := by
  simp [Listing.rows, continued]

/-- A listing gives what its exported declarations offer. -/
theorem Skims.sought_listing (h : Skims pattern follow gives offers) (width indent : Nat)
    (items : Listing kind) (hspares : Spares pattern items) (front rest : Text) :
    Sought pattern gives front (continued (items.rows width indent)) rest
      (items.exported.flatMap offers) := by
  induction items generalizing indent front rest with
  | nil => exact sought_other h.led (by simp [Listing.rows, continued])
  | member form name others ih =>
      rw [Listing.rows, continued_cons, ← List.cons_append, Listing.exported]
      exact (h.sought_feed (h.sought_member indent form name)).skip (ih indent hspares _ _)
  | statement exported form name others ih =>
      rw [Listing.rows, continued_cons, ← List.cons_append, Listing.exported, List.flatMap_append]
      exact (h.sought_feed fun hfront => h.sought_statement indent exported form name hfront hspares).append
        (ih indent (hspares.imp_left (·.2)) _ _)
  | block exported kind name body others ihbody ihrest =>
      rw [Listing.continued_block, Listing.exported, List.flatMap_append, List.flatMap_append,
        ← List.append_assoc (List.flatMap offers _)]
      exact (h.sought_feed fun hfront => h.sought_block width indent exported kind name body hfront
        hspares (ihbody (indent + width) (hspares.imp_left (·.2.1)))).append
          (ihrest indent (hspares.imp_left (·.2.2)) _ _)

/-- A module goes on behind its first line feed. -/
theorem join_of_continued {rows : List Text} {text : Text} (h : continued rows = '\n' :: text) :
    join ['\n'] rows = text := by
  cases rows with
  | nil => cases h
  | cons row rows =>
      rw [← List.nil_append (row :: rows), Text.join_rows]
      exact (List.cons.inj h).2

/-- A printed module is searched row by row. -/
theorem Skims.sought_print (h : Skims pattern follow gives offers) (width blanks : Nat)
    (items : Listing .ofNamespace) (hspares : Spares pattern items) :
    Sought pattern gives [] (items.print width blanks) [] (items.exported.flatMap offers) := by
  have hothers : ∀ (others : Listing .ofNamespace), Spares pattern others → ∀ front,
      Sought pattern gives front
        (continued (others.rows width 0) ++ continued (List.replicate blanks [])) []
        (others.exported.flatMap offers) := fun others hspares front =>
    (h.sought_listing width 0 others hspares front _).over
      (sought_other h.led (by simp [continued]))
  cases items with
  | nil =>
      refine sought_other h.led fun hmem => ?_
      obtain hfeed | ⟨row, hrow, hmem⟩ := Text.mem_join hmem
      · exact absurd hfeed (by decide)
      · rw [List.eq_of_mem_replicate (show row ∈ List.replicate blanks [] from hrow)] at hmem
        cases hmem
  | member form => cases form
  | statement exported form name others =>
      have hprint : (Listing.statement exported form name others).print width blanks =
          rowOf 0 (words exported form.keyword) name form.tail ++
            (continued (others.rows width 0) ++ continued (List.replicate blanks [])) :=
        join_of_continued (by simp [Listing.rows, continued])
      rw [hprint, Listing.exported, List.flatMap_append]
      exact (h.sought_statement 0 exported form name rfl hspares).append
        (hothers others (hspares.imp_left (·.2)) _)
  | block exported kind name body others =>
      have hprint : (Listing.block exported kind name body others).print width blanks =
          (rowOf 0 (words exported kind.keyword) name [' ', '{'] ++
            (continued (body.rows width (0 + width)) ++ '\n' :: closingRow 0)) ++
            (continued (others.rows width 0) ++ continued (List.replicate blanks [])) :=
        join_of_continued (by simp [Listing.rows, continued])
      rw [hprint, Listing.exported, List.flatMap_append, List.flatMap_append,
        ← List.append_assoc (List.flatMap offers _)]
      exact (h.sought_block width 0 exported kind name body rfl hspares
        (h.sought_listing width (0 + width) body (hspares.imp_left (·.2.1)))).append
          (hothers others (hspares.imp_left (·.2.2)) _)

/-- A printed module has no quotes. -/
theorem Listing.print_unquoted (width blanks : Nat) (items : Listing .ofNamespace) :
    IsUnquoted (items.print width blanks) := by
  rintro c hc (rfl | rfl | rfl) <;>
    exact absurd (items.print_chars width blanks _ hc) (by decide)

/-- A search through a printed module finds what its exported declarations offer, in their order. -/
theorem Skims.search_print (h : Skims pattern follow gives offers) (hsome : pattern.readsSome = true)
    (width blanks : Nat) (items : Listing .ofNamespace) (hspares : Spares pattern items) :
    (pattern.searchAll (items.print width blanks)).Pairwise (·.start ≤ ·.start) ∧
      ∃ parts, List.Forall₂ (gives (items.print width blanks))
        (pattern.searchAll (items.print width blanks)) parts ∧
          parts.flatten = items.exported.flatMap offers :=
  (h.sought_print width blanks items hspares).search hsome (items.print_unquoted width blanks)

end Rows

end CodeAtlas.Declaration
