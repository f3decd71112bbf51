import CodeAtlas.Proofs.Declaration.Opens
import CodeAtlas.Proofs.Text.Nested
import CodeAtlas.Proofs.Text.Rows

/-!
# The lines of a listing

A listing is as many lines as its height says (`Listing.length_rows`). They are made of few characters
(`Listing.row_chars`), so they are rows and nothing in them opens a comment or a literal. Their braces
match (`Listing.nested`), so the depth behind a listing is that in front of it.
-/

namespace CodeAtlas.Declaration

open Text (isNamePart Nested AreRows continued continued_cons)

section Layout

variable {kind : FrameKind} {indent : Nat}

/-- A character that lines are made of. -/
def isRowChar (c : Char) : Bool :=
  isNamePart c || c ∈ [' ', '{', '}', '(', ')', ';', '=', ':', ',']

/-- An indented line with a word is made of such characters if what stands around the word is. -/
theorem indented_row_chars {front word tail : Text} (hfront : ∀ c ∈ front, isRowChar c = true)
    (hword : ∀ c ∈ word, isNamePart c = true) (htail : ∀ c ∈ tail, isRowChar c = true) :
    ∀ c ∈ indentation indent ++ (front ++ (word ++ tail)), isRowChar c = true := by
  refine List.forall_mem_append.mpr ⟨fun c hc => ?_, List.forall_mem_append.mpr ⟨hfront,
    List.forall_mem_append.mpr ⟨fun c hc => ?_, htail⟩⟩⟩
  · rw [List.eq_of_mem_replicate hc]
    decide
  · rw [isRowChar, hword c hc, Bool.true_or]

/-- A line with a name is made of such characters if what stands around the name is. -/
theorem row_of_row_chars {front tail : Text} {name : Name} (hfront : ∀ c ∈ front, isRowChar c = true)
    (htail : ∀ c ∈ tail, isRowChar c = true) :
    ∀ c ∈ rowOf indent front name tail, isRowChar c = true :=
  indented_row_chars hfront name.chars htail

/-- What leads a declaration is made of such characters. -/
theorem words_row_chars {exported : Bool} {keyword : String} (h : keyword ∈ declarationWords) :
    ∀ c ∈ words exported keyword, isRowChar c = true := by
  intro c hc
  rcases words_chars h c hc with hpart | rfl
  · rw [isRowChar, hpart, Bool.true_or]
  · decide

/-- The lines of a listing are made of such characters. -/
theorem Listing.row_chars (width indent : Nat) (items : Listing kind) :
    ∀ row ∈ items.rows width indent, ∀ c ∈ row, isRowChar c = true := by
  induction items generalizing indent with
  | nil => simp [Listing.rows]
  | member form name rest ih =>
      refine List.forall_mem_cons.mpr ⟨row_of_row_chars (by simp) ?_, ih indent⟩
      cases form <;> decide
  | statement exported form name rest ih =>
      refine List.forall_mem_cons.mpr ⟨row_of_row_chars (words_row_chars form.keyword_mem) ?_, ih indent⟩
      cases form <;> decide
  | block exported kind name body rest ihbody ihrest =>
      refine List.forall_mem_cons.mpr
        ⟨row_of_row_chars (words_row_chars kind.keyword_mem) (by decide), ?_⟩
      refine List.forall_mem_append.mpr ⟨ihbody _, List.forall_mem_cons.mpr ⟨?_, ihrest indent⟩⟩
      refine List.forall_mem_append.mpr ⟨fun c hc => ?_, by decide⟩
      rw [List.eq_of_mem_replicate hc]
      decide

/-- A printed module is made of few characters. -/
theorem Listing.print_chars (width blanks : Nat) (items : Listing .ofNamespace) :
    ∀ c ∈ items.print width blanks, c = '\n' ∨ isRowChar c = true := by
  intro c hc
  refine (Text.mem_join hc).imp_right ?_
  rintro ⟨row, hrow, hmem⟩
  rcases List.mem_append.mp hrow with hitem | hblank
  · exact items.row_chars width 0 row hitem c hmem
  · rw [List.eq_of_mem_replicate hblank] at hmem
    cases hmem

/-- The lines of a listing hold no line feed. -/
theorem Listing.are_rows (width indent : Nat) (items : Listing kind) :
    AreRows (items.rows width indent) := by
  intro row hrow hfeed
  have hchar := items.row_chars width indent row hrow _ hfeed
  revert hchar
  decide

/-- A listing has as many lines as its height. -/
theorem Listing.length_rows (width indent : Nat) (items : Listing kind) :
    (items.rows width indent).length = items.height := by
  induction items generalizing indent with
  | nil => rfl
  | member form name rest ih => rw [rows, List.length_cons, ih, height]
  | statement exported form name rest ih => rw [rows, List.length_cons, ih, height]
  | block exported kind name body rest ihbody ihrest =>
      rw [rows, List.length_cons, List.length_append, List.length_cons, ihbody, ihrest, height]
      omega

/-- A character of a word or a space is no brace. -/
theorem no_brace_of_part {c : Char} (h : isNamePart c = true ∨ c = ' ') :
    c.toNat < 128 ∧ c ≠ '{' ∧ c ≠ '}' := by
  rcases h with hpart | rfl
  · refine ⟨Text.ascii_of_name_part hpart, ?_, ?_⟩ <;> (rintro rfl; revert hpart; decide)
  · decide

/-- In front of a line the braces match. -/
theorem nested_indentation (indent : Nat) : Nested (indentation indent) :=
  Text.nested_of_no_braces fun _ hc => no_brace_of_part (Or.inr (List.eq_of_mem_replicate hc))

/-- Up to the end of its name the braces of a line match. -/
theorem nested_front {front : Text} (hfront : ∀ c ∈ front, isNamePart c = true ∨ c = ' ')
    (name : Name) : Nested (indentation indent ++ (front ++ name.text)) :=
  (nested_indentation indent).append (Text.nested_of_no_braces (List.forall_mem_append.mpr
    ⟨fun c hc => no_brace_of_part (hfront c hc), fun c hc => no_brace_of_part (Or.inl (name.chars c hc))⟩))

/-- The braces of a line match if those behind its name do. -/
theorem nested_row {front tail : Text} (hfront : ∀ c ∈ front, isNamePart c = true ∨ c = ' ')
    (name : Name) (htail : Nested tail) : Nested (rowOf indent front name tail) := by
  have hrow : rowOf indent front name tail = (indentation indent ++ (front ++ name.text)) ++ tail := by
    simp only [rowOf, List.append_assoc]
  rw [hrow]
  exact (nested_front hfront name).append htail

/-- An empty body after a parameter list. -/
theorem nested_callable : Nested ("() ".toList ++ ['{', '}']) :=
  (Text.nested_of_no_braces (by decide)).append (.block .nil .nil)

/-- The braces behind the name of a member match. -/
theorem Member.nested_tail (form : Member kind) : Nested form.tail := by
  cases form with
  | method => exact nested_callable
  | _ => exact Text.nested_of_no_braces (by decide)

/-- The braces behind the name of a declaration on one line match. -/
theorem Statement.nested_tail (form : Statement) : Nested form.tail := by
  cases form with
  | function => exact nested_callable
  | _ => exact Text.nested_of_no_braces (by decide)

/-- A line feed is no brace. -/
theorem Nested.cons_feed {text : Text} (h : Nested text) : Nested ('\n' :: text) :=
  .char (by decide) (by decide) (by decide) h

/-- The braces of a listing match. -/
theorem Listing.nested (width indent : Nat) (items : Listing kind) :
    Nested (continued (items.rows width indent)) := by
  induction items generalizing indent with
  | nil => exact .nil
  | member form name rest ih =>
      rw [rows, continued_cons]
      exact Nested.cons_feed ((nested_row (by simp) name form.nested_tail).append (ih indent))
  | statement exported form name rest ih =>
      rw [rows, continued_cons]
      exact Nested.cons_feed
        ((nested_row (words_chars form.keyword_mem) name form.nested_tail).append (ih indent))
  | block exported kind name body rest ihbody ihrest =>
      have hshape : rowOf indent (words exported kind.keyword) name [' ', '{'] ++
          continued (body.rows width (indent + width) ++
            closingRow indent :: rest.rows width indent) =
          rowOf indent (words exported kind.keyword) name [' '] ++
            '{' :: ((continued (body.rows width (indent + width)) ++ '\n' :: indentation indent) ++
              '}' :: continued (rest.rows width indent)) := by
        simp [rowOf, closingRow, continued]
      have hfront : Nested (rowOf indent (words exported kind.keyword) name [' ']) :=
        nested_row (words_chars kind.keyword_mem) name (Text.nested_of_no_braces (by decide))
      rw [rows, continued_cons, hshape]
      exact Nested.cons_feed (hfront.append
        (.block ((ihbody _).append (Nested.cons_feed (nested_indentation indent))) (ihrest indent)))

/-- Code in which the braces match leaves the depth as it is. -/
theorem depth_after_of_nested {text : Text} (h : Nested text) (depth : Int) :
    depthAfter depth text = depth := by
  have hcons : ∀ (depth : Int) (c : Char) (rest : Text), depthAfter depth (c :: rest) =
      depthAfter (if c = '{' then depth + 1 else if c = '}' then depth - 1 else depth) rest :=
    fun _ _ _ => rfl
  induction h generalizing depth with
  | nil => rfl
  | char hascii hopen hclose _ ih => rw [hcons, if_neg hopen, if_neg hclose, ih]
  | block _ _ hinner hrest =>
      rw [hcons, if_pos rfl, depth_after_append, hinner, hcons, if_neg (by decide), if_pos rfl,
        hrest]
      omega

end Layout

end CodeAtlas.Declaration
