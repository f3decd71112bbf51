import CodeAtlas.Proofs.Declaration.Opens
import CodeAtlas.Proofs.Text.Nested
import CodeAtlas.Proofs.Text.Rows

/-!
# Places in a text made of rows

A line stands between the rows `above` and those `below` it. The line of a name is the number of rows
above it plus one (`symbol_at_row`), a body ends behind its rows (`block_end_row`), and a callable with
an empty body ends on its own line (`callable_end_line`).
-/

namespace CodeAtlas.Declaration

open Text (byteLength Nested AreRows ended continued join)

/-- A text made of rows in which nothing is masked. -/
def Source.ofRows (path : Path) (rows : List Text) : Source where
  path
  content := join ['\n'] rows
  masked := join ['\n'] rows

section Place

variable {path : Path} {above below : List Text} {front middle inner back name : Text}

/-- The rest of a text from a part on. -/
theorem drop_front (front back : Text) : Text.dropBytes? (front ++ back) (byteLength front) =
    some back :=
  Text.drop_bytes_eq_some_iff.mpr ⟨front, rfl, rfl⟩

/-- A symbol is made where its name stands on a row. -/
theorem symbol_at_row (path : Path) (habove : AreRows above) (hfront : '\n' ∉ front) (back : Text)
    (below : List Text) (name : Text) (kind : SymbolKind) {endLine : Option Nat}
    (hend : above.length + 1 ≤ endLine.getD (above.length + 1)) (container : Option String)
    (modifiers : List Modifier) :
    ∃ symbol, symbolAt? (Source.ofRows path (above ++ (front ++ back) :: below)) name kind
        (byteLength (ended above) + byteLength front) endLine container modifiers = some symbol ∧
      symbol.entry = ⟨String.ofList name, kind, container, above.length + 1,
        endLine.getD (above.length + 1), modifiers.foldl Symbol.withModifier []⟩ := by
  have hcontent : join ['\n'] (above ++ (front ++ back) :: below) =
      ended above ++ (front ++ (back ++ continued below)) := by
    rw [Text.join_rows, List.append_assoc]
  have hline := Text.line_of_row habove hfront (back ++ continued below)
  have hsplit : join ['\n'] (above ++ (front ++ back) :: below) =
      (ended above ++ front) ++ (back ++ continued below) := by
    rw [hcontent, List.append_assoc]
  have hbefore : Text.takeBytes? (join ['\n'] (above ++ (front ++ back) :: below))
      (byteLength (ended above) + byteLength front) = some (ended above ++ front) :=
    Text.take_bytes_eq_some_iff.mpr ⟨_, hsplit, Text.byte_length_append _ _⟩
  have hafter : Text.dropBytes? (join ['\n'] (above ++ (front ++ back) :: below))
      (byteLength (ended above) + byteLength front) = some (back ++ continued below) :=
    Text.drop_bytes_eq_some_iff.mpr ⟨_, hsplit, Text.byte_length_append _ _⟩
  rw [symbolAt?, lineAround?, Source.ofRows]
  simp only [hbefore, hafter]
  refine ⟨_, rfl, ?_⟩
  rw [hcontent, hline, Symbol.entry, Location.new]
  simp only [Nat.max_eq_left hend]

/-- A block ends at the brace that closes it. -/
theorem block_end_line (front : Text) (hmiddle : ∀ c ∈ middle, c ≠ '{' ∧ c ≠ ';')
    (hinner : Nested inner) (back : Text) :
    blockEndLine? (front ++ (middle ++ '{' :: (inner ++ '}' :: back))) (byteLength front) =
      some ((front ++ (middle ++ '{' :: inner)).count '\n' + 1) := by
  have hfind : Text.findChar? (middle ++ '{' :: (inner ++ '}' :: back)) (fun c => c = '{' || c = ';') =
      some (byteLength middle) := by
    refine Text.find_char_append (fun c hc => ?_) (by decide) _
    obtain ⟨hbrace, hsemicolon⟩ := hmiddle c hc
    simp [hbrace, hsemicolon]
  have hbyte := Text.byte_at (c := '{') middle (by decide) (inner ++ '}' :: back)
  have hclose : Text.matchingDelimiter? (front ++ (middle ++ '{' :: (inner ++ '}' :: back)))
      (byteLength front + byteLength middle) =
        some (byteLength (front ++ (middle ++ '{' :: inner))) := by
    rw [← Text.byte_length_append, ← List.append_assoc, Text.matching_brace _ hinner]
    simp only [Text.byte_length_append, byteLength]
    congr 1
    have hsize : '{'.utf8Size = 1 := rfl
    omega
  have hline : Text.lineOfOffset (front ++ (middle ++ '{' :: (inner ++ '}' :: back)))
      (byteLength (front ++ (middle ++ '{' :: inner))) =
        (front ++ (middle ++ '{' :: inner)).count '\n' + 1 := by
    have hshape : front ++ (middle ++ '{' :: (inner ++ '}' :: back)) =
        (front ++ (middle ++ '{' :: inner)) ++ '}' :: back := by simp
    rw [hshape, Text.lineOfOffset, Text.line_feeds_before_append]
  have hopen : UInt8.ofNat '{'.toNat = 0x7B := rfl
  rw [blockEndLine?, drop_front]
  simp only [Option.bind_eq_bind, Option.bind_some, hfind, hbyte, hopen, if_true, hclose,
    Option.pure_def, hline]

/-- A callable with an empty body on its line ends there. -/
theorem callable_end_line (front : Text) (hname : '(' ∉ name) (back : Text) :
    callableEndLine? (front ++ (name ++ '(' :: ')' :: ' ' :: '{' :: '}' :: back)) (byteLength front) =
      some ((front ++ name).count '\n' + 1) := by
  have hfind : Text.findChar? (name ++ '(' :: ')' :: ' ' :: '{' :: '}' :: back) (· = '(') =
      some (byteLength name) := by
    refine Text.find_char_append (fun c hc => ?_) (by decide) _
    have hne : c ≠ '(' := fun heq => hname (heq ▸ hc)
    simpa using hne
  have hclose : Text.matchingDelimiter? (front ++ (name ++ '(' :: ')' :: ' ' :: '{' :: '}' :: back))
      (byteLength front + byteLength name) = some (byteLength (front ++ name) + 1) := by
    rw [← Text.byte_length_append, ← List.append_assoc, Text.matching_parentheses]
  have hshape : front ++ (name ++ '(' :: ')' :: ' ' :: '{' :: '}' :: back) =
      (front ++ name ++ ['(', ')']) ++ ([' '] ++ '{' :: ([] ++ '}' :: back)) := by simp
  have hlength : byteLength (front ++ name) + 1 + 1 = byteLength (front ++ name ++ ['(', ')']) := by
    rw [Text.byte_length_append (front ++ name)]
    rfl
  have hcount : (front ++ name ++ ['(', ')'] ++ ([' '] ++ ['{'])).count '\n' =
      (front ++ name).count '\n' := by
    rw [List.append_assoc, List.count_append]
    rfl
  rw [callableEndLine?, drop_front]
  simp only [Option.bind_eq_bind, Option.bind_some, hfind, hclose]
  rw [hshape, hlength, block_end_line _ (by decide) .nil, hcount]

/-- A block that starts on one row and ends on another ends behind the rows in between. -/
theorem block_end_row (habove : AreRows above) (hfront : '\n' ∉ front) (hline : '\n' ∉ middle)
    (hmiddle : ∀ c ∈ middle, c ≠ '{' ∧ c ≠ ';') {rows : List Text} (hrows : AreRows rows)
    (hnested : Nested (continued rows)) (indent : Nat) (below : List Text) :
    blockEndLine? (join ['\n'] (above ++ (front ++ (middle ++ ['{'])) ::
        (rows ++ closingRow indent :: below))) (byteLength (ended above) + byteLength front) =
      some (above.length + rows.length + 2) := by
  have hindent : Nested ('\n' :: indentation indent) := by
    refine Text.nested_of_no_braces (List.forall_mem_cons.mpr ⟨by decide, fun c hc => ?_⟩)
    rw [List.eq_of_mem_replicate hc]
    decide
  have hcontinued : continued (rows ++ closingRow indent :: below) =
      (continued rows ++ '\n' :: indentation indent) ++ '}' :: continued below := by
    simp [continued, closingRow]
  have hshape : join ['\n'] (above ++ (front ++ (middle ++ ['{'])) ::
      (rows ++ closingRow indent :: below)) = (ended above ++ front) ++ (middle ++
        '{' :: ((continued rows ++ '\n' :: indentation indent) ++ '}' :: continued below)) := by
    rw [Text.join_rows, hcontinued]
    simp only [List.append_assoc, List.cons_append, List.nil_append]
  have hcount : ((ended above ++ front) ++ (middle ++
      '{' :: (continued rows ++ '\n' :: indentation indent))).count '\n' =
        above.length + rows.length + 1 := by
    have hspaces : (indentation indent).count '\n' = 0 :=
      List.count_eq_zero_of_not_mem (not_mem_indentation indent (by decide))
    simp only [List.count_append, List.count_cons, Text.count_ended habove,
      Text.count_continued hrows, List.count_eq_zero_of_not_mem hfront,
      List.count_eq_zero_of_not_mem hline, hspaces]
    simp
    omega
  rw [hshape, ← Text.byte_length_append, block_end_line _ hmiddle (hnested.append hindent), hcount]

end Place

end CodeAtlas.Declaration
