import CodeAtlas.Proofs.Text.Rows

/-!
# Positions and offsets

The position of an offset, its line and its column, is counted in the text in front of it: read
`position_at_front` first. Positions are in the order of their offsets, and an offset is read back off
its position, from the bytes of the rows above and of the characters to the left
(`positions_determine_offsets`). Rows are what line feeds divide, so a carriage return at the end of a
row counts as one of its characters.
-/

namespace CodeAtlas.Text

variable {text front back : Text} {offset i j : Nat}

/-- The line and the column of an offset, or `none` inside a character. -/
def positionAt? (text : Text) (offset : Nat) : Option (Nat × Nat) :=
  (columnAt? text offset).map fun column => (lineOfOffset text offset, column)

/-- The offset at which a line starts. -/
def lineStart (text : Text) (line : Nat) : Nat :=
  byteLength (ended ((splitBy (· = '\n') text).take (line - 1)))

/-- The part of its line before a character of a row that follows other rows. -/
theorem line_before_row (above : List Text) (hfront : '\n' ∉ front) (back : Text) :
    lineBefore (ended above ++ front ++ back) (ended above ++ front).length = front := by
  have hall : ∀ c ∈ front.reverse, decide (c ≠ '\n') = true :=
    fun c hc => decide_eq_true fun heq => hfront (heq ▸ List.mem_reverse.mp hc)
  rw [lineBefore, List.take_left, List.reverse_append, List.takeWhile_append_of_pos hall]
  rcases List.eq_nil_or_concat above with rfl | ⟨outer, row, rfl⟩
  · simp [ended]
  · rw [List.concat_eq_append, ended_append, ended_singleton]
    simp

/-- The position of an offset is counted in the text in front of it. -/
theorem position_at_front (front back : Text) :
    positionAt? (front ++ back) (byteLength front) =
      some (front.count '\n' + 1, (lineBefore (front ++ back) front.length).length + 1) := by
  have hle : byteLength front ≤ byteLength (front ++ back) := by
    rw [byte_length_append]
    exact Nat.le_add_right _ _
  have htake : takeBytes? (front ++ back) (byteLength front) = some front :=
    take_bytes_eq_some_iff.mpr ⟨back, rfl, rfl⟩
  have hcolumn : columnOfOffset (front ++ back) (byteLength front) =
      (lineBefore (front ++ back) front.length).length + 1 := by
    obtain ⟨above, row, rfl, -, hrow⟩ := exists_rows front
    rw [line_before_row above hrow, List.append_assoc, byte_length_append, column_of_row above hrow]
  rw [positionAt?, columnAt?, Nat.min_eq_left hle, htake, Option.map_some, Option.map_some, hcolumn,
    lineOfOffset, line_feeds_before_append]

/-- The position of an offset on a row that follows other rows. -/
theorem position_at_row {above : List Text} (habove : AreRows above) (hfront : '\n' ∉ front)
    (back : Text) :
    positionAt? (ended above ++ front ++ back) (byteLength (ended above ++ front)) =
      some (above.length + 1, front.length + 1) := by
  rw [position_at_front, line_before_row above hfront, List.count_append, count_ended habove,
    List.count_eq_zero_of_not_mem hfront, Nat.add_zero]

/-- Behind the end there are no more line feeds. -/
theorem line_feeds_before_past_end (h : byteLength text ≤ offset) :
    lineFeedsBefore text offset = lineFeedsBefore text (byteLength text) := by
  induction text generalizing offset with
  | nil => rfl
  | cons c rest ih =>
      have hpos := Char.utf8Size_pos c
      rw [byteLength] at h ⊢
      have hoffset : ¬offset = 0 := by omega
      have hlength : ¬c.utf8Size + byteLength rest = 0 := by omega
      rw [lineFeedsBefore, lineFeedsBefore, if_neg hoffset, if_neg hlength,
        Nat.add_sub_cancel_left, ih (by omega)]

/-- Behind the end there are no more characters on the last line. -/
theorem chars_since_line_feed_past_end (h : byteLength text ≤ offset) (count : Nat) :
    charsSinceLineFeed text offset count = charsSinceLineFeed text (byteLength text) count := by
  induction text generalizing offset count with
  | nil => rfl
  | cons c rest ih =>
      have hpos := Char.utf8Size_pos c
      rw [byteLength] at h ⊢
      have hoffset : ¬offset = 0 := by omega
      have hlength : ¬c.utf8Size + byteLength rest = 0 := by omega
      rw [charsSinceLineFeed, charsSinceLineFeed, if_neg hoffset, if_neg hlength,
        Nat.add_sub_cancel_left, ih (by omega)]

/-- Behind the end the position is that of the end. -/
theorem position_at_past_end (h : byteLength text ≤ offset) :
    positionAt? text offset = positionAt? text (byteLength text) := by
  rw [positionAt?, positionAt?, columnAt?, columnAt?, Nat.min_eq_right h, Nat.min_self, lineOfOffset,
    lineOfOffset, line_feeds_before_past_end h, columnOfOffset, columnOfOffset,
    chars_since_line_feed_past_end h]

/-- A further offset has a further position: on a later line, or further to the right on the same. -/
theorem position_lt (hi : IsBoundary text i) (hj : IsBoundary text j) (hlt : i < j) :
    ∃ left right, positionAt? text i = some left ∧ positionAt? text j = some right ∧
      Prod.Lex (· < ·) (· < ·) left right := by
  obtain ⟨front, back, rfl, rfl⟩ := hi
  obtain ⟨further, rest, htext, rfl⟩ := hj
  obtain ⟨middle, rfl, -⟩ := exists_between htext hlt.le
  refine ⟨_, _, position_at_front front back, by rw [htext]; exact position_at_front _ rest, ?_⟩
  have hmiddle : middle ≠ [] := by
    rintro rfl
    simp at hlt
  have hchars : front.length < (front ++ middle).length := by
    have hpos := List.length_pos_iff.mpr hmiddle
    rw [List.length_append]
    omega
  have hend : (front ++ middle).length ≤ (front ++ back).length := by
    rw [htext]
    simp
  have hplace := place_lt hchars hend
  rw [List.take_left, htext, List.take_left, ← htext] at hplace
  rw [Prod.lex_def, ← htext]
  simpa only [Nat.add_lt_add_iff_right, Nat.add_right_cancel_iff] using hplace

/-- An offset is the start of its line and the bytes of the characters to the left of its column. -/
theorem offset_of_position (hi : IsBoundary text i) :
    ∃ line column row, positionAt? text i = some (line, column) ∧ 0 < line ∧ 0 < column ∧
      (splitBy (· = '\n') text)[line - 1]? = some row ∧ column - 1 ≤ row.length ∧
      i = lineStart text line + byteLength (row.take (column - 1)) := by
  obtain ⟨front, back, rfl, rfl⟩ := hi
  obtain ⟨above, left, rfl, habove, hleft⟩ := exists_rows front
  obtain ⟨right, below, hsplit⟩ := split_by_begins hleft back
  have hrows : splitBy (· = '\n') (ended above ++ left ++ back) = above ++ (left ++ right) :: below := by
    rw [List.append_assoc, split_by_ended habove, hsplit]
  refine ⟨_, _, left ++ right, position_at_row habove hleft back, Nat.succ_pos _, Nat.succ_pos _, ?_,
    ?_, ?_⟩
  · rw [hrows, Nat.add_sub_cancel, List.getElem?_append_right (Nat.le_refl _), Nat.sub_self]
    rfl
  · rw [Nat.add_sub_cancel, List.length_append]
    exact Nat.le_add_right _ _
  · rw [lineStart, hrows, Nat.add_sub_cancel, Nat.add_sub_cancel, List.take_left, List.take_left,
      byte_length_append]

/-- Offsets of characters, and of the end, have positions in lexicographic order. Each is the offset at
which its line starts and the bytes of the characters of this line to the left of its column. An offset
past the end has the position of the end. -/
theorem positions_determine_offsets (text : Text) :
    (∀ i j, IsBoundary text i → IsBoundary text j → i < j →
      ∃ left right, positionAt? text i = some left ∧ positionAt? text j = some right ∧
        Prod.Lex (· < ·) (· < ·) left right) ∧
    (∀ i, IsBoundary text i →
      ∃ line column row, positionAt? text i = some (line, column) ∧ 0 < line ∧ 0 < column ∧
        (splitBy (· = '\n') text)[line - 1]? = some row ∧ column - 1 ≤ row.length ∧
        i = lineStart text line + byteLength (row.take (column - 1))) ∧
    ∀ offset, byteLength text ≤ offset →
      positionAt? text offset = positionAt? text (byteLength text) :=
  ⟨fun _ _ hi hj hlt => position_lt hi hj hlt, fun _ hi => offset_of_position hi,
    fun _ hoffset => position_at_past_end hoffset⟩

/-- Two rows, the first with a letter of two bytes. -/
def twoRows : Text :=
  "é\nab".toList

/-- The end of the first row comes before the second letter of the second one, which stands one byte
behind the start of its row. -/
theorem positions_on_two_rows :
    IsBoundary twoRows 2 ∧ IsBoundary twoRows 4 ∧
      positionAt? twoRows 2 = some (1, 2) ∧ positionAt? twoRows 4 = some (2, 2) ∧
      Prod.Lex (· < ·) (· < ·) (1, 2) (2, 2) ∧
      4 = lineStart twoRows 2 + byteLength ("ab".toList.take 1) ∧
      positionAt? twoRows 7 = positionAt? twoRows 5 := by
  have hfeed : IsBoundary twoRows 2 := ⟨"é".toList, "\nab".toList, rfl, rfl⟩
  have hletter : IsBoundary twoRows 4 := ⟨"é\na".toList, "b".toList, rfl, rfl⟩
  have hleft : positionAt? twoRows 2 = some (1, 2) := by decide
  have hright : positionAt? twoRows 4 = some (2, 2) := by decide
  obtain ⟨horder, hinverse, hpast⟩ := positions_determine_offsets twoRows
  obtain ⟨left, right, hi, hj, hlex⟩ := horder 2 4 hfeed hletter (by decide)
  obtain rfl : (1, 2) = left := Option.some.inj (hleft.symm.trans hi)
  obtain rfl : (2, 2) = right := Option.some.inj (hright.symm.trans hj)
  obtain ⟨line, column, row, hplace, -, -, hrow, -, hoffset⟩ := hinverse 4 hletter
  obtain ⟨rfl, rfl⟩ := Prod.mk.inj (Option.some.inj (hright.symm.trans hplace))
  obtain rfl : "ab".toList = row := Option.some.inj hrow
  exact ⟨hfeed, hletter, hleft, hright, hlex, hoffset, hpast 7 (by decide)⟩

end CodeAtlas.Text
