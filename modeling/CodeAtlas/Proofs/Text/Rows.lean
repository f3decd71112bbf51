import CodeAtlas.Proofs.Text.Walk
import CodeAtlas.Text.Position

/-!
# Texts made of rows

Rows without line feeds, joined by line feeds, are what the text is cut into again (`split_by_join`).
A row stands after the rows above it, each ended by a line feed, and before those below (`join_rows`);
so the line of an offset is one more than the number of rows above it (`line_of_row`).
-/

namespace CodeAtlas.Text

/-- Rows with a line feed after each. -/
def ended (rows : List Text) : Text :=
  rows.flatMap (· ++ ['\n'])

/-- Rows with a line feed in front of each. -/
def continued (rows : List Text) : Text :=
  rows.flatMap ('\n' :: ·)

/-- No row holds a line feed. -/
def AreRows (rows : List Text) : Prop :=
  ∀ row ∈ rows, '\n' ∉ row

section Join

variable {rows above below : List Text} {row : Text}

/-- Rows and further rows are rows. -/
theorem AreRows.append (habove : AreRows above) (hbelow : AreRows below) : AreRows (above ++ below) :=
  List.forall_mem_append.mpr ⟨habove, hbelow⟩

/-- Rows below further rows. -/
theorem ended_append (above below : List Text) :
    ended (above ++ below) = ended above ++ ended below :=
  List.flatMap_append

/-- One row with its line feed. -/
theorem ended_singleton (row : Text) : ended [row] = row ++ ['\n'] := by
  simp [ended]

/-- The first row with its line feed, and the other rows. -/
theorem ended_cons (row : Text) (rows : List Text) :
    ended (row :: rows) = row ++ '\n' :: ended rows := by
  simp [ended]

/-- The first row behind its line feed, and the other rows. -/
theorem continued_cons (row : Text) (rows : List Text) :
    continued (row :: rows) = '\n' :: (row ++ continued rows) :=
  rfl

/-- A row stands between the rows above it and those below. -/
theorem join_rows (above : List Text) (row : Text) (below : List Text) :
    join ['\n'] (above ++ row :: below) = ended above ++ (row ++ continued below) :=
  join_around above row below

/-- A character of a text made of rows is a line feed or stands in a row. -/
theorem mem_join {c : Char} (hc : c ∈ join ['\n'] rows) : c = '\n' ∨ ∃ row ∈ rows, c ∈ row := by
  induction rows with
  | nil => cases hc
  | cons row rows ih =>
      cases rows with
      | nil => exact Or.inr ⟨row, List.mem_cons_self, hc⟩
      | cons next rows =>
          rw [join_cons (List.cons_ne_nil next rows), List.mem_append, List.mem_cons] at hc
          rcases hc with hrow | hfeed | hrest
          · exact Or.inr ⟨row, List.mem_cons_self, hrow⟩
          · exact Or.inl hfeed
          · obtain hfeed | ⟨below, hbelow, hmem⟩ := ih hrest
            · exact Or.inl hfeed
            · exact Or.inr ⟨below, List.mem_cons_of_mem row hbelow, hmem⟩

/-- A text is cut into the rows it is made of. -/
theorem split_by_join (hrows : AreRows rows) (hne : rows ≠ []) :
    splitBy (· = '\n') (join ['\n'] rows) = rows := by
  induction rows with
  | nil => exact absurd rfl hne
  | cons row rows ih =>
      obtain ⟨hrow, hrows⟩ := List.forall_mem_cons.mp hrows
      cases rows with
      | nil => exact split_by_of_not_mem hrow
      | cons next rows =>
          rw [join_cons (List.cons_ne_nil next rows), split_by_append hrow,
            ih hrows (List.cons_ne_nil next rows)]

/-- There are as many line feeds as rows. -/
theorem count_ended (hrows : AreRows rows) : (ended rows).count '\n' = rows.length := by
  induction rows with
  | nil => rfl
  | cons row rows ih =>
      obtain ⟨hrow, hrows⟩ := List.forall_mem_cons.mp hrows
      rw [ended_cons, List.count_append, List.count_cons_self, ih hrows,
        List.count_eq_zero_of_not_mem hrow, Nat.zero_add, List.length_cons]

/-- Every text is rows that are ended and one that is not. -/
theorem exists_rows (front : Text) :
    ∃ above last, front = ended above ++ last ∧ AreRows above ∧ '\n' ∉ last := by
  induction front with
  | nil => exact ⟨[], [], rfl, nofun, nofun⟩
  | cons c rest ih =>
      obtain ⟨above, last, rfl, habove, hlast⟩ := ih
      by_cases hc : c = '\n'
      · subst hc
        exact ⟨[] :: above, last, by rw [ended_cons]; rfl, List.forall_mem_cons.mpr ⟨nofun, habove⟩,
          hlast⟩
      · have hne : '\n' ≠ c := Ne.symm hc
        cases above with
        | nil => exact ⟨[], c :: last, rfl, nofun, by simp [hne, hlast]⟩
        | cons row above =>
            obtain ⟨hrow, habove⟩ := List.forall_mem_cons.mp habove
            refine ⟨(c :: row) :: above, last, by rw [ended_cons, ended_cons]; rfl, ?_, hlast⟩
            exact List.forall_mem_cons.mpr ⟨by simp [hne, hrow], habove⟩

/-- A text is cut into its ended rows and what the rest is cut into. -/
theorem split_by_ended (hrows : AreRows rows) (text : Text) :
    splitBy (· = '\n') (ended rows ++ text) = rows ++ splitBy (· = '\n') text := by
  induction rows with
  | nil => rfl
  | cons row rows ih =>
      obtain ⟨hrow, hrows⟩ := List.forall_mem_cons.mp hrows
      rw [ended_cons, List.append_assoc, List.cons_append, split_by_append hrow, ih hrows,
        List.cons_append]

/-- What a text is cut into at line feeds are rows. -/
theorem are_rows_split_by (text : Text) : AreRows (splitBy (· = '\n') text) := by
  obtain ⟨above, last, rfl, habove, hlast⟩ := exists_rows text
  rw [split_by_ended habove, split_by_of_not_mem hlast]
  exact habove.append (by simpa [AreRows] using hlast)

/-- What a text starts with starts its first row. -/
theorem split_by_begins (hrow : '\n' ∉ row) (text : Text) :
    ∃ more rest, splitBy (· = '\n') (row ++ text) = (row ++ more) :: rest := by
  induction row with
  | nil => exact List.exists_cons_of_ne_nil (split_by_ne_nil _ text)
  | cons c row ih =>
      rw [List.mem_cons, not_or] at hrow
      obtain ⟨more, rest, hsplit⟩ := ih hrow.2
      have hc : (decide (c = '\n')) = false := decide_eq_false (Ne.symm hrow.1)
      exact ⟨more, rest, by rw [List.cons_append, splitBy, hc, hsplit]; rfl⟩

/-- There are as many line feeds as rows. -/
theorem count_continued (hrows : AreRows rows) : (continued rows).count '\n' = rows.length := by
  induction rows with
  | nil => rfl
  | cons row rows ih =>
      obtain ⟨hrow, hrows⟩ := List.forall_mem_cons.mp hrows
      rw [continued_cons, List.count_cons_self, List.count_append, List.count_eq_zero_of_not_mem hrow,
        ih hrows, Nat.zero_add, List.length_cons]

end Join

section Position

variable {front back : Text}

/-- The line feeds in front of a part. -/
theorem line_feeds_before_append (front back : Text) :
    lineFeedsBefore (front ++ back) (byteLength front) = front.count '\n' := by
  induction front with
  | nil => cases back <;> rfl
  | cons c front ih =>
      have hpos := Char.utf8Size_pos c
      have hrest : c.utf8Size + byteLength front - c.utf8Size = byteLength front := by omega
      rw [List.cons_append, byteLength, lineFeedsBefore, if_neg (by omega), hrest, ih,
        List.count_cons, Nat.add_comm]
      simp only [beq_iff_eq]

/-- The line of an offset on a row that follows other rows. -/
theorem line_of_row {above : List Text} (habove : AreRows above) (hfront : '\n' ∉ front)
    (back : Text) :
    lineOfOffset (ended above ++ (front ++ back)) (byteLength (ended above) + byteLength front) =
      above.length + 1 := by
  rw [lineOfOffset, ← List.append_assoc, ← byte_length_append, line_feeds_before_append,
    List.count_append, count_ended habove, List.count_eq_zero_of_not_mem hfront, Nat.add_zero]

/-- Further on in a text no line comes before. -/
theorem line_of_offset_mono (text : Text) {offset further : Nat} (h : offset ≤ further) :
    lineOfOffset text offset ≤ lineOfOffset text further := by
  have hle : lineFeedsBefore text offset ≤ lineFeedsBefore text further := by
    induction text generalizing offset further with
    | nil => exact Nat.le_refl _
    | cons c rest ih =>
        have hrest := @ih (offset - c.utf8Size) (further - c.utf8Size) (by omega)
        rw [lineFeedsBefore, lineFeedsBefore]
        by_cases hzero : offset = 0
        · rw [if_pos hzero]
          exact Nat.zero_le _
        · have hfurther : ¬further = 0 := by omega
          rw [if_neg hzero, if_neg hfurther]
          exact Nat.add_le_add_left hrest _
  exact Nat.succ_le_succ hle

/-- No offset is further down than the last line. -/
theorem line_of_offset_le (text : Text) (offset : Nat) :
    lineOfOffset text offset ≤ text.count '\n' + 1 := by
  have hle : lineFeedsBefore text offset ≤ text.count '\n' := by
    induction text generalizing offset with
    | nil => exact Nat.le_refl _
    | cons c rest ih =>
        have hrest := ih (offset - c.utf8Size)
        rw [lineFeedsBefore, List.count_cons]
        simp only [beq_iff_eq]
        split <;> omega
  exact Nat.succ_le_succ hle

/-- The characters that are read before an offset on the same row. -/
theorem chars_since_line_feed_row (hfront : '\n' ∉ front) (back : Text) (count : Nat) :
    charsSinceLineFeed (front ++ back) (byteLength front) count = count + front.length := by
  induction front generalizing count with
  | nil => cases back <;> rfl
  | cons c front ih =>
      rw [List.mem_cons, not_or] at hfront
      have hpos := Char.utf8Size_pos c
      have hrest : c.utf8Size + byteLength front - c.utf8Size = byteLength front := by omega
      rw [List.cons_append, byteLength, charsSinceLineFeed, if_neg (by omega), hrest,
        if_neg (Ne.symm hfront.1), ih hfront.2, List.length_cons]
      omega

/-- The column of an offset on a row that follows other rows. -/
theorem column_of_row (above : List Text) (hfront : '\n' ∉ front) (back : Text) :
    columnOfOffset (ended above ++ (front ++ back)) (byteLength (ended above) + byteLength front) =
      front.length + 1 := by
  have hskip : ∀ outer count, charsSinceLineFeed ((outer ++ ['\n']) ++ (front ++ back))
      (byteLength (outer ++ ['\n']) + byteLength front) count = front.length := by
    intro outer
    induction outer with
    | nil =>
        intro count
        have hlength : byteLength ([] ++ ['\n']) = '\n'.utf8Size := rfl
        have hpos := Char.utf8Size_pos '\n'
        rw [hlength, List.nil_append, List.singleton_append, charsSinceLineFeed, if_neg (by omega),
          if_pos rfl, Nat.add_sub_cancel_left, chars_since_line_feed_row hfront, Nat.zero_add]
    | cons c outer ih =>
        intro count
        have hpos := Char.utf8Size_pos c
        rw [List.cons_append, List.cons_append, byteLength, charsSinceLineFeed,
          if_neg (by omega), Nat.add_assoc, Nat.add_sub_cancel_left]
        exact ih _
  rcases List.eq_nil_or_concat above with rfl | ⟨outer, row, rfl⟩
  · rw [columnOfOffset]
    have hrow := chars_since_line_feed_row hfront back 0
    simpa [ended, byteLength] using hrow
  · have hshape : ended (outer.concat row) = (ended outer ++ row) ++ ['\n'] := by
      rw [List.concat_eq_append, ended_append, ended_singleton, List.append_assoc]
    rw [columnOfOffset, hshape, hskip]

/-- A part without line feeds stands on the row of its line, behind as many characters as its column
says. -/
theorem row_of_part {text part : Text} {offset : Nat} (h : StandsAt text offset part)
    (hpart : '\n' ∉ part) :
    ∃ row, (splitBy (· = '\n') text)[lineOfOffset text offset - 1]? = some row ∧
      part <+: row.drop (columnOfOffset text offset - 1) := by
  obtain ⟨front, back, rfl, rfl⟩ := h
  obtain ⟨above, last, rfl, habove, hlast⟩ := exists_rows front
  rw [List.append_assoc, byte_length_append, line_of_row habove hlast, column_of_row above hlast,
    split_by_ended habove, ← List.append_assoc]
  have hrow : '\n' ∉ last ++ part := by
    rw [List.mem_append, not_or]
    exact ⟨hlast, hpart⟩
  obtain ⟨more, rest, hsplit⟩ := split_by_begins hrow back
  rw [hsplit]
  refine ⟨last ++ part ++ more, by simp, ?_⟩
  rw [Nat.add_sub_cancel, List.append_assoc, List.drop_left]
  exact List.prefix_append part more

end Position

end CodeAtlas.Text
