import CodeAtlas.Proofs.Text.Trim

/-!
# Which word a cursor touches

A cursor stands in a gap between two characters. Read `identifier_touching_eq_some_iff` first: the
name that it touches stands in the line as a whole word, and the gap is before, inside or right
behind it. The lines are those that a text is cut into at line feeds, without carriage returns
before them. A place of a word in the text (`IsWordAt`) is one on its line
(`exists_line_of_index`), so a cursor at the word in the text finds it (`IsWordAt.identifier_at`).
-/

namespace CodeAtlas.Text

/-- A name that a cursor can find is a word that does not start with a digit. -/
structure IsIdentifier (word : Text) : Prop where
  is_word : IsWord word
  no_digit : ∀ c ∈ word.head?, isAsciiDigit c = false

section Line

variable {word line front left right back : Text}

/-- No identifier character starts a text. -/
def StopsRun (back : Text) : Prop :=
  ∀ c ∈ back.head?, isIdentChar c = false

/-- No identifier character ends a text. -/
def EndsRun (front : Text) : Prop :=
  ∀ c ∈ front.getLast?, isIdentChar c = false

/-- The end of a text is the start of the reversed text. -/
theorem stops_run_reverse : StopsRun front.reverse ↔ EndsRun front := by
  rw [StopsRun, List.head?_reverse, EndsRun]

/-- The character before what follows a text is the last one of the text. -/
theorem char_before_append (front rest : Text) :
    charBefore none (front ++ rest) front.length = front.getLast? := by
  rcases List.eq_nil_or_concat front with rfl | ⟨init, last, rfl⟩
  · rfl
  · simp [charBefore]

/-- A word stands between two texts if the one does not end and the other does not start with an
identifier character. -/
theorem word_at_between : wordAt word none (front ++ (word ++ back)) front.length = true ↔
    EndsRun front ∧ StopsRun back := by
  have hafter : (front ++ (word ++ back))[front.length + word.length]? = back.head? := by
    rw [← List.append_assoc, ← List.length_append, List.getElem?_append_right le_rfl, Nat.sub_self,
      List.head?_eq_getElem?]
  have hany : ∀ found : Option Char,
      found.any isIdentChar = false ↔ ∀ c ∈ found, isIdentChar c = false := by
    rintro (_ | c) <;> simp
  rw [wordAt, char_before_append, hafter, List.drop_left, List.take_left]
  simp only [decide_true, Bool.true_and, Bool.and_eq_true, Bool.not_eq_true', hany]
  rfl

/-- Where a word stands, the text is what comes before it, the word and what comes after it. -/
theorem exists_of_word_at {start : Nat} (hne : word ≠ []) (h : wordAt word none line start = true) :
    ∃ front back, line = front ++ (word ++ back) ∧ front.length = start := by
  have htake : (line.drop start).take word.length = word := by
    simp only [wordAt, Bool.and_eq_true, decide_eq_true_eq] at h
    exact h.1.1
  have hle : start ≤ line.length := by
    by_contra hgt
    rw [List.drop_eq_nil_of_le (Nat.le_of_not_le hgt), List.take_nil] at htake
    exact hne htake.symm
  refine ⟨line.take start, (line.drop start).drop word.length, ?_, List.length_take_of_le hle⟩
  have hdrop : word ++ (line.drop start).drop word.length = line.drop start := by
    have happend := List.take_append_drop word.length (line.drop start)
    rwa [htake] at happend
  rw [hdrop, List.take_append_drop]

/-- A run of identifier characters at the start of a text. -/
theorem take_while_run (hright : ∀ c ∈ right, isIdentChar c = true) (hback : StopsRun back) :
    (right ++ back).takeWhile isIdentChar = right := by
  have hstop : back.takeWhile isIdentChar = [] := by
    cases back with
    | nil => rfl
    | cons c rest => rw [List.takeWhile_cons, hback c rfl]; rfl
  rw [List.takeWhile_append_of_pos hright, hstop, List.append_nil]

/-- A run of identifier characters at the end of a text. -/
theorem trailing_run_append (hfront : EndsRun front) (hleft : ∀ c ∈ left, isIdentChar c = true) :
    trailingRun (front ++ left) = left := by
  have hall : ∀ c ∈ left.reverse, isIdentChar c = true :=
    fun c hc => hleft c (List.mem_reverse.mp hc)
  rw [trailingRun, List.reverse_append, take_while_run hall (stops_run_reverse.mpr hfront),
    List.reverse_reverse]

/-- A text is a run of identifier characters and what comes after it. -/
theorem exists_run (text : Text) : ∃ right back, text = right ++ back ∧
    (∀ c ∈ right, isIdentChar c = true) ∧ StopsRun back := by
  refine ⟨text.takeWhile isIdentChar, text.dropWhile isIdentChar,
    List.takeWhile_append_dropWhile.symm, fun c => List.mem_takeWhile_imp, ?_⟩
  intro c hc
  obtain ⟨rest, hrest⟩ := List.head?_eq_some_iff.mp hc
  exact head_drop_while hrest

/-- Around a gap in a line stands a run of identifier characters, perhaps an empty one. -/
theorem exists_run_around {index : Nat} (hindex : index ≤ line.length) :
    ∃ front left right back, line = front ++ left ++ (right ++ back) ∧
      index = front.length + left.length ∧
      (∀ c ∈ left ++ right, isIdentChar c = true) ∧ EndsRun front ∧ StopsRun back := by
  obtain ⟨right, back, hdrop, hright, hback⟩ := exists_run (line.drop index)
  obtain ⟨left, front, htake, hleft, hfront⟩ := exists_run (line.take index).reverse
  have htake : line.take index = front.reverse ++ left.reverse := by
    rw [← List.reverse_append, ← htake, List.reverse_reverse]
  refine ⟨front.reverse, left.reverse, right, back, ?_, ?_, ?_, ?_, hback⟩
  · rw [← htake, ← hdrop, List.take_append_drop]
  · rw [← List.length_append, ← htake, List.length_take_of_le hindex]
  · intro c hc
    rcases List.mem_append.mp hc with hc | hc
    · exact hleft c (List.mem_reverse.mp hc)
    · exact hright c hc
  · rwa [← stops_run_reverse, List.reverse_reverse]

/-- A cursor in a run of identifier characters finds this run, unless it is empty or starts with a
digit. -/
theorem identifier_touching_run (hrun : ∀ c ∈ left ++ right, isIdentChar c = true)
    (hfront : EndsRun front) (hback : StopsRun back) :
    identifierTouching? (front ++ left ++ (right ++ back)) (front.length + left.length) =
      match left ++ right with
      | [] => none
      | c :: rest => if isAsciiDigit c then none else some (c :: rest, front.length + 1) := by
  obtain ⟨hleft, hright⟩ := List.forall_mem_append.mp hrun
  have hle : ¬(front ++ left ++ (right ++ back)).length < (front ++ left).length := by
    rw [List.length_append]
    omega
  rw [← List.length_append, identifierTouching?, if_neg hle, List.take_left, List.drop_left,
    trailing_run_append hfront hleft, take_while_run hright hback, List.length_append]
  dsimp only
  cases left ++ right <;> simp only [Nat.add_sub_cancel]

/-- A cursor touches a name just if the name stands in the line as a whole word and the gap of the
cursor is before, inside or right behind it. -/
theorem identifier_touching_eq_some_iff {index column : Nat} :
    identifierTouching? line index = some (word, column) ↔
      IsIdentifier word ∧ ∃ start, column = start + 1 ∧ wordAt word none line start = true ∧
        start ≤ index ∧ index ≤ start + word.length := by
  constructor
  · intro h
    have hindex : index ≤ line.length := by
      by_contra hgt
      rw [identifierTouching?, if_pos (Nat.lt_of_not_le hgt)] at h
      contradiction
    obtain ⟨front, left, right, back, rfl, rfl, hrun, hfront, hback⟩ := exists_run_around hindex
    rw [identifier_touching_run hrun hfront hback] at h
    cases hword : left ++ right with
    | nil => simp [hword] at h
    | cons c rest =>
        simp only [hword, Option.ite_none_left_eq_some, Option.some.injEq, Prod.mk.injEq] at h
        obtain ⟨hdigit, rfl, rfl⟩ := h
        rw [← hword]
        refine ⟨⟨⟨by simp [hword], hrun⟩, ?_⟩, front.length, rfl, ?_, ?_, ?_⟩
        · rw [hword]
          rintro _ ⟨⟩
          exact Bool.eq_false_iff.mpr hdigit
        · rw [List.append_assoc, ← List.append_assoc left]
          exact word_at_between.mpr ⟨hfront, hback⟩
        · exact Nat.le_add_right _ _
        · rw [List.length_append]
          omega
  · rintro ⟨hname, start, rfl, hat, hle, hge⟩
    obtain ⟨front, back, rfl, rfl⟩ := exists_of_word_at hname.is_word.ne_nil hat
    obtain ⟨hfront, hback⟩ := word_at_between.mp hat
    obtain ⟨k, rfl⟩ := Nat.exists_eq_add_of_le hle
    -- The gap cuts the word in two, either part of which may be empty.
    obtain ⟨left, right, rfl, rfl⟩ : ∃ left right, word = left ++ right ∧ left.length = k :=
      ⟨word.take k, word.drop k, (List.take_append_drop k word).symm,
        List.length_take_of_le (by omega)⟩
    rw [List.append_assoc, ← List.append_assoc front,
      identifier_touching_run hname.is_word.ident hfront hback]
    obtain ⟨c, rest, hcons⟩ := List.exists_cons_of_ne_nil hname.is_word.ne_nil
    have hdigit := hname.no_digit c (by rw [hcons]; rfl)
    simp [hcons, hdigit]

end Line

section Content

variable {word content : Text} {number column : Nat}

/-- The word stands in a text at a line and a column, both from one. -/
def IsWordAt (word content : Text) (number column : Nat) : Prop :=
  ∃ i ∈ wordIndices word none content,
    (content.take i).count '\n' + 1 = number ∧ (lineBefore content i).length + 1 = column

/-- The first line ends at the first line feed. -/
theorem lines_append {line : Text} (hline : '\n' ∉ line) (rest : Text) :
    lines (line ++ '\n' :: rest) = dropReturn line :: lines rest := by
  obtain ⟨part, parts, hsplit⟩ :=
    List.exists_cons_of_ne_nil (split_by_ne_nil (· = '\n') rest)
  rw [lines, lines, split_by_append hline, hsplit, List.dropLast_cons_cons, List.map_cons,
    List.getLast?_cons_cons]
  split <;> rfl

/-- A text without line feeds is one line, if it is not empty. -/
theorem lines_of_line {line : Text} (hne : line ≠ []) (hline : '\n' ∉ line) :
    lines line = [line] := by
  rw [lines, split_by_of_not_mem hline]
  cases line with
  | nil => contradiction
  | cons c rest => rfl

/-- A place of a word in a text is one on a line of the text. -/
theorem exists_line_of_index (hword : IsWord word) {content : Text} {i : Nat}
    (hi : i ∈ wordIndices word none content) :
    ∃ line, (lines content)[(content.take i).count '\n']? = some line ∧
      wordAt word none line (lineBefore content i).length = true := by
  by_cases hfeed : '\n' ∈ content
  · obtain ⟨line, rest, hsplit, hline⟩ := List.eq_append_cons_of_mem hfeed
    have hshorter : rest.length < content.length := by
      rw [hsplit, List.length_append, List.length_cons]
      omega
    rw [hsplit, word_indices_append hword (by decide), List.mem_append, List.mem_map] at hi
    rw [hsplit, lines_append hline]
    rcases hi with hi | ⟨j, hj, rfl⟩
    · have hle : i ≤ line.length := (List.mem_range.mp (List.mem_filter.mp hi).1).le
      refine ⟨dropReturn line, ?_, ?_⟩
      · rw [count_take_line hline hle]
        rfl
      · rw [line_before_line hline hle, List.length_take_of_le hle]
        rw [← word_indices_drop_return hword line] at hi
        exact (List.mem_filter.mp hi).2
    · obtain ⟨text, htext, hat⟩ := exists_line_of_index hword hj
      refine ⟨text, ?_, ?_⟩
      · have hcount : ((line ++ '\n' :: rest).take (line.length + 1 + j)).count '\n' =
            (rest.take j).count '\n' + 1 := by
          rw [take_further, List.count_append, List.count_eq_zero.mpr hline, List.count_cons_self,
            Nat.zero_add]
        rw [hcount, List.getElem?_cons_succ, htext]
      · rwa [line_before_further]
  · have hle : i ≤ content.length := (List.mem_range.mp (List.mem_filter.mp hi).1).le
    have hne : content ≠ [] := by
      rintro rfl
      exact nomatch hi
    have hcount := count_take_line hfeed hle []
    have hbefore := line_before_line hfeed hle []
    rw [List.append_nil] at hcount hbefore
    refine ⟨content, ?_, ?_⟩
    · rw [hcount, lines_of_line hne hfeed]
      rfl
    · rw [hbefore, List.length_take_of_le hle]
      exact (List.mem_filter.mp hi).2
termination_by content.length

/-- A cursor before, inside or right behind a name that stands at a line and a column of a text
touches this name. -/
theorem IsWordAt.identifier_at (hname : IsIdentifier word) (h : IsWordAt word content number column)
    {offset : Nat} (hoffset : offset ≤ word.length) :
    identifierAt? content number (column + offset) = some (word, column) := by
  obtain ⟨i, hi, rfl, rfl⟩ := h
  obtain ⟨line, hline, hat⟩ := exists_line_of_index hname.is_word hi
  have htouching : identifierTouching? line ((lineBefore content i).length + offset) =
      some (word, (lineBefore content i).length + 1) :=
    identifier_touching_eq_some_iff.mpr ⟨hname, _, rfl, hat, by omega, by omega⟩
  rw [identifierAt?, if_neg (by simp), Nat.add_sub_cancel, hline, Option.bind_some,
    Nat.add_right_comm, Nat.add_sub_cancel, htouching]

end Content

end CodeAtlas.Text
