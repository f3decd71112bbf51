import CodeAtlas.Proofs.Text.Touched

/-!
# Looking a word up from a cursor and from its text

A cursor gives the word that it touches, and a search gives the columns at which a word stands. Both
go by the same words, the maximal runs of identifier characters (`IsMaximalRun`): read
`identifier_at_eq_some_iff` and `mem_columns_iff` first. So a cursor on a column that the search gives
finds the word there, and there is no other column at which it does
(`lookup_by_cursor_iff_by_word`).
-/

namespace CodeAtlas.Text

variable {content line word : Text} {number cursor column : Nat}

/-- At a column of a line, from one, starts a run of identifier characters that no identifier
character goes before or follows. -/
def IsMaximalRun (line word : Text) (column : Nat) : Prop :=
  IsWord word ∧ ∃ front back, line = front ++ (word ++ back) ∧ front.length + 1 = column ∧
    EndsRun front ∧ StopsRun back

/-- The words that stand in a line are the maximal runs of identifier characters. -/
theorem is_maximal_run_iff : IsMaximalRun line word column ↔
    IsWord word ∧ ∃ start, start + 1 = column ∧ wordAt word none line start = true := by
  refine and_congr_right fun hword => ?_
  constructor
  · rintro ⟨front, back, rfl, rfl, hfront, hback⟩
    exact ⟨front.length, rfl, word_at_between.mpr ⟨hfront, hback⟩⟩
  · rintro ⟨start, rfl, hat⟩
    obtain ⟨front, back, rfl, rfl⟩ := exists_of_word_at hword.ne_nil hat
    obtain ⟨hfront, hback⟩ := word_at_between.mp hat
    exact ⟨front, back, rfl, rfl, hfront, hback⟩

/-- A cursor touches a name just if the name is a maximal run of identifier characters and the cursor
is at one of them or right behind the last. -/
theorem identifier_at_eq_some_iff (hnumber : 0 < number)
    (hline : (lines content)[number - 1]? = some line) :
    identifierAt? content number cursor = some (word, column) ↔
      (∀ c ∈ word.head?, isAsciiDigit c = false) ∧ IsMaximalRun line word column ∧
        column ≤ cursor ∧ cursor ≤ column + word.length := by
  rcases Nat.eq_zero_or_pos cursor with rfl | hcursor
  · rw [identifierAt?, if_pos (by simp)]
    refine iff_of_false (by simp) ?_
    rintro ⟨-, ⟨-, front, back, -, rfl, -⟩, hle, -⟩
    exact Nat.not_succ_le_zero _ hle
  · have hplace : ¬(decide (number = 0) || decide (cursor = 0)) = true := by
      simp only [Bool.or_eq_true, decide_eq_true_eq]
      omega
    rw [identifierAt?, if_neg hplace, hline, Option.bind_some, identifier_touching_eq_some_iff,
      is_maximal_run_iff]
    constructor
    · rintro ⟨⟨hword, hdigit⟩, start, rfl, hat, hle, hge⟩
      exact ⟨hdigit, ⟨hword, start, rfl, hat⟩, by omega, by omega⟩
    · rintro ⟨hdigit, ⟨hword, start, rfl, hat⟩, hle, hge⟩
      exact ⟨⟨hword, hdigit⟩, start, rfl, hat, by omega, by omega⟩

/-- A search for a word gives the columns of the line at which the word is a maximal run of identifier
characters. -/
theorem mem_columns_iff (hident : ∀ c ∈ word, isIdentChar c = true) :
    (∃ offset, (offset, column) ∈ wordOccurrences line word) ↔ IsMaximalRun line word column := by
  by_cases hne : word = []
  · refine iff_of_false ?_ fun hrun => hrun.1.ne_nil hne
    simp [hne, wordOccurrences]
  · have hword : IsWord word := ⟨hne, hident⟩
    rw [word_occurrences_eq hword, is_maximal_run_iff]
    simp only [List.mem_map, Prod.mk.injEq]
    constructor
    · rintro ⟨_, start, hstart, -, rfl⟩
      exact ⟨hword, start, rfl, (List.mem_filter.mp hstart).2⟩
    · rintro ⟨-, start, rfl, hat⟩
      have hlt : start < line.length := by
        obtain ⟨front, back, rfl, rfl⟩ := exists_of_word_at hne hat
        have hpos := List.length_pos_iff.mpr hne
        simp only [List.length_append]
        omega
      exact ⟨_, start, List.mem_filter.mpr ⟨List.mem_range.mpr hlt, hat⟩, rfl, rfl⟩

/-- On every line of a text, a search for a name gives just the columns at which a cursor finds the
name starting there; and from every column a cursor finds a name just if the name is a maximal run of
identifier characters around the cursor or right before it. -/
theorem lookup_by_cursor_iff_by_word (hnumber : 0 < number)
    (hline : (lines content)[number - 1]? = some line)
    (hident : ∀ c ∈ word, isIdentChar c = true)
    (hdigit : ∀ c ∈ word.head?, isAsciiDigit c = false) :
    (∀ column, (∃ offset, (offset, column) ∈ wordOccurrences line word) ↔
      identifierAt? content number column = some (word, column)) ∧
    ∀ cursor column, identifierAt? content number cursor = some (word, column) ↔
      IsMaximalRun line word column ∧ column ≤ cursor ∧ cursor ≤ column + word.length := by
  have htouched : ∀ cursor column, identifierAt? content number cursor = some (word, column) ↔
      IsMaximalRun line word column ∧ column ≤ cursor ∧ cursor ≤ column + word.length :=
    fun cursor column => (identifier_at_eq_some_iff hnumber hline).trans (and_iff_right hdigit)
  refine ⟨fun column => ?_, htouched⟩
  rw [mem_columns_iff hident, htouched]
  exact (and_iff_left ⟨Nat.le_refl column, Nat.le_add_right column _⟩).symm

/-- Two lines on which a word stands alone and inside of longer words. -/
def longerWords : Text :=
  "éa\r\naéa; éaéa(éa)\r\n".toList

/-- On the second line the word is found in the one place where it stands alone, by a search for it and
by a cursor where it starts or right behind it. -/
theorem lookup_among_longer_words :
    (lines longerWords)[2 - 1]? = some "aéa; éaéa(éa)".toList ∧
      IsMaximalRun "aéa; éaéa(éa)".toList "éa".toList 11 ∧
      (∀ column, (∃ offset, (offset, column) ∈ wordOccurrences "aéa; éaéa(éa)".toList "éa".toList) ↔
        identifierAt? longerWords 2 column = some ("éa".toList, column)) ∧
      identifierAt? longerWords 2 13 = some ("éa".toList, 11) := by
  -- One evaluation looks the letters up.
  obtain ⟨hline, hletters, hat⟩ : (lines longerWords)[2 - 1]? = some "aéa; éaéa(éa)".toList ∧
      "éa".toList.all isIdentChar = true ∧
      wordAt "éa".toList none "aéa; éaéa(éa)".toList 10 = true := by
    decide +kernel
  have hident : ∀ c ∈ "éa".toList, isIdentChar c = true := List.all_eq_true.mp hletters
  have hdigit : ∀ c ∈ "éa".toList.head?, isAsciiDigit c = false := by
    rintro c ⟨⟩
    decide
  have hrun : IsMaximalRun "aéa; éaéa(éa)".toList "éa".toList 11 :=
    is_maximal_run_iff.mpr ⟨⟨by simp, hident⟩, 10, rfl, hat⟩
  obtain ⟨hsearch, hcursor⟩ := lookup_by_cursor_iff_by_word (by decide : 0 < 2) hline hident hdigit
  exact ⟨hline, hrun, hsearch, (hcursor 13 11).mpr ⟨hrun, by decide, by decide⟩⟩

end CodeAtlas.Text
