import CodeAtlas.Text.Word
import Mathlib.Data.List.TakeWhile

/-!
# Where a word stands

Read `wordAt` first: it says at which characters of a text a word stands, without a scan. A scan of
one line that skips what it has matched finds all of these places (`word_occurrences_eq`), because
the characters of the word keep every other occurrence from beginning inside of it. No word reaches
over a character that cannot stand in an identifier (`word_indices_append`), so the places in a text
are those on its lines.
-/

namespace CodeAtlas.Text

/-- The character before character number `i` of a text that follows the character `before`. -/
def charBefore (before : Option Char) (text : Text) : Nat → Option Char
  | 0 => before
  | i + 1 => text[i]?

/-- Whether `word` stands at character number `i` of a text that follows the character `before`,
with no identifier character next to it. -/
def wordAt (word : Text) (before : Option Char) (text : Text) (i : Nat) : Bool :=
  (text.drop i).take word.length = word &&
    !(charBefore before text i).any isIdentChar && !(text[i + word.length]?).any isIdentChar

/-- The characters of a text at which `word` stands, in ascending order. -/
def wordIndices (word : Text) (before : Option Char) (text : Text) : List Nat :=
  (List.range text.length).filter (wordAt word before text)

/-- A word is a text of identifier characters that is not empty. -/
structure IsWord (word : Text) : Prop where
  ne_nil : word ≠ []
  ident : ∀ c ∈ word, isIdentChar c = true

instance (word : Text) : Decidable (IsWord word) :=
  decidable_of_iff (word ≠ [] ∧ ∀ c ∈ word, isIdentChar c = true)
    ⟨fun h => ⟨h.1, h.2⟩, fun h => ⟨h.1, h.2⟩⟩

variable {word : Text} {before : Option Char}

/-- Where a word stands is the same for a text and for what follows its first character. -/
theorem word_at_cons (c : Char) (rest : Text) (i : Nat) :
    wordAt word before (c :: rest) (i + 1) = wordAt word (some c) rest i := by
  have hbefore : charBefore before (c :: rest) (i + 1) = charBefore (some c) rest i := by
    cases i <;> rfl
  have hafter : (c :: rest)[i + 1 + word.length]? = rest[i + word.length]? := by
    rw [Nat.add_right_comm, List.getElem?_cons_succ]
  rw [wordAt, wordAt, hbefore, hafter, List.drop_succ_cons]

/-- A word stands at the first character or further on. -/
theorem word_indices_cons (c : Char) (rest : Text) :
    wordIndices word before (c :: rest) =
      (if wordAt word before (c :: rest) 0 then [0] else []) ++
        (wordIndices word (some c) rest).map (· + 1) := by
  have hrest : ((List.range rest.length).map Nat.succ).filter (wordAt word before (c :: rest)) =
      (wordIndices word (some c) rest).map (· + 1) := by
    rw [List.filter_map, wordIndices]
    congr 1
    exact List.filter_congr fun i _ => word_at_cons c rest i
  rw [wordIndices, List.length_cons, List.range_succ_eq_map, List.filter_cons, hrest]
  split <;> rfl

/-- After an identifier character no word stands. -/
theorem word_at_zero_of_ident {text : Text} (h : before.any isIdentChar = true) :
    wordAt word before text 0 = false := by
  simp [wordAt, charBefore, h]

/-- What follows a head is what is left without as many characters. -/
theorem drop_head_eq (text head : Text) :
    dropHead? text head =
      if text.take head.length = head then some (text.drop head.length) else none := by
  induction head generalizing text with
  | nil => simp [dropHead?]
  | cons d head ih =>
      cases text with
      | nil => simp [dropHead?]
      | cons c rest =>
          rw [dropHead?, ih]
          by_cases hc : c = d <;> simp [hc]

/-- A text that a word stands at begins with the identifier characters of the word. -/
theorem IsWord.ident_of_take (hword : IsWord word) {c : Char} {rest : Text}
    (h : (c :: rest).take word.length = word) :
    isIdentChar c = true ∧ ∀ d ∈ rest.take (word.length - 1), isIdentChar d = true := by
  obtain ⟨tail, htail⟩ : ∃ tail, word.length = tail + 1 :=
    Nat.exists_eq_succ_of_ne_zero (mt List.length_eq_zero_iff.mp hword.ne_nil)
  have heq : word = c :: rest.take tail := by
    rw [htail, List.take_succ_cons] at h
    exact h.symm
  have hident := hword.ident
  rw [heq] at hident
  rw [htail, Nat.add_sub_cancel]
  exact ⟨hident c (by simp), fun d hd => hident d (List.mem_cons_of_mem c hd)⟩

/-- A scan finds the places where a word stands, if the characters that it skips are identifier
characters and follow one. -/
theorem word_occurrences_from_eq (hword : IsWord word) {offset column skip : Nat} {text : Text}
    (hskip : 0 < skip → before.any isIdentChar = true)
    (htext : ∀ c ∈ text.take skip, isIdentChar c = true) :
    wordOccurrencesFrom word before offset column skip text =
      (wordIndices word before text).map fun i =>
        (offset + byteLength (text.take i), column + i) := by
  induction text generalizing before offset column skip with
  | nil => simp [wordOccurrencesFrom, wordIndices]
  | cons c rest ih =>
      have hlater : ∀ n, (0 < n → isIdentChar c = true) →
          (∀ d ∈ rest.take n, isIdentChar d = true) →
          wordOccurrencesFrom word (some c) (offset + c.utf8Size) (column + 1) n rest =
            ((wordIndices word (some c) rest).map (· + 1)).map fun i =>
              (offset + byteLength ((c :: rest).take i), column + i) := by
        intro n hn hrest
        rw [ih hn hrest, List.map_map]
        refine List.map_congr_left fun i _ => ?_
        simp only [Function.comp, List.take_succ_cons, byteLength]
        rw [Nat.add_assoc, Nat.add_assoc, Nat.add_comm 1 i]
      rw [word_indices_cons, List.map_append]
      cases skip with
      | succ n =>
          have hc : isIdentChar c = true := htext c (by simp)
          rw [wordOccurrencesFrom, word_at_zero_of_ident (hskip n.succ_pos)]
          simp only [Bool.false_eq_true, if_false, List.map_nil, List.nil_append]
          exact hlater n (fun _ => hc) fun d hd => htext d (by simp [hd])
      | zero =>
          rw [wordOccurrencesFrom]
          simp only [drop_head_eq]
          by_cases hhead : (c :: rest).take word.length = word
          · -- The word begins here, so what the scan skips are its other characters.
            obtain ⟨hc, htail⟩ := hword.ident_of_take hhead
            have hrest := hlater (word.length - 1) (fun _ => hc) htail
            simp only [hhead, if_true, hrest, wordAt, charBefore, List.drop_zero, Nat.zero_add,
              List.head?_drop, decide_true, Bool.true_and]
            cases before.any isIdentChar <;>
              cases (c :: rest)[word.length]?.any isIdentChar <;> simp [byteLength]
          · have hnone : wordAt word before (c :: rest) 0 = false := by
              simp [wordAt, hhead]
            simp only [hhead, if_false, hnone, Bool.false_eq_true, List.map_nil, List.nil_append]
            exact hlater 0 (fun h => absurd h (Nat.lt_irrefl 0)) (by simp)

/-- Every place where a word stands on a line is found, with its byte offset and its column. -/
theorem word_occurrences_eq (hword : IsWord word) (line : Text) :
    wordOccurrences line word =
      (wordIndices word none line).map fun i => (byteLength (line.take i), i + 1) := by
  have hne : word.isEmpty = false := by simpa using hword.ne_nil
  rw [wordOccurrences, hne, if_neg (by simp),
    word_occurrences_from_eq hword (fun h => absurd h (Nat.lt_irrefl 0)) (by simp)]
  refine List.map_congr_left fun i _ => ?_
  rw [Nat.zero_add, Nat.add_comm]

/-- A word does not reach over a character that cannot stand in an identifier. -/
theorem take_append_eq_iff (hword : IsWord word) {c : Char} (hc : isIdentChar c = false)
    (line rest : Text) :
    (line ++ c :: rest).take word.length = word ↔ line.take word.length = word := by
  rcases Nat.lt_or_ge line.length word.length with hlt | hle
  · constructor
    · intro h
      obtain ⟨n, hn⟩ := Nat.exists_eq_succ_of_ne_zero (Nat.sub_ne_zero_of_lt hlt)
      have hmem : c ∈ (line ++ c :: rest).take word.length := by
        simp [List.take_append, hn]
      have hident := hword.ident c (h ▸ hmem)
      simp [hc] at hident
    · intro h
      have hlength := congrArg List.length h
      rw [List.length_take] at hlength
      omega
  · rw [List.take_append_of_le_length hle]

/-- Before a character that cannot stand in an identifier, a word stands as at the end. -/
theorem word_at_zero_append (hword : IsWord word) {c : Char} (hc : isIdentChar c = false)
    (front rest : Text) :
    wordAt word before (front ++ c :: rest) 0 = wordAt word before front 0 := by
  by_cases htake : front.take word.length = word
  · have hle : word.length ≤ front.length := by
      have hlength := congrArg List.length htake
      rw [List.length_take] at hlength
      omega
    have hafter : ((front ++ c :: rest)[word.length]?).any isIdentChar =
        (front[word.length]?).any isIdentChar := by
      rcases Nat.lt_or_eq_of_le hle with hlt | heq
      · rw [List.getElem?_append_left hlt]
      · simp [heq, hc]
    simp only [wordAt, charBefore, List.drop_zero, Nat.zero_add, hafter,
      take_append_eq_iff hword hc]
  · simp [wordAt, take_append_eq_iff hword hc, htake]

/-- A character that cannot stand in an identifier is as good as none. -/
theorem word_indices_some {c : Char} (hc : isIdentChar c = false) (rest : Text) :
    wordIndices word (some c) rest = wordIndices word none rest := by
  refine List.filter_congr fun i _ => ?_
  cases i <;> simp [wordAt, charBefore, hc]

/-- The places where a word stands are those before and those after a character that cannot stand in
an identifier. -/
theorem word_indices_append (hword : IsWord word) {c : Char} (hc : isIdentChar c = false)
    (line rest : Text) :
    wordIndices word before (line ++ c :: rest) =
      wordIndices word before line ++ (wordIndices word none rest).map (line.length + 1 + ·) := by
  induction line generalizing before with
  | nil =>
      have hnone : wordAt word before (c :: rest) 0 = false := by
        have hempty : wordAt word before ([] ++ c :: rest) 0 = wordAt word before [] 0 :=
          word_at_zero_append hword hc [] rest
        rw [List.nil_append] at hempty
        rw [hempty]
        simp [wordAt, hword.ne_nil.symm]
      rw [List.nil_append, word_indices_cons, hnone, word_indices_some hc]
      simp [wordIndices, Nat.add_comm]
  | cons d line ih =>
      rw [List.cons_append, word_indices_cons, word_indices_cons, ih, List.map_append, List.map_map,
        ← List.cons_append, word_at_zero_append hword hc, List.append_assoc]
      congr 2
      refine List.map_congr_left fun i _ => ?_
      simp only [Function.comp, List.length_cons]
      omega

/-- A text starts with another if that many of its characters are the other. -/
theorem starts_with_iff {text head : Text} :
    startsWith text head = true ↔ text.take head.length = head := by
  induction head generalizing text with
  | nil => simp [startsWith]
  | cons d head ih => cases text <;> simp [startsWith, ih]

/-- A text that does not contain a word has no place where it stands. -/
theorem word_indices_of_not_contains {text : Text} (h : contains text word = false) :
    wordIndices word before text = [] := by
  induction text generalizing before with
  | nil => rfl
  | cons c rest ih =>
      rw [contains, Bool.or_eq_false_iff] at h
      have hhead : (c :: rest).take word.length ≠ word :=
        mt starts_with_iff.mpr (Bool.eq_false_iff.mp h.1)
      rw [word_indices_cons, ih h.2]
      simp [wordAt, hhead]

/-- A carriage return at the end of a line is dropped, or there is none. -/
theorem drop_return_cases (line : Text) :
    dropReturn line = line ∨ line = dropReturn line ++ ['\r'] := by
  unfold dropReturn
  split
  · next rest heq =>
      refine Or.inr ?_
      rw [← List.reverse_cons, ← heq, List.reverse_reverse]
  · exact Or.inl rfl

/-- A word does not stand at a carriage return. -/
theorem word_indices_drop_return (hword : IsWord word) (line : Text) :
    wordIndices word before (dropReturn line) = wordIndices word before line := by
  rcases drop_return_cases line with heq | heq
  · rw [heq]
  · have hreturn : isIdentChar '\r' = false := by decide
    have happend : wordIndices word before (dropReturn line ++ ['\r']) =
        wordIndices word before (dropReturn line) ++ [] :=
      word_indices_append hword hreturn (dropReturn line) []
    rw [← heq, List.append_nil] at happend
    exact happend.symm

/-- White space at the end of a text is trimmed. -/
theorem trim_append_singleton {c : Char} (hc : isWhiteSpace c = true) (text : Text) :
    trim (text ++ [c]) = trim text := by
  have hend : ∀ front : Text, trimEnd (front ++ [c]) = trimEnd front := by
    intro front
    simp [trimEnd, dropEndWhile, hc]
  rw [trim, trim, trimStart, trimStart, List.dropWhile_append]
  split
  · next hempty =>
      rw [List.isEmpty_iff.mp hempty]
      simp [hc]
  · exact hend _

/-- What is dropped from the end of a line is trimmed as well. -/
theorem exists_drop_return (line : Text) :
    ∃ tail, line = dropReturn line ++ tail ∧ trim line = trim (dropReturn line) := by
  rcases drop_return_cases line with heq | heq
  · exact ⟨[], by rw [heq, List.append_nil], by rw [heq]⟩
  · have hreturn : isWhiteSpace '\r' = true := by decide
    have htrim := trim_append_singleton hreturn (dropReturn line)
    rw [← heq] at htrim
    exact ⟨['\r'], heq, htrim⟩

/-- The bytes of two texts add up. -/
theorem byte_length_append (left right : Text) :
    byteLength (left ++ right) = byteLength left + byteLength right := by
  induction left with
  | nil => simp [byteLength]
  | cons c rest ih => simp only [List.cons_append, byteLength, ih, Nat.add_assoc]

/-- The part of its line before character number `i` of a text. -/
def lineBefore (text : Text) (i : Nat) : Text :=
  ((text.take i).reverse.takeWhile (· ≠ '\n')).reverse

/-- The line around character number `i` of a text. -/
def lineAround (text : Text) (i : Nat) : Text :=
  lineBefore text i ++ (text.drop i).takeWhile (· ≠ '\n')

section Line

variable {line : Text} (hline : '\n' ∉ line) {i : Nat} (hi : i ≤ line.length)

include hline hi

/-- There is no line feed on a line. -/
theorem count_take_line (tail : Text) : ((line ++ tail).take i).count '\n' = 0 := by
  rw [List.take_append_of_le_length hi]
  exact List.count_eq_zero.mpr fun hmem => hline (List.mem_of_mem_take hmem)

/-- The part of a line before a character. -/
theorem line_before_line (tail : Text) : lineBefore (line ++ tail) i = line.take i := by
  have hall : ∀ c ∈ (line.take i).reverse, decide (c ≠ '\n') = true := by
    intro c hc
    have hmem := List.mem_of_mem_take (List.mem_reverse.mp hc)
    exact decide_eq_true fun heq => hline (heq ▸ hmem)
  rw [lineBefore, List.take_append_of_le_length hi, List.takeWhile_eq_self_iff.mpr hall,
    List.reverse_reverse]

/-- The line around one of its characters. -/
theorem line_around_line {tail : Text} (htail : tail.takeWhile (· ≠ '\n') = []) :
    lineAround (line ++ tail) i = line := by
  have hall : ∀ c ∈ line.drop i, decide (c ≠ '\n') = true :=
    fun c hc => decide_eq_true fun heq => hline (heq ▸ List.mem_of_mem_drop hc)
  rw [lineAround, line_before_line hline hi, List.drop_append_of_le_length hi,
    List.takeWhile_append_of_pos hall, htail, List.append_nil, List.take_append_drop]

end Line

section Rest

variable (line rest : Text) (i : Nat)

/-- The characters before a character of a further line. -/
theorem take_further : (line ++ '\n' :: rest).take (line.length + 1 + i) =
    line ++ '\n' :: rest.take i := by
  rw [Nat.add_assoc, List.take_length_add_append, Nat.add_comm, List.take_succ_cons]

/-- The part of a further line before a character. -/
theorem line_before_further :
    lineBefore (line ++ '\n' :: rest) (line.length + 1 + i) = lineBefore rest i := by
  rw [lineBefore, lineBefore, take_further, List.reverse_append, List.reverse_cons,
    List.append_assoc, List.takeWhile_append]
  split
  · next hall =>
      rw [(List.takeWhile_prefix _).eq_of_length hall]
      simp
  · rfl

/-- A further line around a character. -/
theorem line_around_further :
    lineAround (line ++ '\n' :: rest) (line.length + 1 + i) = lineAround rest i := by
  have hdrop : (line ++ '\n' :: rest).drop (line.length + 1 + i) = rest.drop i := by
    rw [Nat.add_assoc, List.drop_length_add_append, Nat.add_comm, List.drop_succ_cons]
  rw [lineAround, lineAround, line_before_further, hdrop]

end Rest

/-- A later character is on a later line, or further to the right on the same line. -/
theorem place_lt {text : Text} {i j : Nat} (hij : i < j) (hj : j ≤ text.length) :
    (text.take i).count '\n' < (text.take j).count '\n' ∨
      ((text.take i).count '\n' = (text.take j).count '\n' ∧
        (lineBefore text i).length < (lineBefore text j).length) := by
  obtain ⟨k, rfl⟩ := Nat.exists_eq_add_of_lt hij
  have hsplit : text.take (i + k + 1) = text.take i ++ (text.drop i).take (k + 1) := by
    rw [Nat.add_assoc, List.take_add]
  have hlength : ((text.drop i).take (k + 1)).length = k + 1 := by
    rw [List.length_take, List.length_drop]
    omega
  rw [lineBefore, lineBefore, hsplit, List.count_append, List.reverse_append]
  by_cases hfeed : '\n' ∈ (text.drop i).take (k + 1)
  · have hpos := List.count_pos_iff.mpr hfeed
    exact Or.inl (by omega)
  · have hall : ∀ c ∈ ((text.drop i).take (k + 1)).reverse, decide (c ≠ '\n') = true :=
      fun c hc => decide_eq_true fun heq => hfeed (heq ▸ List.mem_reverse.mp hc)
    refine Or.inr ⟨by rw [List.count_eq_zero.mpr hfeed, Nat.add_zero], ?_⟩
    rw [List.takeWhile_append_of_pos hall]
    simp only [List.length_reverse, List.length_append, hlength]
    omega

end CodeAtlas.Text
