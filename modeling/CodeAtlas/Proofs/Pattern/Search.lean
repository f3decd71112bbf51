import CodeAtlas.Proofs.Pattern.Word

/-!
# Searching a text piece by piece

`Scans` follows a search from left to right: a place without a match is passed over, a match is taken
and the search goes on after it (`search_all_of_scans`). A stretch that holds the start of no match
is passed over as a whole (`Scans.of_misses`). A pattern that is led by words matches only where one
of them stands alone (`Led`), so a stretch made of other words and of marks holds no match
(`misses_pieces`).
-/

namespace CodeAtlas.Pattern

open Text (Cursor byteLength isWhiteSpace isNameChar IsName IsBlank)

/-- The matches found from a cursor on. -/
inductive Scans (pattern : Pattern) : Cursor → List Match → Prop
  | stop {before : Option Char} {offset : Nat}
      (h : matchAt? pattern ⟨before, offset, []⟩ = none) : Scans pattern ⟨before, offset, []⟩ []
  | miss {before : Option Char} {offset : Nat} {c : Char} {rest : Text} {found : List Match}
      (h : matchAt? pattern ⟨before, offset, c :: rest⟩ = none)
      (hlater : Scans pattern ⟨some c, offset + c.utf8Size, rest⟩ found) :
      Scans pattern ⟨before, offset, c :: rest⟩ found
  | hit {before : Option Char} {offset : Nat} {read rest : Text} {groups : Groups}
      {found : List Match} (hne : read ≠ []) (h : Passes pattern before offset read rest groups)
      (hlater : Scans pattern ⟨read.getLast?.or before, offset + byteLength read, rest⟩ found) :
      Scans pattern ⟨before, offset, read ++ rest⟩
        (⟨offset, offset + byteLength read, groups⟩ :: found)

section Scans

variable {pattern : Pattern} {before : Option Char} {offset : Nat} {text left right rest : Text}
  {found : List Match} {c : Char}

/-- A place without a match is passed over by the search for the next one. -/
theorem search_all_from_miss {fuel : Nat} (h : matchAt? pattern ⟨before, offset, c :: rest⟩ = none) :
    searchAllFrom pattern (fuel + 1) ⟨before, offset, c :: rest⟩ =
      searchAllFrom pattern (fuel + 1) ⟨some c, offset + c.utf8Size, rest⟩ := by
  rw [searchAllFrom, searchAllFrom]
  dsimp only
  rw [searchFrom?, h]

/-- With fuel for every character, a search finds what `Scans` says. -/
theorem Scans.search_all_from {cursor : Cursor} (h : Scans pattern cursor found) {fuel : Nat}
    (hfuel : cursor.rest.length < fuel) : searchAllFrom pattern fuel cursor = found := by
  induction h generalizing fuel with
  | stop h =>
      cases fuel with
      | zero => cases hfuel
      | succ n => rw [searchAllFrom, searchFrom?, h]
  | miss h _ ih =>
      cases fuel with
      | zero => cases hfuel
      | succ n =>
          rw [search_all_from_miss h]
          exact ih (by simp only [List.length_cons] at hfuel ⊢; omega)
  | @hit before offset read rest groups found hne h _ ih =>
      cases fuel with
      | zero => cases hfuel
      | succ n =>
          have hpos : byteLength read ≠ 0 := fun hzero => hne (Text.byte_length_eq_zero.mp hzero)
          have hlength := List.length_pos_iff.mpr hne
          rw [searchAllFrom]
          dsimp only
          rw [searchFrom?.eq_def, match_at_of_passes h]
          dsimp only
          rw [if_neg (by omega), ih]
          simp only [List.length_append] at hfuel ⊢
          omega

/-- A search through a whole text finds what `Scans` says. -/
theorem search_all_of_scans (h : Scans pattern (Cursor.start text) found) :
    searchAll pattern text = found :=
  h.search_all_from (Nat.lt_succ_self _)

/-- No match of a pattern starts in a stretch of text. -/
def Misses (pattern : Pattern) (before : Option Char) (text rest : Text) : Prop :=
  ∀ offset front c back, text = front ++ c :: back →
    matchAt? pattern ⟨front.getLast?.or before, offset, c :: (back ++ rest)⟩ = none

/-- A stretch is missed if its first place and the others are. -/
theorem misses_cons (hfirst : ∀ offset, matchAt? pattern ⟨before, offset, c :: (text ++ rest)⟩ = none)
    (hlater : Misses pattern (some c) text rest) : Misses pattern before (c :: text) rest := by
  intro offset front d back htext
  cases front with
  | nil =>
      obtain ⟨rfl, rfl⟩ := List.cons.inj htext
      exact hfirst offset
  | cons e front =>
      obtain ⟨rfl, hrest⟩ := List.cons.inj htext
      rw [Text.last_cons]
      exact hlater offset front d back hrest

/-- The places of a stretch after the first one are missed if the stretch is. -/
theorem Misses.tail (h : Misses pattern before (c :: text) rest) :
    Misses pattern (some c) text rest := by
  intro offset front d back htext
  rw [← Text.last_cons c front before]
  exact h offset (c :: front) d back (by rw [htext, List.cons_append])

/-- Two stretches are missed if each of them is. -/
theorem Misses.append (hleft : Misses pattern before left (right ++ rest))
    (hright : Misses pattern (left.getLast?.or before) right rest) :
    Misses pattern before (left ++ right) rest := by
  induction left generalizing before with
  | nil => exact hright
  | cons c left ih =>
      refine misses_cons (fun offset => ?_) (ih hleft.tail (by rwa [Text.last_cons] at hright))
      have hfirst := hleft offset [] c left rfl
      rwa [← List.append_assoc] at hfirst

/-- A stretch without the start of a match is passed over. -/
theorem Scans.of_misses (h : Misses pattern before text rest)
    (hlater : Scans pattern ⟨text.getLast?.or before, offset + byteLength text, rest⟩ found) :
    Scans pattern ⟨before, offset, text ++ rest⟩ found := by
  induction text generalizing before offset with
  | nil => exact hlater
  | cons c text ih =>
      refine .miss (h offset [] c text rfl) (ih h.tail ?_)
      rwa [Text.last_cons, byteLength, ← Nat.add_assoc] at hlater

end Scans

/-- A pattern matches only where one of the words stands alone, and the first visible character after
the word may follow it. -/
structure Led (words : List Text) (follow : Char → Bool) (pattern : Pattern) : Prop where
  is_name : ∀ word ∈ words, IsName word
  starts : ∀ before offset rest, matchAt? pattern ⟨before, offset, rest⟩ ≠ none →
    before.any Text.isWordChar = false ∧ ∃ word ∈ words, ∃ blank c tail,
      rest = word ++ (blank ++ c :: tail) ∧ IsBlank blank ∧ isWhiteSpace c = false ∧
        follow c = true ∧ (blank = [] → isNameChar c = false)

/-- The pieces that a line is put together from. -/
inductive Piece where
  /-- A word and the character after it, which is part of no word. -/
  | word (text : Text) (after : Char)
  /-- A character that is part of no word. -/
  | mark (c : Char)
  /-- A part in single quotes. -/
  | quoted (part : Text)

/-- The text of a piece. -/
def Piece.text : Piece → Text
  | .word text after => text ++ [after]
  | .mark c => [c]
  | .quoted part => '\'' :: (part ++ ['\''])

/-- The text of pieces one after another. -/
def textOf (pieces : List Piece) : Text :=
  pieces.flatMap Piece.text

/-- The first visible character of a text is not one that may follow. -/
def Blocks (follow : Char → Bool) (text : Text) : Prop :=
  ∃ blank c tail, text = blank ++ c :: tail ∧ IsBlank blank ∧ isWhiteSpace c = false ∧
    follow c = false

/-- No piece gives way to a match: a word is another one or what follows it blocks the match, and
none of the words stands in a quoted part. -/
def Free (words : List Text) (follow : Char → Bool) : List Piece → Prop
  | [] => True
  | .word text after :: later =>
    IsName text ∧ isNameChar after = false ∧
      (text ∉ words ∨ Blocks follow (after :: textOf later)) ∧ Free words follow later
  | .mark c :: later => isNameChar c = false ∧ Free words follow later
  | .quoted part :: later => (∀ word ∈ words, ¬word <:+: part) ∧ Free words follow later

section Pieces

variable {words : List Text} {follow : Char → Bool} {pattern : Pattern} {before : Option Char}
  {text rest part : Text} {after c : Char} {pieces : List Piece}

/-- After a word character, a led pattern has no match. -/
theorem Led.none_after (hled : Led words follow pattern) (hc : Text.isWordChar c = true)
    (offset : Nat) : matchAt? pattern ⟨some c, offset, rest⟩ = none := by
  by_contra hsome
  have hbefore := (hled.starts _ _ _ hsome).1
  rw [Option.any_some, hc] at hbefore
  cases hbefore

/-- At a mark, a led pattern has no match. -/
theorem Led.none_at (hled : Led words follow pattern) (hc : isNameChar c = false) (offset : Nat) :
    matchAt? pattern ⟨before, offset, c :: rest⟩ = none := by
  by_contra hsome
  obtain ⟨-, word, hword, blank, d, tail, hrest, -⟩ := hled.starts _ _ _ hsome
  obtain ⟨hne, hchars⟩ := hled.is_name word hword
  obtain ⟨e, word, rfl⟩ := List.exists_cons_of_ne_nil hne
  obtain ⟨rfl, -⟩ := List.cons.inj hrest
  rw [hchars _ List.mem_cons_self] at hc
  cases hc

/-- A stretch of word characters is missed after one of them. -/
theorem Led.misses_name (hled : Led words follow pattern) (hbefore : Text.isWordChar c = true)
    (htext : ∀ d ∈ text, isNameChar d = true) : Misses pattern (some c) text rest := by
  induction text generalizing c with
  | nil =>
      intro offset front d back heq
      simp at heq
  | cons d text ih =>
      refine misses_cons (fun offset => hled.none_after hbefore offset) ?_
      exact ih (Text.is_word_char_of_name_char (htext d List.mem_cons_self))
        fun e he => htext e (List.mem_cons_of_mem d he)

/-- A mark is missed. -/
theorem Led.misses_mark (hled : Led words follow pattern) (hc : isNameChar c = false) :
    Misses pattern before [c] rest := by
  refine misses_cons (fun offset => hled.none_at hc offset) fun offset front d back heq => ?_
  simp at heq

/-- A word is missed if there is no match at its first character. -/
theorem Led.misses_word (hled : Led words follow pattern) (htext : IsName text)
    (hafter : isNameChar after = false)
    (hfirst : ∀ offset, matchAt? pattern ⟨before, offset, text ++ after :: rest⟩ = none) :
    Misses pattern before (text ++ [after]) rest := by
  obtain ⟨hne, hchars⟩ := htext
  refine Misses.append ?_ (hled.misses_mark hafter)
  obtain ⟨c, tail, rfl⟩ := List.exists_cons_of_ne_nil hne
  refine misses_cons hfirst ?_
  exact hled.misses_name (Text.is_word_char_of_name_char (hchars c List.mem_cons_self))
    fun d hd => hchars d (List.mem_cons_of_mem c hd)

/-- The word that a match of a led pattern starts with is the whole word that stands there. -/
theorem Led.word_of_match (hled : Led words follow pattern) (htext : IsName text)
    (hafter : isNameChar after = false) {offset : Nat}
    (h : matchAt? pattern ⟨before, offset, text ++ after :: rest⟩ ≠ none) :
    text ∈ words ∧ ∃ blank c tail, after :: rest = blank ++ c :: tail ∧ IsBlank blank ∧
      isWhiteSpace c = false ∧ follow c = true := by
  obtain ⟨-, word, hword, blank, c, tail, hrest, hblank, hc, hfollow, halone⟩ := hled.starts _ _ _ h
  have hnext : ∀ d, (blank ++ c :: tail).head? = some d → isNameChar d = false := by
    intro d hd
    cases blank with
    | nil =>
        obtain rfl : c = d := by simpa using hd
        exact halone rfl
    | cons e blank =>
        obtain rfl : e = d := by simpa using hd
        by_contra hname
        rw [Bool.not_eq_false] at hname
        have hspace := hblank e List.mem_cons_self
        rw [Text.not_white_space_of_name_char hname] at hspace
        cases hspace
  obtain ⟨rfl, hsplit⟩ := Text.name_append_inj htext (hled.is_name word hword)
    (by simpa using hafter) hnext hrest
  exact ⟨hword, blank, c, tail, hsplit, hblank, hc, hfollow⟩

/-- A word is missed if it is another one or what follows it blocks the match. -/
theorem Led.misses_free_word (hled : Led words follow pattern) (htext : IsName text)
    (hafter : isNameChar after = false) (hfree : text ∉ words ∨ Blocks follow (after :: part)) :
    Misses pattern before (text ++ [after]) (part ++ rest) := by
  refine hled.misses_word htext hafter fun offset => ?_
  by_contra hsome
  obtain ⟨hmem, blank, c, tail, hsplit, hblank, hc, hfollow⟩ :=
    hled.word_of_match htext hafter hsome
  rcases hfree with hother | ⟨blank', d, tail', hpart, hblank', hd, hblocks⟩
  · exact hother hmem
  · have heq : blank' ++ d :: (tail' ++ rest) = blank ++ c :: tail := by
      have hwhole := congrArg (· ++ rest) hpart
      simp only [List.cons_append, List.append_assoc] at hwhole
      rw [← hsplit, hwhole]
    obtain ⟨-, rfl, -⟩ := Text.blank_append_inj hblank' hblank hd hc heq
    rw [hfollow] at hblocks
    cases hblocks

/-- A quoted part that holds none of the words is missed. -/
theorem Led.misses_quoted (hled : Led words follow pattern)
    (hpart : ∀ word ∈ words, ¬word <:+: part) :
    Misses pattern before ('\'' :: (part ++ ['\''])) rest := by
  refine misses_cons (fun offset => hled.none_at (by decide) offset) ?_
  refine Misses.append ?_ (hled.misses_mark (by decide))
  intro offset front c back heq
  by_contra hsome
  obtain ⟨-, word, hword, blank, d, tail, hrest, -⟩ := hled.starts _ _ _ hsome
  -- A word holds no quote, so it ends before the quote does.
  have hquote : '\'' ∉ word := fun hmem => by
    have hname := (hled.is_name word hword).chars _ hmem
    revert hname
    decide
  refine hpart word hword ?_
  rw [List.singleton_append, ← List.cons_append] at hrest
  rcases List.append_eq_append_iff.mp hrest with ⟨middle, heq', hlater⟩ | ⟨middle, hback, -⟩
  · cases middle with
    | nil =>
        rw [List.append_nil] at heq'
        exact ⟨front, [], by rw [List.append_nil, heq', heq]⟩
    | cons e middle =>
        obtain ⟨rfl, -⟩ := List.cons.inj hlater
        exact absurd (by simp [heq']) hquote
  · exact ⟨front, middle, by rw [heq, hback, List.append_assoc]⟩

/-- A stretch is missed that holds the first character of none of the words. -/
theorem Led.misses_other (hled : Led words follow pattern)
    (h : ∀ word ∈ words, ∀ c, word.head? = some c → c ∉ text) : Misses pattern before text rest := by
  intro offset front c back htext
  by_contra hsome
  obtain ⟨-, word, hword, blank, d, tail, hrest, -⟩ := hled.starts _ _ _ hsome
  obtain ⟨e, word, rfl⟩ := List.exists_cons_of_ne_nil (hled.is_name word hword).ne_nil
  obtain ⟨rfl, -⟩ := List.cons.inj hrest
  exact h _ hword c rfl (by simp [htext])

/-- Inside an identifier a match starts only with the word at its end, which it is the whole of or behind
a dollar sign. -/
theorem Led.word_in_identifier {word front back : Text} (hled : Led [word] follow pattern)
    (hdollar : follow '$' = false) (htext : ∀ d ∈ front ++ c :: back, Text.isNamePart d = true)
    (hrest : ∀ d, rest.head? = some d → Text.isNamePart d = false) {offset : Nat}
    (hsome : matchAt? pattern ⟨front.getLast?.or before, offset, c :: (back ++ rest)⟩ ≠ none) :
    c :: back = word ∧ (front = [] ∨ ∃ more, front = more ++ ['$']) := by
  have hword := hled.is_name word (List.mem_singleton_self word)
  obtain ⟨hbefore, other, hother, blank, d, tail, heq, hblank, hd, hfollow, halone⟩ :=
    hled.starts _ _ _ hsome
  obtain rfl := List.mem_singleton.mp hother
  have hnext : ∀ e, (blank ++ d :: tail).head? = some e → Text.isNamePart e = false := by
    intro e he
    cases blank with
    | nil =>
        obtain rfl : d = e := Option.some.inj he
        have hne : d ≠ '$' := by
          rintro rfl
          rw [hdollar] at hfollow
          cases hfollow
        rw [Text.isNamePart, halone rfl, decide_eq_false hne, Bool.or_self]
    | cons b blank =>
        obtain rfl : b = e := Option.some.inj he
        by_contra hpart
        have hspace := hblank b List.mem_cons_self
        rw [Text.not_white_space_of_name_part (by simpa using hpart)] at hspace
        cases hspace
  have hwhole : ∀ e ∈ other, Text.isNamePart e = true := fun e he => by
    rw [Text.isNamePart, hword.chars e he, Bool.true_or]
  obtain ⟨hback, -⟩ := Text.span_append_inj Text.isNamePart
    (fun e he => htext e (List.mem_append_right front he)) hwhole hrest hnext heq
  refine ⟨hback, ?_⟩
  rcases List.eq_nil_or_concat front with rfl | ⟨more, e, rfl⟩
  · exact Or.inl rfl
  · rw [List.concat_eq_append, List.getLast?_concat, Option.some_or] at hbefore
    -- A character of the identifier that is no word character is a dollar sign.
    have he : e = '$' := by
      have hpart := htext e (by simp)
      by_contra hne
      rw [Text.isNamePart, decide_eq_false hne, Bool.or_false] at hpart
      rw [Option.any_some, Text.is_word_char_of_name_char hpart] at hbefore
      cases hbefore
    exact Or.inr ⟨more, by rw [List.concat_eq_append, he]⟩

/-- An identifier other than the word is missed, unless the word stands at its end behind a dollar sign
and gives way to a match there. -/
theorem Led.misses_identifier {word : Text} (hled : Led [word] follow pattern)
    (hdollar : follow '$' = false) (htext : ∀ c ∈ text, Text.isNamePart c = true)
    (hrest : ∀ c, rest.head? = some c → Text.isNamePart c = false) (hne : text ≠ word)
    (hend : '$' :: word <:+ text → ∀ offset, matchAt? pattern ⟨some '$', offset, word ++ rest⟩ = none) :
    Misses pattern before text rest := by
  intro offset front c back hsplit
  by_contra hsome
  rw [hsplit] at htext
  obtain ⟨hback, rfl | ⟨more, rfl⟩⟩ := hled.word_in_identifier hdollar htext hrest hsome
  · exact hne (hsplit.trans hback)
  · rw [List.getLast?_concat, Option.some_or, ← List.cons_append, hback] at hsome
    exact hsome (hend ⟨more, by rw [hsplit, hback, List.append_assoc]; rfl⟩ offset)

/-- What stands in front of the word in an identifier that ends with it is missed. -/
theorem Led.misses_before_word {word : Text} (hled : Led [word] follow pattern)
    (hdollar : follow '$' = false) (htext : ∀ c ∈ text ++ word, Text.isNamePart c = true)
    (hrest : ∀ c, rest.head? = some c → Text.isNamePart c = false) :
    Misses pattern before text (word ++ rest) := by
  intro offset front c back hsplit
  by_contra hsome
  rw [hsplit, List.append_assoc, List.cons_append] at htext
  rw [← List.append_assoc] at hsome
  obtain ⟨hback, -⟩ := hled.word_in_identifier hdollar htext hrest hsome
  have hlength := congrArg List.length hback
  rw [List.length_cons, List.length_append] at hlength
  omega

/-- Free pieces are missed. -/
theorem Led.misses_pieces (hled : Led words follow pattern) (hfree : Free words follow pieces) :
    Misses pattern before (textOf pieces) rest := by
  induction pieces generalizing before with
  | nil =>
      intro offset front c back heq
      simp [textOf] at heq
  | cons piece pieces ih =>
      cases piece with
      | word text after =>
          obtain ⟨htext, hafter, hword, hlater⟩ := hfree
          exact (hled.misses_free_word htext hafter hword).append (ih hlater)
      | mark c => exact (hled.misses_mark hfree.1).append (ih hfree.2)
      | quoted part => exact (hled.misses_quoted hfree.1).append (ih hfree.2)

end Pieces

section Led

variable {words : List Text} {follow : Char → Bool} {pattern : Pattern} {text : String}

/-- A text starts with one of the words, and the first visible character after it may follow. -/
def StartsLed (words : List Text) (follow : Char → Bool) (read : Text) : Prop :=
  ∃ word ∈ words, ∃ blank c tail, read = word ++ (blank ++ c :: tail) ∧ IsBlank blank ∧
    isWhiteSpace c = false ∧ follow c = true ∧ (blank = [] → isNameChar c = false)

/-- A pattern is led by words if all it reads after a word boundary starts with one of them. -/
theorem led_of_reads (hwords : ∀ word ∈ words, IsName word)
    (h : ∀ read, CanRead pattern read → StartsLed words follow read) :
    Led words follow (.seq .wordBoundary pattern) where
  is_name := hwords
  starts before offset rest hsome := by
    obtain ⟨⟨found, after⟩, hfound⟩ := Option.ne_none_iff_exists'.mp hsome
    rw [matchAt?, run, run, assert] at hfound
    split at hfound
    · next hboundary =>
        obtain ⟨read, newer, -, later, hrest, hread, -⟩ := run_goes_on pattern _ _ _ _ hfound
        have hsplit : rest = read ++ later := hrest
        obtain ⟨word, hword, blank, c, tail, rfl, hled⟩ := h read ⟨_, _, hread⟩
        refine ⟨?_, word, hword, blank, c, tail ++ later, by simp [hsplit], hled⟩
        obtain ⟨hne, hchars⟩ := hwords word hword
        obtain ⟨d, word, rfl⟩ := List.exists_cons_of_ne_nil hne
        have hhead : rest.head?.any Text.isWordChar = true := by
          rw [hsplit]
          exact Text.is_word_char_of_name_char (hchars d List.mem_cons_self)
        rw [atWordBoundary, hhead] at hboundary
        simpa using hboundary
    · cases hfound

/-- A keyword and white space lead a pattern that goes on with a visible character. -/
theorem led_of_keyword (htext : IsName text.toList) (hsome : pattern.readsSome = true)
    (hstart : ∀ c, pattern.mayStart c = true → isWhiteSpace c = false ∧ follow c = true) :
    Led [text.toList] follow (.seq .wordBoundary (.seq (keyword text) pattern)) := by
  refine led_of_reads (by simpa using htext) fun read hread => ?_
  obtain ⟨left, right, rfl, hleft, hright⟩ := hread.of_seq
  obtain ⟨word, blank, rfl, hword, hblank⟩ := hleft.of_seq
  obtain rfl := hword.of_literal
  obtain ⟨hlength, hspaces⟩ := hblank.is_blank
  obtain ⟨c, tail, rfl⟩ := List.exists_cons_of_ne_nil (hright.ne_nil hsome)
  obtain ⟨hc, hfollow⟩ := hstart c hright.may_start
  refine ⟨_, List.mem_singleton_self _, blank, c, tail, by simp, hspaces, hc, hfollow, ?_⟩
  rintro rfl
  cases hlength

/-- A word and any white space lead a pattern that goes on with a mark. -/
theorem led_of_blanks (htext : IsName text.toList) (hsome : pattern.readsSome = true)
    (hstart : ∀ c, pattern.mayStart c = true →
      isWhiteSpace c = false ∧ follow c = true ∧ isNameChar c = false) :
    Led [text.toList] follow (.seq .wordBoundary (.seq (literal text) (.seq blanks pattern))) := by
  refine led_of_reads (by simpa using htext) fun read hread => ?_
  obtain ⟨word, right, rfl, hword, hright⟩ := hread.of_seq
  obtain rfl := hword.of_literal
  obtain ⟨blank, later, rfl, hblank, hlater⟩ := hright.of_seq
  obtain ⟨c, tail, rfl⟩ := List.exists_cons_of_ne_nil (hlater.ne_nil hsome)
  obtain ⟨hc, hfollow, hname⟩ := hstart c hlater.may_start
  exact ⟨_, List.mem_singleton_self _, blank, c, tail, rfl, hblank.is_blank.2, hc, hfollow,
    fun _ => hname⟩

/-- A keyword and white space lead a pattern that goes on with one of some visible marks. -/
theorem led_of_keyword_marks {marks : List Char} (htext : IsName text.toList)
    (hsome : pattern.readsSome = true) (hmarks : ∀ mark ∈ marks, isWhiteSpace mark = false)
    (hstart : ∀ c, pattern.mayStart c = true → c ∈ marks) :
    Led [text.toList] (marks.contains ·) (.seq .wordBoundary (.seq (keyword text) pattern)) :=
  led_of_keyword htext hsome fun c hc =>
    ⟨hmarks c (hstart c hc), List.contains_iff_mem.mpr (hstart c hc)⟩

/-- A word and any white space lead a pattern that goes on with a mark that no name has. -/
theorem led_of_mark {mark : Char} (htext : IsName text.toList) (hsome : pattern.readsSome = true)
    (hmark : isWhiteSpace mark = false ∧ isNameChar mark = false)
    (hstart : ∀ c, pattern.mayStart c = true → c = mark) :
    Led [text.toList] (· == mark)
      (.seq .wordBoundary (.seq (literal text) (.seq blanks pattern))) := by
  refine led_of_blanks htext hsome fun c hc => ?_
  obtain rfl := hstart c hc
  exact ⟨hmark.1, beq_self_eq_true c, hmark.2⟩

end Led

end CodeAtlas.Pattern
