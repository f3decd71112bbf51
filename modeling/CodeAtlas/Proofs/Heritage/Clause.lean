import CodeAtlas.Proofs.Scanner.Module
import CodeAtlas.Proofs.Text.Angled

/-!
# Where a clause is found

The keyword of a clause is searched for byte by byte. The search counts every bracket, and that of an
arrow too, so over a text whose brackets are properly nested its depth sinks by one for each arrow
(`byte_depth_of_awaited`). A keyword after such a text is found if there is no arrow in it
(`keyword_found`), and else is lost (`keyword_lost`).
-/

namespace CodeAtlas.Heritage

open Text (Brackets bytes byteLength arrowCount isIdentChar)

/-- How a byte changes the depth of the search for a keyword. -/
def byteStep (b : UInt8) : Int :=
  if b = 0x3C || b = 0x28 || b = 0x5B || b = 0x7B then 1
  else if b = 0x3E || b = 0x29 || b = 0x5D || b = 0x7D then -1
  else 0

/-- How bytes change the depth of the search for a keyword. -/
def byteDepth : List UInt8 → Int
  | [] => 0
  | b :: rest => byteStep b + byteDepth rest

/-- A keyword stands in bytes as a whole word. -/
def HoldsWord (keyword : List UInt8) (before : Option UInt8) (bytes : List UInt8) : Prop :=
  ∃ front back, bytes = front ++ back ∧ isWholeWord keyword (front.getLast?.or before) back = true

instance (keyword : List UInt8) (before : Option UInt8) (bytes : List UInt8) :
    Decidable (HoldsWord keyword before bytes) :=
  decidable_of_iff ((List.range (bytes.length + 1)).any fun i =>
      isWholeWord keyword ((bytes.take i).getLast?.or before) (bytes.drop i)) (by
    rw [List.any_eq_true]
    constructor
    · rintro ⟨i, -, hword⟩
      exact ⟨bytes.take i, bytes.drop i, (List.take_append_drop i bytes).symm, hword⟩
    · rintro ⟨front, back, rfl, hword⟩
      refine ⟨front.length, List.mem_range.mpr (by rw [List.length_append]; omega), ?_⟩
      rwa [List.take_left, List.drop_left])

section Depth

variable {awaited later : List Char} {before : Option Char} {c : Char} {text front back : Text}

/-- The depth changes over two stretches of bytes add up. -/
theorem byte_depth_append (front back : List UInt8) :
    byteDepth (front ++ back) = byteDepth front + byteDepth back := by
  induction front with
  | nil => rw [List.nil_append, byteDepth, Int.zero_add]
  | cons b front ih => rw [List.cons_append, byteDepth, byteDepth, ih, Int.add_assoc]

/-- Bytes outside ASCII do not change the depth. -/
theorem byte_depth_of_wide {l : List UInt8} (h : ∀ b ∈ l, 128 ≤ b.toNat) : byteDepth l = 0 := by
  induction l with
  | nil => rfl
  | cons b l ih =>
      obtain ⟨hb, hl⟩ := List.forall_mem_cons.mp h
      have hne : ∀ d : UInt8, d.toNat < 128 → b ≠ d := by
        rintro d hd rfl
        omega
      rw [byteDepth, ih hl, byteStep]
      simp [hne 0x3C (by decide), hne 0x28 (by decide), hne 0x5B (by decide), hne 0x7B (by decide),
        hne 0x3E (by decide), hne 0x29 (by decide), hne 0x5D (by decide), hne 0x7D (by decide)]

/-- A character changes the depth as in a text, but for the bracket of an arrow. -/
theorem byte_depth_char (before : Option Char) (c : Char) :
    byteDepth (String.utf8EncodeChar c) =
      Text.depthChange before c - (if c = '>' ∧ before = some '=' then 1 else 0 : Nat) := by
  by_cases hascii : c.toNat < 128
  · have hbytes : String.utf8EncodeChar c = [UInt8.ofNat c.toNat] := by
      have h := Text.bytes_ascii hascii []
      rwa [Text.bytes, List.flatMap_cons, List.flatMap_nil, List.append_nil] at h
    have hbyte : ∀ d : Char, d.toNat < 128 → (UInt8.ofNat c.toNat = UInt8.ofNat d.toNat ↔ c = d) :=
      fun d hd => ⟨fun h => by_contra fun hne => Text.byte_ne hascii hd hne h, fun h => h ▸ rfl⟩
    have hopen : (UInt8.ofNat c.toNat = 0x3C ↔ c = '<') ∧ (UInt8.ofNat c.toNat = 0x28 ↔ c = '(') ∧
        (UInt8.ofNat c.toNat = 0x5B ↔ c = '[') ∧ (UInt8.ofNat c.toNat = 0x7B ↔ c = '{') :=
      ⟨hbyte '<' (by decide), hbyte '(' (by decide), hbyte '[' (by decide), hbyte '{' (by decide)⟩
    have hclose : (UInt8.ofNat c.toNat = 0x3E ↔ c = '>') ∧ (UInt8.ofNat c.toNat = 0x29 ↔ c = ')') ∧
        (UInt8.ofNat c.toNat = 0x5D ↔ c = ']') ∧ (UInt8.ofNat c.toNat = 0x7D ↔ c = '}') :=
      ⟨hbyte '>' (by decide), hbyte ')' (by decide), hbyte ']' (by decide), hbyte '}' (by decide)⟩
    obtain ⟨h1, h2, h3, h4⟩ := hopen
    obtain ⟨h5, h6, h7, h8⟩ := hclose
    rw [hbytes, byteDepth, byteDepth, Int.add_zero, byteStep]
    simp only [h1, h2, h3, h4, h5, h6, h7, h8]
    by_cases hflat : Text.IsFlat c
    · have hshape : "([{<)]}>".toList = ['(', '[', '{', '<', ')', ']', '}', '>'] := rfl
      rw [hflat.no_bracket.2]
      simp only [Text.IsFlat, hshape, List.mem_cons, List.not_mem_nil, or_false, not_or] at hflat
      obtain ⟨h1, h2, h3, h4, h5, h6, h7, h8⟩ := hflat
      simp [h1, h2, h3, h4, h5, h6, h7, h8]
    · have hmem : c ∈ ['(', '[', '{', '<', ')', ']', '}', '>'] := not_not.mp hflat
      simp only [List.mem_cons, List.not_mem_nil, or_false] at hmem
      by_cases hbefore : before = some '='
      · rcases hmem with rfl | rfl | rfl | rfl | rfl | rfl | rfl | rfl <;>
          simp [Text.depthChange, hbefore]
      · rcases hmem with rfl | rfl | rfl | rfl | rfl | rfl | rfl | rfl <;>
          simp [Text.depthChange, hbefore]
  · have hwide : ∀ b ∈ String.utf8EncodeChar c, 128 ≤ b.toNat := by
      intro b hb
      by_contra hlt
      obtain ⟨hsize, -⟩ := Text.encode_eq_of_mem hb (by omega)
      have hle : c.toNat ≤ 127 := Char.utf8Size_eq_one_iff.mp hsize
      omega
    have hflat : Text.IsFlat c := by
      have hall : ∀ d ∈ "([{<)]}>".toList, d.toNat < 128 := by decide
      exact fun hmem => hascii (hall c hmem)
    have hangle : c ≠ '>' := by
      rintro rfl
      exact hascii (by decide)
    rw [byte_depth_of_wide hwide, hflat.no_bracket.2]
    simp [hangle]

/-- Over a text the depth changes by the closers that are awaited more, less one for each arrow. -/
theorem byte_depth_of_awaited (h : Brackets.ofTypes.awaitedAfter? awaited before text = some later) :
    byteDepth (bytes text) = later.length - awaited.length - arrowCount before text := by
  induction text generalizing awaited before with
  | nil =>
      obtain rfl := Option.some.inj h
      simp [bytes, byteDepth, arrowCount]
  | cons c text ih =>
      obtain ⟨mid, hsteps, hlater⟩ := Brackets.awaited_after_cons.mp h
      have hcons : bytes (c :: text) = String.utf8EncodeChar c ++ bytes text := rfl
      rw [hcons, byte_depth_append, byte_depth_char before, hsteps.depth_change, ih hlater, arrowCount]
      omega

end Depth

section Word

variable {keyword front back l : List UInt8} {before : Option UInt8} {gap : UInt8} {index : Nat}
  {depth : Int}

/-- A byte that is part of no identifier ends a word as the end of the bytes does. -/
theorem whole_word_gap (hgap : isIdentByte gap = false)
    (hkeyword : ∀ b ∈ keyword, isIdentByte b = true) (rest : List UInt8) :
    isWholeWord keyword before (l ++ gap :: rest) = isWholeWord keyword before l := by
  have hprefix : keyword.isPrefixOf (l ++ gap :: rest) = keyword.isPrefixOf l := by
    rw [Bool.eq_iff_iff, List.isPrefixOf_iff_prefix, List.isPrefixOf_iff_prefix]
    constructor
    · rintro ⟨tail, htail⟩
      rcases List.append_eq_append_iff.mp htail with ⟨more, hl, -⟩ | ⟨more, hl, hrest⟩
      · exact ⟨more, hl.symm⟩
      · cases more with
        | nil => exact ⟨[], by rw [hl, List.append_nil, List.append_nil]⟩
        | cons b more =>
            obtain rfl := (List.cons.inj hrest).1
            have hident := hkeyword gap (by rw [hl]; simp)
            rw [hgap] at hident
            cases hident
    · rintro ⟨tail, rfl⟩
      exact ⟨tail ++ gap :: rest, by rw [List.append_assoc]⟩
  rw [isWholeWord, isWholeWord, hprefix]
  cases hkey : keyword.isPrefixOf l with
  | false => rfl
  | true =>
      obtain ⟨tail, rfl⟩ := List.isPrefixOf_iff_prefix.mp hkey
      rw [List.append_assoc, List.drop_left, List.drop_left]
      cases tail <;> simp [hgap]

/-- A byte that is part of no identifier starts a word as the start of the bytes does. -/
theorem whole_word_after_gap (hgap : isIdentByte gap = false) (before : Option UInt8) :
    isWholeWord keyword (before.or (some gap)) l = isWholeWord keyword before l := by
  cases before <;> simp [isWholeWord, hgap]

/-- The byte before a place after a certain byte. -/
theorem last_after (front l : List UInt8) (gap : UInt8) (before : Option UInt8) :
    (front ++ gap :: l).getLast?.or before = l.getLast?.or (some gap) := by
  rw [List.getLast?_append, List.getLast?_cons]
  cases l.getLast? <;> rfl

/-- A whole word stands on one side of a byte that is part of no identifier. -/
theorem holds_word_gap (hgap : isIdentByte gap = false)
    (hkeyword : ∀ b ∈ keyword, isIdentByte b = true) :
    HoldsWord keyword before (front ++ gap :: back) ↔
      HoldsWord keyword before front ∨ HoldsWord keyword none back := by
  constructor
  · rintro ⟨left, right, hsplit, hword⟩
    rcases List.append_eq_append_iff.mp hsplit with ⟨more, rfl, hright⟩ | ⟨more, rfl, rfl⟩
    · cases more with
      | nil =>
          obtain rfl : gap :: back = right := hright
          rw [← List.nil_append (gap :: back), whole_word_gap hgap hkeyword, List.append_nil] at hword
          exact Or.inl ⟨front, [], (List.append_nil _).symm, hword⟩
      | cons b more =>
          obtain ⟨rfl, rfl⟩ := List.cons.inj hright
          refine Or.inr ⟨more, right, rfl, ?_⟩
          rwa [last_after, whole_word_after_gap hgap, ← Option.or_none (o := more.getLast?)] at hword
    · rw [whole_word_gap hgap hkeyword] at hword
      exact Or.inl ⟨left, more, rfl, hword⟩
  · rintro (⟨left, right, rfl, hword⟩ | ⟨left, right, rfl, hword⟩)
    · refine ⟨left, right ++ gap :: back, by rw [List.append_assoc], ?_⟩
      rwa [whole_word_gap hgap hkeyword]
    · refine ⟨front ++ gap :: left, right, by rw [List.append_assoc]; rfl, ?_⟩
      rw [Option.or_none] at hword
      rwa [last_after, whole_word_after_gap hgap]

/-- A whole word is as long as the keyword. -/
theorem HoldsWord.length_le (h : HoldsWord keyword before l) : keyword.length ≤ l.length := by
  obtain ⟨front, back, rfl, hword⟩ := h
  simp only [isWholeWord, Bool.and_eq_true] at hword
  have hle := (List.isPrefixOf_iff_prefix.mp hword.1.1).length_le
  rw [List.length_append]
  omega

/-- The search goes on over a byte where no keyword is found. -/
theorem keyword_from_step {b : UInt8} {rest : List UInt8}
    (h : depth = 0 → isWholeWord keyword before (b :: rest) = false) :
    keywordFrom? keyword before index depth (b :: rest) =
      keywordFrom? keyword (some b) (index + 1) (depth + byteStep b) rest := by
  have hfound : (depth = 0 && isWholeWord keyword before (b :: rest)) = false := by
    by_cases hdepth : depth = 0
    · rw [h hdepth, Bool.and_false]
    · rw [decide_eq_false hdepth, Bool.false_and]
  rw [keywordFrom?, byteStep]
  split
  · rfl
  · split
    · rfl
    · rw [if_neg (by rw [hfound]; exact Bool.false_ne_true), Int.add_zero]

/-- A byte of an identifier is no bracket. -/
theorem byte_step_of_ident {b : UInt8} (h : isIdentByte b = true) : byteStep b = 0 := by
  have hne : ∀ d : UInt8, isIdentByte d = false → b ≠ d := by
    rintro d hd rfl
    rw [hd] at h
    cases h
  simp [byteStep, hne 0x3C (by decide), hne 0x28 (by decide), hne 0x5B (by decide),
    hne 0x7B (by decide), hne 0x3E (by decide), hne 0x29 (by decide), hne 0x5D (by decide),
    hne 0x7D (by decide)]

/-- A whole word that stands outside brackets is found. -/
theorem keyword_from_here {b : UInt8} {rest : List UInt8} (hstep : byteStep b = 0)
    (h : isWholeWord keyword before (b :: rest) = true) :
    keywordFrom? keyword before index 0 (b :: rest) = some index := by
  rw [keywordFrom?]
  rw [byteStep] at hstep
  split at hstep
  · cases hstep
  · next hopen =>
      split at hstep
      · cases hstep
      · next hclose =>
          rw [if_neg hopen, if_neg hclose, h]
          rfl

/-- The search goes on over bytes that hold no whole word. -/
theorem keyword_from_over (hfree : ¬HoldsWord keyword before front) (hgap : isIdentByte gap = false)
    (hkeyword : ∀ b ∈ keyword, isIdentByte b = true) (rest : List UInt8) :
    keywordFrom? keyword before index depth (front ++ gap :: rest) =
      keywordFrom? keyword (front.getLast?.or before) (index + front.length)
        (depth + byteDepth front) (gap :: rest) := by
  induction front generalizing before index depth with
  | nil => simp [byteDepth]
  | cons b front ih =>
      have hword : isWholeWord keyword before (b :: (front ++ gap :: rest)) = false := by
        rw [← List.cons_append, whole_word_gap hgap hkeyword]
        exact Bool.eq_false_iff.mpr fun hword => hfree ⟨[], b :: front, rfl, hword⟩
      have hlater : ¬HoldsWord keyword (some b) front := by
        rintro ⟨left, right, rfl, hword⟩
        exact hfree ⟨b :: left, right, rfl, by rwa [← List.nil_append (b :: left), last_after]⟩
      rw [List.cons_append, keyword_from_step fun _ => hword, ih hlater, ← List.nil_append (b :: front),
        last_after, List.nil_append, List.length_cons, byteDepth, Nat.add_assoc, Int.add_assoc,
        Nat.add_comm 1]

/-- Nothing is found in bytes that hold no whole word. -/
theorem keyword_from_none (hfree : ¬HoldsWord keyword before l) :
    keywordFrom? keyword before index depth l = none := by
  induction l generalizing before index depth with
  | nil => rfl
  | cons b l ih =>
      have hword : isWholeWord keyword before (b :: l) = false :=
        Bool.eq_false_iff.mpr fun hword => hfree ⟨[], b :: l, rfl, hword⟩
      rw [keyword_from_step fun _ => hword]
      refine ih ?_
      rintro ⟨left, right, rfl, hword⟩
      exact hfree ⟨b :: left, right, rfl, by rwa [← List.nil_append (b :: left), last_after]⟩

end Word

/-- A keyword stands in a text as a whole word, where each byte of a character counts on its own. -/
def HoldsKeyword (keyword : String) (text : Text) : Prop :=
  HoldsWord (bytes keyword.toList) none (bytes text)

instance (keyword : String) (text : Text) : Decidable (HoldsKeyword keyword text) :=
  inferInstanceAs (Decidable (HoldsWord _ _ _))

section Keyword

variable {keyword : String} {front back : Text} {c : Char}

/-- An ASCII character that is part of no identifier. -/
def IsGap (c : Char) : Prop :=
  c.toNat < 128 ∧ isIdentChar c = false

instance (c : Char) : Decidable (IsGap c) :=
  inferInstanceAs (Decidable (_ ∧ _))

/-- The byte of a character that is part of no identifier is part of none either. -/
theorem IsGap.byte (hgap : IsGap c) : isIdentByte (UInt8.ofNat c.toNat) = false := by
  have hsize : (UInt8.ofNat c.toNat).toNat = c.toNat := by
    rw [UInt8.toNat_ofNat', Nat.mod_eq_of_lt (Nat.lt_trans hgap.1 (by decide))]
  rw [isIdentByte, hsize, Char.ofNat_toNat]
  exact hgap.2

/-- The bytes of a keyword are part of an identifier. -/
theorem IsKeyword.ident (hkeyword : IsKeyword keyword) :
    ∀ b ∈ bytes keyword.toList, isIdentByte b = true :=
  fun b hb => (hkeyword.ascii b hb).2

/-- A keyword stands on one side of a character that is part of no identifier. -/
theorem holds_keyword_gap (hkeyword : IsKeyword keyword) (hgap : IsGap c) :
    HoldsKeyword keyword (front ++ c :: back) ↔
      HoldsKeyword keyword front ∨ HoldsKeyword keyword back := by
  rw [HoldsKeyword, Text.bytes_append, Text.bytes_ascii hgap.1]
  exact holds_word_gap hgap.byte hkeyword.ident

/-- The empty text holds no keyword. -/
theorem not_holds_keyword_nil (hkeyword : IsKeyword keyword) : ¬HoldsKeyword keyword [] :=
  fun h => hkeyword.ne_nil (List.length_eq_zero_iff.mp (Nat.le_zero.mp h.length_le))

/-- A character that is part of no identifier may stand in front. -/
theorem holds_keyword_cons (hkeyword : IsKeyword keyword) (hgap : IsGap c) :
    HoldsKeyword keyword (c :: back) ↔ HoldsKeyword keyword back := by
  rw [← List.nil_append (c :: back), holds_keyword_gap hkeyword hgap]
  exact or_iff_right (not_holds_keyword_nil hkeyword)

/-- A text that does not hold a keyword has it nowhere outside brackets. -/
theorem keyword_none (h : ¬HoldsKeyword keyword front) : keywordAtTopLevel? front keyword = none :=
  keyword_from_none h

/-- The search goes on over a text that does not hold the keyword and a space. -/
theorem keyword_over (hkeyword : IsKeyword keyword) (hfront : ¬HoldsKeyword keyword front) :
    keywordAtTopLevel? (front ++ ' ' :: back) keyword =
      keywordFrom? (bytes keyword.toList) (some 0x20) (byteLength front + 1) (byteDepth (bytes front))
        (bytes back) := by
  have hspace : IsGap ' ' := by decide
  have hempty : ∀ before, isWholeWord (bytes keyword.toList) before (0x20 :: bytes back) = false := by
    intro before
    rw [← List.nil_append (0x20 :: bytes back), whole_word_gap (by decide) hkeyword.ident]
    cases hbytes : bytes keyword.toList with
    | nil => exact absurd hbytes hkeyword.ne_nil
    | cons b rest => rfl
  rw [keywordAtTopLevel?, Text.bytes_append, Text.bytes_ascii hspace.1,
    keyword_from_over hfront hspace.byte hkeyword.ident, Text.length_bytes, Nat.zero_add,
    Int.zero_add]
  rw [show UInt8.ofNat ' '.toNat = 0x20 from rfl, keyword_from_step fun _ => hempty _,
    show byteStep 0x20 = 0 from rfl, Int.add_zero]

/-- Outside brackets a keyword between spaces is found. -/
theorem keyword_found (hkeyword : IsKeyword keyword) (hfront : ¬HoldsKeyword keyword front)
    (hdepth : byteDepth (bytes front) = 0) (back : Text) :
    keywordAtTopLevel? (front ++ ' ' :: (keyword.toList ++ ' ' :: back)) keyword =
      some (byteLength front + 1) := by
  have hspace : IsGap ' ' := by decide
  rw [keyword_over hkeyword hfront, hdepth, Text.bytes_append, Text.bytes_ascii hspace.1]
  have hword : isWholeWord (bytes keyword.toList) (some 0x20)
      (bytes keyword.toList ++ UInt8.ofNat ' '.toNat :: bytes back) = true := by
    rw [whole_word_gap hspace.byte hkeyword.ident]
    have hbefore : isIdentByte 0x20 = false := by decide
    simp [isWholeWord, hbefore]
  have hident := hkeyword.ident
  cases hbytes : bytes keyword.toList with
  | nil => exact absurd hbytes hkeyword.ne_nil
  | cons b rest =>
      rw [hbytes] at hword hident
      exact keyword_from_here (byte_step_of_ident (hident b List.mem_cons_self)) hword

/-- At another depth the keyword is lost, if it does not stand in what follows. -/
theorem keyword_lost (hkeyword : IsKeyword keyword) (hfront : ¬HoldsKeyword keyword front)
    (hdepth : byteDepth (bytes front) ≠ 0) (hback : ¬HoldsKeyword keyword back) :
    keywordAtTopLevel? (front ++ ' ' :: (keyword.toList ++ ' ' :: back)) keyword = none := by
  have hspace : IsGap ' ' := by decide
  rw [keyword_over hkeyword hfront, Text.bytes_append, Text.bytes_ascii hspace.1]
  cases hbytes : bytes keyword.toList with
  | nil => exact absurd hbytes hkeyword.ne_nil
  | cons b rest =>
      rw [List.cons_append, keyword_from_step fun hzero => absurd hzero hdepth, ← hbytes]
      refine keyword_from_none fun hholds => ?_
      rcases (holds_word_gap hspace.byte hkeyword.ident).mp hholds with hrest | hlater
      · have hlength := hrest.length_le
        rw [hbytes, List.length_cons] at hlength
        omega
      · exact hback hlater

end Keyword

end CodeAtlas.Heritage
