import CodeAtlas.Hint.Infer
import CodeAtlas.Proofs.Text.Angled
import CodeAtlas.Proofs.Text.Behind
import CodeAtlas.Proofs.Text.Rows
import Mathlib.Data.List.Infix

/-!
# Types that are written at a declaration

The type of a value and the return type of a function are each walked over by a scanner of its own, and
neither of the two counts all brackets: the one passes over angle brackets, the other over braces. Read
`IsUnbroken` first: it says that no character that ends such a walk stands where the walk counts no open
bracket. The type of a value is reported whole just if it is unbroken (`value_reported`); a return type
may also be a single block in braces, which is looked for before the walk (`return_reported`).
-/

namespace CodeAtlas.Hint

open Text (Brackets Cursor byteLength IsBalanced)

/-- A character that ends the type of a value. -/
def EndsValue (before : Option Char) (c : Char) (next : Option Char) : Prop :=
  c = ';' ∨ c = ',' ∨ (c = '=' ∧ isCompoundEquals before next = false)

/-- A character that ends a return type. -/
def EndsReturn (_ : Option Char) (c : Char) (next : Option Char) : Prop :=
  c = '{' ∨ c = ';' ∨ (c = '=' ∧ next = some '>')

/-- A character of a text ends a walk that counts all brackets but those with one of the closers. -/
def BreaksAt (ends : Option Char → Char → Option Char → Prop) (ignored : Char)
    (awaited : List Char) (before : Option Char) (front : Text) (c : Char) (back : Text) : Prop :=
  ∃ inside, Brackets.ofTypes.awaitedAfter? awaited before front = some inside ∧
    (∀ closer ∈ inside, closer = ignored) ∧ ends (front.getLast?.or before) c back.head?

/-- Every character of a text that ends a walk stands in brackets that the walk counts. -/
def IsUnbroken (ends : Option Char → Char → Option Char → Prop) (ignored : Char) (text : Text) : Prop :=
  ∀ front c back, text = front ++ c :: back → ¬BreaksAt ends ignored [] none front c back

instance (before : Option Char) (c : Char) (next : Option Char) : Decidable (EndsValue before c next) :=
  inferInstanceAs (Decidable (_ ∨ _))

instance (before : Option Char) (c : Char) (next : Option Char) : Decidable (EndsReturn before c next) :=
  inferInstanceAs (Decidable (_ ∨ _))

section Decide

variable {ends : Option Char → Char → Option Char → Prop}
  [∀ before c next, Decidable (ends before c next)] (ignored : Char)

instance (awaited : List Char) (before : Option Char) (front : Text) (c : Char) (back : Text) :
    Decidable (BreaksAt ends ignored awaited before front c back) :=
  decidable_of_iff (((Brackets.ofTypes.awaitedAfter? awaited before front).any (·.all (· = ignored))) ∧
    ends (front.getLast?.or before) c back.head?) (by
      cases h : Brackets.ofTypes.awaitedAfter? awaited before front <;> simp [BreaksAt, h])

instance (text : Text) : Decidable (IsUnbroken ends ignored text) :=
  decidable_of_iff (∀ i : Fin text.length,
    ¬BreaksAt ends ignored [] none (text.take i) text[i] (text.drop (i + 1))) (by
      constructor
      · rintro h front c back rfl
        have hlength : front.length < (front ++ c :: back).length := by simp
        simpa using h ⟨front.length, hlength⟩
      · intro h i
        exact h _ _ _ (by simp))

end Decide

section Walk

variable {ends : Option Char → Char → Option Char → Prop} {ignored c d : Char}
  {awaited later : List Char} {before start : Option Char} {text front back rest seen : Text}
  {offset : Nat}

/-- What holds at no place of a text, or there is a first place at which it holds. -/
theorem exists_first_place (holds : Text → Char → Text → Prop) (text : Text) :
    (∀ front c back, text = front ++ c :: back → ¬holds front c back) ∨
      ∃ front c back, text = front ++ c :: back ∧ holds front c back ∧
        ∀ left d right, front = left ++ d :: right → ¬holds left d (right ++ c :: back) := by
  induction text generalizing holds with
  | nil => exact Or.inl fun front c back h => by simp at h
  | cons c text ih =>
      by_cases hhere : holds [] c text
      · exact Or.inr ⟨[], c, text, rfl, hhere, fun left d right h => by simp at h⟩
      · rcases ih fun front d back => holds (c :: front) d back with hnone | hfirst
        · refine Or.inl fun front d back h => ?_
          cases front with
          | nil =>
              obtain ⟨rfl, rfl⟩ := List.cons.inj h
              exact hhere
          | cons e front =>
              obtain ⟨rfl, rfl⟩ := List.cons.inj h
              exact hnone front d back rfl
        · obtain ⟨front, d, back, rfl, hholds, hbefore⟩ := hfirst
          refine Or.inr ⟨c :: front, d, back, rfl, hholds, fun left e right h => ?_⟩
          cases left with
          | nil =>
              obtain ⟨rfl, rfl⟩ := List.cons.inj h
              exact hhere
          | cons f left =>
              obtain ⟨rfl, rfl⟩ := List.cons.inj h
              exact hbefore left e right rfl

/-- A break further on is a break of the whole text. -/
theorem BreaksAt.cons (hsteps : Brackets.ofTypes.Steps awaited before d later)
    (h : BreaksAt ends ignored later (some d) front c back) :
    BreaksAt ends ignored awaited before (d :: front) c back := by
  obtain ⟨inside, hawaited, hignored, hends⟩ := h
  refine ⟨inside, Brackets.awaited_after_cons.mpr ⟨later, hsteps, hawaited⟩, hignored, ?_⟩
  rwa [Text.last_cons]

/-- Nothing is counted where only ignored closers are awaited. -/
theorem count_eq_zero_iff :
    awaited.countP (· ≠ ignored) = 0 ↔ ∀ closer ∈ awaited, closer = ignored := by
  simp [List.countP_eq_zero]

/-- The walk over the type of a value goes on over a character that neither is counted nor ends it. -/
theorem value_step {depth : Nat} (hbracket : c ∉ "([{)]}".toList) (hline : c ≠ '\n')
    (hends : depth = 0 → ¬EndsValue (seen.head?.or start) c rest.head?) :
    expressionEndFrom [';', ',', '='] start offset depth seen (c :: rest) =
      expressionEndFrom [';', ',', '='] start (offset + c.utf8Size) depth (c :: seen) rest := by
  simp only [String.reduceToList, List.mem_cons, List.not_mem_nil, or_false, not_or] at hbracket
  obtain ⟨h1, h2, h3, h4, h5, h6⟩ := hbracket
  rw [expressionEndFrom]
  simp only [h1, h2, h3, h4, h5, h6, hline, decide_false, Bool.or_self, Bool.false_eq_true, if_false]
  by_cases hdepth : depth = 0
  · subst hdepth
    obtain ⟨hsemicolon, hcomma, hequals⟩ : c ≠ ';' ∧ c ≠ ',' ∧
        (c = '=' → isCompoundEquals (seen.head?.or start) rest.head? = true) := by
      simpa [EndsValue] using hends rfl
    by_cases hc : c = '='
    · simp [hc, hequals hc]
    · simp [hc, hsemicolon, hcomma]
  · rw [if_pos hdepth]

/-- The walk over the type of a value goes on over a text without breaks, as deep as the closers that it
counts are awaited. -/
theorem value_goes_on (hbefore : seen.head?.or start = before) (offset : Nat)
    (h : Brackets.ofTypes.awaitedAfter? awaited before front = some later) (hline : '\n' ∉ front)
    (rest : Text) (hunbroken : ∀ left c right, front = left ++ c :: right →
      ¬BreaksAt EndsValue '>' awaited before left c (right ++ rest)) :
    expressionEndFrom [';', ',', '='] start offset (awaited.countP (· ≠ '>')) seen (front ++ rest) =
      expressionEndFrom [';', ',', '='] start (offset + byteLength front) (later.countP (· ≠ '>'))
        (front.reverse ++ seen) rest := by
  subst hbefore
  induction front generalizing awaited seen offset with
  | nil =>
      obtain rfl := Option.some.inj h
      rfl
  | cons c front ih =>
      obtain ⟨mid, hsteps, hafter⟩ := Brackets.awaited_after_cons.mp h
      rw [List.mem_cons, not_or] at hline
      have hlater := ih (offset + c.utf8Size) hline.2 (show Brackets.ofTypes.awaitedAfter? mid
        ((c :: seen).head?.or start) front = some later from hafter) fun left d right hsplit hbreak =>
          hunbroken (c :: left) d right (by rw [hsplit]; rfl) (hbreak.cons hsteps)
      have hends : awaited.countP (· ≠ '>') = 0 →
          ¬EndsValue (seen.head?.or start) c (front ++ rest).head? := fun hzero hends =>
        hunbroken [] c front rfl ⟨awaited, rfl, count_eq_zero_iff.mp hzero, hends⟩
      rw [byteLength, ← Nat.add_assoc, List.reverse_cons, List.append_assoc, List.singleton_append,
        ← hlater, List.cons_append]
      cases hsteps with
      | @opens closer hopen =>
          have hpair := Text.type_closer_iff.mp hopen
          simp only [Text.bracketPairs, List.mem_cons, Prod.mk.injEq, List.not_mem_nil, or_false] at hpair
          rcases hpair with ⟨rfl, rfl⟩ | ⟨rfl, rfl⟩ | ⟨rfl, rfl⟩ | ⟨rfl, rfl⟩
          · rw [expressionEndFrom, List.countP_cons_of_pos (by decide)]
            rfl
          · rw [expressionEndFrom, List.countP_cons_of_pos (by decide)]
            rfl
          · rw [expressionEndFrom, List.countP_cons_of_pos (by decide)]
            rfl
          · rw [value_step (by decide) (by decide) hends, List.countP_cons_of_neg (by decide)]
      | @closes mid hclose hawaited =>
          subst hawaited
          obtain rfl | rfl | rfl | ⟨rfl, -⟩ := Text.closes_type_cases hclose
          · rw [expressionEndFrom, List.countP_cons_of_pos (by decide)]
            rfl
          · rw [expressionEndFrom, List.countP_cons_of_pos (by decide)]
            rfl
          · rw [expressionEndFrom, List.countP_cons_of_pos (by decide)]
            rfl
          · rw [value_step (by decide) (by decide) hends, List.countP_cons_of_neg (by decide)]
      | other hopen hclose =>
          have hbracket := Text.no_bracket_of_other hopen hclose
          have hcounted : "([{)]}".toList ⊆ "([{<)]}".toList := by decide
          exact value_step (fun hmem => hbracket (hcounted hmem)) (Ne.symm hline.1) hends

/-- The walk over the type of a value ends at a break. -/
theorem value_ends (h : EndsValue (seen.head?.or start) c rest.head?) :
    expressionEndFrom [';', ',', '='] start offset 0 seen (c :: rest) = offset := by
  rcases h with rfl | rfl | ⟨rfl, hequals⟩
  · simp [expressionEndFrom]
  · simp [expressionEndFrom]
  · simp [expressionEndFrom, hequals]

/-- The walk over a return type goes on over a character that neither is counted nor ends it. -/
theorem return_step {depth : Int} (hbracket : c ∉ "([<)]".toList) (hline : c ≠ '\n')
    (hangle : c = '>' → before = some '=')
    (hends : depth ≤ 0 → ¬EndsReturn before c rest.head?) :
    returnTypeEndFrom before offset depth (c :: rest) =
      returnTypeEndFrom (some c) (offset + c.utf8Size) depth rest := by
  simp only [String.reduceToList, List.mem_cons, List.not_mem_nil, or_false, not_or] at hbracket
  obtain ⟨h1, h2, h3, h4, h5⟩ := hbracket
  rw [returnTypeEndFrom]
  simp only [h1, h2, h3, h4, h5, hline, decide_false, Bool.or_self, Bool.false_eq_true, if_false,
    Bool.or_false]
  by_cases hc : c = '>'
  · subst hc
    simp [hangle rfl]
  · by_cases hdepth : depth ≤ 0
    · obtain ⟨hbrace, hsemicolon, harrow⟩ : c ≠ '{' ∧ c ≠ ';' ∧ (c = '=' → rest.head? ≠ some '>') := by
        simpa [EndsReturn] using hends hdepth
      by_cases hequals : c = '='
      · simp [hequals, harrow hequals]
      · simp [hc, hequals, hbrace, hsemicolon]
    · simp [hc, hdepth]

/-- The walk over a return type goes on over a text without breaks, as deep as the closers that it
counts are awaited. -/
theorem return_goes_on (offset : Nat) (h : Brackets.ofTypes.awaitedAfter? awaited before front = some later)
    (hsome : before.isSome = true) (hline : '\n' ∉ front)
    (hunbroken : ∀ left c right, front = left ++ c :: right →
      ¬BreaksAt EndsReturn '}' awaited before left c (right ++ rest)) :
    returnTypeEndFrom before offset (awaited.countP (· ≠ '}')) (front ++ rest) =
      returnTypeEndFrom (front.getLast?.or before) (offset + byteLength front)
        (later.countP (· ≠ '}')) rest := by
  induction front generalizing awaited before offset with
  | nil =>
      obtain rfl := Option.some.inj h
      rfl
  | cons c front ih =>
      obtain ⟨mid, hsteps, hafter⟩ := Brackets.awaited_after_cons.mp h
      rw [List.mem_cons, not_or] at hline
      have hlater := ih (offset + c.utf8Size) hafter rfl hline.2
        fun left d right hsplit hbreak =>
          hunbroken (c :: left) d right (by rw [hsplit]; rfl) (hbreak.cons hsteps)
      have hends : ((awaited.countP (· ≠ '}') : Nat) : Int) ≤ 0 →
          ¬EndsReturn before c (front ++ rest).head? := fun hzero hends =>
        hunbroken [] c front rfl ⟨awaited, rfl, count_eq_zero_iff.mp (by omega), hends⟩
      rw [byteLength, ← Nat.add_assoc, Text.last_cons, ← hlater, List.cons_append]
      cases hsteps with
      | @opens closer hopen =>
          have hpair := Text.type_closer_iff.mp hopen
          simp only [Text.bracketPairs, List.mem_cons, Prod.mk.injEq, List.not_mem_nil, or_false] at hpair
          rcases hpair with ⟨rfl, rfl⟩ | ⟨rfl, rfl⟩ | ⟨rfl, rfl⟩ | ⟨rfl, rfl⟩
          · rw [return_step (by decide) (by decide) (fun hangle => absurd hangle (by decide)) hends,
              List.countP_cons_of_neg (by decide)]
          · rw [returnTypeEndFrom, List.countP_cons_of_pos (by decide)]
            rfl
          · rw [returnTypeEndFrom, List.countP_cons_of_pos (by decide)]
            rfl
          · rw [returnTypeEndFrom, List.countP_cons_of_pos (by decide)]
            rfl
      | @closes mid hclose hawaited =>
          subst hawaited
          have hless : ((mid.countP (· ≠ '}') + 1 : Nat) : Int) - 1 = mid.countP (· ≠ '}') := by omega
          obtain rfl | rfl | rfl | ⟨rfl, harrow⟩ := Text.closes_type_cases hclose
          · rw [returnTypeEndFrom, List.countP_cons_of_pos (by decide)]
            exact congrArg (returnTypeEndFrom _ _ · _) hless
          · rw [returnTypeEndFrom, List.countP_cons_of_pos (by decide)]
            exact congrArg (returnTypeEndFrom _ _ · _) hless
          · rw [return_step (by decide) (by decide) (fun hangle => absurd hangle (by decide)) hends,
              List.countP_cons_of_neg (by decide)]
          · obtain ⟨d, rfl⟩ := Option.isSome_iff_exists.mp hsome
            have hangle : d ≠ '=' := fun hd => harrow (congrArg some hd)
            rw [returnTypeEndFrom, List.countP_cons_of_pos (by decide)]
            simp [hangle]
      | other hopen hclose =>
          have hbracket := Text.no_bracket_of_other hopen hclose
          have hcounted : "([<)]".toList ⊆ "([{<)]}".toList := by decide
          refine return_step (fun hmem => hbracket (hcounted hmem)) (Ne.symm hline.1) ?_ hends
          rintro rfl
          exact Text.arrow_of_other hclose

/-- The walk over a return type ends at a break. -/
theorem return_ends {depth : Int} (hdepth : depth ≤ 0) (h : EndsReturn before c rest.head?) :
    returnTypeEndFrom before offset depth (c :: rest) = offset := by
  rcases h with rfl | rfl | ⟨rfl, harrow⟩
  · simp [returnTypeEndFrom, hdepth]
  · simp [returnTypeEndFrom, hdepth]
  · simp [returnTypeEndFrom, hdepth, harrow]

end Walk

section Cursors

variable {before : Option Char} {offset : Nat} {front back rest blank code middle : Text} {c : Char}

/-- After a front of a text there is a cursor. -/
theorem exists_seek_append (front rest : Text) :
    ∃ before, Cursor.seek? (front ++ rest) (byteLength front) =
      some ⟨before, byteLength front, rest⟩ :=
  ⟨front.getLast?, Cursor.seek_between front rest⟩

/-- What stands between two offsets is cut out and trimmed. -/
theorem cut_between (source : Source) (hcode : source.code = front ++ (middle ++ back)) {stop : Nat}
    (hstop : stop = byteLength front + byteLength middle) :
    cut? source (byteLength front) stop = some (Text.trim middle) := by
  have hslice : Text.slice? source.code (byteLength front) stop = some middle :=
    Text.slice_eq_some_iff.mpr ⟨⟨front, back, hcode, rfl⟩, hstop⟩
  rw [cut?, hslice]
  rfl

/-- Blanks are skipped up to another character. -/
theorem skip_blanks_append (hblank : ∀ c ∈ blank, Text.isAsciiBlank c = true)
    (hrest : ∀ c, rest.head? = some c → Text.isAsciiBlank c = false) :
    Cursor.skipBlanks ⟨before, offset, blank ++ rest⟩ =
      ⟨blank.getLast?.or before, offset + byteLength blank, rest⟩ := by
  rw [Cursor.skipBlanks, Cursor.skipWhile]
  dsimp only
  induction blank generalizing before offset with
  | nil =>
      cases rest with
      | nil => rfl
      | cons c rest =>
          rw [List.nil_append, Cursor.skipWhileFrom, if_neg (by simp [hrest c rfl])]
          rfl
  | cons c blank ih =>
      obtain ⟨hc, hblank⟩ := List.forall_mem_cons.mp hblank
      rw [List.cons_append, Cursor.skipWhileFrom, if_pos hc, ih hblank, Text.last_cons, byteLength,
        Nat.add_assoc]

end Cursors

section Trim

variable {text front back : Text} {c : Char}

/-- Trimming leaves all visible characters. -/
theorem count_visible_trim (text : Text) :
    (Text.trim text).countP (!Text.isWhiteSpace ·) = text.countP (!Text.isWhiteSpace ·) := by
  obtain ⟨front, back, htext, hfront, hback⟩ := Text.exists_of_trim text
  have hnone : ∀ {part : Text}, Text.IsBlank part → part.countP (!Text.isWhiteSpace ·) = 0 :=
    fun hpart => List.countP_eq_zero.mpr fun c hc => by simp [hpart c hc]
  have hcount := congrArg (List.countP (!Text.isWhiteSpace ·)) htext
  rw [List.countP_append, List.countP_append, hnone hfront, hnone hback, Nat.zero_add,
    Nat.add_zero] at hcount
  exact hcount.symm

/-- A front of a text that ends before a visible character is not all that trimming leaves. -/
theorem trim_front_ne (hc : Text.isWhiteSpace c = false) :
    Text.trim front ≠ Text.trim (front ++ c :: back) := by
  intro h
  have hcount := congrArg (List.countP (!Text.isWhiteSpace ·)) h
  rw [count_visible_trim, count_visible_trim, List.countP_append,
    List.countP_cons_of_pos (by simp [hc])] at hcount
  omega

end Trim

/-- A type on one line, without quotes and comments, whose brackets are properly nested. -/
structure IsTypeText (text : Text) : Prop where
  one_line : '\n' ∉ text
  unquoted : Text.IsUnquoted text
  no_line_comment : ¬['/', '/'] <:+: text
  no_block_comment : ¬['/', '*'] <:+: text
  balanced : IsBalanced text

instance (text : Text) : Decidable (IsTypeText text) :=
  decidable_of_iff ('\n' ∉ text ∧ Text.IsUnquoted text ∧ ¬['/', '/'] <:+: text ∧
      ¬['/', '*'] <:+: text ∧ IsBalanced text) (by
    constructor
    · rintro ⟨hline, hquote, hslash, hstar, hbalanced⟩
      exact ⟨hline, hquote, hslash, hstar, hbalanced⟩
    · rintro ⟨hline, hquote, hslash, hstar, hbalanced⟩
      exact ⟨hline, hquote, hslash, hstar, hbalanced⟩)

/-- A symbol whose name is a word at a column of the first line. -/
structure IsNamedAt (symbol : Symbol) (column : Nat) : Prop where
  word : Text.IsWord symbol.name.toList
  on_first_line : symbol.location.startLine = 1
  at_column : symbol.location.column = some column

section Line

variable {type name front back : Text} {symbol : Symbol}

/-- Code on one line without comments and literals. -/
def IsPlainLine (part : Text) : Prop :=
  ∀ c ∈ part, (c ≠ '/' ∧ c ≠ '\'' ∧ c ≠ '"' ∧ c ≠ '`') ∧ c ≠ '\n'

instance (part : Text) : Decidable (IsPlainLine part) :=
  inferInstanceAs (Decidable (∀ c ∈ part, _))

/-- Two parts of plain code are plain code. -/
theorem IsPlainLine.append (hfront : IsPlainLine front) (hback : IsPlainLine back) :
    IsPlainLine (front ++ back) :=
  List.forall_mem_append.mpr ⟨hfront, hback⟩

/-- The characters of plain code are plain. -/
theorem IsPlainLine.plain (h : IsPlainLine front) : ∀ c ∈ front, Text.IsPlain c :=
  fun c hc => ⟨(h c hc).1.1, fun hquote => by
    have hnot := (h c hc).1.2
    rcases hquote with rfl | rfl | rfl
    · exact hnot.1 rfl
    · exact hnot.2.1 rfl
    · exact hnot.2.2 rfl⟩

/-- Where a type stands in plain code, nothing is masked, and there is no line feed. -/
theorem mask_type_line (htype : IsTypeText type) (hfront : IsPlainLine front)
    (hback : IsPlainLine (' ' :: back)) :
    Text.mask .all (front ++ (type ++ ' ' :: back)) = front ++ (type ++ ' ' :: back) ∧
      '\n' ∉ front ++ (type ++ ' ' :: back) := by
  have hhead : ∀ c, (' ' :: back).head? = some c → c ≠ '/' ∧ c ≠ '*' := by
    intro c hc
    obtain rfl : ' ' = c := Option.some.inj hc
    decide
  have hend := Text.mask_from_plain .all hback.plain []
  rw [List.append_nil] at hend
  constructor
  · rw [Text.mask, Text.mask_from_plain .all hfront.plain, Text.mask_from_uncommented .all
      htype.unquoted htype.no_line_comment htype.no_block_comment hhead, hend]
    simp [Text.maskFrom]
  · intro hfeed
    rcases List.mem_append.mp hfeed with hmem | hmem
    · exact (hfront _ hmem).2 rfl
    · rcases List.mem_append.mp hmem with hmem | hmem
      · exact htype.one_line hmem
      · exact (hback _ hmem).2 rfl

/-- A word is plain code. -/
theorem plain_line_of_word (hname : Text.IsWord name) : IsPlainLine name := by
  intro c hc
  have hne : ∀ d, Text.isIdentChar d = false → c ≠ d := by
    rintro d hd rfl
    rw [hname.ident c hc] at hd
    cases hd
  exact ⟨⟨hne _ (by decide), hne _ (by decide), hne _ (by decide), hne _ (by decide)⟩,
    hne _ (by decide)⟩

/-- A word stands where it is written, if it is not part of another one. -/
theorem word_at_written (name : Text) (hfront : front.getLast?.any Text.isIdentChar = false)
    (hback : back.head?.any Text.isIdentChar = false) :
    Text.wordAt name none (front ++ (name ++ back)) front.length = true := by
  have hbefore : Text.charBefore none (front ++ (name ++ back)) front.length = front.getLast? := by
    rcases List.eq_nil_or_concat front with rfl | ⟨init, c, rfl⟩
    · rfl
    · simp [Text.charBefore]
  have hafter : (front ++ (name ++ back))[front.length + name.length]? = back.head? := by
    rw [List.getElem?_append_right (Nat.le_add_right _ _), Nat.add_sub_cancel_left,
      List.getElem?_append_right (Nat.le_refl _), Nat.sub_self, List.head?_eq_getElem?]
  rw [Text.wordAt, hbefore, hafter, hfront, hback, List.drop_left, List.take_left, decide_eq_true rfl]
  rfl

/-- A symbol's name is found at its column. -/
theorem name_end_at_column {content : Text} {rows : List Text}
    (hname : IsNamedAt symbol (front.length + 1))
    (hrow : Text.splitBy (· = '\n') content = (front ++ (symbol.name.toList ++ back)) :: rows)
    (hfront : front.getLast?.any Text.isIdentChar = false)
    (hback : back.head?.any Text.isIdentChar = false) :
    nameEnd? symbol content = some (byteLength front + byteLength symbol.name.toList) := by
  have hhit : (Text.wordOccurrences (front ++ (symbol.name.toList ++ back)) symbol.name.toList).find?
      (·.2 = front.length + 1) = some (byteLength front, front.length + 1) := by
    have hpos := List.length_pos_iff.mpr hname.word.ne_nil
    have hmem : front.length ∈
        Text.wordIndices symbol.name.toList none (front ++ (symbol.name.toList ++ back)) :=
      List.mem_filter.mpr ⟨List.mem_range.mpr (by simp only [List.length_append]; omega),
        word_at_written symbol.name.toList hfront hback⟩
    rw [Text.word_occurrences_eq hname.word]
    cases hfind : ((Text.wordIndices symbol.name.toList none
        (front ++ (symbol.name.toList ++ back))).map fun i => (byteLength
          ((front ++ (symbol.name.toList ++ back)).take i), i + 1)).find?
            (·.2 = front.length + 1) with
    | none => exact absurd (List.find?_eq_none.mp hfind _ (List.mem_map_of_mem hmem)) (by simp)
    | some hit =>
        obtain ⟨i, -, rfl⟩ := List.mem_map.mp (List.mem_of_find?_eq_some hfind)
        obtain rfl : i = front.length := by simpa using List.find?_some hfind
        rw [List.take_left]
  rw [nameEnd?, hname.on_first_line, hrow]
  simp only [Text.withOffsets, hname.at_column, hhit, Option.bind_some, Option.some_or, Nat.sub_self,
    List.getElem?_cons_zero, Nat.zero_add, Nat.one_ne_zero, if_false, bind, pure]

/-- Behind the name of a symbol there is a cursor. -/
theorem exists_after_name {line : Text} (hname : IsNamedAt symbol (front.length + 1))
    (hfeed : '\n' ∉ line) (hsplit : line = front ++ (symbol.name.toList ++ back))
    (hfront : front.getLast?.any Text.isIdentChar = false)
    (hback : back.head?.any Text.isIdentChar = false) :
    ∃ before, nameEnd? symbol line = some (byteLength (front ++ symbol.name.toList)) ∧
      Cursor.seek? line (byteLength (front ++ symbol.name.toList)) =
        some ⟨before, byteLength (front ++ symbol.name.toList), back⟩ := by
  subst hsplit
  obtain ⟨before, hseek⟩ := exists_seek_append (front ++ symbol.name.toList) back
  rw [List.append_assoc] at hseek
  refine ⟨before, ?_, hseek⟩
  rw [name_end_at_column hname (Text.split_by_of_not_mem hfeed) hfront hback, Text.byte_length_append]

end Line

section Break

variable {ends : Option Char → Char → Option Char → Prop} {ignored c : Char}
  {walk : Nat → Text → Nat} {type front back tail : Text}

/-- A walk over what follows a space ends at the first break. -/
def EndsAtBreak (ends : Option Char → Char → Option Char → Prop) (ignored : Char)
    (walk : Nat → Text → Nat) : Prop :=
  ∀ offset front c back, BreaksAt ends ignored [] (some ' ') front c back → '\n' ∉ front →
    (∀ left d right, front = left ++ d :: right →
      ¬BreaksAt ends ignored [] (some ' ') left d (right ++ c :: back)) →
    walk offset (front ++ c :: back) = offset + byteLength front

/-- The walk over the type of a value ends at the first break. -/
theorem value_ends_at_break : EndsAtBreak EndsValue '>' fun offset text =>
    expressionEndFrom [';', ',', '='] (some ':') offset 0 [' '] text := by
  intro offset front c back hbreak hline hfirst
  obtain ⟨inside, hawaited, hignored, hends⟩ := hbreak
  have hbefore : [' '].head?.or (some ':') = some ' ' := rfl
  refine (value_goes_on hbefore offset hawaited hline (c :: back) hfirst).trans ?_
  rw [count_eq_zero_iff.mpr hignored]
  refine value_ends ?_
  rwa [List.head?_append, List.head?_reverse, Option.or_assoc, hbefore]

/-- The walk over a return type ends at the first break. -/
theorem return_ends_at_break : EndsAtBreak EndsReturn '}' fun offset text =>
    returnTypeEndFrom (some ' ') offset 0 text := by
  intro offset front c back hbreak hline hfirst
  obtain ⟨inside, hawaited, hignored, hends⟩ := hbreak
  refine (return_goes_on offset hawaited rfl hline hfirst).trans ?_
  rw [count_eq_zero_iff.mpr hignored]
  exact return_ends (Int.le_refl 0) hends

/-- A type between spaces breaks where it breaks on its own. -/
theorem breaks_between_iff
    (hends : ∀ before c next, ends (before.or (some ' ')) c (next.or (some ' ')) ↔ ends before c next)
    (rest : Text) :
    BreaksAt ends ignored [] (some ' ') front c (back ++ ' ' :: rest) ↔
      BreaksAt ends ignored [] none front c back := by
  rw [BreaksAt, BreaksAt, List.head?_append, Option.or_none]
  simp only [Text.awaited_after_before (show some ' ' ≠ some '=' by decide)
    (Option.some_ne_none '=').symm]
  exact exists_congr fun inside => and_congr_right fun _ => and_congr_right fun _ =>
    hends front.getLast? c back.head?

/-- A walk over a type goes on up to the character that ends it, or to a break of the type. -/
theorem EndsAtBreak.cases (hwalk : EndsAtBreak ends ignored walk)
    (hends : ∀ before c next, ends (before.or (some ' ')) c (next.or (some ' ')) ↔ ends before c next)
    (hspace : ∀ before next, ¬ends before ' ' next) (htype : IsTypeText type)
    (hlast : ends (some ' ') c tail.head?) :
    (IsUnbroken ends ignored type ∧ ∀ offset,
      walk offset (type ++ ' ' :: c :: tail) = offset + byteLength (type ++ [' '])) ∨
    ∃ front d back, type = front ++ d :: back ∧ BreaksAt ends ignored [] none front d back ∧
      ∀ offset, walk offset (type ++ ' ' :: c :: tail) = offset + byteLength front := by
  rcases exists_first_place (BreaksAt ends ignored [] none) type with hnone | hbreak
  · refine Or.inl ⟨hnone, fun offset => ?_⟩
    have hbalanced : Brackets.ofTypes.awaitedAfter? [] (some ' ') (type ++ [' ']) = some [] :=
      Brackets.awaited_after_append.mpr
        ⟨[], (Text.awaited_after_before (by decide) (by decide)).trans htype.balanced, rfl⟩
    have hsplit : type ++ ' ' :: c :: tail = type ++ [' '] ++ c :: tail := by
      rw [List.append_assoc]
      rfl
    rw [hsplit]
    refine hwalk offset _ c tail ⟨[], hbalanced, fun _ h => (List.not_mem_nil h).elim, ?_⟩ ?_ ?_
    · rwa [List.getLast?_concat]
    · intro hmem
      rcases List.mem_append.mp hmem with hmem | hmem
      · exact htype.one_line hmem
      · exact absurd hmem (by decide)
    · intro left d right hplace hbreak
      rcases List.eq_nil_or_concat right with rfl | ⟨inner, e, rfl⟩
      · obtain ⟨-, hd⟩ := List.append_inj' hplace rfl
        obtain ⟨-, -, -, hblank⟩ := hbreak
        rw [← (List.cons.inj hd).1] at hblank
        exact hspace _ _ hblank
      · rw [List.concat_eq_append] at hplace hbreak
        rw [← List.cons_append, ← List.append_assoc] at hplace
        obtain ⟨rfl, he⟩ := List.append_inj' hplace rfl
        obtain rfl := (List.cons.inj he).1
        rw [List.append_assoc] at hbreak
        exact hnone left d inner rfl ((breaks_between_iff hends _).mp hbreak)
  · obtain ⟨front, d, back, rfl, hbreak, hno⟩ := hbreak
    refine Or.inr ⟨front, d, back, rfl, hbreak, fun offset => ?_⟩
    rw [List.append_assoc]
    refine hwalk offset front d _ ((breaks_between_iff hends _).mpr hbreak)
      (fun hmem => htype.one_line (List.mem_append_left _ hmem)) fun left e right hplace hbreak => ?_
    refine hno left e right hplace ((breaks_between_iff hends (c :: tail)).mp ?_)
    rwa [List.append_assoc]

/-- The ends of a type are as good as spaces for the walk over the type of a value. -/
theorem ends_value_between (before : Option Char) (c : Char) (next : Option Char) :
    EndsValue (before.or (some ' ')) c (next.or (some ' ')) ↔ EndsValue before c next := by
  have hcompound : isCompoundEquals (before.or (some ' ')) (next.or (some ' ')) =
      isCompoundEquals before next := by
    cases before <;> cases next <;> simp [isCompoundEquals]
  rw [EndsValue, EndsValue, hcompound]

/-- The ends of a type are as good as spaces for the walk over a return type. -/
theorem ends_return_between (before : Option Char) (c : Char) (next : Option Char) :
    EndsReturn (before.or (some ' ')) c (next.or (some ' ')) ↔ EndsReturn before c next := by
  cases next <;> simp [EndsReturn]

end Break

section Value

variable {type : Text} {symbol : Symbol} {c : Char} {offset : Nat}

/-- A character that ends the type of a value is visible. -/
theorem EndsValue.visible {before next : Option Char} (h : EndsValue before c next) :
    Text.isWhiteSpace c = false := by
  rcases h with rfl | rfl | ⟨rfl, -⟩ <;> decide

/-- The type of a value stands after a colon. -/
theorem value_hint_at_colon {source : Source} {rest declared : Text} (before : Option Char)
    (hkind : symbol.kind ≠ .parameter)
    (h : expression? source ⟨some ':', offset + 1, rest⟩ [';', ',', '='] = some declared) :
    valueHint? symbol source ⟨before, offset, ':' :: rest⟩ =
      some (hint symbol (some (String.ofList declared)) none false .annotatedValue) := by
  have hmark : skipMark (Cursor.skipBlanks ⟨before, offset, ':' :: rest⟩) ['?', '!'] =
      ⟨before, offset, ':' :: rest⟩ := rfl
  have hadvance : Cursor.advance ⟨before, offset, ':' :: rest⟩ = ⟨some ':', offset + 1, rest⟩ := rfl
  have hnext : Cursor.next? ⟨before, offset, ':' :: rest⟩ = some ':' := rfl
  rw [valueHint?, hmark, hnext]
  simp only [hadvance, typeStops, hkind, if_false, h]
  rfl

/-- The line that declares a value with a type. -/
def valueLine (name type value : Text) : Text :=
  "const ".toList ++ (name ++ (": ".toList ++ (type ++ (" = ".toList ++ (value ++ ";".toList)))))

/-- In the line nothing is masked, and it has no line feed. -/
theorem value_line_plain {name value : Text} (htype : IsTypeText type) (hname : Text.IsWord name)
    (hvalue : Text.IsWord value) :
    Text.mask .all (valueLine name type value) = valueLine name type value ∧
      '\n' ∉ valueLine name type value := by
  have hfront : IsPlainLine ("const ".toList ++ name ++ ": ".toList) :=
    ((by decide : IsPlainLine "const ".toList).append (plain_line_of_word hname)).append (by decide)
  have hback : IsPlainLine (" = ".toList ++ (value ++ ";".toList)) :=
    (by decide : IsPlainLine " = ".toList).append ((plain_line_of_word hvalue).append (by decide))
  have hplain := mask_type_line htype hfront hback
  rwa [List.append_assoc, List.append_assoc] at hplain

/-- The hint for a value is cut out between the colon and the end of the walk. -/
theorem of_value_line {value part rest : Text} (htype : IsTypeText type) (hvalue : Text.IsWord value)
    (hname : IsNamedAt symbol 7) (hkind : symbol.kind = .constant ∨ symbol.kind = .variableDef)
    (hpart : type ++ ' ' :: '=' :: ' ' :: (value ++ [';']) = part ++ rest)
    (hend : ∀ offset, expressionEndFrom [';', ',', '='] (some ':') offset 0 [' ']
      (type ++ ' ' :: '=' :: ' ' :: (value ++ [';'])) = offset + byteLength part) :
    of? symbol (valueLine symbol.name.toList type value) =
      some (hint symbol (some (String.ofList (Text.trim part))) none false .annotatedValue) := by
  have hsplit : valueLine symbol.name.toList type value = "const ".toList ++ symbol.name.toList ++
      ":".toList ++ (' ' :: part ++ rest) := by
    rw [List.cons_append, ← hpart, List.append_assoc, List.append_assoc]
    rfl
  obtain ⟨hmask, hfeed⟩ := value_line_plain htype hname.word hvalue
  obtain ⟨before, hnamed, hseek⟩ := exists_after_name
    (show IsNamedAt symbol ("const ".toList.length + 1) from hname) hfeed rfl rfl rfl
  have hcut : expression? ⟨valueLine symbol.name.toList type value,
      valueLine symbol.name.toList type value⟩
        ⟨some ':', byteLength ("const ".toList ++ symbol.name.toList) + 1,
          ' ' :: (type ++ ' ' :: '=' :: ' ' :: (value ++ [';']))⟩ [';', ',', '='] =
        some (Text.trim part) := by
    have hcolon : byteLength ("const ".toList ++ symbol.name.toList) + 1 =
        byteLength ("const ".toList ++ symbol.name.toList ++ ":".toList) :=
      (Text.byte_length_append _ ":".toList).symm
    have hspace : Text.isWhiteSpace ' ' = true := by decide
    rw [expression?, expressionEnd]
    dsimp only
    rw [value_step (by decide) (by decide) fun _ h => by simp [EndsValue] at h, hend, hcolon,
      ← Text.trim_cons hspace]
    refine cut_between _ hsplit ?_
    rw [byteLength, Nat.add_assoc]
  have hne : symbol.kind ≠ .parameter := by
    rcases hkind with h | h <;> rw [h] <;> decide
  have hhint := value_hint_at_colon before hne hcut
  rw [of?]
  simp only [hmask, hnamed]
  rw [hseek]
  rcases hkind with hkind | hkind
  · rw [hkind]
    exact hhint
  · rw [hkind]
    exact hhint

/-- The type that is written at a value is reported, and it is reported whole just if it is unbroken. -/
theorem value_reported {value : Text} (htype : IsTypeText type) (hvalue : Text.IsWord value)
    (hname : IsNamedAt symbol 7) (hkind : symbol.kind = .constant ∨ symbol.kind = .variableDef) :
    ∃ declared, of? symbol (valueLine symbol.name.toList type value) =
        some (hint symbol (some (String.ofList declared)) none false .annotatedValue) ∧
      (declared = Text.trim type ↔ IsUnbroken EndsValue '>' type) := by
  have hlast : EndsValue (some ' ') '=' (' ' :: (value ++ [';'])).head? := Or.inr (Or.inr ⟨rfl, rfl⟩)
  have hspace : ∀ before next, ¬EndsValue before ' ' next := by simp [EndsValue]
  rcases value_ends_at_break.cases ends_value_between hspace htype hlast with
    ⟨hunbroken, hend⟩ | hbroken
  · have hpart : type ++ ' ' :: '=' :: ' ' :: (value ++ [';']) =
        type ++ [' '] ++ '=' :: ' ' :: (value ++ [';']) := by simp
    refine ⟨_, of_value_line htype hvalue hname hkind hpart hend, ?_⟩
    exact iff_of_true (Text.trim_append_singleton (by decide) type) hunbroken
  · obtain ⟨front, c, back, rfl, hbreak, hend⟩ := hbroken
    have hvisible : Text.isWhiteSpace c = false := by
      obtain ⟨-, -, -, hends⟩ := hbreak
      exact hends.visible
    refine ⟨_, of_value_line htype hvalue hname hkind (List.append_assoc ..) hend, ?_⟩
    exact iff_of_false (trim_front_ne hvisible) fun hunbroken => hunbroken front c back rfl hbreak

end Value

section Return

variable {type blank inner rest front : Text} {symbol : Symbol} {c : Char} {offset : Nat}
  {before : Option Char}

/-- A character that ends a return type is visible. -/
theorem EndsReturn.visible {next : Option Char} (h : EndsReturn before c next) :
    Text.isWhiteSpace c = false := by
  rcases h with rfl | rfl | ⟨rfl, -⟩ <;> decide

/-- A return type that starts with a brace is the block that the brace opens. -/
theorem return_type_block {line : Text} (hblank : ∀ c ∈ blank, Text.isAsciiBlank c = true)
    (hinner : Brackets.ofTypes.awaitedAfter? [] (some '{') inner = some [])
    (hline : line = front ++ (blank ++ '{' :: (inner ++ '}' :: rest))) :
    returnType? ⟨line, line⟩ ⟨before, byteLength front, blank ++ '{' :: (inner ++ '}' :: rest)⟩ =
      some ('{' :: (inner ++ ['}'])) := by
  have hsplit : line = front ++ blank ++ '{' :: (inner ++ '}' :: rest) := by
    rw [hline, List.append_assoc]
  have hskip : Cursor.skipBlanks ⟨before, byteLength front, blank ++ '{' :: (inner ++ '}' :: rest)⟩ =
      ⟨blank.getLast?.or before, byteLength (front ++ blank), '{' :: (inner ++ '}' :: rest)⟩ := by
    rw [Text.byte_length_append]
    exact skip_blanks_append hblank fun c hc => by cases hc; decide
  have hclose : closerAt? ⟨line, line⟩ ⟨blank.getLast?.or before, byteLength (front ++ blank),
      '{' :: (inner ++ '}' :: rest)⟩ = some (byteLength (front ++ blank) + 1 + byteLength inner) := by
    rw [closerAt?, hsplit]
    exact Brackets.matching_of_balanced rfl hinner (Text.closes_each_of_closer rfl _ _) _ _
  have htight : Text.IsTight ('{' :: (inner ++ ['}'])) :=
    ⟨⟨'{', rfl, by decide⟩, '}', by rw [← List.cons_append, List.getLast?_concat], by decide⟩
  have hstop : byteLength (front ++ blank) + 1 + byteLength inner + 1 =
      byteLength (front ++ blank) + byteLength ('{' :: (inner ++ ['}'])) := by
    have hsize : '{'.utf8Size = 1 ∧ '}'.utf8Size = 1 := by decide
    rw [byteLength, Text.byte_length_append inner, byteLength, byteLength, hsize.1, hsize.2]
    omega
  have hcode : line = front ++ blank ++ ('{' :: (inner ++ ['}']) ++ rest) := by
    rw [hsplit]
    simp
  have hcut := cut_between ⟨line, line⟩ hcode hstop
  rw [Text.trim_of_tight htight] at hcut
  rw [returnType?, hskip]
  simp only [Cursor.next?, List.head?_cons, if_true, hclose]
  exact hcut

/-- The walk over a return type goes over blanks. -/
theorem return_over_blanks (hblank : ∀ c ∈ blank, Text.isAsciiBlank c = true ∧ c ≠ '\n') :
    returnTypeEndFrom before offset 0 (blank ++ rest) =
      returnTypeEndFrom (blank.getLast?.or before) (offset + byteLength blank) 0 rest := by
  induction blank generalizing before offset with
  | nil => rfl
  | cons c blank ih =>
      obtain ⟨⟨hc, hline⟩, hblank⟩ := List.forall_mem_cons.mp hblank
      have hne : ∀ d, Text.isAsciiBlank d = false → c ≠ d := by
        rintro d hd rfl
        rw [hc] at hd
        cases hd
      have hends : ¬EndsReturn before c (blank ++ rest).head? := by
        rintro (h | h | ⟨h, -⟩) <;> exact hne _ (by decide) h
      have hbracket : c ∉ "([<)]".toList := by
        have hall : ∀ d ∈ "([<)]".toList, Text.isAsciiBlank d = false := by decide
        exact fun hmem => hne c (hall c hmem) rfl
      rw [List.cons_append, return_step hbracket hline (fun h => absurd h (hne _ (by decide)))
        fun _ => hends, ih hblank, Text.last_cons, byteLength, Nat.add_assoc]

/-- Blanks open and close no bracket. -/
theorem awaited_after_blank {awaited : List Char} (hblank : ∀ c ∈ blank, Text.isAsciiBlank c = true) :
    Brackets.ofTypes.awaitedAfter? awaited before blank = some awaited := by
  have hall : ∀ c ∈ "([{<)]}>".toList, Text.isAsciiBlank c = false := by decide
  refine Brackets.awaited_after_flat fun c hc hmem => ?_
  have hnot := hall c hmem
  rw [hblank c hc] at hnot
  cases hnot

/-- The line that declares a function with a return type. -/
def functionLine (name type : Text) : Text :=
  "function ".toList ++ (name ++ ("(): ".toList ++ (type ++ " { }".toList)))

/-- In the line nothing is masked, and it has no line feed. -/
theorem function_line_plain {name : Text} (htype : IsTypeText type) (hname : Text.IsWord name) :
    Text.mask .all (functionLine name type) = functionLine name type ∧
      '\n' ∉ functionLine name type := by
  have hfront : IsPlainLine ("function ".toList ++ name ++ "(): ".toList) :=
    ((by decide : IsPlainLine "function ".toList).append (plain_line_of_word hname)).append (by decide)
  have hback : IsPlainLine " { }".toList := by decide
  have hplain := mask_type_line htype hfront hback
  rwa [List.append_assoc, List.append_assoc] at hplain

/-- The hint for a function is read off what stands behind its empty parameters. -/
theorem callable_hint_at_parameters (symbol : Symbol) {source : Source} (before : Option Char)
    (hmasked : source.masked = front ++ ("()".toList ++ rest)) :
    callableHint? symbol source ⟨before, byteLength front, "()".toList ++ rest⟩ =
      bodyHint? symbol source (symbol.hasModifier .async)
        (Cursor.between (front ++ "()".toList) rest) := by
  have hmark : skipMark (Cursor.skipBlanks ⟨before, byteLength front, "()".toList ++ rest⟩)
      ['?'] = ⟨before, byteLength front, "()".toList ++ rest⟩ := rfl
  have hgenerics : Cursor.skipBlanks (skipGenerics source
      ⟨before, byteLength front, "()".toList ++ rest⟩) =
        ⟨before, byteLength front, "()".toList ++ rest⟩ := rfl
  have hnext : Cursor.next? ⟨before, byteLength front, "()".toList ++ rest⟩ = some '(' := rfl
  have hbytes : byteLength (front ++ "()".toList) = byteLength front + 1 + 1 := by
    rw [Text.byte_length_append]
    rfl
  have hseek := Cursor.seek_between (front ++ "()".toList) rest
  have hafter : afterCloser? source ⟨before, byteLength front, "()".toList ++ rest⟩ =
      some (Cursor.between (front ++ "()".toList) rest) := by
    rw [hbytes, List.append_assoc, ← hmasked] at hseek
    rw [afterCloser?, closerAt?, hmasked]
    change (Text.matchingDelimiter? (front ++ '(' :: ')' :: rest) (byteLength front)).bind _ = _
    rw [Text.matching_parentheses, ← hmasked]
    exact hseek
  rw [callableHint?, hmark, hnext]
  simp only [Option.some.injEq, Char.reduceEq, if_false, Bool.or_false]
  rw [parametersHint?, hgenerics, hnext]
  simp only [if_true, hafter]

/-- The hint for a function is the return type behind a colon. -/
theorem body_hint_at_colon (symbol : Symbol) (source : Source) (isAsync : Bool) :
    bodyHint? symbol source isAsync (Cursor.between front (':' :: rest)) =
      (returnType? source (Cursor.between (front ++ [':']) rest)).map fun written =>
        hint symbol none (some (String.ofList written)) false .annotatedReturn := by
  have hcolon : Cursor.skipBlanks (Cursor.between front (':' :: rest)) =
      Cursor.between front (':' :: rest) := rfl
  have hnext : Cursor.next? (Cursor.between front (':' :: rest)) = some ':' := rfl
  rw [bodyHint?, hcolon]
  dsimp only
  rw [if_pos hnext, Cursor.advance_between]
  cases returnType? source (Cursor.between (front ++ [':']) rest) <;> rfl

/-- The hint for the function of a line is the return type behind its name and parameters. -/
theorem of_function_line (htype : IsTypeText type) (hname : IsNamedAt symbol 10)
    (hkind : symbol.kind = .function) :
    of? symbol (functionLine symbol.name.toList type) =
      (returnType? ⟨functionLine symbol.name.toList type, functionLine symbol.name.toList type⟩
        ⟨some ':', byteLength ("function ".toList ++ symbol.name.toList ++ "():".toList),
          ' ' :: (type ++ " { }".toList)⟩).map fun written =>
        hint symbol none (some (String.ofList written)) false .annotatedReturn := by
  obtain ⟨hmask, hfeed⟩ := function_line_plain htype hname.word
  obtain ⟨before, hnamed, hseek⟩ := exists_after_name
    (show IsNamedAt symbol ("function ".toList.length + 1) from hname) hfeed rfl rfl rfl
  have hsplit : functionLine symbol.name.toList type = "function ".toList ++ symbol.name.toList ++
      ("()".toList ++ ':' :: (' ' :: (type ++ " { }".toList))) := by
    rw [List.append_assoc]
    rfl
  have hbehind : Cursor.between ("function ".toList ++ symbol.name.toList ++ "()".toList ++ [':'])
      (' ' :: (type ++ " { }".toList)) =
        ⟨some ':', byteLength ("function ".toList ++ symbol.name.toList ++ "():".toList),
          ' ' :: (type ++ " { }".toList)⟩ := by
    rw [Cursor.between, List.getLast?_concat, List.append_assoc _ "()".toList]
    rfl
  rw [of?]
  simp only [hmask, hnamed]
  rw [hseek, hkind]
  dsimp only [bind, Option.bind]
  rw [← hbehind, ← body_hint_at_colon]
  exact callable_hint_at_parameters symbol before hsplit

/-- A text is a block in braces and white space after it. -/
def IsSingleBlock (text : Text) : Prop :=
  ∃ inner rest, text = '{' :: (inner ++ '}' :: rest) ∧
    Brackets.ofTypes.awaitedAfter? [] (some '{') inner = some [] ∧ Text.IsBlank rest

/-- A blank is white space. -/
theorem white_space_of_ascii_blank (h : Text.isAsciiBlank c = true) : Text.isWhiteSpace c = true := by
  simp only [Text.isAsciiBlank, Bool.or_eq_true, decide_eq_true_eq, or_assoc] at h
  rcases h with rfl | rfl | rfl | rfl | rfl <;> decide

/-- Of a type without a visible character the body is reported. -/
theorem return_type_of_blank {line : Text} (hblank : ∀ c ∈ blank, Text.isAsciiBlank c = true)
    (hline : line = front ++ ' ' :: (blank ++ " { }".toList)) :
    ∃ written, returnType? ⟨line, line⟩ ⟨before, byteLength front, ' ' :: (blank ++ " { }".toList)⟩ =
      some written ∧ written ≠ Text.trim blank := by
  have hblanks : ∀ c ∈ ' ' :: (blank ++ [' ']), Text.isAsciiBlank c = true :=
    List.forall_mem_cons.mpr ⟨rfl, List.forall_mem_append.mpr ⟨hblank, by decide⟩⟩
  have hsplit : ' ' :: (blank ++ " { }".toList) =
      ' ' :: (blank ++ [' ']) ++ '{' :: ([' '] ++ '}' :: []) := by simp
  rw [hsplit] at hline ⊢
  refine ⟨_, return_type_block hblanks (by decide) hline, ?_⟩
  rw [Text.trim_eq_nil_iff.mpr fun c hc => white_space_of_ascii_blank (hblank c hc)]
  exact List.cons_ne_nil _ _

/-- Of a type that starts with a block in braces the block is reported. -/
theorem return_type_of_block {line tail : Text} (hblank : ∀ c ∈ blank, Text.isAsciiBlank c = true)
    (hbalanced : IsBalanced (blank ++ '{' :: tail))
    (hline : line = front ++ ' ' :: (blank ++ '{' :: tail ++ " { }".toList)) :
    ∃ written, returnType? ⟨line, line⟩
        ⟨before, byteLength front, ' ' :: (blank ++ '{' :: tail ++ " { }".toList)⟩ = some written ∧
      (written = Text.trim (blank ++ '{' :: tail) ↔ IsSingleBlock ('{' :: tail)) := by
  have hblanks : ∀ c ∈ ' ' :: blank, Text.isAsciiBlank c = true :=
    List.forall_mem_cons.mpr ⟨rfl, hblank⟩
  have hwhite : Text.IsBlank blank := fun c hc => white_space_of_ascii_blank (hblank c hc)
  have hreported : ∀ inner rest, tail = inner ++ '}' :: rest →
      Brackets.ofTypes.awaitedAfter? [] (some '{') inner = some [] →
      returnType? ⟨line, line⟩
        ⟨before, byteLength front, ' ' :: (blank ++ '{' :: tail ++ " { }".toList)⟩ =
          some ('{' :: (inner ++ ['}'])) := by
    rintro inner rest rfl hinner
    have hsplit : ' ' :: (blank ++ '{' :: (inner ++ '}' :: rest) ++ " { }".toList) =
        ' ' :: blank ++ '{' :: (inner ++ '}' :: (rest ++ " { }".toList)) := by simp
    rw [hsplit] at hline ⊢
    exact return_type_block hblanks hinner hline
  obtain ⟨awaited, hfront, hback⟩ := Brackets.awaited_after_append.mp hbalanced
  obtain rfl : [] = awaited := Option.some.inj ((awaited_after_blank hblank).symm.trans hfront)
  obtain ⟨inner, rest, htail, hinner, -, -⟩ :=
    Brackets.exists_block (show Brackets.ofTypes.awaitedAfter? ([] ++ '}' :: []) (some '{') tail =
      some [] from hback) (Nat.le_refl 0)
  refine ⟨_, hreported inner rest htail hinner, ?_⟩
  constructor
  · intro hwhole
    refine ⟨inner, rest, by rw [htail], hinner, ?_⟩
    have hcount := congrArg (List.countP (!Text.isWhiteSpace ·)) hwhole
    have hrest : rest.countP (!Text.isWhiteSpace ·) = 0 := by
      rw [count_visible_trim, htail, List.countP_append, List.countP_cons, List.countP_cons,
        List.countP_append, List.countP_append, List.countP_cons, List.countP_cons] at hcount
      simp only [List.countP_nil] at hcount
      omega
    exact fun c hc => by simpa using List.countP_eq_zero.mp hrest c hc
  · rintro ⟨inner', rest', htail', hinner', hrest'⟩
    have hsame := (hreported inner rest htail hinner).symm.trans
      (hreported inner' rest' (List.cons.inj htail').2 hinner')
    have htight : Text.IsTight ('{' :: (inner' ++ ['}'])) :=
      ⟨⟨'{', rfl, by decide⟩, '}', by rw [← List.cons_append, List.getLast?_concat], by decide⟩
    have hsplit : blank ++ '{' :: tail = blank ++ '{' :: (inner' ++ ['}']) ++ rest' := by
      rw [htail']
      simp
    rw [Option.some.inj hsame, hsplit, Text.trim_around hwhite htight hrest']

/-- Of a type that starts otherwise the walk decides. -/
theorem return_type_of_other {line tail : Text} (hblank : ∀ c ∈ blank, Text.isAsciiBlank c = true)
    (hvisible : Text.isAsciiBlank c = false) (hbrace : c ≠ '{')
    (htype : IsTypeText (blank ++ c :: tail))
    (hline : line = front ++ ' ' :: (blank ++ c :: tail ++ " { }".toList)) :
    ∃ written, returnType? ⟨line, line⟩
        ⟨before, byteLength front, ' ' :: (blank ++ c :: tail ++ " { }".toList)⟩ = some written ∧
      (written = Text.trim (blank ++ c :: tail) ↔ IsUnbroken EndsReturn '}' (blank ++ c :: tail)) := by
  have hblanks : ∀ c ∈ ' ' :: blank, Text.isAsciiBlank c = true :=
    List.forall_mem_cons.mpr ⟨rfl, hblank⟩
  have hspaces : ∀ c ∈ blank, Text.isAsciiBlank c = true ∧ c ≠ '\n' := fun d hd =>
    ⟨hblank d hd, fun hfeed => htype.one_line (List.mem_append_left _ (hfeed ▸ hd))⟩
  have hsplit : ' ' :: (blank ++ c :: tail ++ " { }".toList) =
      ' ' :: blank ++ c :: (tail ++ " { }".toList) := by simp
  have hskip : Cursor.skipBlanks
      ⟨before, byteLength front, ' ' :: (blank ++ c :: tail ++ " { }".toList)⟩ =
        ⟨(' ' :: blank).getLast?.or before, byteLength front + byteLength (' ' :: blank),
          c :: (tail ++ " { }".toList)⟩ := by
    rw [hsplit]
    refine skip_blanks_append hblanks fun d hd => ?_
    obtain rfl : c = d := Option.some.inj hd
    exact hvisible
  have hwalk : returnTypeEndFrom ((' ' :: blank).getLast?.or before)
      (byteLength front + byteLength (' ' :: blank)) 0 (c :: (tail ++ " { }".toList)) =
        returnTypeEndFrom (some ' ') (byteLength front + 1) 0
          (blank ++ c :: tail ++ ' ' :: '{' :: " \x7d".toList) := by
    rw [List.append_assoc, return_over_blanks hspaces, Text.last_cons, Nat.add_assoc]
    rfl
  have hcut : ∀ part rest, blank ++ c :: tail ++ ' ' :: '{' :: " \x7d".toList = part ++ rest →
      (∀ offset, returnTypeEndFrom (some ' ') offset 0
        (blank ++ c :: tail ++ ' ' :: '{' :: " \x7d".toList) = offset + byteLength part) →
      returnType? ⟨line, line⟩
        ⟨before, byteLength front, ' ' :: (blank ++ c :: tail ++ " { }".toList)⟩ =
          some (Text.trim part) := by
    intro part rest hpart hend
    have hcode : line = front ++ (' ' :: part ++ rest) := by
      rw [hline, List.cons_append, ← hpart]
      rfl
    have hnext : (some c = some '{') = False := eq_false fun h => hbrace (Option.some.inj h)
    rw [returnType?, hskip]
    simp only [Cursor.next?, List.head?_cons, hnext, if_false]
    rw [hwalk, hend, ← Text.trim_cons (show Text.isWhiteSpace ' ' = true by decide)]
    refine cut_between ⟨line, line⟩ hcode ?_
    rw [byteLength, Nat.add_assoc]
    rfl
  have hlast : EndsReturn (some ' ') '{' " \x7d".toList.head? := Or.inl rfl
  have hspace : ∀ before next, ¬EndsReturn before ' ' next := by simp [EndsReturn]
  rcases return_ends_at_break.cases ends_return_between hspace htype hlast with
    ⟨hunbroken, hend⟩ | ⟨front', d, back, hplace, hbreak, hend⟩
  · refine ⟨_, hcut _ ('{' :: " \x7d".toList) (by simp) hend, ?_⟩
    exact iff_of_true (Text.trim_append_singleton (by decide) _) hunbroken
  · have hseen : Text.isWhiteSpace d = false := by
      obtain ⟨-, -, -, hends⟩ := hbreak
      exact hends.visible
    refine ⟨_, hcut front' (d :: back ++ ' ' :: '{' :: " \x7d".toList)
      (by rw [hplace, List.append_assoc]) hend, ?_⟩
    rw [hplace]
    exact iff_of_false (trim_front_ne hseen) fun hunbroken => hunbroken front' d back rfl hbreak

/-- The return type behind a colon is cut out, and it is cut out whole just if it is a single block in
braces, or if it is visible and unbroken. -/
theorem return_type_behind_colon {line : Text} (htype : IsTypeText type)
    (hline : line = front ++ ' ' :: (type ++ " { }".toList)) :
    ∃ written, returnType? ⟨line, line⟩ ⟨before, byteLength front, ' ' :: (type ++ " { }".toList)⟩ =
        some written ∧
      (written = Text.trim type ↔ IsSingleBlock (type.dropWhile Text.isAsciiBlank) ∨
        (type.dropWhile Text.isAsciiBlank ≠ [] ∧ IsUnbroken EndsReturn '}' type)) := by
  have hblank : ∀ c ∈ type.takeWhile Text.isAsciiBlank, Text.isAsciiBlank c = true :=
    fun c hc => List.mem_takeWhile_imp hc
  have htake : type.takeWhile Text.isAsciiBlank ++ type.dropWhile Text.isAsciiBlank = type :=
    List.takeWhile_append_dropWhile
  generalize type.takeWhile Text.isAsciiBlank = blank at hblank htake
  cases hrest : type.dropWhile Text.isAsciiBlank with
  | nil =>
      rw [hrest, List.append_nil] at htake
      subst htake
      obtain ⟨written, hcut, hne⟩ := return_type_of_blank hblank hline
      refine ⟨written, hcut, iff_of_false hne ?_⟩
      rintro (⟨inner, rest, h, -⟩ | ⟨h, -⟩)
      · cases h
      · exact h rfl
  | cons c tail =>
      have hvisible := Text.head_drop_while hrest
      rw [hrest] at htake
      clear hrest
      subst htake
      by_cases hc : c = '{'
      · subst hc
        obtain ⟨written, hcut, hwhole⟩ := return_type_of_block hblank htype.balanced hline
        refine ⟨written, hcut, hwhole.trans (or_iff_left ?_).symm⟩
        rintro ⟨-, hunbroken⟩
        exact hunbroken blank '{' tail rfl
          ⟨[], awaited_after_blank hblank, fun _ h => (List.not_mem_nil h).elim, Or.inl rfl⟩
      · obtain ⟨written, hcut, hwhole⟩ := return_type_of_other hblank hvisible hc htype hline
        refine ⟨written, hcut, hwhole.trans (Iff.symm ?_)⟩
        rw [or_iff_right, and_iff_right (List.cons_ne_nil _ _)]
        rintro ⟨inner, rest, h, -⟩
        exact hc (List.cons.inj h).1

/-- The return type that is written at a function is reported, and it is reported whole just if it is
a single block in braces, or if it is visible and unbroken. -/
theorem return_reported (htype : IsTypeText type) (hname : IsNamedAt symbol 10)
    (hkind : symbol.kind = .function) :
    ∃ written, of? symbol (functionLine symbol.name.toList type) =
        some (hint symbol none (some (String.ofList written)) false .annotatedReturn) ∧
      (written = Text.trim type ↔ IsSingleBlock (type.dropWhile Text.isAsciiBlank) ∨
        (type.dropWhile Text.isAsciiBlank ≠ [] ∧ IsUnbroken EndsReturn '}' type)) := by
  have hsplit : functionLine symbol.name.toList type = "function ".toList ++ symbol.name.toList ++
      "():".toList ++ ' ' :: (type ++ " { }".toList) := by
    rw [List.append_assoc, List.append_assoc]
    rfl
  obtain ⟨written, hcut, hwhole⟩ :=
    return_type_behind_colon htype hsplit
  refine ⟨written, ?_, hwhole⟩
  rw [of_function_line htype hname hkind, hcut]
  rfl

end Return

/-- What is written as a type is reported at a value and at a function, and is not inferred. At a value
it is reported whole just if it is unbroken for the walk that passes over angle brackets, and at a
function just if it is a single block in braces, or visible and unbroken for the walk that passes over
braces. -/
theorem annotation_reported {type value : Text} {constant function : Symbol} (htype : IsTypeText type)
    (hvalue : Text.IsWord value) (hconstant : IsNamedAt constant 7) (hfunction : IsNamedAt function 10)
    (hkinds : (constant.kind = .constant ∨ constant.kind = .variableDef) ∧ function.kind = .function) :
    (∃ declared, of? constant (valueLine constant.name.toList type value) =
        some (hint constant (some (String.ofList declared)) none false .annotatedValue) ∧
      (declared = Text.trim type ↔ IsUnbroken EndsValue '>' type)) ∧
    ∃ written, of? function (functionLine function.name.toList type) =
        some (hint function none (some (String.ofList written)) false .annotatedReturn) ∧
      (written = Text.trim type ↔ IsSingleBlock (type.dropWhile Text.isAsciiBlank) ∨
        (type.dropWhile Text.isAsciiBlank ≠ [] ∧ IsUnbroken EndsReturn '}' type)) :=
  ⟨value_reported htype hvalue hconstant hkinds.1, return_reported htype hfunction hkinds.2⟩

/-- A symbol of the file `a.ts` that is declared at a column of its first line. -/
def onFirstLine (name : String) (kind : SymbolKind) (column : Nat) : Symbol where
  name := name
  kind := kind
  location := ⟨⟨"a.ts"⟩, 1, 1, some column⟩

/-- An object type is reported whole, whatever stands in its braces. -/
theorem object_type_reported_whole :
    of? (onFirstLine "x" .constant 7)
        (valueLine "x".toList "{ a: Map<B, C>; d: (e: F) => G }".toList "y".toList) =
      some (hint (onFirstLine "x" .constant 7) (some "{ a: Map<B, C>; d: (e: F) => G }") none false
        .annotatedValue) ∧
    of? (onFirstLine "f" .function 10)
        (functionLine "f".toList "{ a: Map<B, C>; d: (e: F) => G }".toList) =
      some (hint (onFirstLine "f" .function 10) none (some "{ a: Map<B, C>; d: (e: F) => G }") false
        .annotatedReturn) := by
  have htype : IsTypeText "{ a: Map<B, C>; d: (e: F) => G }".toList := by decide +kernel
  have hconstant : IsNamedAt (onFirstLine "x" .constant 7) 7 := ⟨⟨by decide, by decide⟩, rfl, rfl⟩
  have hfunction : IsNamedAt (onFirstLine "f" .function 10) 10 := ⟨⟨by decide, by decide⟩, rfl, rfl⟩
  have hword : Text.IsWord "y".toList := ⟨by decide, by decide⟩
  obtain ⟨⟨declared, hvalue, hdeclared⟩, written, hreturn, hwritten⟩ :=
    annotation_reported htype hword hconstant hfunction ⟨Or.inl rfl, rfl⟩
  rw [hdeclared.mpr (by decide +kernel)] at hvalue
  have hblock : IsSingleBlock ("{ a: Map<B, C>; d: (e: F) => G }".toList.dropWhile Text.isAsciiBlank) :=
    ⟨" a: Map<B, C>; d: (e: F) => G ".toList, [], by decide +kernel, by decide +kernel,
      fun _ h => (List.not_mem_nil h).elim⟩
  rw [hwritten.mpr (Or.inl hblock)] at hreturn
  exact ⟨hvalue, hreturn⟩

/-- The type of a value ends at a comma between angle brackets, and a return type at an arrow, though
the brackets of both are properly nested. -/
theorem annotation_cut_short :
    IsTypeText "Map<string, number>".toList ∧ IsTypeText "() => void".toList ∧
    of? (onFirstLine "x" .constant 7)
        (valueLine "x".toList "Map<string, number>".toList "y".toList) =
      some (hint (onFirstLine "x" .constant 7) (some "Map<string") none false .annotatedValue) ∧
    of? (onFirstLine "f" .function 10) (functionLine "f".toList "() => void".toList) =
      some (hint (onFirstLine "f" .function 10) none (some "()") false .annotatedReturn) := by
  decide +kernel

end CodeAtlas.Hint
