import CodeAtlas.Proofs.Module.Found
import CodeAtlas.Proofs.Module.Led

/-!
# A line is found as no other statement

The words that statements are led by stand in a line only where it starts or calls, so nearly every
place is free of them (`Line.tail_free`). What is left are lines of another form that start with the
same word; they are told apart by the first mark that only one of the two forms can have. A name may
be a word that binds variables: there the first equals sign decides (`Unbound`).
-/

namespace CodeAtlas.Module

open Pattern (Piece Led Free Blocks Misses textOf)
open Text (isWhiteSpace isNameChar IsName IsBlank)

section Free

variable {words : List Text} {follow : Char → Bool} {later : List Piece} {after c : Char}
  {tail : Text}

/-- The words are among those that lines start with or call, and `require` matters only in front of a
parenthesis. -/
structure Apart (words : List Text) (follow : Char → Bool) : Prop where
  statement : ∀ word ∈ words, word ∈ statementWords
  opens : "require".toList ∈ words → ∀ c, follow c = true → c = '('

/-- The first visible character is no opening parenthesis. -/
def Closed (text : Text) : Prop :=
  Blocks (fun c => c == '(') text

/-- A visible character other than a parenthesis comes first. -/
theorem closed_of_visible (hc : isWhiteSpace c = false) (hopen : c ≠ '(') : Closed (c :: tail) :=
  ⟨[], c, tail, rfl, by simp [IsBlank], hc, by simpa using hopen⟩

/-- A visible character other than a parenthesis comes after a space. -/
theorem closed_of_space (hc : isWhiteSpace c = false) (hopen : c ≠ '(') :
    Closed (' ' :: c :: tail) :=
  ⟨[' '], c, tail, rfl, by simp [IsBlank, Text.isWhiteSpace], hc, by simpa using hopen⟩

/-- A name that no parenthesis follows gives way to no match. -/
theorem Name.free (name : Name) (hapart : Apart words follow) (hafter : isNameChar after = false)
    (hclosed : Closed (after :: textOf later)) (hlater : Free words follow later) :
    Free words follow (.word name.text after :: later) := by
  refine ⟨name.is_name, hafter, ?_, hlater⟩
  rw [or_iff_not_imp_left, not_not]
  intro hmem
  obtain ⟨blank, c, tail, htext, hblank, hc, hopen⟩ := hclosed
  refine ⟨blank, c, tail, htext, hblank, hc, ?_⟩
  have hrequire : name.text = "require".toList := by
    have hword := hapart.statement _ hmem
    have hreserved := name.not_reserved
    simp only [statementWords, List.mem_cons, List.not_mem_nil, or_false] at hword
    rcases hword with heq | heq | heq
    · exact absurd (by rw [heq, String.ofList_toList]; decide) hreserved
    · exact absurd (by rw [heq, String.ofList_toList]; decide) hreserved
    · exact heq
  by_contra hfollow
  have heq := hapart.opens (hrequire ▸ hmem) c (by simpa using hfollow)
  simp [heq] at hopen

/-- Another word gives way to no match. -/
theorem Apart.free_word (hapart : Apart words follow) {word : Text} (hword : IsName word)
    (hother : word ∉ statementWords) (hafter : isNameChar after = false)
    (hlater : Free words follow later) : Free words follow (.word word after :: later) :=
  ⟨hword, hafter, Or.inl fun hmem => hother (hapart.statement word hmem), hlater⟩

/-- An item gives way to no match. -/
theorem Item.free (style : Renaming) (item : Item) (hapart : Apart words follow)
    (hafter : isNameChar after = false) (hclosed : Closed (after :: textOf later))
    (hlater : Free words follow later) : Free words follow (item.pieces style after ++ later) := by
  rw [Item.pieces]
  split
  · exact item.name.free hapart hafter hclosed hlater
  · next other _ =>
      have hother := other.free hapart hafter hclosed hlater
      obtain ⟨d, rest, htext, hname, -⟩ := other.exists_head
      cases style with
      | byWord =>
          refine item.name.free hapart (by decide) (closed_of_space (by decide) (by decide)) ?_
          exact hapart.free_word ⟨by decide, by decide⟩ (by decide) (by decide) hother
      | byColon =>
          refine item.name.free hapart (by decide) (closed_of_visible (by decide) (by decide)) ?_
          exact ⟨by decide, hother⟩

/-- Items give way to no match. -/
theorem list_free (style : Renaming) (first : Item) (others : List Item) (hapart : Apart words follow)
    (hclosed : Closed (' ' :: textOf later)) (hlater : Free words follow later) :
    Free words follow (listPieces style first others ++ later) := by
  induction others generalizing first with
  | nil => exact first.free style hapart (by decide) hclosed hlater
  | cons next rest ih =>
      rw [listPieces, List.append_assoc]
      exact first.free style hapart (by decide) (closed_of_visible (by decide) (by decide))
        ⟨by decide, ih next⟩

/-- Items in braces give way to no match. -/
theorem braces_free (style : Renaming) (first : Item) (others : List Item)
    (hapart : Apart words follow) (hlater : Free words follow later) :
    Free words follow (bracesPieces style first others ++ .mark ' ' :: later) := by
  rw [bracesPieces, List.cons_append, List.cons_append, List.append_assoc]
  refine ⟨by decide, by decide, list_free style first others hapart ?_ ⟨by decide, by decide, hlater⟩⟩
  exact closed_of_space (by decide) (by decide)

/-- A clause gives way to no match. -/
theorem Clause.free (clause : Clause) (hapart : Apart words follow)
    (hclosed : Closed (' ' :: textOf later)) (hlater : Free words follow later) :
    Free words follow (clause.pieces ++ later) := by
  have has : ∀ name : Name, Free words follow
      (.word "as".toList ' ' :: .word name.text ' ' :: later) := fun name =>
    hapart.free_word ⟨by decide, by decide⟩ (by decide) (by decide)
      (name.free hapart (by decide) hclosed hlater)
  cases clause with
  | default name => exact name.free hapart (by decide) hclosed hlater
  | whole name => exact ⟨by decide, by decide, has name⟩
  | named first others =>
      rw [Clause.pieces, List.append_assoc]
      exact braces_free _ first others hapart hlater
  | defaultNamed name first others =>
      rw [Clause.pieces, List.cons_append, List.cons_append, List.append_assoc]
      exact name.free hapart (by decide) (closed_of_visible (by decide) (by decide))
        ⟨by decide, braces_free _ first others hapart hlater⟩
  | defaultWhole name other =>
      exact name.free hapart (by decide) (closed_of_visible (by decide) (by decide))
        ⟨by decide, by decide, by decide, has other⟩

/-- A binding gives way to no match. -/
theorem Binding.free (binding : Binding) (hapart : Apart words follow)
    (hclosed : Closed (' ' :: textOf later)) (hlater : Free words follow later) :
    Free words follow (binding.pieces ++ later) := by
  cases binding with
  | plain name => exact name.free hapart (by decide) hclosed hlater
  | items first others =>
      rw [Binding.pieces, List.append_assoc]
      exact braces_free _ first others hapart hlater

/-- A specifier gives way to no match. -/
theorem Specifier.free (source : Specifier) (hapart : Apart words follow)
    (hlater : Free words follow later) : Free words follow (.quoted source.text :: later) :=
  ⟨fun word hword => source.no_word word (hapart.statement word hword), hlater⟩

/-- From the word `from` on, nothing gives way to a match. -/
theorem Specifier.from_free (source : Specifier) (hapart : Apart words follow) :
    Free words follow source.fromPieces :=
  hapart.free_word ⟨by decide, by decide⟩ (by decide) (by decide)
    (source.free hapart ⟨by decide, trivial⟩)

/-- A call gives way to a match only if `require` is one of the words. -/
theorem Specifier.call_free (source : Specifier) (hapart : Apart words follow)
    (hrequire : "require".toList ∉ words) : Free words follow source.callPieces :=
  ⟨⟨by decide, by decide⟩, by decide, Or.inl hrequire,
    source.free hapart ⟨by decide, by decide, trivial⟩⟩

/-- A line that calls `require`. -/
def Line.calls : Line → Bool
  | .importRequire _ _ | .requireBinding _ _ => true
  | _ => false

/-- After its first word, a line gives way to no match unless it is a call. -/
theorem Line.tail_free (line : Line) (hapart : Apart words follow)
    (hrequire : line.calls = false ∨ "require".toList ∉ words) : Free words follow line.tail := by
  have hfrom : ∀ source : Specifier, Closed (' ' :: textOf source.fromPieces) := fun source =>
    closed_of_space (c := 'f') (by decide) (by decide)
  cases line with
  | sideEffect source => exact source.free hapart ⟨by decide, trivial⟩
  | importFrom clause source => exact clause.free hapart (hfrom source) (source.from_free hapart)
  | importRequire name source =>
      have hcall := source.call_free hapart (hrequire.resolve_left (by simp [Line.calls]))
      exact name.free hapart (by decide) (closed_of_space (by decide) (by decide))
        ⟨by decide, by decide, hcall⟩
  | requireBinding binding source =>
      have hcall := source.call_free hapart (hrequire.resolve_left (by simp [Line.calls]))
      exact binding.free hapart (closed_of_space (c := '=') (by decide) (by decide))
        ⟨by decide, by decide, hcall⟩
  | exportStar source => exact ⟨by decide, by decide, source.from_free hapart⟩
  | exportList first others source =>
      exact braces_free _ first others hapart (source.from_free hapart)

/-- Every line starts with a word. -/
theorem Line.head_is_name (line : Line) : IsName line.head := by
  have himport : IsName "import".toList := ⟨by decide, by decide⟩
  have hconst : IsName "const".toList := ⟨by decide, by decide⟩
  have hexport : IsName "export".toList := ⟨by decide, by decide⟩
  cases line with
  | sideEffect _ | importFrom _ _ | importRequire _ _ => exact himport
  | requireBinding _ _ => exact hconst
  | exportStar _ | exportList _ _ _ => exact hexport

/-- A line is missed if its first word is another one or the match is blocked after it. -/
theorem Line.misses_of_free {pattern : Pattern} (line : Line) (hled : Led words follow pattern)
    (hapart : Apart words follow) {before : Option Char} {rest : Text}
    (hrequire : line.calls = false ∨ "require".toList ∉ words)
    (hhead : line.head ∉ words ∨ Blocks follow (' ' :: textOf line.tail)) :
    Misses pattern before (line.text ++ [';']) rest := by
  rw [← line.text_of_pieces]
  exact hled.misses_pieces ⟨line.head_is_name, by decide, hhead, line.tail_free hapart hrequire⟩

end Free

section Line

variable {before : Option Char} {rest : Text}

/-- A line is missed if there is no match at its first character. -/
theorem Line.misses_of_fails {words : List Text} {follow : Char → Bool} {pattern : Pattern}
    (line : Line) (hled : Led words follow pattern) (hapart : Apart words follow)
    (hrequire : line.calls = false ∨ "require".toList ∉ words)
    (hfirst : Pattern.Fails pattern (line.head ++ ' ' :: (textOf line.tail ++ rest))) :
    Misses pattern before (line.text ++ [';']) rest := by
  rw [← line.text_of_pieces, Line.pieces, text_of_cons]
  exact Misses.append (hled.misses_word line.head_is_name (by decide)
    fun offset => Pattern.match_at_of_fails hfirst)
      (hled.misses_pieces (line.tail_free hapart hrequire))

/-- The text of a call after the word. -/
theorem Specifier.text_of_call (source : Specifier) :
    textOf source.callPieces ++ rest =
      "require".toList ++ '(' :: (source.quoted ++ ')' :: ';' :: rest) := by
  rw [Specifier.callPieces, text_of_cons, Piece.text, Specifier.quoted]
  simp [Piece.text]

/-- In an import by assignment, a parenthesis stands in front of the first quote. -/
theorem import_require_no_import_from (name : Name) (source : Specifier) :
    Pattern.Fails Statement.importFrom ("import".toList ++
      ' ' :: (textOf (Line.importRequire name source).tail ++ rest)) := by
  refine Pattern.fails_of_cannot_read fun read hread => ?_
  rintro ⟨later, hlater⟩
  obtain ⟨c, middle, quote, tail, rfl, -, -, hset, hquote⟩ := import_from_reads hread
  have hend : clauseSet.contains quote = false := by rcases hquote with rfl | rfl <;> decide
  have hname : ∀ d ∈ ' ' :: (name.text ++ " = require".toList), clauseSet.contains d = true :=
    List.forall_mem_cons.mpr ⟨by decide,
      List.forall_mem_append.mpr ⟨(Clause.default name).in_set, by decide⟩⟩
  have heq : (c :: middle) ++ quote :: (tail ++ later) =
      (' ' :: (name.text ++ " = require".toList)) ++ '(' :: (source.quoted ++ ')' :: ';' :: rest) := by
    rw [List.append_assoc] at hlater
    have htail := List.append_cancel_left hlater
    have hassign : " = require".toList = [' '] ++ (['='] ++ ([' '] ++ "require".toList)) := rfl
    simp only [Line.tail, text_of_cons, Piece.text, List.append_assoc, source.text_of_call] at htail
    simp only [hassign, List.cons_append, List.append_assoc, List.nil_append]
    simpa only [List.cons_append, List.append_assoc, List.nil_append] using htail
  have hcut := (Text.span_append_inj clauseSet.contains hset hname (by simpa using hend)
    (fun d hd => by obtain rfl : '(' = d := Option.some.inj hd; decide) heq).2
  obtain ⟨rfl, -⟩ := List.cons.inj hcut
  rcases hquote with heq | heq <;> cases heq

/-- In an import of bindings that starts with a name, another mark than an equals sign comes first. -/
theorem import_from_no_import_require (name : Name) {mark : Char} {front tail : Text}
    (hfront : ∀ c ∈ front, CharSet.identPart.contains c = true ∨ isWhiteSpace c = true)
    (hmark : CharSet.identPart.contains mark = false ∧ isWhiteSpace mark = false) (hne : mark ≠ '=') :
    Pattern.Fails Statement.importRequire
      ("import".toList ++ ' ' :: (name.text ++ (front ++ mark :: tail))) := by
  refine Pattern.fails_of_cannot_read fun read hread => ?_
  rintro ⟨later, hlater⟩
  obtain ⟨none, right, rfl, hnone, hright⟩ := hread.of_seq
  obtain ⟨start, right, rfl, hstart, hright⟩ := hright.of_seq
  obtain ⟨given, right, rfl, hgiven, hright⟩ := hright.of_seq
  obtain ⟨space, right, rfl, hspace, hright⟩ := hright.of_seq
  obtain ⟨sign, right, rfl, hsign, -⟩ := hright.of_seq
  obtain ⟨word, blank, rfl, hword, hblank⟩ := hstart.of_seq
  obtain ⟨first, others, rfl, hfirst, hothers⟩ := hgiven.of_group.of_seq
  obtain ⟨c, hc, rfl⟩ := hfirst.of_char
  obtain rfl := hnone.of_word_boundary
  obtain rfl := hword.of_literal
  obtain rfl : sign = ['='] := hsign.of_literal
  let test (c : Char) : Bool := CharSet.identPart.contains c || isWhiteSpace c
  have hwhite : ∀ {part : Text}, IsBlank part → ∀ c ∈ part, test c = true := fun hpart c hc =>
    Bool.or_eq_true_iff.mpr (Or.inr (hpart c hc))
  have hident : ∀ {part : Text}, (∀ c ∈ part, CharSet.identPart.contains c = true) →
      ∀ c ∈ part, test c = true := fun hpart c hc => Bool.or_eq_true_iff.mpr (Or.inl (hpart c hc))
  have heq : (blank ++ ([c] ++ (others ++ space))) ++ '=' :: (right ++ later) =
      (' ' :: (name.text ++ front)) ++ mark :: tail := by
    simp only [List.nil_append, List.append_assoc] at hlater
    simpa using List.append_cancel_left hlater
  have hleft : ∀ d ∈ blank ++ ([c] ++ (others ++ space)), test d = true := by
    simp only [List.forall_mem_append]
    refine ⟨hwhite hblank.is_blank.2, hident ?_, hident hothers.of_chars.2,
      hwhite hspace.is_blank.2⟩
    rw [List.forall_mem_singleton]
    rcases ident_start_cases hc with hname | rfl
    · simp [CharSet.identPart, CharSet.contains, Text.is_word_char_of_name_char hname]
    · decide
  have hright : ∀ d ∈ ' ' :: (name.text ++ front), test d = true := by
    refine List.forall_mem_cons.mpr ⟨by decide, List.forall_mem_append.mpr
      ⟨hident name.ident_part, fun d hd => ?_⟩⟩
    simpa [test] using hfront d hd
  have hcut := (Text.span_append_inj test hleft hright
    (fun d hd => by obtain rfl : '=' = d := Option.some.inj hd; decide)
    (fun d hd => by obtain rfl : mark = d := Option.some.inj hd; simpa [test] using hmark) heq).2
  exact hne (List.cons.inj hcut).1.symm

/-- The first equals sign is not followed by `require`, or a semicolon comes before it. -/
def Unbound (text : Text) : Prop :=
  ∀ left blank tail, text = left ++ '=' :: (blank ++ ("require".toList ++ tail)) →
    (∀ c ∈ left, c ≠ '=' ∧ c ≠ ';') → IsBlank blank → False

variable {text part code : Text} {c : Char}

/-- A semicolon comes first. -/
theorem unbound_of_end : Unbound (';' :: text) := by
  intro left blank tail heq hleft _
  cases left with
  | nil => cases (List.cons.inj heq).1
  | cons d left =>
      obtain ⟨rfl, -⟩ := List.cons.inj heq
      exact (hleft _ List.mem_cons_self).2 rfl

/-- A character other than an equals sign does not matter. -/
theorem Unbound.cons (h : Unbound text) (hc : c ≠ '=') : Unbound (c :: text) := by
  intro left blank tail heq hleft hblank
  cases left with
  | nil => exact hc (List.cons.inj heq).1
  | cons d left =>
      obtain ⟨-, rfl⟩ := List.cons.inj heq
      exact h left blank tail rfl (fun e he => hleft e (List.mem_cons_of_mem d he)) hblank

/-- Characters other than equals signs do not matter. -/
theorem Unbound.append (h : Unbound text) (hcode : '=' ∉ code) : Unbound (code ++ text) := by
  induction code with
  | nil => exact h
  | cons c code ih =>
      rw [List.mem_cons, not_or] at hcode
      exact (ih hcode.2).cons (Ne.symm hcode.1)

/-- A part without the word `require` does not matter in front of a quote. -/
theorem Unbound.quoted (h : Unbound text) (hpart : ¬"require".toList <:+: part) :
    Unbound (part ++ '\'' :: text) := by
  induction part with
  | nil => exact h.cons (by decide)
  | cons c part ih =>
      have hlater : ¬"require".toList <:+: part := fun hinside =>
        hpart (hinside.trans (List.suffix_cons c part).isInfix)
      intro left blank tail heq hleft hblank
      cases left with
      | cons d left =>
          obtain ⟨-, heq⟩ := List.cons.inj heq
          exact ih hlater left blank tail heq (fun e he => hleft e (List.mem_cons_of_mem d he)) hblank
      | nil =>
          -- What follows the equals sign holds no quote, so it ends before the quote does.
          obtain ⟨-, heq⟩ := List.cons.inj heq
          have hquote : '\'' ∉ blank ++ "require".toList := by
            rw [List.mem_append, not_or]
            refine ⟨fun hmem => ?_, by decide⟩
            have hwhite := hblank _ hmem
            revert hwhite
            decide
          rw [← List.append_assoc] at heq
          rcases List.append_eq_append_iff.mp heq with ⟨middle, hfront, hback⟩ | ⟨middle, hfront, -⟩
          · cases middle with
            | nil => exact hlater ⟨blank, [], by rw [List.append_nil, hfront, List.append_nil]⟩
            | cons d middle =>
                obtain ⟨rfl, -⟩ := List.cons.inj hback
                rw [hfront] at hquote
                exact hquote (by simp)
          · exact hlater ⟨blank, middle, hfront.symm⟩

/-- An unbound text has no match of a bound variable at its start. -/
theorem Unbound.fails (h : Unbound text) : Pattern.Fails Statement.requireBinding text := by
  refine Pattern.fails_of_cannot_read fun read hread => ?_
  rintro ⟨later, rfl⟩
  obtain ⟨word, hword, c, middle, blank, tail, rfl, -, -, hset, hblank⟩ := require_binding_reads hread
  have hwords : ∀ word ∈ bindingWords, ∀ c ∈ word, c ≠ '=' ∧ c ≠ ';' := by decide
  refine h (word ++ c :: middle) blank (tail ++ later) (by simp) ?_ hblank
  exact List.forall_mem_append.mpr ⟨hwords word hword, hset⟩

/-- Code without an equals sign is missed in front of an unbound text. -/
theorem Unbound.misses_code (h : Unbound rest) (hcode : '=' ∉ code) :
    Misses Statement.requireBinding before code rest := by
  intro offset front c back heq
  have hback : '=' ∉ c :: back := fun hmem => hcode (heq ▸ List.mem_append_right front hmem)
  exact Pattern.match_at_of_fails (h.append hback).fails

/-- A specifier in quotes is missed in front of an unbound text. -/
theorem Unbound.misses_specifier (h : Unbound rest) (source : Specifier) :
    Misses Statement.requireBinding before source.quoted rest := by
  have hrequire : ¬"require".toList <:+: source.text := source.no_word _ (by decide)
  have hquoted : ∀ front back, source.text = front ++ back → Unbound (back ++ '\'' :: rest) :=
    fun front back heq => h.quoted fun hinside =>
      hrequire (hinside.trans (heq ▸ List.suffix_append front back).isInfix)
  refine Pattern.misses_cons (fun offset => ?_) (Misses.append ?_ (h.misses_code (by decide)))
  · rw [List.append_assoc]
    exact Pattern.match_at_of_fails ((hquoted [] source.text rfl).cons (by decide)).fails
  · intro offset front c back heq
    exact Pattern.match_at_of_fails (hquoted front (c :: back) heq).fails

/-- In front of an unbound text, a specifier in quotes does not matter. -/
theorem Unbound.specifier (h : Unbound rest) (source : Specifier) :
    Unbound (source.quoted ++ rest) := by
  have hunbound := (h.quoted (source.no_word _ (by decide))).cons (c := '\'') (by decide)
  rw [Specifier.quoted]
  simpa using hunbound

/-- A specifier between code without equals signs is missed up to the semicolon. -/
theorem misses_around_specifier {close : Text} (source : Specifier) (hcode : '=' ∉ code)
    (hclose : '=' ∉ close) :
    Misses Statement.requireBinding before (code ++ (source.quoted ++ (close ++ [';']))) rest := by
  have hend : Unbound ([';'] ++ rest) := unbound_of_end
  have hlater : Unbound (close ++ [';'] ++ rest) := by
    rw [List.append_assoc]
    exact hend.append hclose
  have hquoted : Unbound (source.quoted ++ (close ++ [';']) ++ rest) := by
    rw [List.append_assoc]
    exact hlater.specifier source
  exact (hquoted.misses_code hcode).append ((hlater.misses_specifier source).append
    ((hend.misses_code hclose).append (require_binding_led.misses_mark (by decide))))

/-- What binds a name by an import is no variable: only a space stands between it and the equals sign.
-/
theorem name_no_require_binding (name : Name) {tail : Text} :
    Pattern.Fails Statement.requireBinding (name.text ++ ' ' :: '=' :: tail) := by
  refine Pattern.fails_of_cannot_read fun read hread => ?_
  rintro ⟨later, hlater⟩
  obtain ⟨word, hword, c, middle, blank, right, rfl, hc, hne, hset, -⟩ := require_binding_reads hread
  have hspace : isNameChar c = false := by
    by_contra hname
    rw [Text.not_white_space_of_name_char (by simpa using hname)] at hc
    cases hc
  have heq : word ++ c :: (middle ++ '=' :: (blank ++ ("require".toList ++ right) ++ later)) =
      name.text ++ ' ' :: '=' :: tail := by
    simpa using hlater
  obtain ⟨-, hcut⟩ := Text.name_append_inj (require_binding_led.is_name word hword) name.is_name
    (by simpa using hspace) (fun d hd => by obtain rfl : ' ' = d := Option.some.inj hd; decide) heq
  obtain ⟨-, hcut⟩ := List.cons.inj hcut
  obtain ⟨d, middle, rfl⟩ := List.exists_cons_of_ne_nil hne
  exact (hset d (by simp)).1 (List.cons.inj hcut).1

/-- A line of another form binds no variable. -/
theorem Line.misses_require_binding (line : Line) (hform : line.form ≠ .requireBinding) :
    Misses Statement.requireBinding before (line.text ++ [';']) rest := by
  have hclause : ∀ {part : Text}, (∀ c ∈ part, isClauseChar c = true) → '=' ∉ part :=
    fun hpart hmem => ne_of_part_char (hpart _ hmem) (by decide : isClauseChar '=' = false) rfl
  have hplain : ∀ (code : Text) (source : Specifier), '=' ∉ code →
      line.text = code ++ source.quoted →
      Misses Statement.requireBinding before (line.text ++ [';']) rest := by
    intro code source hcode htext
    rw [htext, List.append_assoc]
    exact misses_around_specifier source hcode List.not_mem_nil
  cases line with
  | sideEffect source => exact hplain "import ".toList source (by decide) rfl
  | importFrom clause source =>
      refine hplain ("import ".toList ++ clause.text ++ " from ".toList) source ?_ rfl
      simp only [List.mem_append, not_or]
      exact ⟨⟨by decide, hclause clause.clause_chars⟩, by decide⟩
  | importRequire name source =>
      have htext : (Line.importRequire name source).text ++ [';'] = ("import".toList ++ [' ']) ++
          ((name.text ++ [' ']) ++
            '=' :: (" require(".toList ++ (source.quoted ++ ([')'] ++ [';'])))) := by
        have hrequire : " require(".toList = [' '] ++ ("require".toList ++ ['(']) := rfl
        rw [← Line.text_of_pieces]
        unfold Line.pieces Line.head Line.tail Specifier.callPieces Specifier.quoted
        simp only [hrequire, text_of_cons, text_of_nil, Piece.text, List.append_nil,
          List.append_assoc, List.cons_append, List.nil_append]
      have himport : "import".toList ∉ bindingWords := by decide
      rw [htext]
      refine Misses.append
        (require_binding_led.misses_word import_is_name (by decide) fun offset => ?_)
        (Misses.append (require_binding_led.misses_word name.is_name (by decide) fun offset => ?_)
          (Pattern.misses_cons (fun offset => require_binding_led.none_at (by decide) offset)
            (misses_around_specifier source (by decide) (by decide))))
      · by_contra hsome
        exact himport (require_binding_led.word_of_match import_is_name (by decide) hsome).1
      · exact Pattern.match_at_of_fails (name_no_require_binding name)
  | requireBinding binding source => exact absurd rfl hform
  | exportStar source => exact hplain "export * from ".toList source (by decide) rfl
  | exportList first others source =>
      refine hplain ("export ".toList ++ bracesText .byWord first others ++ " from ".toList) source
        ?_ rfl
      simp only [List.mem_append, not_or]
      exact ⟨⟨by decide, hclause (braces_clause_chars _ first others)⟩, by decide⟩

variable {words : List Text} {follow : Char → Bool}

/-- A visible character that may not follow blocks a match after a space. -/
theorem blocks_of_space {tail : Text} (hc : isWhiteSpace c = false) (hfollow : follow c = false) :
    Blocks follow (' ' :: c :: tail) :=
  ⟨[' '], c, tail, rfl, by simp [IsBlank, Text.isWhiteSpace], hc, hfollow⟩

/-- The first character of an import clause blocks a match that it may not follow. -/
theorem Clause.blocks (clause : Clause) (source : Specifier)
    (hfollow : ∀ c, isClauseChar c = true → follow c = false) :
    Blocks follow (' ' :: textOf (Line.importFrom clause source).tail) := by
  obtain ⟨c, tail, htext⟩ : ∃ c tail, clause.text = c :: tail := by
    obtain ⟨c, hlast, -⟩ := clause.ends_visible
    exact List.exists_cons_of_ne_nil (List.ne_nil_of_mem (List.mem_of_getLast? hlast))
  have hvisible : isWhiteSpace c = false := clause.visible c (by rw [htext, List.append_nil]; rfl)
  have hc := clause.clause_chars c (by rw [htext]; exact List.mem_cons_self)
  rw [Line.tail, text_of_append, clause.text_of_pieces, htext]
  exact blocks_of_space hvisible (hfollow c hc)

/-- The first character of a name blocks a match that it may not follow. -/
theorem Name.blocks (name : Name) (source : Specifier)
    (hfollow : ∀ c, isClauseChar c = true → follow c = false) :
    Blocks follow (' ' :: textOf (Line.importRequire name source).tail) := by
  obtain ⟨c, tail, htext, hname, -⟩ := name.exists_head
  have hc : isClauseChar c = true := name.part_chars c (by rw [htext]; exact List.mem_cons_self)
  rw [Line.tail, text_of_cons, Piece.text, htext]
  exact blocks_of_space (Text.not_white_space_of_name_char hname) (hfollow c hc)

variable {word : Text} {pattern : Pattern}

/-- A word other than `require` is apart. -/
theorem apart_of_head (hword : word = "import".toList ∨ word = "export".toList) :
    Apart [word] follow where
  statement other hother := by
    rw [List.mem_singleton.mp hother]
    rcases hword with rfl | rfl <;> decide
  opens hrequire := by
    rw [← List.mem_singleton.mp hrequire] at hword
    exact absurd hword (by decide)

/-- A line with another first word is missed. -/
theorem Line.misses_of_head (line : Line) (hled : Led [word] follow pattern)
    (hword : word = "import".toList ∨ word = "export".toList)
    (hhead : line.head ≠ word) : Misses pattern before (line.text ++ [';']) rest := by
  refine line.misses_of_free hled (apart_of_head hword) (Or.inr ?_) (Or.inl (by simpa using hhead))
  rw [List.mem_singleton]
  rintro rfl
  exact absurd hword (by decide)

/-- A line is missed if what follows its first word blocks the match. -/
theorem Line.misses_of_blocks (line : Line) (hled : Led [word] follow pattern)
    (hword : word = "import".toList ∨ word = "export".toList)
    (hblocks : Blocks follow (' ' :: textOf line.tail)) :
    Misses pattern before (line.text ++ [';']) rest := by
  refine line.misses_of_free hled (apart_of_head hword) (Or.inr ?_) (Or.inr hblocks)
  rw [List.mem_singleton]
  rintro rfl
  exact absurd hword (by decide)

/-- A line that is no import is missed by a pattern led by `import`. -/
theorem Line.misses_of_no_import (line : Line) (hled : Led ["import".toList] follow pattern)
    (hform : line.form ∈ [Form.requireBinding, .exportStar, .exportList]) :
    Misses pattern before (line.text ++ [';']) rest := by
  have hconst : "const".toList ≠ "import".toList := by decide
  have hexport : "export".toList ≠ "import".toList := by decide
  refine line.misses_of_head hled (Or.inl rfl) ?_
  cases line with
  | requireBinding _ _ => exact hconst
  | exportStar _ | exportList _ _ _ => exact hexport
  | _ => rw [Line.form] at hform; exact absurd hform (by decide)

/-- A line of another form is no import with bindings. -/
theorem Line.misses_import_from (line : Line) (hform : line.form ≠ .importFrom) :
    Misses Statement.importFrom before (line.text ++ [';']) rest := by
  cases line with
  | sideEffect source =>
      exact Line.misses_of_blocks _ import_from_led (Or.inl rfl)
        (blocks_of_space (by decide) (by decide))
  | importFrom clause source => exact absurd rfl hform
  | importRequire name source =>
      exact Line.misses_of_fails _ import_from_led (apart_of_head (Or.inl rfl)) (Or.inr (by decide))
        (import_require_no_import_from name source)
  | requireBinding binding source =>
      exact Line.misses_of_no_import _ import_from_led (by simp [Line.form])
  | exportStar source =>
      exact Line.misses_of_no_import _ import_from_led (by simp [Line.form])
  | exportList first others source =>
      exact Line.misses_of_no_import _ import_from_led (by simp [Line.form])

/-- A line of another form is no import for its side effects. -/
theorem Line.misses_side_effect (line : Line) (hform : line.form ≠ .sideEffect) :
    Misses Statement.importSideEffect before (line.text ++ [';']) rest := by
  have hquote : ∀ c, isClauseChar c = true → (CharSet.ofString "'\"").contains c = false := by
    intro c hc
    rw [Bool.eq_false_iff]
    intro hquote
    rcases quote_cases hquote with rfl | rfl <;> exact absurd hc (by decide)
  cases line with
  | sideEffect source => exact absurd rfl hform
  | importFrom clause source =>
      exact Line.misses_of_blocks _ side_effect_led (Or.inl rfl) (clause.blocks source hquote)
  | importRequire name source =>
      exact Line.misses_of_blocks _ side_effect_led (Or.inl rfl) (name.blocks source hquote)
  | requireBinding binding source =>
      exact Line.misses_of_no_import _ side_effect_led (by simp [Line.form])
  | exportStar source =>
      exact Line.misses_of_no_import _ side_effect_led (by simp [Line.form])
  | exportList first others source =>
      exact Line.misses_of_no_import _ side_effect_led (by simp [Line.form])

/-- No line is an import expression. -/
theorem Line.misses_import_call (line : Line) :
    Misses Statement.importCall before (line.text ++ [';']) rest := by
  have hopen : ∀ c, isClauseChar c = true → (c == '(') = false := fun c hc =>
    beq_eq_false_iff_ne.mpr (ne_of_part_char hc (by decide))
  cases line with
  | sideEffect source =>
      exact Line.misses_of_blocks _ import_call_led (Or.inl rfl)
        (blocks_of_space (by decide) (by decide))
  | importFrom clause source =>
      exact Line.misses_of_blocks _ import_call_led (Or.inl rfl) (clause.blocks source hopen)
  | importRequire name source =>
      exact Line.misses_of_blocks _ import_call_led (Or.inl rfl) (name.blocks source hopen)
  | requireBinding binding source =>
      exact Line.misses_of_no_import _ import_call_led (by simp [Line.form])
  | exportStar source =>
      exact Line.misses_of_no_import _ import_call_led (by simp [Line.form])
  | exportList first others source =>
      exact Line.misses_of_no_import _ import_call_led (by simp [Line.form])

/-- A line of another form is no import by assignment. -/
theorem Line.misses_import_require (line : Line) (hform : line.form ≠ .importRequire) :
    Misses Statement.importRequire before (line.text ++ [';']) rest := by
  cases line with
  | sideEffect source =>
      exact Line.misses_of_blocks _ import_require_led (Or.inl rfl)
        (blocks_of_space (by decide) (by decide))
  | importFrom clause source =>
      have hnamed : ∀ (name : Name) (front : Text) (mark : Char) (tail : Text),
          textOf (Line.importFrom clause source).tail ++ rest = name.text ++ (front ++ mark :: tail) →
          (∀ c ∈ front, CharSet.identPart.contains c = true ∨ isWhiteSpace c = true) →
          CharSet.identPart.contains mark = false ∧ isWhiteSpace mark = false → mark ≠ '=' →
          Misses Statement.importRequire before ((Line.importFrom clause source).text ++ [';'])
            rest := by
        intro name front mark tail htext hfront hmark hne
        refine Line.misses_of_fails _ import_require_led (apart_of_head (Or.inl rfl))
          (Or.inr (by decide)) ?_
        rw [htext]
        exact import_from_no_import_require name hfront hmark hne
      cases clause with
      | default name =>
          refine hnamed name " from ".toList '\'' (source.text ++ '\'' :: ';' :: rest) ?_ (by decide)
            (by decide) (by decide)
          have hfrom : " from ".toList = [' '] ++ ("from".toList ++ [' ']) := rfl
          unfold Line.tail Clause.pieces Specifier.fromPieces
          simp only [hfrom, text_of_cons, text_of_nil, Piece.text, List.append_nil,
            List.append_assoc, List.cons_append, List.nil_append]
      | whole name =>
          exact Line.misses_of_blocks _ import_require_led (Or.inl rfl)
            (blocks_of_space (c := '*') (by decide) (by decide))
      | named first others =>
          exact Line.misses_of_blocks _ import_require_led (Or.inl rfl)
            (blocks_of_space (c := '{') (by decide) (by decide))
      | defaultNamed name first others =>
          exact hnamed name [] ',' _ (by simp [Line.tail, Clause.pieces, Piece.text]; rfl) (by simp)
            (by decide) (by decide)
      | defaultWhole name other =>
          exact hnamed name [] ',' _ (by simp [Line.tail, Clause.pieces, Piece.text]; rfl) (by simp)
            (by decide) (by decide)
  | importRequire name source => exact absurd rfl hform
  | requireBinding binding source =>
      exact Line.misses_of_no_import _ import_require_led (by simp [Line.form])
  | exportStar source =>
      exact Line.misses_of_no_import _ import_require_led (by simp [Line.form])
  | exportList first others source =>
      exact Line.misses_of_no_import _ import_require_led (by simp [Line.form])

/-- A line is missed by a pattern led by `export` if that cannot go on as the line does. -/
theorem Line.misses_export (line : Line) (hled : Led ["export".toList] follow pattern)
    (hstar : line.form = .exportStar → follow '*' = false)
    (hlist : line.form = .exportList → follow '{' = false) :
    Misses pattern before (line.text ++ [';']) rest := by
  have hother : line.head ≠ "export".toList → Misses pattern before (line.text ++ [';']) rest :=
    line.misses_of_head hled (Or.inr rfl)
  have himport : "import".toList ≠ "export".toList := by decide
  have hconst : "const".toList ≠ "export".toList := by decide
  cases line with
  | sideEffect _ | importFrom _ _ | importRequire _ _ => exact hother himport
  | requireBinding _ _ => exact hother hconst
  | exportStar source =>
      exact Line.misses_of_blocks _ hled (Or.inr rfl) (blocks_of_space (by decide) (hstar rfl))
  | exportList first others source =>
      exact Line.misses_of_blocks _ hled (Or.inr rfl) (blocks_of_space (by decide) (hlist rfl))

/-- A line is missed by the pattern of every other form but that of bare calls. -/
theorem Line.misses (line : Line) {form : Form} (hform : line.form ≠ form)
    (hbare : form ≠ .bareRequire) : Misses form.pattern before (line.text ++ [';']) rest := by
  cases form with
  | importFrom => exact line.misses_import_from hform
  | sideEffect => exact line.misses_side_effect hform
  | importRequire => exact line.misses_import_require hform
  | requireBinding => exact line.misses_require_binding hform
  | bareRequire => exact absurd rfl hbare
  | importCall => exact line.misses_import_call
  | exportStar => exact line.misses_export export_star_led (fun h => absurd h hform) fun _ => rfl
  | exportList => exact line.misses_export export_list_led (fun _ => rfl) fun h => absurd h hform

end Line

end CodeAtlas.Module
