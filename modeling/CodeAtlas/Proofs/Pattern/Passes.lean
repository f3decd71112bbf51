import CodeAtlas.Proofs.Pattern.Reads

/-!
# What a pattern reads first

Where matching prefers one way over the others, `Reads` is not enough. `Passes` says that a pattern
reads a given part: whatever can go on after that part is what matching goes on with. The rules below
follow the syntax of patterns; a greedy repetition of characters reads as many as there are, a lazy
one as few as what comes next lets it (`passes_lazy`). `Fails` says that a pattern matches in no way;
most failures follow from what it could read at all (`fails_of_cannot_read`).
-/

namespace CodeAtlas.Pattern

open Text (Cursor byteLength)

/-- A pattern reads `read` where `rest` follows and records groups, newest first: matching goes on
with whatever can go on there. -/
def Passes (pattern : Pattern) (before : Option Char) (offset : Nat) (read rest : Text)
    (newer : Groups) : Prop :=
  ∀ (α : Type) (groups : Groups) (next : Continuation α) (result : α),
    next ⟨read.getLast?.or before, offset + byteLength read, rest⟩ (newer ++ groups) = some result →
      run pattern ⟨before, offset, read ++ rest⟩ groups next = some result

/-- A pattern matches in no way at the start of what a cursor has left. -/
def Fails (pattern : Pattern) (rest : Text) : Prop :=
  ∀ (α : Type) (before : Option Char) (offset : Nat) (groups : Groups) (next : Continuation α),
    run pattern ⟨before, offset, rest⟩ groups next = none

section Passes

variable {first second body pattern : Pattern} {set : CharSet} {before : Option Char}
  {offset number least : Nat} {most : Option Nat} {read left right rest clause : Text}
  {newer older groups : Groups} {c : Char}

/-- One character of a set is read. -/
theorem passes_char (hc : set.contains c = true) : Passes (.char set) before offset [c] rest [] := by
  intro α groups next result h
  rw [run, List.singleton_append]
  simp only [hc, if_true]
  exact h

/-- One pattern reads what it reads, then another. -/
theorem Passes.seq (hfirst : Passes first before offset left (right ++ rest) older)
    (hsecond : Passes second (left.getLast?.or before) (offset + byteLength left) right rest newer) :
    Passes (.seq first second) before offset (left ++ right) rest (newer ++ older) := by
  intro α groups next result h
  rw [run, List.append_assoc]
  refine hfirst α groups _ result (hsecond α _ _ result ?_)
  rwa [← Text.last_append, Nat.add_assoc, ← Text.byte_length_append, ← List.append_assoc]

/-- What is read and recorded may be written in another way. -/
theorem Passes.cast {other : Text} {others : Groups}
    (h : Passes pattern before offset read rest newer) (hread : other = read)
    (hgroups : others = newer) : Passes pattern before offset other rest others := by
  rw [hread, hgroups]
  exact h

/-- The first of two patterns reads what it reads. -/
theorem Passes.alt_first (h : Passes first before offset read rest newer) :
    Passes (.alt first second) before offset read rest newer := by
  intro α groups next result hnext
  rw [run, h α groups next result hnext]
  rfl

/-- The second of two patterns reads what it reads where the first one fails. -/
theorem Passes.alt_second (hfirst : Fails first (read ++ rest))
    (h : Passes second before offset read rest newer) :
    Passes (.alt first second) before offset read rest newer := by
  intro α groups next result hnext
  rw [run, hfirst]
  exact h α groups next result hnext

/-- A group is recorded. -/
theorem Passes.group (h : Passes body before offset read rest newer) :
    Passes (.group number body) before offset read rest
      ((number, offset, offset + byteLength read) :: newer) := by
  intro α groups next result hnext
  rw [run]
  exact h α groups _ result hnext

/-- A word boundary is passed where there is one. -/
theorem passes_word_boundary (h : atWordBoundary ⟨before, offset, rest⟩ = true) :
    Passes .wordBoundary before offset [] rest [] := by
  intro α groups next result hnext
  rw [run, assert, List.nil_append, if_pos h]
  exact hnext

/-- A pattern reads what it reads after a word boundary. -/
theorem Passes.after_boundary (hboundary : atWordBoundary ⟨before, offset, read ++ rest⟩ = true)
    (h : Passes pattern before offset read rest newer) :
    Passes (.seq .wordBoundary pattern) before offset read rest newer := by
  have hnone : Passes .wordBoundary before offset [] (read ++ rest) [] :=
    passes_word_boundary hboundary
  simpa using hnone.seq h

/-- The characters of a list one after another are read. -/
theorem passes_chars_of_list (chars rest : Text) (before : Option Char) (offset : Nat) :
    Passes (sequence (chars.map fun c => char (.one c))) before offset chars rest [] := by
  induction chars generalizing before offset with
  | nil => exact fun α groups next result h => h
  | cons c chars ih =>
      have hone : Passes (char (.one c)) before offset [c] (chars ++ rest) [] :=
        passes_char (by simp [CharSet.contains])
      cases chars with
      | nil => exact hone
      | cons d chars => exact hone.seq (ih _ _)

/-- The characters of a string are read. -/
theorem passes_literal (text : String) (rest : Text) :
    Passes (literal text) before offset text.toList rest [] :=
  passes_chars_of_list _ _ _ _

/-- Rounds of one character read as many characters. -/
theorem exactly_chars {α : Type} (hread : ∀ c ∈ read, set.contains c = true)
    (next : Continuation α) :
    exactly (run (.char set)) read.length ⟨before, offset, read ++ rest⟩ groups next =
      next ⟨read.getLast?.or before, offset + byteLength read, rest⟩ groups := by
  induction read generalizing before offset with
  | nil => rfl
  | cons c read ih =>
      rw [List.length_cons, exactly, run, List.cons_append]
      simp only [hread c List.mem_cons_self, if_true]
      rw [ih fun d hd => hread d (List.mem_cons_of_mem c hd), Text.last_cons, byteLength, Nat.add_assoc]

/-- A greedy repetition of characters goes on after as many as there are. -/
theorem at_most_chars {α : Type} (hread : ∀ c ∈ read, set.contains c = true)
    (hrest : ∀ c, rest.head? = some c → set.contains c = false) {count : Nat}
    (hcount : read.length ≤ count) {next : Continuation α} {result : α}
    (h : next ⟨read.getLast?.or before, offset + byteLength read, rest⟩ groups = some result) :
    atMost false (run (.char set)) count ⟨before, offset, read ++ rest⟩ groups next =
      some result := by
  induction read generalizing before offset count with
  | nil =>
      cases count with
      | zero => exact h
      | succ n =>
          rw [atMost, List.nil_append, run]
          cases rest with
          | nil => exact h
          | cons c rest =>
              simp only [hrest c rfl, Bool.false_eq_true, if_false]
              exact h
  | cons c read ih =>
      cases count with
      | zero => simp at hcount
      | succ n =>
          have hpos := Char.utf8Size_pos c
          rw [atMost, List.cons_append, run]
          simp only [hread c List.mem_cons_self, if_true, Bool.false_eq_true, if_false]
          rw [if_neg (by omega), ih fun d hd => hread d (List.mem_cons_of_mem c hd)]
          · rfl
          · simpa using hcount
          · rwa [Text.last_cons, byteLength, ← Nat.add_assoc] at h

/-- A greedy repetition of characters reads as many as there are. -/
theorem passes_chars (hread : ∀ c ∈ read, set.contains c = true) (hleast : least ≤ read.length)
    (hrest : ∀ c, rest.head? = some c → set.contains c = false) :
    Passes (.rounds false least none (.char set)) before offset read rest [] := by
  intro α groups next result h
  obtain ⟨left, right, rfl, rfl⟩ : ∃ left right, read = left ++ right ∧ left.length = least :=
    ⟨read.take least, read.drop least, by simp, by simp [hleast]⟩
  rw [Text.last_append, Text.byte_length_append, ← Nat.add_assoc, List.nil_append] at h
  rw [run, List.append_assoc,
    exactly_chars fun c hc => hread c (List.mem_append_left _ hc)]
  refine at_most_chars (fun c hc => hread c (List.mem_append_right _ hc)) hrest ?_ h
  simp

/-- A repetition goes on where it is if its body fails there. -/
theorem at_most_of_fails {α : Type} (h : Fails body rest) (count : Nat) (next : Continuation α) :
    atMost false (run body) count ⟨before, offset, rest⟩ groups next =
      next ⟨before, offset, rest⟩ groups := by
  cases count with
  | zero => rfl
  | succ n =>
      rw [atMost, if_neg Bool.false_ne_true]
      rw [h]
      rfl

/-- A repetition goes round once if its body fails afterwards, or once is all it may. -/
theorem at_most_once {α : Type} (h : Passes body before offset read rest newer) (hne : read ≠ [])
    {count : Nat} (hrest : count = 0 ∨ Fails body rest) {next : Continuation α} {result : α}
    (hnext : next ⟨read.getLast?.or before, offset + byteLength read, rest⟩ (newer ++ groups) =
      some result) :
    atMost false (run body) (count + 1) ⟨before, offset, read ++ rest⟩ groups next =
      some result := by
  have hpos : byteLength read ≠ 0 := fun hzero => hne (Text.byte_length_eq_zero.mp hzero)
  rw [atMost, if_neg Bool.false_ne_true]
  rw [h α groups _ result]
  · rfl
  · dsimp only
    rw [if_neg (by omega)]
    rcases hrest with rfl | hfails
    · exact hnext
    · rw [at_most_of_fails hfails]
      exact hnext

/-- A pattern that may be left out reads what it reads. -/
theorem Passes.optional (h : Passes body before offset read rest newer) (hne : read ≠ []) :
    Passes (optional body) before offset read rest newer := by
  intro α groups next result hnext
  have hbound : min (1 - 0) (read ++ rest).length = 0 + 1 := by
    have hpos := List.length_pos_iff.mpr hne
    simp only [List.length_append]
    omega
  rw [Pattern.optional, run, exactly]
  dsimp only
  rw [hbound]
  exact at_most_once h hne (Or.inl rfl) hnext

/-- A repetition that need not go round is passed over where its body fails. -/
theorem passes_no_round (h : Fails body rest) :
    Passes (.rounds false 0 most body) before offset [] rest [] := by
  intro α groups next result hnext
  rw [run, exactly, List.nil_append, at_most_of_fails h]
  exact hnext

/-- A repetition goes round once where its body fails afterwards. -/
theorem Passes.one_round (h : Passes body before offset read rest newer) (hne : read ≠ [])
    (hrest : Fails body rest) : Passes (many body) before offset read rest newer := by
  intro α groups next result hnext
  obtain ⟨c, tail, rfl⟩ := List.exists_cons_of_ne_nil hne
  rw [many, run, exactly]
  exact at_most_once h hne (Or.inr hrest) hnext

/-- A lazy repetition of characters goes on after as few as what comes next lets it. -/
theorem at_most_lazy {α : Type} (hclause : ∀ c ∈ clause, set.contains c = true) {count : Nat}
    (hcount : clause.length ≤ count) {next : Continuation α} {result : α}
    (hearly : ∀ front back, clause = front ++ back → back ≠ [] → ∀ before offset,
      next ⟨before, offset, back ++ rest⟩ groups = none)
    (h : next ⟨clause.getLast?.or before, offset + byteLength clause, rest⟩ groups = some result) :
    atMost true (run (.char set)) count ⟨before, offset, clause ++ rest⟩ groups next =
      some result := by
  induction clause generalizing before offset count with
  | nil =>
      cases count with
      | zero => exact h
      | succ n =>
          rw [atMost, if_pos rfl, List.nil_append]
          rw [List.getLast?_nil, Option.none_or, byteLength, Nat.add_zero] at h
          rw [h]
          rfl
  | cons c clause ih =>
      cases count with
      | zero => simp at hcount
      | succ n =>
          have hpos := Char.utf8Size_pos c
          rw [atMost, if_pos rfl, hearly [] (c :: clause) rfl (List.cons_ne_nil _ _), List.cons_append,
            run]
          simp only [hclause c List.mem_cons_self, if_true]
          show (if offset + c.utf8Size = offset then none else _) = some result
          rw [if_neg (by omega)]
          refine ih (fun d hd => hclause d (List.mem_cons_of_mem c hd)) (by simpa using hcount) ?_ ?_
          · intro front back heq
            exact hearly (c :: front) back (by rw [heq, List.cons_append])
          · rwa [Text.last_cons, byteLength, ← Nat.add_assoc] at h

/-- A lazy group of characters reads as few as what comes next lets it. -/
theorem passes_lazy (hclause : ∀ c ∈ clause, set.contains c = true)
    (hleast : least ≤ clause.length)
    (hearly : ∀ front back, clause = front ++ back → least ≤ front.length → back ≠ [] →
      Fails second (back ++ (right ++ rest)))
    (hsecond : Passes second (clause.getLast?.or before) (offset + byteLength clause) right rest
      newer) :
    Passes (.seq (.group number (.rounds true least none (.char set))) second) before offset
      (clause ++ right) rest (newer ++ [(number, offset, offset + byteLength clause)]) := by
  intro α groups next result h
  obtain ⟨front, back, rfl, rfl⟩ : ∃ front back, clause = front ++ back ∧ front.length = least :=
    ⟨clause.take least, clause.drop least, by simp, by simp [hleast]⟩
  rw [run, run, run, List.append_assoc, List.append_assoc,
    exactly_chars fun c hc => hclause c (List.mem_append_left _ hc)]
  refine at_most_lazy (fun c hc => hclause c (List.mem_append_right _ hc)) (by simp) ?_ ?_
  · intro middle later heq hne before offset
    exact hearly (front ++ middle) later (by rw [heq, List.append_assoc]) (by simp) hne α _ _ _ _
  · rw [← Text.last_append, Nat.add_assoc, ← Text.byte_length_append]
    refine hsecond α _ next result ?_
    rwa [Text.last_append, Text.byte_length_append, ← Nat.add_assoc, List.append_assoc] at h

end Passes

/-- A pattern can read a text, whatever stands around it. -/
def CanRead (pattern : Pattern) (read : Text) : Prop :=
  ∃ offset groups, Reads pattern offset read groups

/-- Whether some match may read a text that starts with a character. -/
def mayStart (c : Char) : Pattern → Bool
  | .char set => set.contains c
  | .seq first second => first.mayStart c || (!first.readsSome && second.mayStart c)
  | .alt first second => first.mayStart c || second.mayStart c
  | .rounds _ _ _ body => body.mayStart c
  | .group _ body => body.mayStart c
  | _ => false

section CanRead

variable {first second body pattern : Pattern} {set : CharSet} {lazy : Bool} {number least : Nat}
  {most : Option Nat} {read rest tail : Text} {c d : Char} {text : String}

/-- What two patterns read one after another. -/
theorem CanRead.of_seq (h : CanRead (.seq first second) read) :
    ∃ left right, read = left ++ right ∧ CanRead first left ∧ CanRead second right := by
  obtain ⟨offset, groups, h⟩ := h
  cases h with
  | seq hfirst hsecond => exact ⟨_, _, rfl, ⟨_, _, hfirst⟩, _, _, hsecond⟩
  | assertion h => cases h

/-- What one of two patterns reads. -/
theorem CanRead.of_alt (h : CanRead (.alt first second) read) :
    CanRead first read ∨ CanRead second read := by
  obtain ⟨offset, groups, h⟩ := h
  cases h with
  | first h => exact Or.inl ⟨_, _, h⟩
  | second h => exact Or.inr ⟨_, _, h⟩
  | assertion h => cases h

/-- What a group reads. -/
theorem CanRead.of_group (h : CanRead (.group number body) read) : CanRead body read := by
  obtain ⟨offset, groups, h⟩ := h
  cases h with
  | group h => exact ⟨_, _, h⟩
  | assertion h => cases h

/-- What one character of a set reads. -/
theorem CanRead.of_char (h : CanRead (.char set) read) : ∃ c, set.contains c = true ∧ read = [c] := by
  obtain ⟨offset, groups, h⟩ := h
  cases h with
  | char hc => exact ⟨_, hc, rfl⟩
  | assertion h => cases h

/-- A word boundary reads nothing. -/
theorem CanRead.of_word_boundary (h : CanRead .wordBoundary read) : read = [] := by
  obtain ⟨offset, groups, h⟩ := h
  cases h
  rfl

/-- What a pattern reads after a word boundary. -/
theorem CanRead.after_boundary (h : CanRead pattern read) :
    CanRead (.seq .wordBoundary pattern) read := by
  obtain ⟨offset, groups, h⟩ := h
  have hboundary : Reads .wordBoundary offset [] [] := .assertion rfl
  exact ⟨offset, groups ++ [], hboundary.seq h⟩

/-- What the characters of a string read. -/
theorem CanRead.of_literal (h : CanRead (literal text) read) : read = text.toList := by
  obtain ⟨offset, groups, h⟩ := h
  exact h.literal_eq

/-- What a repetition reads, round by round. -/
theorem CanRead.of_rounds (h : CanRead (.rounds lazy least most body) read) :
    (least = 0 ∧ read = []) ∨ ∃ left right, read = left ++ right ∧ CanRead body left ∧
      CanRead (.rounds lazy (least - 1) most body) right := by
  obtain ⟨offset, groups, h⟩ := h
  cases h with
  | enough => exact Or.inl ⟨rfl, rfl⟩
  | again hbody hlater => exact Or.inr ⟨_, _, rfl, ⟨_, _, hbody⟩, _, _, hlater⟩
  | assertion h => cases h

/-- What a repetition of characters reads. -/
theorem CanRead.of_chars (h : CanRead (.rounds lazy least most (.char set)) read) :
    least ≤ read.length ∧ ∀ c ∈ read, set.contains c = true := by
  obtain ⟨offset, groups, h⟩ := h
  generalize hpattern : Pattern.rounds lazy least most (.char set) = pattern at h
  induction h generalizing least with
  | enough => cases hpattern; exact ⟨Nat.le_refl _, by simp⟩
  | again hbody _ _ hlater =>
      cases hpattern
      obtain ⟨hlength, hright⟩ := hlater rfl
      obtain ⟨c, hc, rfl⟩ := CanRead.of_char ⟨_, _, hbody⟩
      refine ⟨?_, List.forall_mem_cons.mpr ⟨hc, hright⟩⟩
      rw [List.length_append, List.length_singleton]
      omega
  | assertion h => cases hpattern; cases h
  | _ => cases hpattern

/-- A pattern that reads something reads a text that is not empty. -/
theorem CanRead.ne_nil (h : CanRead pattern read) (hsome : pattern.readsSome = true) : read ≠ [] := by
  obtain ⟨offset, groups, h⟩ := h
  exact h.ne_nil hsome

/-- A pattern that never reads a character reads texts without it. -/
theorem CanRead.not_mem (h : CanRead pattern read) (hno : pattern.readsNo c = true) : c ∉ read := by
  obtain ⟨offset, groups, h⟩ := h
  exact h.not_mem hno

/-- What a pattern reads starts with a character that it may start with. -/
theorem CanRead.may_start (h : CanRead pattern (c :: rest)) : pattern.mayStart c = true := by
  obtain ⟨offset, groups, h⟩ := h
  generalize htext : c :: rest = read at h
  induction h generalizing rest with
  | empty => cases htext
  | char hc =>
      obtain ⟨rfl, -⟩ := List.cons.inj htext
      exact hc
  | @seq first second _ left right _ _ hread _ hfirst hsecond =>
      rw [mayStart, Bool.or_eq_true, Bool.and_eq_true]
      cases left with
      | nil =>
          refine Or.inr ⟨?_, hsecond htext⟩
          rw [Bool.not_eq_true', Bool.eq_false_iff]
          exact fun hsome => hread.ne_nil hsome rfl
      | cons d left =>
          obtain ⟨rfl, -⟩ := List.cons.inj htext
          exact Or.inl (hfirst rfl)
  | first _ ih => exact Bool.or_eq_true_iff.mpr (Or.inl (ih htext))
  | second _ ih => exact Bool.or_eq_true_iff.mpr (Or.inr (ih htext))
  | enough => cases htext
  | @again _ _ _ body _ left right _ _ _ _ hbody hlater =>
      cases left with
      | nil => exact hlater htext
      | cons d left =>
          obtain ⟨rfl, -⟩ := List.cons.inj htext
          exact hbody rfl
  | group _ ih => exact ih htext
  | assertion _ => cases htext

/-- A pattern fails where nothing that it can read stands. -/
theorem fails_of_cannot_read (h : ∀ read, CanRead pattern read → ¬read <+: rest) :
    Fails pattern rest := by
  intro α before offset groups next
  by_contra hsome
  obtain ⟨result, hresult⟩ := Option.ne_none_iff_exists'.mp hsome
  obtain ⟨read, newer, -, after, hrest, hread, -⟩ := run_goes_on pattern _ _ _ _ hresult
  exact h read ⟨_, _, hread⟩ ⟨after, hrest.symm⟩

/-- A pattern that reads something fails before a character that it may not start with. -/
theorem fails_of_may_start (hsome : pattern.readsSome = true) (hc : pattern.mayStart c = false) :
    Fails pattern (c :: rest) := by
  refine fails_of_cannot_read fun read hread hprefix => ?_
  obtain ⟨d, tail, rfl⟩ := List.exists_cons_of_ne_nil (hread.ne_nil hsome)
  obtain ⟨rfl, -⟩ := List.cons_prefix_cons.mp hprefix
  have hstart := hread.may_start
  rw [hc] at hstart
  cases hstart

/-- A pattern that reads something fails at the end. -/
theorem fails_nil (hsome : pattern.readsSome = true) : Fails pattern [] := by
  refine fails_of_cannot_read fun read hread hprefix => ?_
  exact hread.ne_nil hsome (List.prefix_nil.mp hprefix)

end CanRead

section Match

variable {pattern : Pattern} {before : Option Char} {offset : Nat} {read rest : Text} {groups : Groups}

/-- The match of a pattern that reads a part. -/
theorem match_at_of_passes (h : Passes pattern before offset read rest groups) :
    matchAt? pattern ⟨before, offset, read ++ rest⟩ =
      some (⟨offset, offset + byteLength read, groups⟩,
        ⟨read.getLast?.or before, offset + byteLength read, rest⟩) := by
  refine h _ [] _ _ ?_
  rw [List.append_nil]

/-- A pattern that fails has no match. -/
theorem match_at_of_fails (h : Fails pattern rest) :
    matchAt? pattern ⟨before, offset, rest⟩ = none :=
  h _ _ _ _ _

/-- The match of a pattern that reads the front of a text. -/
theorem match_start_of_passes (h : Passes pattern none 0 read rest groups) :
    matchStart? pattern (read ++ rest) = some ⟨0, byteLength read, groups⟩ := by
  rw [matchStart?, Cursor.start, match_at_of_passes h, Nat.zero_add]
  rfl

/-- A pattern that fails at the start of a text has no match there. -/
theorem match_start_of_fails (h : Fails pattern rest) : matchStart? pattern rest = none := by
  rw [matchStart?, Cursor.start, match_at_of_fails h]
  rfl

end Match

end CodeAtlas.Pattern
