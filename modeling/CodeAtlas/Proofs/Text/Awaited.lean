import CodeAtlas.Proofs.Text.Nested

/-!
# Brackets read with the closers that are awaited

A reader of brackets goes over a text with the closers that are awaited, innermost first. `Brackets` says
which characters it takes for brackets: in code these are round, square and curly ones, in types angle
brackets too. `Brackets.Steps` says what one character does to the closers, and whatever counts brackets is
held to it character by character. A block that is open ends with the closer that was awaited for it
(`Brackets.exists_block`), and that is the one that pairing finds (`Brackets.matching_of_balanced`), as
long as no character like it stands in the block without closing anything (`Brackets.ClosesEach`).
-/

namespace CodeAtlas.Text

/-- What a reader takes for brackets: the closer that an opening one awaits, and whether a character closes
one, given the character before it. -/
structure Brackets where
  closer? : Char → Option Char
  closes : (before : Option Char) → Char → Bool
  pairs {c closer : Char} : closer? c = some closer → (c, closer) ∈ bracketPairs
  closing {before : Option Char} {c : Char} : closes before c = true → c ∈ bracketPairs.map (·.2)

namespace Brackets

/-- The closers that are awaited after a text, if each bracket in it closes the last one that is open.
-/
def awaitedAfter? (brackets : Brackets) :
    (awaited : List Char) → (before : Option Char) → Text → Option (List Char)
  | awaited, _, [] => some awaited
  | awaited, before, c :: rest =>
    match brackets.closer? c with
    | some closer => awaitedAfter? brackets (closer :: awaited) (some c) rest
    | none =>
      if brackets.closes before c then
        if awaited.head? = some c then awaitedAfter? brackets awaited.tail (some c) rest else none
      else awaitedAfter? brackets awaited (some c) rest

/-- What one character does to the closers that are awaited. -/
inductive Steps (brackets : Brackets) (awaited : List Char) (before : Option Char) (c : Char) :
    List Char → Prop
  | opens {closer : Char} (h : brackets.closer? c = some closer) :
      Steps brackets awaited before c (closer :: awaited)
  | closes {later : List Char} (h : brackets.closes before c = true) (hawaited : awaited = c :: later) :
      Steps brackets awaited before c later
  | other (hopen : brackets.closer? c = none) (hclose : brackets.closes before c = false) :
      Steps brackets awaited before c awaited

/-- Wherever a character stands in a text, it closes a bracket. -/
def ClosesEach (brackets : Brackets) (closer : Char) (before : Option Char) (text : Text) : Prop :=
  ∀ front back, text = front ++ closer :: back →
    brackets.closes (front.getLast?.or before) closer = true

section Read

variable {brackets : Brackets} {awaited later final within outer : List Char}
  {before other : Option Char} {c closer opener : Char} {text front back rest : Text}

/-- What closes a bracket opens none. -/
theorem closer_of_closes (h : brackets.closes before c = true) : brackets.closer? c = none := by
  have hall : ∀ closer ∈ bracketPairs.map (·.2), ∀ pair ∈ bracketPairs, pair.1 ≠ closer := by decide
  by_contra hopen
  obtain ⟨closer, hcloser⟩ := Option.ne_none_iff_exists'.mp hopen
  exact hall c (brackets.closing h) _ (brackets.pairs hcloser) rfl

/-- A text is read character by character. -/
theorem awaited_after_cons :
    brackets.awaitedAfter? awaited before (c :: rest) = some final ↔
      ∃ later, brackets.Steps awaited before c later ∧
        brackets.awaitedAfter? later (some c) rest = some final := by
  rw [awaitedAfter?]
  constructor
  · intro h
    split at h
    · next closer hopen => exact ⟨_, .opens hopen, h⟩
    · next hopen =>
        split at h
        · next hclose =>
            split at h
            · next hhead =>
                obtain ⟨later, rfl⟩ := List.head?_eq_some_iff.mp hhead
                exact ⟨later, .closes hclose rfl, h⟩
            · cases h
        · next hclose => exact ⟨awaited, .other hopen (by simpa using hclose), h⟩
  · rintro ⟨later, hsteps, h⟩
    cases hsteps with
    | opens hopen => simpa only [hopen] using h
    | closes hclose hawaited =>
        subst hawaited
        simpa only [closer_of_closes hclose, hclose, if_true, List.head?_cons, List.tail_cons] using h
    | other hopen hclose => simpa only [hopen, hclose, Bool.false_eq_true, if_false] using h

/-- What is read in two goes is read in one. -/
theorem awaited_after_append :
    brackets.awaitedAfter? awaited before (front ++ back) = some final ↔
      ∃ later, brackets.awaitedAfter? awaited before front = some later ∧
        brackets.awaitedAfter? later (front.getLast?.or before) back = some final := by
  induction front generalizing awaited before with
  | nil => simp [awaitedAfter?]
  | cons c front ih =>
      simp only [List.cons_append, awaited_after_cons, ih, last_cons]
      constructor
      · rintro ⟨mid, hsteps, later, hfront, hback⟩
        exact ⟨later, ⟨mid, hsteps, hfront⟩, hback⟩
      · rintro ⟨later, ⟨mid, hsteps, hfront⟩, hback⟩
        exact ⟨mid, hsteps, later, hfront, hback⟩

/-- Of the character before a text only matters what it makes of the first character. -/
theorem awaited_after_congr (h : ∀ c, brackets.closes before c = brackets.closes other c) :
    brackets.awaitedAfter? awaited before text = brackets.awaitedAfter? awaited other text := by
  cases text with
  | nil => rfl
  | cons c rest => rw [awaitedAfter?, awaitedAfter?, h]

/-- Closers that are awaited further out stay so. -/
theorem Steps.frame (h : brackets.Steps awaited before c later) (outer : List Char) :
    brackets.Steps (awaited ++ outer) before c (later ++ outer) := by
  cases h with
  | opens hopen => exact .opens hopen
  | closes hclose hawaited => exact .closes hclose (by rw [hawaited, List.cons_append])
  | other hopen hclose => exact .other hopen hclose

/-- Closers that are awaited further out stay so over a whole text. -/
theorem awaited_after_frame (h : brackets.awaitedAfter? awaited before text = some later)
    (outer : List Char) :
    brackets.awaitedAfter? (awaited ++ outer) before text = some (later ++ outer) := by
  induction text generalizing awaited before with
  | nil => exact congrArg _ (congrArg (· ++ outer) (Option.some.inj h))
  | cons c rest ih =>
      obtain ⟨mid, hsteps, hrest⟩ := awaited_after_cons.mp h
      exact awaited_after_cons.mpr ⟨_, hsteps.frame outer, ih hrest⟩

/-- A text without brackets opens and closes none. -/
theorem awaited_after_flat (h : ∀ c ∈ text, IsFlat c) :
    brackets.awaitedAfter? awaited before text = some awaited := by
  induction text generalizing before with
  | nil => rfl
  | cons c text ih =>
      obtain ⟨hc, htext⟩ := List.forall_mem_cons.mp h
      have hopeners : ∀ pair ∈ bracketPairs, pair.1 ∈ "([{<)]}>".toList := by decide
      have hclosers : ∀ closer ∈ bracketPairs.map (·.2), closer ∈ "([{<)]}>".toList := by decide
      refine awaited_after_cons.mpr ⟨awaited, .other ?_ ?_, ih htext⟩
      · by_contra hopen
        obtain ⟨closer, hcloser⟩ := Option.ne_none_iff_exists'.mp hopen
        exact hc (hopeners _ (brackets.pairs hcloser))
      · by_contra hclose
        exact hc (hclosers _ (brackets.closing (Bool.of_not_eq_false hclose)))

/-- A character in an open block closes the block, or it does to the closers that are awaited in the block
what it does on its own. -/
theorem Steps.inside (h : brackets.Steps (within ++ closer :: outer) before c later) :
    (within = [] ∧ c = closer ∧ later = outer ∧ brackets.closes before c = true) ∨
      ∃ within', brackets.Steps within before c within' ∧ later = within' ++ closer :: outer := by
  cases h with
  | opens hopen => exact Or.inr ⟨_, .opens hopen, rfl⟩
  | closes hclose hawaited =>
      cases within with
      | nil =>
          obtain ⟨rfl, rfl⟩ := List.cons.inj hawaited
          exact Or.inl ⟨rfl, rfl, rfl, hclose⟩
      | cons d within =>
          obtain ⟨rfl, rfl⟩ := List.cons.inj hawaited
          exact Or.inr ⟨within, .closes hclose rfl, rfl⟩
  | other hopen hclose => exact Or.inr ⟨within, .other hopen hclose, rfl⟩

/-- A block that is open is closed, if no more is awaited in the end than outside of it. -/
theorem exists_block (h : brackets.awaitedAfter? (within ++ closer :: outer) before text = some final)
    (hfinal : final.length ≤ outer.length) :
    ∃ inner rest, text = inner ++ closer :: rest ∧
      brackets.awaitedAfter? within before inner = some [] ∧
      brackets.closes (inner.getLast?.or before) closer = true ∧
      brackets.awaitedAfter? outer (some closer) rest = some final := by
  induction text generalizing within before with
  | nil =>
      have hsame := congrArg List.length (Option.some.inj h)
      rw [List.length_append, List.length_cons] at hsame
      omega
  | cons c text ih =>
      obtain ⟨later, hsteps, hrest⟩ := awaited_after_cons.mp h
      rcases hsteps.inside with ⟨rfl, rfl, rfl, hclose⟩ | ⟨within', hinside, rfl⟩
      · exact ⟨[], text, rfl, rfl, hclose, hrest⟩
      · obtain ⟨inner, rest, rfl, hinner, hclose, hafter⟩ := ih hrest
        rw [← last_cons] at hclose
        exact ⟨c :: inner, rest, rfl, awaited_after_cons.mpr ⟨within', hinside, hinner⟩, hclose, hafter⟩

end Read

section Close

variable {brackets : Brackets} {awaited later : List Char} {before : Option Char}
  {c closer opener : Char} {front inner rest : Text} {index depth close : Nat}

/-- Bytes that are neither of a pair of brackets are skipped. -/
theorem close_from_skip {opener closer : UInt8} {skipped tail : List UInt8}
    (h : ∀ b ∈ skipped, b ≠ opener ∧ b ≠ closer) :
    closeFrom? opener closer (skipped ++ tail) index depth =
      closeFrom? opener closer tail (index + skipped.length) depth := by
  induction skipped generalizing index with
  | nil => rfl
  | cons b skipped ih =>
      obtain ⟨⟨hopen, hclose⟩, h⟩ := List.forall_mem_cons.mp h
      rw [List.cons_append, closeFrom?, if_neg hopen, if_neg hclose, ih h, List.length_cons]
      congr 1
      omega

/-- The byte of an ASCII character is in no other one. -/
theorem eq_of_byte_mem {d : Char} (hd : d.toNat < 128)
    (h : UInt8.ofNat d.toNat ∈ String.utf8EncodeChar c) : c = d := by
  have hsize : (UInt8.ofNat d.toNat).toNat = d.toNat := by
    rw [UInt8.toNat_ofNat', Nat.mod_eq_of_lt (by omega)]
  rw [(encode_eq_of_mem h (by rwa [hsize])).2, hsize, Char.ofNat_toNat]

/-- What one character does to the search for the bracket that closes another one. -/
theorem close_from_char (hpair : (opener, closer) ∈ bracketPairs) (index depth : Nat) :
    closeFrom? (UInt8.ofNat opener.toNat) (UInt8.ofNat closer.toNat) (bytes (c :: rest)) index depth =
      if c = opener then
        closeFrom? (UInt8.ofNat opener.toNat) (UInt8.ofNat closer.toNat) (bytes rest) (index + 1)
          (depth + 1)
      else if c = closer then
        if depth = 1 then some index
        else closeFrom? (UInt8.ofNat opener.toNat) (UInt8.ofNat closer.toNat) (bytes rest) (index + 1)
          (depth - 1)
      else closeFrom? (UInt8.ofNat opener.toNat) (UInt8.ofNat closer.toNat) (bytes rest)
        (index + c.utf8Size) depth := by
  have hall : ∀ pair ∈ bracketPairs, pair.1.toNat < 128 ∧ pair.2.toNat < 128 := by decide
  obtain ⟨hopener, hcloser⟩ := hall _ hpair
  by_cases hc : c = opener
  · subst hc
    rw [bytes_ascii hopener, closeFrom?, if_pos rfl, if_pos rfl]
  · rw [if_neg hc]
    by_cases hc' : c = closer
    · subst hc'
      rw [bytes_ascii hcloser, closeFrom?, if_neg (byte_ne hcloser hopener hc), if_pos rfl, if_pos rfl]
    · have hcons : bytes (c :: rest) = String.utf8EncodeChar c ++ bytes rest := rfl
      rw [if_neg hc', hcons, close_from_skip, String.length_utf8EncodeChar]
      rintro b hb
      constructor
      · rintro rfl
        exact hc (eq_of_byte_mem hopener hb)
      · rintro rfl
        exact hc' (eq_of_byte_mem hcloser hb)

/-- The search for a closer is as deep as its closers are awaited, before a character and after it. -/
theorem close_from_step (hpair : brackets.closer? opener = some closer)
    (h : brackets.Steps awaited before c later)
    (hcloses : c = closer → brackets.closes before c = true) :
    closeFrom? (UInt8.ofNat opener.toNat) (UInt8.ofNat closer.toNat) (bytes (c :: rest)) index
        (awaited.count closer + 1) =
      closeFrom? (UInt8.ofNat opener.toNat) (UInt8.ofNat closer.toNat) (bytes rest)
        (index + c.utf8Size) (later.count closer + 1) := by
  have hall : ∀ pair ∈ bracketPairs, pair.1.utf8Size = 1 ∧ pair.2.utf8Size = 1 ∧
      ∀ other ∈ bracketPairs, other.1 ≠ pair.2 ∧ (other.2 = pair.2 → other.1 = pair.1) := by decide
  obtain ⟨hone, hone', hunique⟩ := hall _ (brackets.pairs hpair)
  rw [close_from_char (brackets.pairs hpair)]
  cases h with
  | @opens other hopen =>
      obtain ⟨hne, hsame⟩ := hunique _ (brackets.pairs hopen)
      by_cases hc : c = opener
      · subst hc
        obtain rfl := Option.some.inj (hpair.symm.trans hopen)
        rw [if_pos rfl, List.count_cons_self, hone]
      · rw [if_neg hc, if_neg hne, List.count_cons_of_ne fun heq => hc (hsame heq)]
  | @closes later hclose hawaited =>
      subst hawaited
      have hne : c ≠ opener := by
        rintro rfl
        rw [closer_of_closes hclose] at hpair
        cases hpair
      rw [if_neg hne]
      by_cases hc : c = closer
      · subst hc
        rw [if_pos rfl, List.count_cons_self, if_neg (by omega), hone', Nat.add_sub_cancel]
      · rw [if_neg hc, List.count_cons_of_ne hc]
  | other hopen hclose =>
      have hne : c ≠ opener := by
        rintro rfl
        rw [hopen] at hpair
        cases hpair
      have hne' : c ≠ closer := by
        intro hc
        rw [hcloses hc] at hclose
        cases hclose
      rw [if_neg hne, if_neg hne']

/-- The search for a closer goes on over a text as many deep as its closers are awaited. -/
theorem close_from_awaited (hpair : brackets.closer? opener = some closer)
    (h : brackets.awaitedAfter? awaited before front = some later)
    (hcloses : brackets.ClosesEach closer before front) (back : Text) (index : Nat) :
    closeFrom? (UInt8.ofNat opener.toNat) (UInt8.ofNat closer.toNat) (bytes (front ++ back)) index
        (awaited.count closer + 1) =
      closeFrom? (UInt8.ofNat opener.toNat) (UInt8.ofNat closer.toNat) (bytes back)
        (index + byteLength front) (later.count closer + 1) := by
  induction front generalizing awaited before index with
  | nil =>
      obtain rfl := Option.some.inj h
      rfl
  | cons c front ih =>
      obtain ⟨mid, hsteps, hrest⟩ := awaited_after_cons.mp h
      have hhere : c = closer → brackets.closes before c = true := by
        rintro rfl
        exact hcloses [] front rfl
      have hlater : brackets.ClosesEach closer (some c) front := by
        rintro left right rfl
        rw [← last_cons]
        exact hcloses (c :: left) right rfl
      rw [List.cons_append, close_from_step hpair hsteps hhere, ih hrest hlater, byteLength, Nat.add_assoc]

/-- The bracket that closes a block is the one after its balanced inside. -/
theorem matching_of_balanced (hpair : brackets.closer? opener = some closer)
    (h : brackets.awaitedAfter? [] (some opener) inner = some [])
    (hcloses : brackets.ClosesEach closer (some opener) inner) (front back : Text) :
    matchingDelimiter? (front ++ opener :: (inner ++ closer :: back)) (byteLength front) =
      some (byteLength front + 1 + byteLength inner) := by
  have hall : ∀ pair ∈ bracketPairs, pair.1.toNat < 128 ∧
      closerOf? (UInt8.ofNat pair.1.toNat) = some (UInt8.ofNat pair.2.toNat) ∧ pair.2 ≠ pair.1 := by
    decide
  obtain ⟨hopener, hbyte, hne⟩ := hall _ (brackets.pairs hpair)
  have hstart := close_from_awaited hpair h hcloses (closer :: back) (byteLength front + 1)
  rw [close_from_char (brackets.pairs hpair), if_neg hne, if_pos rfl, List.count_nil, if_pos rfl] at hstart
  rw [matchingDelimiter?, drop_bytes_append, bytes_ascii hopener]
  change (closerOf? (UInt8.ofNat opener.toNat)).bind _ = _
  rw [hbyte, Option.bind_some, ← bytes_ascii hopener, close_from_char (brackets.pairs hpair), if_pos rfl]
  exact hstart

end Close

end Brackets

end CodeAtlas.Text
