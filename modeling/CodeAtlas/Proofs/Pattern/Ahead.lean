import CodeAtlas.Proofs.Pattern.Search

/-!
# What a pattern reads in front of another one

A greedy pattern that could read more gives back what it has read where the pattern after it fails, so
`Passes` says too little of it. `PassesInto` says what a pattern reads if whatever goes on needs a second
one; `Stuck` says that it reads nothing then, which rules out a choice that succeeds on its own.

Searches are followed further than a text can be cut into pieces: a place that matches is found
(`search_all_ne_nil`), or it lies in a match that starts before it (`exists_cover`). What is found is in
the order in which it stands in the text (`Scans.ascends`).
-/

namespace CodeAtlas.Pattern

open Text (Cursor byteLength)

/-- Nothing goes on where a pattern fails. -/
def Needs {α : Type} (second : Pattern) (next : Continuation α) : Prop :=
  ∀ before offset rest groups, Fails second rest → next ⟨before, offset, rest⟩ groups = none

/-- A pattern reads `read` where `rest` follows and records groups, newest first, if what goes on needs
a second pattern. -/
def PassesInto (first second : Pattern) (before : Option Char) (offset : Nat) (read rest : Text)
    (newer : Groups) : Prop :=
  ∀ (α : Type) (groups : Groups) (next : Continuation α) (result : α), Needs second next →
    next ⟨read.getLast?.or before, offset + byteLength read, rest⟩ (newer ++ groups) = some result →
      run first ⟨before, offset, read ++ rest⟩ groups next = some result

/-- A pattern matches in no way that a second pattern can follow. -/
def Stuck (first second : Pattern) (rest : Text) : Prop :=
  ∀ (α : Type) (before : Option Char) (offset : Nat) (groups : Groups) (next : Continuation α),
    Needs second next → run first ⟨before, offset, rest⟩ groups next = none

section Into

variable {first second body pattern : Pattern} {before : Option Char} {offset number : Nat}
  {read left right rest : Text} {newer older : Groups}

/-- What goes on through a second pattern needs it. -/
theorem needs_run {α : Type} (second : Pattern) (change : Groups → Groups) (next : Continuation α) :
    Needs second fun after groups => run second after (change groups) next :=
  fun before offset _ groups hfails => hfails α before offset (change groups) next

/-- A pattern that fails is stuck. -/
theorem Fails.stuck (h : Fails first rest) : Stuck first second rest :=
  fun α before offset groups next _ => h α before offset groups next

/-- A pattern that leads nowhere is stuck. -/
theorem LeadsNowhere.stuck (h : LeadsNowhere first second rest) : Stuck first second rest := by
  intro α before offset groups next hneeds
  by_contra hsome
  obtain ⟨result, hresult⟩ := Option.ne_none_iff_exists'.mp hsome
  obtain ⟨read, newer, mid, after, hrest, hread, hnext⟩ := run_goes_on first _ _ _ _ hresult
  rw [hneeds mid _ after _ (h read after ⟨_, _, hread⟩ hrest)] at hnext
  cases hnext

/-- What is read whatever follows is read in front of a second pattern. -/
theorem Passes.into (h : Passes first before offset read rest newer) :
    PassesInto first second before offset read rest newer :=
  fun α groups next result _ => h α groups next result

/-- A pattern reads what it reads in front of a second one, then that reads what it reads. -/
theorem PassesInto.seq (hfirst : PassesInto first second before offset left (right ++ rest) older)
    (hsecond : Passes second (left.getLast?.or before) (offset + byteLength left) right rest newer) :
    Passes (.seq first second) before offset (left ++ right) rest (newer ++ older) := by
  intro α groups next result h
  rw [run, List.append_assoc]
  refine hfirst α groups _ result (needs_run second id next) (hsecond α _ _ result ?_)
  rwa [← Text.last_append, Nat.add_assoc, ← Text.byte_length_append, ← List.append_assoc]

/-- The last of two patterns is the one in front of what follows. -/
theorem PassesInto.after (hfirst : Passes first before offset left (right ++ rest) older)
    (hbody : PassesInto body second (left.getLast?.or before) (offset + byteLength left) right rest
      newer) :
    PassesInto (.seq first body) second before offset (left ++ right) rest (newer ++ older) := by
  intro α groups next result hneeds h
  rw [run, List.append_assoc]
  refine hfirst α groups _ result (hbody α _ next result hneeds ?_)
  rwa [← Text.last_append, Nat.add_assoc, ← Text.byte_length_append, ← List.append_assoc]

/-- A group in front of a second pattern is recorded. -/
theorem PassesInto.group (h : PassesInto first second before offset read rest newer) :
    PassesInto (.group number first) second before offset read rest
      ((number, offset, offset + byteLength read) :: newer) := by
  intro α groups next result hneeds hnext
  rw [run]
  exact h α groups _ result (fun _ _ _ _ hfails => hneeds _ _ _ _ hfails) hnext

/-- The first of several patterns is taken that is not stuck. -/
theorem PassesInto.choice (front back : List Pattern)
    (hfront : ∀ other ∈ front, Stuck other second (read ++ rest))
    (h : PassesInto pattern second before offset read rest newer) :
    PassesInto (Pattern.choice (front ++ pattern :: back)) second before offset read rest newer := by
  induction front with
  | nil =>
      cases back with
      | nil => exact h
      | cons other back =>
          intro α groups next result hneeds hnext
          rw [List.nil_append, Pattern.choice, run, h α groups next result hneeds hnext]
          rfl
          exact List.cons_ne_nil other back
  | cons other front ih =>
      obtain ⟨hother, hfront⟩ := List.forall_mem_cons.mp hfront
      intro α groups next result hneeds hnext
      rw [List.cons_append, Pattern.choice, run, hother α before offset groups next hneeds]
      · exact ih hfront α groups next result hneeds hnext
      · simp

/-- A greedy repetition does not go round if no round leads on to a second pattern. -/
theorem PassesInto.no_round {later : Pattern}
    (hround : ∀ read after, CanRead body read → rest = read ++ after →
      LeadsNowhere (.seq (many body) later) second after)
    (h : PassesInto later second before offset [] rest newer) :
    PassesInto (.seq (many body) later) second before offset [] rest newer := by
  intro α groups next result hneeds hnext
  have hlater := h α groups next result hneeds hnext
  rw [List.nil_append] at hlater
  rw [run, many, run, exactly, List.nil_append]
  dsimp only
  cases rest.length with
  | zero => exact hlater
  | succ count =>
      rw [atMost, if_neg Bool.false_ne_true]
      generalize hagain : run body ⟨before, offset, rest⟩ groups _ = again
      cases again with
      | none => exact hlater
      | some other =>
          -- A round, the rounds after it and the later part would lead on to the second pattern.
          obtain ⟨round, older, mid, after, hrest, hreads, hrounds⟩ := run_goes_on body _ _ _ _ hagain
          dsimp only at hrounds
          split at hrounds
          · cases hrounds
          · have hmost : GoesOn (many body) (atMost false (run body) count : Step α) :=
              (run_goes_on body).at_most count
            obtain ⟨rounds, _, _, _, hafter, hmany, hlater⟩ := hmost _ _ _ _ hrounds
            obtain ⟨last, _, _, _, hend, hlast, hgoes⟩ := run_goes_on later _ _ _ _ hlater
            have hfails := hround round after ⟨_, _, hreads⟩ hrest (rounds ++ last) _
              ⟨_, _, hmany.seq hlast⟩ (by rw [List.append_assoc, ← hend]; exact hafter)
            rw [hneeds _ _ _ _ hfails] at hgoes
            cases hgoes

end Into

section Cover

variable {pattern : Pattern} {before : Option Char} {offset : Nat} {front back : Text} {c : Char}

/-- The search for the next match finds one if there is a place that matches. -/
theorem search_from_ne_none
    (h : matchAt? pattern ⟨front.getLast?.or before, offset + byteLength front, back⟩ ≠ none) :
    searchFrom? pattern before offset (front ++ back) ≠ none := by
  induction front generalizing before offset with
  | nil =>
      rw [searchFrom?.eq_def]
      split
      · simp
      · next hnone => exact absurd hnone h
  | cons d front ih =>
      rw [List.cons_append, searchFrom?]
      split
      · simp
      · rw [Text.last_cons, byteLength, ← Nat.add_assoc] at h
        exact ih h

/-- A search finds something if there is a place that matches. -/
theorem search_all_ne_nil (h : matchAt? pattern ⟨front.getLast?, byteLength front, back⟩ ≠ none) :
    searchAll pattern (front ++ back) ≠ [] := by
  have hsome : searchFrom? pattern none 0 (front ++ back) ≠ none :=
    search_from_ne_none (by rwa [Option.or_none, Nat.zero_add])
  obtain ⟨⟨found, after⟩, hfound⟩ := Option.ne_none_iff_exists'.mp hsome
  rw [searchAll, searchAllFrom]
  simp only [Cursor.start, hfound]
  split
  · split <;> simp
  · simp

/-- A match at a cursor is found, and the search goes on after it. -/
theorem search_all_from_hit {rest : Text} {found : Match} {after : Cursor} (fuel : Nat)
    (hsome : pattern.readsSome = true)
    (h : matchAt? pattern ⟨before, offset, rest⟩ = some (found, after)) :
    searchAllFrom pattern (fuel + 1) ⟨before, offset, rest⟩ =
        found :: searchAllFrom pattern fuel after ∧
      ∃ read mid later, rest = read ++ later ∧ CanRead pattern read ∧ found.start = offset ∧
        found.stop = offset + byteLength read ∧ after = ⟨mid, offset + byteLength read, later⟩ := by
  obtain ⟨read, newer, mid, later, hrest, hread, hnext⟩ := run_goes_on pattern _ _ _ _ h
  obtain ⟨rfl, rfl⟩ := Prod.mk.inj (Option.some.inj hnext)
  have hpos : byteLength read ≠ 0 := fun hzero =>
    hread.ne_nil hsome (Text.byte_length_eq_zero.mp hzero)
  refine ⟨?_, read, mid, later, hrest, ⟨_, _, hread⟩, rfl, rfl, rfl⟩
  rw [searchAllFrom]
  dsimp only
  rw [searchFrom?.eq_def, h]
  dsimp only
  rw [if_neg (by omega)]

/-- What is read as far as a character that ends no match goes on behind it. -/
theorem CanRead.goes_beyond {tail : Text} (hends : pattern.endsNot c = true)
    (hread : CanRead pattern (front ++ c :: tail)) :
    byteLength (front ++ [c]) < byteLength (front ++ c :: tail) := by
  obtain ⟨_, _, hreads⟩ := hread
  cases tail with
  | nil => exact absurd List.getLast?_concat (hreads.last_ne hends)
  | cons d tail =>
      have hd := Char.utf8Size_pos d
      rw [Text.byte_length_append, Text.byte_length_append, byteLength, byteLength, byteLength, byteLength]
      omega

/-- What a text starts with ends in front of a character of it, or goes as far as that. -/
theorem begins_cases {read rest : Text} (h : front ++ c :: back = read ++ rest) :
    (∃ tail, front = read ++ tail ∧ rest = tail ++ c :: back) ∨ ∃ tail, read = front ++ c :: tail := by
  rcases List.append_eq_append_iff.mp h with ⟨tail, rfl, htail⟩ | hwithin
  · cases tail with
    | nil => exact Or.inl ⟨[], by simp, htail.symm⟩
    | cons d tail => exact Or.inr ⟨tail, by rw [(List.cons.inj htail).1]⟩
  · exact Or.inl hwithin

/-- A place that matches is found, or it lies in a match that starts before it. The character before the
place must not end a match, so that no match ends right there. -/
theorem exists_cover_from {fuel : Nat} {found : Match} {after : Cursor}
    (hsome : pattern.readsSome = true) (hends : pattern.endsNot c = true)
    (hmatch : matchAt? pattern ⟨some c, offset + byteLength (front ++ [c]), back⟩ = some (found, after))
    (hfuel : (front ++ c :: back).length < fuel) :
    ∃ other ∈ searchAllFrom pattern fuel ⟨before, offset, front ++ c :: back⟩, other = found ∨
      (other.start < offset + byteLength (front ++ [c]) ∧
        offset + byteLength (front ++ [c]) < other.stop) := by
  induction hlength : front.length using Nat.strongRecOn generalizing before offset front fuel with
  | ind length ih =>
      subst hlength
      obtain ⟨fuel, rfl⟩ : ∃ fewer, fuel = fewer + 1 := ⟨fuel - 1, by omega⟩
      cases hhere : matchAt? pattern ⟨before, offset, front ++ c :: back⟩ with
      | none =>
          cases front with
          | nil =>
              rw [List.nil_append] at hhere ⊢
              rw [search_all_from_miss hhere]
              have hone : offset + byteLength ([] ++ [c]) = offset + c.utf8Size := rfl
              rw [hone] at hmatch
              rw [(search_all_from_hit fuel hsome hmatch).1]
              exact ⟨found, List.mem_cons_self, Or.inl rfl⟩
          | cons d front =>
              rw [List.cons_append] at hhere ⊢
              rw [List.cons_append, byteLength, ← Nat.add_assoc] at hmatch ⊢
              rw [search_all_from_miss hhere]
              exact ih front.length (Nat.lt_succ_self _) hmatch (by simp at hfuel ⊢; omega) rfl
      | some pair =>
          obtain ⟨other, later⟩ := pair
          obtain ⟨heq, read, mid, rest, hsplit, hread, hstart, hstop, rfl⟩ :=
            search_all_from_hit fuel hsome hhere
          rw [heq]
          rcases begins_cases hsplit with ⟨tail, rfl, rfl⟩ | ⟨tail, rfl⟩
          · have hplace : offset + byteLength (read ++ tail ++ [c]) =
                offset + byteLength read + byteLength (tail ++ [c]) := by
              rw [List.append_assoc, Text.byte_length_append, Nat.add_assoc]
            rw [hplace] at hmatch ⊢
            have hshorter : tail.length < (read ++ tail).length := by
              have hpos := List.length_pos_iff.mpr (hread.ne_nil hsome)
              rw [List.length_append]
              omega
            have hfewer : (tail ++ c :: back).length < fuel := by
              rw [List.length_append] at hfuel ⊢
              omega
            obtain ⟨cover, hmem, hcovers⟩ := ih tail.length hshorter hmatch hfewer rfl
            exact ⟨cover, List.mem_cons_of_mem other hmem, hcovers⟩
          · refine ⟨other, List.mem_cons_self, Or.inr ⟨?_, ?_⟩⟩
            · have hc := Char.utf8Size_pos c
              rw [hstart, Text.byte_length_append, byteLength]
              omega
            · have hbeyond := hread.goes_beyond hends
              omega

/-- A place of a text that matches is found, or it lies in a match that starts before it, unless the
character before the place may end a match. -/
theorem exists_cover {found : Match} {after : Cursor} (hsome : pattern.readsSome = true)
    (hends : pattern.endsNot c = true)
    (hmatch : matchAt? pattern ⟨some c, byteLength (front ++ [c]), back⟩ = some (found, after)) :
    ∃ other ∈ searchAll pattern (front ++ c :: back), other = found ∨
      (other.start < byteLength (front ++ [c]) ∧ byteLength (front ++ [c]) < other.stop) := by
  rw [← Nat.zero_add (byteLength (front ++ [c]))] at hmatch ⊢
  exact exists_cover_from hsome hends hmatch (Nat.lt_succ_self _)

/-- The matches that a search finds do not go back. -/
theorem Scans.ascends {cursor : Cursor} {found : List Match} (h : Scans pattern cursor found) :
    (∀ later ∈ found, cursor.offset ≤ later.start) ∧ found.Pairwise (·.start ≤ ·.start) := by
  induction h with
  | stop => exact ⟨nofun, .nil⟩
  | miss _ _ ih => exact ⟨fun later hlater => Nat.le_of_add_right_le (ih.1 later hlater), ih.2⟩
  | hit _ _ _ ih =>
      have hbehind : ∀ {later : Match}, _ → _ := fun {later} hlater =>
        Nat.le_of_add_right_le (ih.1 later hlater)
      exact ⟨List.forall_mem_cons.mpr ⟨Nat.le_refl _, fun later => hbehind⟩,
        List.pairwise_cons.mpr ⟨fun later => hbehind, ih.2⟩⟩

end Cover

end CodeAtlas.Pattern
