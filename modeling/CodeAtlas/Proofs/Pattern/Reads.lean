import CodeAtlas.Pattern.Match
import CodeAtlas.Proofs.Text.Walk

/-!
# What a pattern reads

`Reads` says what a pattern can read, without the order in which ways of matching are tried. Whatever
`run` hands to its continuation has been read (`run_goes_on`), so each match of a text lies in it and
so do its groups (`Match.IsIn.of_group`). What holds of every match of a pattern is then computed
from the pattern: whether it records a group (`records`), reads something (`readsSome`) or never
reads a character (`readsNo`).
-/

namespace CodeAtlas.Pattern

open Text (Cursor StandsAt byteLength)

/-- Whether a pattern only asks about the position. -/
def isAssertion : Pattern → Bool
  | .textStart | .textEnd | .lineStart | .lineEnd => true
  | .wordBoundary | .notWordBoundary | .wordStart | .wordEnd => true
  | _ => false

/-- A pattern can read a text at a byte offset and record groups, newest first. Neither what stands
around the text nor the upper bound of a repetition is taken into account. -/
inductive Reads : Pattern → Nat → Text → Groups → Prop
  | empty {offset : Nat} : Reads .empty offset [] []
  | char {set : CharSet} {c : Char} {offset : Nat} (hc : set.contains c = true) :
      Reads (.char set) offset [c] []
  | seq {first second : Pattern} {offset : Nat} {left right : Text} {older newer : Groups}
      (hfirst : Reads first offset left older)
      (hsecond : Reads second (offset + byteLength left) right newer) :
      Reads (.seq first second) offset (left ++ right) (newer ++ older)
  | first {first second : Pattern} {offset : Nat} {read : Text} {groups : Groups}
      (h : Reads first offset read groups) : Reads (.alt first second) offset read groups
  | second {first second : Pattern} {offset : Nat} {read : Text} {groups : Groups}
      (h : Reads second offset read groups) : Reads (.alt first second) offset read groups
  | enough {lazy : Bool} {most : Option Nat} {body : Pattern} {offset : Nat} :
      Reads (.rounds lazy 0 most body) offset [] []
  | again {lazy : Bool} {least : Nat} {most : Option Nat} {body : Pattern} {offset : Nat}
      {left right : Text} {older newer : Groups} (hbody : Reads body offset left older)
      (hlater : Reads (.rounds lazy (least - 1) most body) (offset + byteLength left) right newer) :
      Reads (.rounds lazy least most body) offset (left ++ right) (newer ++ older)
  | group {number : Nat} {body : Pattern} {offset : Nat} {read : Text} {groups : Groups}
      (h : Reads body offset read groups) :
      Reads (.group number body) offset read ((number, offset, offset + byteLength read) :: groups)
  | assertion {pattern : Pattern} {offset : Nat} (h : pattern.isAssertion = true) :
      Reads pattern offset [] []

section Marks

variable {marks : String} {c : Char}

/-- The set of some marks has these alone. -/
theorem contains_of_string_iff : (CharSet.ofString marks).contains c = true ↔ c ∈ marks.toList := by
  rw [CharSet.ofString]
  induction marks.toList with
  | nil => simp [CharSet.oneOf, CharSet.none, CharSet.contains]
  | cons mark rest ih =>
      rw [CharSet.oneOf] at ih ⊢
      rw [List.map_cons, List.foldr_cons, CharSet.contains, Bool.or_eq_true, ih, CharSet.contains,
        decide_eq_true_eq, List.mem_cons]

/-- The set of the other characters has none of them. -/
theorem contains_not_in_iff : (CharSet.notIn marks).contains c = true ↔ c ∉ marks.toList := by
  rw [CharSet.notIn, CharSet.contains, Bool.not_eq_true', ← Bool.not_eq_true, contains_of_string_iff]

end Marks

section Run

variable {α : Type}

/-- The first success of two is one of them. -/
theorem or_else_cases {one : Option α} {other : Unit → Option α} {result : α}
    (h : one.orElse other = some result) : one = some result ∨ other () = some result := by
  cases one with
  | none => exact Or.inr h
  | some value => exact Or.inl h

/-- A step has read something from a cursor, of which `reads` holds, and gone on after it. -/
def WentOn (reads : Text → Groups → Prop) (cursor : Cursor) (groups : Groups)
    (next : Continuation α) (result : α) : Prop :=
  ∃ read newer before rest, cursor.rest = read ++ rest ∧ reads read newer ∧
    next ⟨before, cursor.offset + byteLength read, rest⟩ (newer ++ groups) = some result

/-- A step goes on only after what its pattern reads. -/
def GoesOn (pattern : Pattern) (step : Step α) : Prop :=
  ∀ cursor groups next result, step cursor groups next = some result →
    WentOn (Reads pattern cursor.offset) cursor groups next result

/-- A step that reads nothing goes on where it is. -/
theorem WentOn.here {reads : Text → Groups → Prop} {cursor : Cursor} {groups : Groups}
    {next : Continuation α} {result : α} (hreads : reads [] [])
    (h : next cursor groups = some result) : WentOn reads cursor groups next result :=
  ⟨[], [], cursor.before, cursor.rest, rfl, hreads, h⟩

/-- What is read in two goes is read in one. -/
theorem WentOn.trans {first both : Text → Groups → Prop} {cursor : Cursor} {groups : Groups}
    {next middle : Continuation α} {result : α} (hfirst : WentOn first cursor groups middle result)
    (hsecond : ∀ left older before rest, first left older →
      middle ⟨before, cursor.offset + byteLength left, rest⟩ (older ++ groups) = some result →
      WentOn (fun right newer => both (left ++ right) (newer ++ older))
        ⟨before, cursor.offset + byteLength left, rest⟩ (older ++ groups) next result) :
    WentOn both cursor groups next result := by
  obtain ⟨left, older, before, rest, hrest, hleft, hmiddle⟩ := hfirst
  obtain ⟨right, newer, before', rest', hrest', hboth, hnext⟩ :=
    hsecond left older before rest hleft hmiddle
  refine ⟨left ++ right, newer ++ older, before', rest', ?_, hboth, ?_⟩
  · rw [hrest, List.append_assoc]
    exact congrArg (left ++ ·) hrest'
  · rw [Text.byte_length_append, ← Nat.add_assoc, List.append_assoc]
    exact hnext

/-- Weaker things are read where stronger ones are. -/
theorem WentOn.imp {reads weaker : Text → Groups → Prop} {cursor : Cursor} {groups : Groups}
    {next : Continuation α} {result : α} (h : WentOn reads cursor groups next result)
    (himp : ∀ read newer, reads read newer → weaker read newer) :
    WentOn weaker cursor groups next result := by
  obtain ⟨read, newer, before, rest, hrest, hreads, hnext⟩ := h
  exact ⟨read, newer, before, rest, hrest, himp read newer hreads, hnext⟩

variable {body : Pattern} {step : Step α} {lazy : Bool} {most : Option Nat}

/-- At most so many rounds go on after rounds of the body. -/
theorem GoesOn.at_most (hstep : GoesOn body step) (count : Nat) :
    GoesOn (.rounds lazy 0 most body) (atMost lazy step count) := by
  induction count with
  | zero => exact fun _ _ _ _ h => .here .enough h
  | succ n ih =>
      intro cursor groups next result h
      rw [atMost] at h
      have hagain : (step cursor groups fun after groups =>
          if after.offset = cursor.offset then none else atMost lazy step n after groups next) =
            some result →
          WentOn (Reads (.rounds lazy 0 most body) cursor.offset) cursor groups next result := by
        intro hround
        refine (hstep _ _ _ _ hround).trans fun left older before rest hleft hlater => ?_
        split at hlater
        · cases hlater
        · exact (ih _ _ _ _ hlater).imp fun right newer hright => hleft.again hright
      split at h
      · rcases or_else_cases h with hstop | hround
        · exact .here .enough hstop
        · exact hagain hround
      · rcases or_else_cases h with hround | hstop
        · exact hagain hround
        · exact .here .enough hstop

/-- Rounds that have to be made go on after rounds of the body. -/
theorem GoesOn.exactly (hstep : GoesOn body step) {more : Step α}
    (hmore : GoesOn (.rounds lazy 0 most body) more) (least : Nat) :
    GoesOn (.rounds lazy least most body) fun cursor groups next =>
      Pattern.exactly step least cursor groups fun cursor groups => more cursor groups next := by
  induction least with
  | zero => exact hmore
  | succ n ih =>
      intro cursor groups next result h
      exact (hstep _ _ _ _ h).trans fun left older before rest hleft hlater =>
        (ih _ _ _ _ hlater).imp fun right newer hright => hleft.again hright

/-- A condition on the position goes on where it is. -/
theorem goes_on_assert {pattern : Pattern} {condition : Cursor → Bool}
    (h : pattern.isAssertion = true) :
    GoesOn pattern fun cursor groups (next : Continuation α) =>
      assert (condition cursor) cursor groups next := by
  intro cursor groups next result hresult
  change (if condition cursor then next cursor groups else none) = some result at hresult
  split at hresult
  · exact .here (.assertion h) hresult
  · cases hresult

/-- Matching goes on only after what the pattern reads. -/
theorem run_goes_on (pattern : Pattern) : GoesOn pattern (run pattern : Step α) := by
  induction pattern with
  | empty => exact fun _ _ _ _ h => .here .empty h
  | char set =>
      intro cursor groups next result h
      rw [run] at h
      split at h
      · cases h
      · next c rest hrest =>
          split at h
          · next hc => exact ⟨[c], [], some c, rest, hrest, .char hc, h⟩
          · cases h
  | seq first second hfirst hsecond =>
      intro cursor groups next result h
      exact (hfirst _ _ _ _ h).trans fun left older before rest hleft hlater =>
        (hsecond _ _ _ _ hlater).imp fun right newer hright => hleft.seq hright
  | alt first second hfirst hsecond =>
      intro cursor groups next result h
      rw [run] at h
      rcases or_else_cases h with hleft | hright
      · exact (hfirst _ _ _ _ hleft).imp fun _ _ => .first
      · exact (hsecond _ _ _ _ hright).imp fun _ _ => .second
  | rounds lazy least most body hbody =>
      intro cursor groups next result h
      rw [run] at h
      refine hbody.exactly ?_ least cursor groups next result h
      exact fun cursor groups next result h => hbody.at_most _ cursor groups next result h
  | group number body hbody =>
      intro cursor groups next result h
      obtain ⟨read, newer, before, rest, hrest, hread, hnext⟩ := hbody _ _ _ _ h
      exact ⟨read, _, before, rest, hrest, .group hread, hnext⟩
  | textStart => exact goes_on_assert rfl
  | textEnd => exact goes_on_assert rfl
  | lineStart => exact goes_on_assert rfl
  | lineEnd => exact goes_on_assert rfl
  | wordBoundary => exact goes_on_assert rfl
  | notWordBoundary => exact goes_on_assert rfl
  | wordStart => exact goes_on_assert rfl
  | wordEnd => exact goes_on_assert rfl

end Run

section Static

/-- Whether every match records a group of the given number. -/
def records (number : Nat) : Pattern → Bool
  | .seq first second => first.records number || second.records number
  | .alt first second => first.records number && second.records number
  | .rounds _ least _ body => 0 < least && body.records number
  | .group other body => other = number || body.records number
  | _ => false

/-- The patterns inside the groups of the given number. -/
def bodies (number : Nat) : Pattern → List Pattern
  | .seq first second => first.bodies number ++ second.bodies number
  | .alt first second => first.bodies number ++ second.bodies number
  | .rounds _ _ _ body => body.bodies number
  | .group other body => (if other = number then [body] else []) ++ body.bodies number
  | _ => []

/-- Whether every match reads something. -/
def readsSome : Pattern → Bool
  | .char _ => true
  | .seq first second => first.readsSome || second.readsSome
  | .alt first second => first.readsSome && second.readsSome
  | .rounds _ least _ body => 0 < least && body.readsSome
  | .group _ body => body.readsSome
  | _ => false

/-- Whether no match reads the given character. -/
def readsNo (c : Char) : Pattern → Bool
  | .char set => !set.contains c
  | .seq first second => first.readsNo c && second.readsNo c
  | .alt first second => first.readsNo c && second.readsNo c
  | .rounds _ _ _ body => body.readsNo c
  | .group _ body => body.readsNo c
  | _ => true

/-- Whether no match ends with the given character. -/
def endsNot (c : Char) : Pattern → Bool
  | .char set => !set.contains c
  | .seq first second => second.endsNot c && (second.readsSome || first.endsNot c)
  | .alt first second => first.endsNot c && second.endsNot c
  | .rounds _ _ _ body => body.endsNot c
  | .group _ body => body.endsNot c
  | _ => true

variable {pattern : Pattern} {offset number : Nat} {read : Text} {groups : Groups}

/-- Asking about the position records nothing. -/
theorem records_of_is_assertion (h : pattern.isAssertion = true) :
    pattern.records number = false := by
  cases pattern <;> first | rfl | cases h

/-- Asking about the position reads nothing. -/
theorem reads_some_of_is_assertion (h : pattern.isAssertion = true) :
    pattern.readsSome = false := by
  cases pattern <;> first | rfl | cases h

/-- A group that every match records is recorded. -/
theorem Reads.exists_mem_of_records (h : Reads pattern offset read groups)
    (hrecords : pattern.records number = true) :
    ∃ start stop, (number, start, stop) ∈ groups := by
  induction h with
  | empty => cases hrecords
  | char _ => cases hrecords
  | seq _ _ hfirst hsecond =>
      rcases Bool.or_eq_true_iff.mp hrecords with hleft | hright
      · obtain ⟨start, stop, hmem⟩ := hfirst hleft
        exact ⟨start, stop, List.mem_append_right _ hmem⟩
      · obtain ⟨start, stop, hmem⟩ := hsecond hright
        exact ⟨start, stop, List.mem_append_left _ hmem⟩
  | first _ ih => exact ih (Bool.and_eq_true_iff.mp hrecords).1
  | second _ ih => exact ih (Bool.and_eq_true_iff.mp hrecords).2
  | enough => cases hrecords
  | again _ _ hbody _ =>
      obtain ⟨start, stop, hmem⟩ := hbody (Bool.and_eq_true_iff.mp hrecords).2
      exact ⟨start, stop, List.mem_append_right _ hmem⟩
  | @group other body offset read groups _ ih =>
      rcases Bool.or_eq_true_iff.mp hrecords with hnumber | hbody
      · exact ⟨offset, _, by rw [of_decide_eq_true hnumber]; exact List.mem_cons_self⟩
      · obtain ⟨start, stop, hmem⟩ := ih hbody
        exact ⟨start, stop, List.mem_cons_of_mem _ hmem⟩
  | assertion hassertion =>
      rw [records_of_is_assertion hassertion] at hrecords
      cases hrecords

/-- What a group records has been read by a pattern inside a group of its number. -/
theorem Reads.group_stands (h : Reads pattern offset read groups) {start stop : Nat}
    (hmem : (number, start, stop) ∈ groups) :
    ∃ inner part, start = offset + inner ∧ stop = start + byteLength part ∧
      StandsAt read inner part ∧
      ∃ body ∈ pattern.bodies number, ∃ groups, Reads body start part groups := by
  induction h with
  | empty => cases hmem
  | char _ => cases hmem
  | @seq first second offset left right older newer _ _ hfirst hsecond =>
      rcases List.mem_append.mp hmem with hnewer | holder
      · obtain ⟨inner, part, rfl, hstop, ⟨front, back, rfl, hfront⟩, body, hbody, hreads⟩ :=
          hsecond hnewer
        refine ⟨byteLength left + inner, part, by omega, hstop, ?_, body,
          List.mem_append_right _ hbody, hreads⟩
        exact ⟨left ++ front, back, by simp, by rw [Text.byte_length_append, hfront]⟩
      · obtain ⟨inner, part, rfl, hstop, ⟨front, back, rfl, hfront⟩, body, hbody, hreads⟩ :=
          hfirst holder
        refine ⟨inner, part, rfl, hstop, ?_, body, List.mem_append_left _ hbody, hreads⟩
        exact ⟨front, back ++ right, by simp, hfront⟩
  | first _ ih =>
      obtain ⟨inner, part, hstart, hstop, hstands, body, hbody, hreads⟩ := ih hmem
      exact ⟨inner, part, hstart, hstop, hstands, body, List.mem_append_left _ hbody, hreads⟩
  | second _ ih =>
      obtain ⟨inner, part, hstart, hstop, hstands, body, hbody, hreads⟩ := ih hmem
      exact ⟨inner, part, hstart, hstop, hstands, body, List.mem_append_right _ hbody, hreads⟩
  | enough => cases hmem
  | @again lazy least most body offset left right older newer _ _ hbody hlater =>
      rcases List.mem_append.mp hmem with hnewer | holder
      · obtain ⟨inner, part, rfl, hstop, ⟨front, back, rfl, hfront⟩, inside, hinside, hreads⟩ :=
          hlater hnewer
        refine ⟨byteLength left + inner, part, by omega, hstop, ?_, inside, hinside, hreads⟩
        exact ⟨left ++ front, back, by simp, by rw [Text.byte_length_append, hfront]⟩
      · obtain ⟨inner, part, rfl, hstop, ⟨front, back, rfl, hfront⟩, inside, hinside, hreads⟩ :=
          hbody holder
        refine ⟨inner, part, rfl, hstop, ?_, inside, hinside, hreads⟩
        exact ⟨front, back ++ right, by simp, hfront⟩
  | @group other body offset read groups hread ih =>
      rcases List.mem_cons.mp hmem with heq | hmem
      · cases heq
        exact ⟨0, read, rfl, rfl, Text.stands_at_zero read, body, by simp [bodies], groups, hread⟩
      · obtain ⟨inner, part, hstart, hstop, hstands, inside, hinside, hreads⟩ := ih hmem
        exact ⟨inner, part, hstart, hstop, hstands, inside, List.mem_append_right _ hinside, hreads⟩
  | assertion _ => cases hmem

/-- A pattern that reads something reads a text that is not empty. -/
theorem Reads.ne_nil (h : Reads pattern offset read groups) (hsome : pattern.readsSome = true) :
    read ≠ [] := by
  induction h with
  | empty => cases hsome
  | char _ => exact List.cons_ne_nil _ _
  | seq _ _ hfirst hsecond =>
      rcases Bool.or_eq_true_iff.mp hsome with hleft | hright
      · exact List.append_ne_nil_of_left_ne_nil (hfirst hleft) _
      · exact List.append_ne_nil_of_right_ne_nil _ (hsecond hright)
  | first _ ih => exact ih (Bool.and_eq_true_iff.mp hsome).1
  | second _ ih => exact ih (Bool.and_eq_true_iff.mp hsome).2
  | enough => cases hsome
  | again _ _ hbody _ =>
      exact List.append_ne_nil_of_left_ne_nil (hbody (Bool.and_eq_true_iff.mp hsome).2) _
  | group _ ih => exact ih hsome
  | assertion hassertion =>
      rw [reads_some_of_is_assertion hassertion] at hsome
      cases hsome

/-- A pattern that never reads a character reads texts without it. -/
theorem Reads.not_mem (h : Reads pattern offset read groups) {c : Char}
    (hno : pattern.readsNo c = true) : c ∉ read := by
  induction h with
  | empty => exact List.not_mem_nil
  | @char set d _ hd =>
      intro hmem
      rw [List.mem_singleton.mp hmem] at hno
      rw [readsNo, hd] at hno
      cases hno
  | seq _ _ hfirst hsecond =>
      have hboth := Bool.and_eq_true_iff.mp hno
      exact List.not_mem_append (hfirst hboth.1) (hsecond hboth.2)
  | first _ ih => exact ih (Bool.and_eq_true_iff.mp hno).1
  | second _ ih => exact ih (Bool.and_eq_true_iff.mp hno).2
  | enough => exact List.not_mem_nil
  | again _ _ hbody hlater => exact List.not_mem_append (hbody hno) (hlater hno)
  | group _ ih => exact ih hno
  | assertion _ => exact List.not_mem_nil

/-- A pattern that never ends with a character reads texts that do not. -/
theorem Reads.last_ne (h : Reads pattern offset read groups) {c : Char}
    (hends : pattern.endsNot c = true) : read.getLast? ≠ some c := by
  induction h with
  | empty => simp
  | @char set d _ hd =>
      intro hlast
      have heq : d = c := by simpa using hlast
      rw [endsNot, ← heq, hd] at hends
      cases hends
  | @seq first second _ left right _ _ _ hread hfirst hsecond =>
      obtain ⟨hright, hleft⟩ := Bool.and_eq_true_iff.mp hends
      rw [List.getLast?_append]
      by_cases hnil : right = []
      · have hsome : second.readsSome ≠ true := fun hsome => hread.ne_nil hsome hnil
        rw [hnil, List.getLast?_nil, Option.none_or]
        exact hfirst ((Bool.or_eq_true_iff.mp hleft).resolve_left hsome)
      · rw [List.getLast?_eq_some_getLast hnil, Option.some_or, ← List.getLast?_eq_some_getLast hnil]
        exact hsecond hright
  | first _ ih => exact ih (Bool.and_eq_true_iff.mp hends).1
  | second _ ih => exact ih (Bool.and_eq_true_iff.mp hends).2
  | enough => simp
  | @again _ _ _ _ _ left right _ _ _ _ hbody hlater =>
      rw [List.getLast?_append]
      by_cases hnil : right = []
      · rw [hnil, List.getLast?_nil, Option.none_or]
        exact hbody hends
      · rw [List.getLast?_eq_some_getLast hnil, Option.some_or, ← List.getLast?_eq_some_getLast hnil]
        exact hlater hends
  | group _ ih => exact ih hends
  | assertion _ => simp

/-- The characters of a string read one after another are the string. -/
theorem Reads.literal_eq {text : String} (h : Reads (literal text) offset read groups) :
    read = text.toList := by
  rw [literal] at h
  generalize text.toList = chars at h ⊢
  have hone : ∀ {c : Char} {offset : Nat} {read : Text} {groups : Groups},
      Reads (.char (.one c)) offset read groups → read = [c] := by
    intro c offset read groups hread
    cases hread with
    | char hc => rw [of_decide_eq_true hc]
    | assertion hassertion => cases hassertion
  induction chars generalizing offset read groups with
  | nil =>
      cases h with
      | empty => rfl
      | assertion _ => rfl
  | cons c rest ih =>
      cases rest with
      | nil => exact hone h
      | cons d rest =>
          cases h with
          | seq hfirst hsecond => rw [hone hfirst, ih hsecond, List.singleton_append]
          | assertion hassertion => cases hassertion

end Static

section Match

variable {pattern : Pattern} {text : Text} {found : Match}

/-- A match lies in a text: its pattern reads there what it says. -/
def Match.IsIn (found : Match) (pattern : Pattern) (text : Text) : Prop :=
  ∃ read, StandsAt text found.start read ∧ found.stop = found.start + byteLength read ∧
    Reads pattern found.start read found.groups

/-- The match at a cursor lies in the text of the cursor, and so does the cursor after it. -/
theorem match_at_is_in {cursor after : Cursor} (hcursor : cursor.IsIn text)
    (h : matchAt? pattern cursor = some (found, after)) :
    found.IsIn pattern text ∧ found.start = cursor.offset ∧ after.IsIn text := by
  obtain ⟨read, newer, before, rest, hrest, hread, hnext⟩ := run_goes_on pattern _ _ _ _ h
  have hsome := Option.some.inj hnext
  rw [List.append_nil, Prod.mk.injEq] at hsome
  obtain ⟨rfl, rfl⟩ := hsome
  refine ⟨⟨read, ?_, rfl, hread⟩, rfl, hcursor.of_append hrest⟩
  exact (hrest ▸ hcursor.stands_at).front

/-- A match at the start of a text lies in it. -/
theorem match_start_is_in (h : matchStart? pattern text = some found) :
    found.IsIn pattern text ∧ found.start = 0 := by
  obtain ⟨⟨found', after⟩, hat, rfl⟩ := Option.map_eq_some_iff.mp h
  obtain ⟨hin, hstart, -⟩ := match_at_is_in (Cursor.start_is_in text) hat
  exact ⟨hin, hstart⟩

/-- The leftmost match from a cursor on lies in the text of the cursor. -/
theorem search_from_is_in {before : Option Char} {offset : Nat} {rest : Text} {after : Cursor}
    (hcursor : Cursor.IsIn ⟨before, offset, rest⟩ text)
    (h : searchFrom? pattern before offset rest = some (found, after)) :
    found.IsIn pattern text ∧ after.IsIn text := by
  induction rest generalizing before offset with
  | nil =>
      rw [searchFrom?] at h
      split at h
      · next pair hat =>
          obtain ⟨hin, -, hafter⟩ := match_at_is_in hcursor (hat.trans h)
          exact ⟨hin, hafter⟩
      · cases h
  | cons c tail ih =>
      rw [searchFrom?] at h
      split at h
      · next pair hat =>
          obtain ⟨hin, -, hafter⟩ := match_at_is_in hcursor (hat.trans h)
          exact ⟨hin, hafter⟩
      · exact ih hcursor.advance h

/-- Every match from a cursor on lies in the text of the cursor. -/
theorem search_all_from_is_in {fuel : Nat} {cursor : Cursor} (hcursor : cursor.IsIn text)
    (h : found ∈ searchAllFrom pattern fuel cursor) : found.IsIn pattern text := by
  induction fuel generalizing cursor with
  | zero => simp [searchAllFrom] at h
  | succ fuel ih =>
      rw [searchAllFrom] at h
      split at h
      · cases h
      · next first after hsearch =>
          obtain ⟨hin, hafter⟩ := search_from_is_in hcursor hsearch
          split at h
          · split at h
            · exact List.mem_singleton.mp h ▸ hin
            · next c tail htail =>
                rcases List.mem_cons.mp h with rfl | hlater
                · exact hin
                · have hadvance := hafter.advance
                  rw [Cursor.advance, htail] at hadvance
                  exact ih hadvance hlater
          · rcases List.mem_cons.mp h with rfl | hlater
            · exact hin
            · exact ih hafter hlater

/-- Every match in a text lies in it. -/
theorem search_all_is_in (h : found ∈ searchAll pattern text) : found.IsIn pattern text :=
  search_all_from_is_in (Cursor.start_is_in text) h

namespace Match

variable {number : Nat}

/-- A group that took part has read what stands in the text at its extent. -/
theorem IsIn.of_group (h : found.IsIn pattern text) {start stop : Nat}
    (hgroup : found.group? number = some (start, stop)) :
    ∃ part, found.text? text number = some part ∧ StandsAt text start part ∧
      stop = start + byteLength part ∧
      ∃ body ∈ pattern.bodies number, ∃ groups, Reads body start part groups := by
  obtain ⟨read, hread, -, hreads⟩ := h
  obtain ⟨⟨other, extent⟩, hfind, rfl⟩ := Option.map_eq_some_iff.mp hgroup
  have hnumber : other = number := by simpa using List.find?_some hfind
  subst hnumber
  obtain ⟨inner, part, rfl, rfl, hpart, hbody⟩ := hreads.group_stands (List.mem_of_find?_eq_some hfind)
  refine ⟨part, ?_, hread.trans hpart, rfl, hbody⟩
  rw [text?, hgroup]
  exact Text.slice_eq_some_iff.mpr ⟨hread.trans hpart, rfl⟩

/-- A group that every match records took part. -/
theorem IsIn.exists_group (h : found.IsIn pattern text) (hrecords : pattern.records number = true) :
    ∃ start stop, found.group? number = some (start, stop) := by
  obtain ⟨read, -, -, hreads⟩ := h
  obtain ⟨start, stop, hmem⟩ := hreads.exists_mem_of_records hrecords
  have hsome : (found.groups.find? (·.1 = number)).isSome := by
    rw [List.find?_isSome]
    exact ⟨_, hmem, by simp⟩
  obtain ⟨⟨other, first, last⟩, hfind⟩ := Option.isSome_iff_exists.mp hsome
  exact ⟨first, last, by rw [group?, hfind]; rfl⟩

/-- The text of a group that every match records is there. -/
theorem IsIn.exists_text (h : found.IsIn pattern text) (hrecords : pattern.records number = true) :
    ∃ part, found.text? text number = some part := by
  obtain ⟨start, stop, hgroup⟩ := h.exists_group hrecords
  obtain ⟨part, hpart, -⟩ := h.of_group hgroup
  exact ⟨part, hpart⟩

end Match

end Match

end CodeAtlas.Pattern
