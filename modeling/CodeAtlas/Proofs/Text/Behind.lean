import CodeAtlas.Proofs.Pattern.Passes
import CodeAtlas.Proofs.Text.Bracket

/-!
# What stands behind a front

Cutting, pairing brackets and walking on from a place look at nothing in front of it. Behind a front of a
text they give what they give in the rest alone, as many bytes further on as the front has (`slice_behind`,
`matching_behind`, `seek_behind`). `Cursor.between` is the cursor after a front; the walks lead from one
such cursor to the next.
-/

namespace CodeAtlas.Text

section Offsets

variable {front back part : Text} {start stop offset index depth : Nat}

/-- Bytes dropped beyond a front are dropped from what stands behind it. -/
theorem drop_behind (front back : Text) (offset : Nat) :
    dropBytes? (front ++ back) (byteLength front + offset) = dropBytes? back offset := by
  induction front with
  | nil => rw [byteLength, Nat.zero_add, List.nil_append]
  | cons c front ih =>
      have hsize : byteLength (c :: front) + offset = c.utf8Size + (byteLength front + offset) :=
        Nat.add_assoc _ _ _
      obtain ⟨n, hn⟩ := Nat.exists_eq_succ_of_ne_zero (Char.utf8Size_pos c).ne'
      have hsucc : c.utf8Size + (byteLength front + offset) = n + (byteLength front + offset) + 1 := by
        omega
      rw [hsize, hsucc, List.cons_append, dropBytes?, if_pos (by omega), ← ih]
      congr 1
      omega

/-- A cut behind a front is a cut in what stands behind it. -/
theorem slice_behind (front back : Text) (start stop : Nat) :
    slice? (front ++ back) (byteLength front + start) (byteLength front + stop) =
      slice? back start stop := by
  rw [slice?, slice?, drop_behind, Nat.add_sub_add_left]
  simp only [Nat.add_le_add_iff_left]

/-- A cut in a front does not depend on what stands behind it. -/
theorem slice_before (back : Text) (hstop : stop ≤ byteLength front) :
    slice? (front ++ back) start stop = slice? front start stop := by
  refine Option.ext fun part => ?_
  rw [slice_eq_some_iff, slice_eq_some_iff]
  refine and_congr_left ?_
  rintro rfl
  constructor
  · rintro ⟨left, right, hsplit, rfl⟩
    rw [← List.append_assoc] at hsplit
    obtain ⟨middle, hfront, -⟩ :=
      exists_between hsplit.symm (by rwa [byte_length_append])
    exact ⟨left, middle, by rw [hfront, List.append_assoc], rfl⟩
  · rintro ⟨left, right, rfl, rfl⟩
    exact ⟨left, right ++ back, by simp only [List.append_assoc], rfl⟩

/-- The closer that is found is as many bytes further on as the search starts. -/
theorem close_from_behind (opener closer : UInt8) (found : List UInt8) (base index depth : Nat) :
    closeFrom? opener closer found (base + index) depth =
      (closeFrom? opener closer found index depth).map (base + ·) := by
  induction found generalizing index depth with
  | nil => rfl
  | cons b found ih =>
      rw [closeFrom?, closeFrom?, Nat.add_assoc, ih, ih, ih]
      split
      · rfl
      · split
        · split <;> rfl
        · rfl

/-- A bracket behind a front is paired in what stands behind it. -/
theorem matching_behind (front back : Text) (start : Nat) :
    matchingDelimiter? (front ++ back) (byteLength front + start) =
      (matchingDelimiter? back start).map (byteLength front + ·) := by
  have hdrop : (bytes (front ++ back)).drop (byteLength front + start) = (bytes back).drop start := by
    rw [← List.drop_drop, drop_bytes_append]
  have hindex : ∀ opener closer found,
      closeFrom? opener closer found (byteLength front + start) 0 =
        (closeFrom? opener closer found start 0).map (byteLength front + ·) :=
    fun opener closer found => close_from_behind opener closer found _ _ _
  rw [matchingDelimiter?, matchingDelimiter?, hdrop]
  cases ((bytes back).drop start).head? with
  | none => rfl
  | some opener =>
      cases hcloser : closerOf? opener with
      | none => simp [hcloser]
      | some closer => simp [hcloser, hindex]

end Offsets

namespace Cursor

/-- The cursor between a front and the rest of a text. -/
def between (front rest : Text) : Cursor :=
  ⟨front.getLast?, byteLength front, rest⟩

/-- A cursor of a text that stands behind a front, as a cursor of the whole. -/
def behind (front : Text) (cursor : Cursor) : Cursor :=
  ⟨cursor.before.or front.getLast?, byteLength front + cursor.offset, cursor.rest⟩

variable {front left right rest : Text} {cursor : Cursor} {c : Char}

/-- What is between two fronts and the rest is behind the first of them. -/
theorem behind_between (front left rest : Text) :
    behind front (between left rest) = between (front ++ left) rest := by
  rw [behind, between, between, List.getLast?_append, byte_length_append]

/-- A cursor goes on over a character. -/
theorem advance_between (front : Text) (c : Char) (rest : Text) :
    (between front (c :: rest)).advance = between (front ++ [c]) rest := by
  rw [between, between, advance, List.getLast?_concat, byte_length_append]
  rfl

/-- A cursor goes on over a part. -/
theorem advance_by_between (front part rest : Text) :
    (between front (part ++ rest)).advanceBy part.length = between (front ++ part) rest := by
  induction part generalizing front with
  | nil => rw [List.append_nil]; rfl
  | cons c part ih =>
      rw [List.cons_append, List.length_cons, advanceBy, advance_between, ih, List.append_assoc]
      rfl

/-- A cursor goes on over the characters that pass a test, up to one that does not. -/
theorem skip_while_between {test : Char → Bool} {part : Text} (hpart : ∀ c ∈ part, test c = true)
    (hrest : ∀ c, rest.head? = some c → test c = false) (front : Text) :
    (between front (part ++ rest)).skipWhile test = between (front ++ part) rest := by
  rw [skipWhile]
  induction part generalizing front with
  | nil =>
      rw [List.append_nil]
      cases rest with
      | nil => rfl
      | cons c rest =>
          change skipWhileFrom test _ _ (c :: rest) = _
          rw [skipWhileFrom, if_neg (by simp [hrest c rfl])]
          rfl
  | cons c part ih =>
      obtain ⟨hc, hpart⟩ := List.forall_mem_cons.mp hpart
      have hlater := ih hpart (front ++ [c])
      rw [List.append_assoc] at hlater
      rw [show front ++ c :: part = front ++ ([c] ++ part) from rfl, ← hlater]
      change skipWhileFrom test _ _ (c :: (part ++ rest)) = _
      rw [skipWhileFrom, if_pos hc]
      change _ = skipWhileFrom test (front ++ [c]).getLast? (byteLength (front ++ [c])) (part ++ rest)
      rw [List.getLast?_concat, byte_length_append]
      rfl

/-- A walk behind a front goes as it does in what stands behind it. -/
theorem skip_while_behind (test : Char → Bool) (front : Text) (cursor : Cursor) :
    (behind front cursor).skipWhile test = behind front (cursor.skipWhile test) := by
  have hfrom : ∀ (before : Option Char) (offset : Nat) (rest : Text),
      skipWhileFrom test (before.or front.getLast?) (byteLength front + offset) rest =
        behind front (skipWhileFrom test before offset rest) := by
    intro before offset rest
    induction rest generalizing before offset with
    | nil => rfl
    | cons c rest ih =>
        rw [skipWhileFrom, skipWhileFrom]
        split
        · rw [Nat.add_assoc, ← ih (some c)]
          rfl
        · rfl
  exact hfrom _ _ _

/-- One character further behind a front. -/
theorem advance_behind (front : Text) (cursor : Cursor) :
    (behind front cursor).advance = behind front cursor.advance := by
  obtain ⟨before, offset, rest⟩ := cursor
  cases rest with
  | nil => rfl
  | cons c rest =>
      change (⟨some c, byteLength front + offset + c.utf8Size, rest⟩ : Cursor) =
        ⟨some c, byteLength front + (offset + c.utf8Size), rest⟩
      rw [Nat.add_assoc]

/-- Any number of characters further behind a front. -/
theorem advance_by_behind (front : Text) (cursor : Cursor) (count : Nat) :
    (behind front cursor).advanceBy count = behind front (cursor.advanceBy count) := by
  induction count generalizing cursor with
  | zero => rfl
  | succ count ih => rw [advanceBy, advanceBy, advance_behind, ih]

/-- A search that starts with a front goes on behind it. -/
theorem seek_from_append (before : Option Char) (base : Nat) (front back : Text) (offset : Nat) :
    seekFrom? before base (front ++ back) (byteLength front + offset) =
      seekFrom? (front.getLast?.or before) (base + byteLength front) back offset := by
  induction front generalizing before base with
  | nil => rw [byteLength, Nat.zero_add]; rfl
  | cons c front ih =>
      obtain ⟨n, hn⟩ := Nat.exists_eq_succ_of_ne_zero (Char.utf8Size_pos c).ne'
      have hsucc : byteLength (c :: front) + offset = n + (byteLength front + offset) + 1 := by
        rw [byteLength]
        omega
      have hleft : n + (byteLength front + offset) + 1 - c.utf8Size = byteLength front + offset := by
        omega
      rw [hsucc, List.cons_append, seekFrom?, if_pos (by omega), hleft, ih, last_cons,
        byteLength, Nat.add_assoc]

/-- The cursor that is sought behind a front. -/
theorem seek_behind (front back : Text) (offset : Nat) :
    seek? (front ++ back) (byteLength front + offset) = (seek? back offset).map (behind front) := by
  have hfrom : ∀ (before : Option Char) (base : Nat) (rest : Text) (offset : Nat),
      seekFrom? (before.or front.getLast?) (byteLength front + base) rest offset =
        (seekFrom? before base rest offset).map (behind front) := by
    intro before base rest
    induction rest generalizing before base with
    | nil =>
        intro offset
        cases offset <;> rfl
    | cons c rest ih =>
        intro offset
        cases offset with
        | zero => rfl
        | succ n =>
            rw [seekFrom?, seekFrom?]
            split
            · rw [Nat.add_assoc, ← ih (some c)]
              rfl
            · rfl
  rw [seek?, seek?, ← hfrom, seek_from_append, Option.or_none, Option.none_or, Nat.zero_add,
    Nat.add_zero]

/-- Behind a front there is a cursor. -/
theorem seek_between (front rest : Text) :
    seek? (front ++ rest) (byteLength front) = some (between front rest) := by
  have hseek := seek_behind front rest 0
  rw [Nat.add_zero] at hseek
  rw [hseek]
  cases rest <;> rfl

end Cursor

end CodeAtlas.Text
