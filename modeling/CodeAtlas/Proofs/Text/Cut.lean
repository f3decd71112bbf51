import CodeAtlas.Proofs.Text.Word
import CodeAtlas.Text.Delimiter

/-!
# Where a part stands

`StandsAt text offset part` says that a part stands at a byte offset of a text, and `IsBoundary` that
a character starts or the text ends there. Read these two first: a cut succeeds just where they hold
(`slice_eq_some_iff`, `slice_is_some_iff`), and the places of parts of parts add up
(`StandsAt.trans`).
-/

namespace CodeAtlas.Text

/-- `part` stands at byte offset `offset` of a text. -/
def StandsAt (text : Text) (offset : Nat) (part : Text) : Prop :=
  ∃ front back, text = front ++ (part ++ back) ∧ byteLength front = offset

/-- A byte offset at which a character starts, or the text ends. -/
def IsBoundary (text : Text) (offset : Nat) : Prop :=
  ∃ front back, text = front ++ back ∧ byteLength front = offset

section Basic

variable {text part sub left right : Text} {offset start stop : Nat}

/-- The character before the end of a part that starts with another one. -/
theorem last_cons (c : Char) (read : Text) (before : Option Char) :
    (c :: read).getLast?.or before = read.getLast?.or (some c) := by
  rw [List.getLast?_cons]
  cases read.getLast? <;> rfl

/-- The character before the end of two parts. -/
theorem last_append (left right : Text) (before : Option Char) :
    (left ++ right).getLast?.or before = right.getLast?.or (left.getLast?.or before) := by
  rw [List.getLast?_append, Option.or_assoc]

/-- Every character has a byte. -/
theorem byte_length_pos (c : Char) (rest : Text) : 0 < byteLength (c :: rest) := by
  have hpos := Char.utf8Size_pos c
  rw [byteLength]
  omega

/-- Only the empty text has no bytes. -/
theorem byte_length_eq_zero : byteLength text = 0 ↔ text = [] := by
  cases text with
  | nil => simp [byteLength]
  | cons c rest => simpa using (byte_length_pos c rest).ne'

/-- Dropping bytes leaves what follows a front of so many bytes. -/
theorem drop_bytes_eq_some_iff : dropBytes? text offset = some right ↔
    ∃ front, text = front ++ right ∧ byteLength front = offset := by
  induction text generalizing offset with
  | nil =>
      cases offset with
      | zero => simp [dropBytes?, byte_length_eq_zero, exists_eq_right]
      | succ n =>
          simp only [dropBytes?, reduceCtorEq, false_iff, not_exists, not_and]
          intro front htext hlength
          obtain ⟨rfl, -⟩ := List.append_eq_nil_iff.mp htext.symm
          simp [byteLength] at hlength
  | cons c rest ih =>
      cases offset with
      | zero => simp [dropBytes?, byte_length_eq_zero]
      | succ n =>
          rw [dropBytes?]
          constructor
          · intro h
            split at h
            · next hle =>
                obtain ⟨front, rfl, hlength⟩ := ih.mp h
                exact ⟨c :: front, rfl, by rw [byteLength, hlength]; omega⟩
            · cases h
          · rintro ⟨front, htext, hlength⟩
            cases front with
            | nil => simp [byteLength] at hlength
            | cons d front =>
                simp only [List.cons_append, List.cons.injEq] at htext
                obtain ⟨rfl, rfl⟩ := htext
                rw [byteLength] at hlength
                rw [if_pos (by omega), ih]
                exact ⟨front, rfl, by omega⟩

/-- Taking bytes gives the front of so many bytes. -/
theorem take_bytes_eq_some_iff : takeBytes? text offset = some left ↔
    ∃ back, text = left ++ back ∧ byteLength left = offset := by
  induction text generalizing offset left with
  | nil =>
      cases offset with
      | zero =>
          simp only [takeBytes?, Option.some.injEq, byte_length_eq_zero]
          constructor
          · rintro rfl
            exact ⟨[], rfl, rfl⟩
          · rintro ⟨_, -, rfl⟩
            rfl
      | succ n =>
          simp only [takeBytes?, reduceCtorEq, false_iff, not_exists, not_and]
          intro back htext hlength
          obtain ⟨rfl, -⟩ := List.append_eq_nil_iff.mp htext.symm
          simp [byteLength] at hlength
  | cons c rest ih =>
      cases offset with
      | zero =>
          simp only [takeBytes?, Option.some.injEq, byte_length_eq_zero]
          constructor
          · rintro rfl
            exact ⟨c :: rest, rfl, rfl⟩
          · rintro ⟨_, -, rfl⟩
            rfl
      | succ n =>
          rw [takeBytes?]
          constructor
          · intro h
            split at h
            · next hle =>
                obtain ⟨tail, htail, rfl⟩ := Option.map_eq_some_iff.mp h
                obtain ⟨back, rfl, hlength⟩ := ih.mp htail
                exact ⟨back, rfl, by rw [byteLength, hlength]; omega⟩
            · cases h
          · rintro ⟨back, htext, hlength⟩
            cases left with
            | nil => simp [byteLength] at hlength
            | cons d left =>
                simp only [List.cons_append, List.cons.injEq] at htext
                obtain ⟨rfl, rfl⟩ := htext
                rw [byteLength] at hlength
                rw [if_pos (by omega), Option.map_eq_some_iff]
                exact ⟨left, ih.mpr ⟨back, rfl, by omega⟩, rfl⟩

/-- A slice is the part that stands between its two offsets. -/
theorem slice_eq_some_iff :
    slice? text start stop = some part ↔
      StandsAt text start part ∧ stop = start + byteLength part := by
  rw [slice?]
  constructor
  · intro h
    split at h
    · next hle =>
        obtain ⟨rest, hrest, hpart⟩ := Option.bind_eq_some_iff.mp h
        obtain ⟨front, rfl, rfl⟩ := drop_bytes_eq_some_iff.mp hrest
        obtain ⟨back, rfl, hlength⟩ := take_bytes_eq_some_iff.mp hpart
        exact ⟨⟨front, back, rfl, rfl⟩, by omega⟩
    · cases h
  · rintro ⟨⟨front, back, rfl, rfl⟩, rfl⟩
    rw [if_pos (Nat.le_add_right _ _), Option.bind_eq_some_iff]
    exact ⟨part ++ back, drop_bytes_eq_some_iff.mpr ⟨front, rfl, rfl⟩,
      take_bytes_eq_some_iff.mpr ⟨back, rfl, by omega⟩⟩

/-- Bytes can be dropped up to a boundary. -/
theorem drop_bytes_is_some_iff : (dropBytes? text offset).isSome ↔ IsBoundary text offset := by
  rw [Option.isSome_iff_exists, IsBoundary]
  simp only [drop_bytes_eq_some_iff]
  exact exists_comm

/-- Bytes can be taken up to a boundary. -/
theorem take_bytes_is_some_iff : (takeBytes? text offset).isSome ↔ IsBoundary text offset := by
  rw [Option.isSome_iff_exists, IsBoundary]
  simp only [take_bytes_eq_some_iff]

/-- Between two boundaries stands a part. -/
theorem IsBoundary.exists_stands_at (hstart : IsBoundary text start) (hstop : IsBoundary text stop)
    (hle : start ≤ stop) : ∃ part, StandsAt text start part ∧ stop = start + byteLength part := by
  obtain ⟨front, back, rfl, rfl⟩ := hstart
  obtain ⟨front', back', htext, rfl⟩ := hstop
  rcases List.append_eq_append_iff.mp htext with ⟨part, rfl, rfl⟩ | ⟨part, rfl, rfl⟩
  · exact ⟨part, ⟨front, back', rfl, rfl⟩, byte_length_append front part⟩
  · rw [byte_length_append] at hle ⊢
    have hnil : part = [] := byte_length_eq_zero.mp (by omega)
    subst hnil
    exact ⟨[], ⟨front', back, by simp, by simp [byteLength]⟩, by simp [byteLength]⟩

/-- A slice succeeds just between two boundaries in order. -/
theorem slice_is_some_iff : (slice? text start stop).isSome ↔
    start ≤ stop ∧ IsBoundary text start ∧ IsBoundary text stop := by
  rw [Option.isSome_iff_exists]
  constructor
  · rintro ⟨part, hpart⟩
    obtain ⟨⟨front, back, rfl, rfl⟩, rfl⟩ := slice_eq_some_iff.mp hpart
    exact ⟨Nat.le_add_right _ _, ⟨front, part ++ back, rfl, rfl⟩,
      ⟨front ++ part, back, by rw [List.append_assoc], byte_length_append front part⟩⟩
  · rintro ⟨hle, hstart, hstop⟩
    obtain ⟨part, hpart, hlength⟩ := hstart.exists_stands_at hstop hle
    exact ⟨part, slice_eq_some_iff.mpr ⟨hpart, hlength⟩⟩

/-- A part stands where what follows the offset begins with it. -/
theorem stands_at_iff_drop_bytes :
    StandsAt text offset part ↔ ∃ back, dropBytes? text offset = some (part ++ back) := by
  simp only [drop_bytes_eq_some_iff]
  exact exists_comm

/-- A whole text stands at its start. -/
theorem stands_at_zero (text : Text) : StandsAt text 0 text :=
  ⟨[], [], by simp, rfl⟩

/-- A text starts at a boundary. -/
theorem is_boundary_zero (text : Text) : IsBoundary text 0 :=
  ⟨[], text, rfl, rfl⟩

/-- A text ends at a boundary. -/
theorem is_boundary_byte_length (text : Text) : IsBoundary text (byteLength text) :=
  ⟨text, [], by simp, rfl⟩

/-- A boundary is within the text. -/
theorem IsBoundary.le_byte_length (h : IsBoundary text offset) : offset ≤ byteLength text := by
  obtain ⟨front, back, rfl, rfl⟩ := h
  rw [byte_length_append]
  omega

/-- What stands in a part stands in the text, so much further on. -/
theorem StandsAt.trans {inner : Nat} (hpart : StandsAt text offset part)
    (hsub : StandsAt part inner sub) : StandsAt text (offset + inner) sub := by
  obtain ⟨front, back, rfl, rfl⟩ := hpart
  obtain ⟨front', back', rfl, rfl⟩ := hsub
  exact ⟨front ++ front', back' ++ back, by simp, byte_length_append front front'⟩

/-- Nothing stands at the boundaries alone. -/
theorem stands_at_nil_iff : StandsAt text offset [] ↔ IsBoundary text offset :=
  Iff.rfl

/-- A boundary of a part is one of the text. -/
theorem StandsAt.is_boundary {inner : Nat} (hpart : StandsAt text offset part)
    (hinner : IsBoundary part inner) : IsBoundary text (offset + inner) :=
  stands_at_nil_iff.mp (hpart.trans (stands_at_nil_iff.mpr hinner))

/-- A part starts at a boundary. -/
theorem StandsAt.start_boundary (hpart : StandsAt text offset part) : IsBoundary text offset :=
  hpart.is_boundary (is_boundary_zero part)

/-- A part ends at a boundary. -/
theorem StandsAt.stop_boundary (hpart : StandsAt text offset part) :
    IsBoundary text (offset + byteLength part) :=
  hpart.is_boundary (is_boundary_byte_length part)

/-- The front of a part stands where the part does. -/
theorem StandsAt.front (hpart : StandsAt text offset (left ++ right)) :
    StandsAt text offset left := by
  obtain ⟨outer, rest, rfl, rfl⟩ := hpart
  exact ⟨outer, right ++ rest, by simp, rfl⟩

/-- The back of a part stands after its front. -/
theorem StandsAt.back (hpart : StandsAt text offset (left ++ right)) :
    StandsAt text (offset + byteLength left) right :=
  hpart.trans ⟨left, [], by simp, rfl⟩

/-- The characters after the first one stand after it. -/
theorem StandsAt.tail {c : Char} (hpart : StandsAt text offset (c :: part)) :
    StandsAt text (offset + c.utf8Size) part := by
  have hsplit : StandsAt text offset ([c] ++ part) := hpart
  have hback := hsplit.back
  rwa [byteLength, byteLength] at hback

/-- A character and the part right behind it stand as one part. -/
theorem StandsAt.cons {c : Char} (hc : StandsAt text offset [c])
    (hpart : StandsAt text (offset + c.utf8Size) part) : StandsAt text offset (c :: part) := by
  obtain ⟨front, back, rfl, rfl⟩ := hc
  obtain ⟨front', back', htext, hlength⟩ := hpart
  have hbehind : dropBytes? (front ++ ([c] ++ back)) (byteLength front + c.utf8Size) = some back :=
    drop_bytes_eq_some_iff.mpr ⟨front ++ [c], by simp, by rw [byte_length_append]; rfl⟩
  have hthere := drop_bytes_eq_some_iff.mpr ⟨front', htext, hlength⟩
  obtain rfl := Option.some.inj (hbehind.symm.trans hthere)
  exact ⟨front, back', by simp, rfl⟩

/-- A part ends within its text. -/
theorem StandsAt.le_byte_length (hpart : StandsAt text offset part) :
    offset + byteLength part ≤ byteLength text := by
  obtain ⟨front, back, rfl, rfl⟩ := hpart
  rw [byte_length_append, byte_length_append]
  omega

/-- A text read backwards is as long. -/
theorem byte_length_reverse (text : Text) : byteLength text.reverse = byteLength text := by
  induction text with
  | nil => rfl
  | cons c rest ih =>
      rw [List.reverse_cons, byte_length_append, ih, byteLength, byteLength, byteLength]
      omega

/-- The text after a boundary stands there. -/
theorem stands_at_of_drop_bytes (h : dropBytes? text offset = some right) :
    StandsAt text offset right :=
  stands_at_iff_drop_bytes.mpr ⟨[], by simpa using h⟩

/-- Two ways to cut a text have a middle between them. -/
theorem exists_between {left right front back : Text} (h : left ++ right = front ++ back)
    (hle : byteLength left ≤ byteLength front) :
    ∃ middle, front = left ++ middle ∧ right = middle ++ back := by
  rcases List.append_eq_append_iff.mp h with ⟨middle, hfront, hright⟩ | ⟨middle, rfl, hback⟩
  · exact ⟨middle, hfront, hright⟩
  · rw [byte_length_append] at hle
    obtain rfl := byte_length_eq_zero.mp (show byteLength middle = 0 by omega)
    exact ⟨[], by simp, by simpa using hback.symm⟩

/-- A part that starts after a front stands in what follows the front. -/
theorem StandsAt.of_append_le {left right part : Text} (h : StandsAt (left ++ right) offset part)
    (hle : byteLength left ≤ offset) : StandsAt right (offset - byteLength left) part := by
  obtain ⟨front, tail, hsplit, rfl⟩ := h
  rcases List.append_eq_append_iff.mp hsplit with ⟨middle, rfl, rfl⟩ | ⟨middle, rfl, hright⟩
  · exact ⟨middle, tail, rfl, by rw [byte_length_append]; omega⟩
  · rw [byte_length_append] at hle ⊢
    have hnil : middle = [] := byte_length_eq_zero.mp (by omega)
    subst hnil
    exact ⟨[], tail, hright.symm, by simp [byteLength]⟩

/-- A part that starts within a front starts with the end of it. -/
theorem StandsAt.of_append_lt {left right part : Text} (h : StandsAt (left ++ right) offset part)
    (hlt : offset < byteLength left) : ∃ front middle tail, left = front ++ middle ∧ middle ≠ [] ∧
      byteLength front = offset ∧ middle ++ right = part ++ tail := by
  obtain ⟨front, tail, hsplit, rfl⟩ := h
  rcases List.append_eq_append_iff.mp hsplit with ⟨middle, rfl, hright⟩ | ⟨middle, rfl, hright⟩
  · rw [byte_length_append] at hlt
    omega
  · refine ⟨front, middle, tail, rfl, ?_, rfl, hright.symm⟩
    rintro rfl
    simp at hlt

/-- A boundary after the first character. -/
theorem IsBoundary.cons (c : Char) (h : IsBoundary text offset) :
    IsBoundary (c :: text) (c.utf8Size + offset) := by
  obtain ⟨front, tail, rfl, rfl⟩ := h
  exact ⟨c :: front, tail, rfl, rfl⟩

/-- A part that starts before a character it does not have ends before it. -/
theorem StandsAt.ends_before {inner : Nat} {c : Char} (hpart : StandsAt text offset part)
    (hc : StandsAt text inner [c]) (hmem : c ∉ part) (hlt : offset < inner) :
    offset + byteLength part ≤ inner := by
  obtain ⟨front, back, rfl, rfl⟩ := hpart
  by_contra hle
  have hinner := hc.of_append_le (Nat.le_of_lt hlt)
  obtain ⟨left, middle, tail, hsplit, hne, -, htail⟩ := hinner.of_append_lt (by omega)
  obtain ⟨d, rest, rfl⟩ := List.exists_cons_of_ne_nil hne
  obtain ⟨rfl, -⟩ := List.cons.inj htail
  exact hmem (by simp [hsplit])

end Basic

end CodeAtlas.Text
