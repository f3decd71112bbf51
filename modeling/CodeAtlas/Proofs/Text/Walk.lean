import CodeAtlas.Proofs.Text.Cut
import CodeAtlas.Text.Cursor

/-!
# Where walks through a text leave off

Searching, trimming, splitting and pairing brackets all answer with offsets or parts. The lemmas say
that what is answered stands where the answer says: `find_eq_some`, `stands_at_of_mem_with_offsets` and
`matching_delimiter_eq_some` are the ones that others are derived from. Brackets are paired byte by
byte; `stands_at_of_byte` is why the bytes found are characters.
-/

namespace CodeAtlas.Text

section Search

variable {text part : Text} {offset : Nat}

/-- A text starts with another if it is its prefix. -/
theorem starts_with_iff_begins : startsWith text part = true ↔ part <+: text := by
  rw [starts_with_iff, List.prefix_iff_eq_take, eq_comm]

/-- What is left after a head follows it. -/
theorem drop_head_eq_some {head rest : Text} (h : dropHead? text head = some rest) :
    text = head ++ rest := by
  rw [drop_head_eq] at h
  split at h
  · next htake =>
      have hsplit := List.take_append_drop head.length text
      rw [htake, Option.some.inj h] at hsplit
      exact hsplit.symm
  · cases h

/-- A front of a text stands at its start. -/
theorem stands_at_of_begins (h : part <+: text) : StandsAt text 0 part := by
  obtain ⟨back, rfl⟩ := h
  exact ⟨[], back, rfl, rfl⟩

/-- The end of a text stands as many bytes before the end as it has. -/
theorem stands_at_of_ends (h : part <:+ text) :
    StandsAt text (byteLength text - byteLength part) part := by
  obtain ⟨front, rfl⟩ := h
  refine ⟨front, [], by simp, ?_⟩
  rw [byte_length_append]
  omega

/-- The characters up to one that fails a test stand at the start. -/
theorem stands_at_take_while (test : Char → Bool) (text : Text) :
    StandsAt text 0 (text.takeWhile test) :=
  stands_at_of_begins (List.takeWhile_prefix test)

/-- What follows the leading white space stands after it. -/
theorem stands_at_trim_start (text : Text) :
    StandsAt text (byteLength text - byteLength (trimStart text)) (trimStart text) :=
  stands_at_of_ends (List.dropWhile_suffix isWhiteSpace)

/-- The character that is found, counting offsets from `base`. -/
theorem find_indexed_from {test : Char → Bool} {base : Nat}
    (h : ((indexedFrom base text).find? fun entry => test entry.2).map (·.1) = some offset) :
    ∃ inner c, offset = base + inner ∧ test c = true ∧ StandsAt text inner [c] := by
  induction text generalizing base with
  | nil => simp [indexedFrom] at h
  | cons c rest ih =>
      rw [indexedFrom, List.find?_cons] at h
      by_cases hc : test c = true
      · simp only [hc, Option.map_some, Option.some.injEq] at h
        exact ⟨0, c, by omega, hc, [], rest, rfl, rfl⟩
      · simp only [Bool.not_eq_true] at hc
        simp only [hc] at h
        obtain ⟨inner, d, hoffset, hd, front, back, rfl, hlength⟩ := ih h
        refine ⟨c.utf8Size + inner, d, by omega, hd, c :: front, back, rfl, ?_⟩
        rw [byteLength, hlength]

/-- At the offset that is found stands a character that passes the test. -/
theorem find_char_eq_some {test : Char → Bool} (h : findChar? text test = some offset) :
    ∃ c, test c = true ∧ StandsAt text offset [c] := by
  obtain ⟨inner, c, hoffset, hc, hstands⟩ := find_indexed_from h
  rw [Nat.zero_add] at hoffset
  exact ⟨c, hc, hoffset ▸ hstands⟩

/-- The part that is found, counting offsets from `base`. -/
theorem find_from_eq_some {base : Nat} (h : findFrom? base text part = some offset) :
    ∃ inner, offset = base + inner ∧ StandsAt text inner part := by
  induction text generalizing base with
  | nil =>
      rw [findFrom?] at h
      split at h
      · next hstarts =>
          exact ⟨0, (Option.some.inj h).symm, stands_at_of_begins (starts_with_iff_begins.mp hstarts)⟩
      · cases h
  | cons c rest ih =>
      rw [findFrom?] at h
      split at h
      · next hstarts =>
          exact ⟨0, (Option.some.inj h).symm, stands_at_of_begins (starts_with_iff_begins.mp hstarts)⟩
      · obtain ⟨inner, hoffset, front, back, rfl, hlength⟩ := ih h
        refine ⟨c.utf8Size + inner, by omega, c :: front, back, rfl, ?_⟩
        rw [byteLength, hlength]

/-- A part stands where it is found. -/
theorem find_eq_some (h : find? text part = some offset) : StandsAt text offset part := by
  obtain ⟨inner, hoffset, hstands⟩ := find_from_eq_some h
  rw [Nat.zero_add] at hoffset
  exact hoffset ▸ hstands

/-- A part that stands in a text is found. -/
theorem find_is_some (h : StandsAt text offset part) : (find? text part).isSome := by
  have hfrom : ∀ base, (findFrom? base text part).isSome := by
    obtain ⟨front, back, rfl, -⟩ := h
    induction front with
    | nil =>
        intro base
        have hstarts : startsWith ([] ++ (part ++ back)) part = true :=
          starts_with_iff_begins.mpr (List.prefix_append part back)
        unfold findFrom?
        rw [if_pos hstarts]
        rfl
    | cons c front ih =>
        intro base
        rw [List.cons_append, findFrom?]
        split
        · rfl
        · exact ih _
  exact hfrom 0

end Search

section Split

variable {separator : Char}

/-- Parts joined, when there are more. -/
theorem join_cons {part : Text} {parts : List Text} (h : parts ≠ []) :
    join [separator] (part :: parts) = part ++ separator :: join [separator] parts := by
  cases parts with
  | nil => exact absurd rfl h
  | cons next parts => simp [join]

/-- A character in front of the first part is in front of all. -/
theorem join_cons_char (c : Char) (part : Text) (parts : List Text) :
    join [separator] ((c :: part) :: parts) = c :: join [separator] (part :: parts) := by
  cases parts <;> rfl

/-- A part stands between the parts above it, each followed by the separator, and those below it, each
behind the separator. -/
theorem join_around (above : List Text) (part : Text) (below : List Text) :
    join [separator] (above ++ part :: below) =
      above.flatMap (· ++ [separator]) ++ (part ++ below.flatMap (separator :: ·)) := by
  induction above with
  | nil =>
      rw [List.nil_append, List.flatMap_nil, List.nil_append]
      induction below generalizing part with
      | nil => simp [join]
      | cons next below ih =>
          rw [join_cons (List.cons_ne_nil next below), ih, List.flatMap_cons, List.cons_append]
  | cons first above ih =>
      rw [List.cons_append, join_cons (by simp), ih]
      simp

/-- The parts of a text that is cut at every separator make up the text. -/
theorem join_split_by (separator : Char) (text : Text) :
    join [separator] (splitBy (· = separator) text) = text := by
  induction text with
  | nil => rfl
  | cons c rest ih =>
      have hne := split_by_ne_nil (· = separator) rest
      rw [splitBy]
      split
      · next hc =>
          rw [join_cons hne, ih, List.nil_append, of_decide_eq_true hc]
      · split
        · next hnil => exact absurd hnil hne
        · next part parts heq => rw [join_cons_char, ← heq, ih]

/-- A text that is split outside brackets has a first part. -/
theorem split_top_level_from_ne_nil (previous : Option Char) (depth : Int) (text : Text) :
    splitTopLevelFrom separator previous depth text ≠ [] := by
  cases text with
  | nil => simp [splitTopLevelFrom]
  | cons c rest =>
      rw [splitTopLevelFrom]
      split
      · simp
      · split <;> simp

/-- The parts of a text that is cut outside brackets make up the text. -/
theorem join_split_top_level_from (previous : Option Char) (depth : Int) (text : Text) :
    join [separator] (splitTopLevelFrom separator previous depth text) = text := by
  induction text generalizing previous depth with
  | nil => rfl
  | cons c rest ih =>
      rw [splitTopLevelFrom]
      split
      · next hcut =>
          simp only [Bool.and_eq_true, decide_eq_true_eq] at hcut
          rw [join_cons (split_top_level_from_ne_nil _ _ rest), ih, List.nil_append, hcut.1.2]
      · split
        · next hnil => exact absurd hnil (split_top_level_from_ne_nil _ _ rest)
        · next part parts heq => rw [join_cons_char, ← heq, ih]

/-- The parts of a text that is cut outside brackets make up the text. -/
theorem join_split_top_level (text : Text) (separator : Char) :
    join [separator] (splitTopLevel text separator) = text :=
  join_split_top_level_from none 0 text

/-- A part stands at its offset. -/
theorem stands_at_of_mem_with_offsets {parts : List Text} {start offset : Nat} {part : Text}
    (hseparator : separator.utf8Size = 1) (h : (offset, part) ∈ withOffsets start parts) :
    ∃ inner, offset = start + inner ∧ StandsAt (join [separator] parts) inner part := by
  induction parts generalizing start with
  | nil => simp [withOffsets] at h
  | cons first rest ih =>
      rw [withOffsets, List.mem_cons, Prod.mk.injEq] at h
      rcases h with ⟨rfl, rfl⟩ | hrest
      · refine ⟨0, rfl, stands_at_of_begins ?_⟩
        cases rest with
        | nil => exact List.prefix_rfl
        | cons next rest => exact ⟨separator :: join [separator] (next :: rest), by simp [join]⟩
      · have hne : rest ≠ [] := by
          rintro rfl
          simp [withOffsets] at hrest
        obtain ⟨inner, hoffset, front, back, hjoin, hlength⟩ := ih hrest
        refine ⟨byteLength first + 1 + inner, by omega, first ++ separator :: front, back, ?_, ?_⟩
        · rw [join_cons hne, hjoin]
          simp
        · rw [byte_length_append, byteLength, hseparator, hlength]
          omega

/-- The part before the first separator outside brackets begins the text. -/
theorem head_split_top_level (text : Text) (separator : Char) :
    (splitTopLevel text separator).headD text <+: text := by
  have hjoin := join_split_top_level text separator
  cases hparts : splitTopLevel text separator with
  | nil => exact List.prefix_rfl
  | cons first rest =>
      rw [hparts] at hjoin
      rw [List.headD_cons]
      cases rest with
      | nil => exact hjoin ▸ List.prefix_rfl
      | cons next rest =>
          rw [join_cons (List.cons_ne_nil next rest)] at hjoin
          exact hjoin ▸ List.prefix_append first _

end Split

section Bracket

/-- A byte below 128 in the form of a character is the whole form. -/
theorem encode_eq_of_mem {c : Char} {byte : UInt8} (hmem : byte ∈ String.utf8EncodeChar c)
    (hbyte : byte.toNat < 128) : c.utf8Size = 1 ∧ c = Char.ofNat byte.toNat := by
  have hform : c.val.toNat ≤ 127 ∧ byte = UInt8.ofNat c.val.toNat := by
    rw [String.utf8EncodeChar] at hmem
    split at hmem
    · next hle => exact ⟨hle, List.mem_singleton.mp hmem⟩
    · -- The bytes of a longer form have their highest bit set.
      exfalso
      split at hmem
      · simp only [List.mem_cons, List.not_mem_nil, or_false] at hmem
        rcases hmem with rfl | rfl <;> (simp only [UInt8.toNat_ofNat'] at hbyte; omega)
      · split at hmem
        · simp only [List.mem_cons, List.not_mem_nil, or_false] at hmem
          rcases hmem with rfl | rfl | rfl <;> (simp only [UInt8.toNat_ofNat'] at hbyte; omega)
        · simp only [List.mem_cons, List.not_mem_nil, or_false] at hmem
          rcases hmem with rfl | rfl | rfl | rfl <;>
            (simp only [UInt8.toNat_ofNat'] at hbyte; omega)
  obtain ⟨hle, rfl⟩ := hform
  refine ⟨Char.utf8Size_eq_one_iff.mpr (UInt32.le_iff_toNat_le.mpr hle), ?_⟩
  have hnat : (UInt8.ofNat c.val.toNat).toNat = c.toNat := by
    rw [UInt8.toNat_ofNat']
    exact Nat.mod_eq_of_lt (by omega)
  rw [hnat, Char.ofNat_toNat]

/-- A byte below 128 is a character of its own, which stands at the byte's index. -/
theorem stands_at_of_byte {text : Text} {index : Nat} {byte : UInt8}
    (h : (bytes text)[index]? = some byte) (hbyte : byte.toNat < 128) :
    StandsAt text index [Char.ofNat byte.toNat] ∧ (Char.ofNat byte.toNat).utf8Size = 1 := by
  induction text generalizing index with
  | nil => simp [bytes] at h
  | cons c rest ih =>
      have hbytes : bytes (c :: rest) = String.utf8EncodeChar c ++ bytes rest := rfl
      have hsize := String.length_utf8EncodeChar c
      rw [hbytes] at h
      rcases Nat.lt_or_ge index (String.utf8EncodeChar c).length with hlt | hge
      · rw [List.getElem?_append_left hlt] at h
        obtain ⟨hone, hc⟩ := encode_eq_of_mem (List.mem_of_getElem? h) hbyte
        have hzero : index = 0 := by omega
        rw [← hc]
        exact ⟨⟨[], rest, rfl, hzero.symm⟩, hone⟩
      · rw [List.getElem?_append_right hge] at h
        obtain ⟨⟨front, back, rfl, hlength⟩, hone⟩ := ih h
        exact ⟨⟨c :: front, back, rfl, by rw [byteLength, hlength]; omega⟩, hone⟩

/-- The closer that is found, counting indices from `index`. -/
theorem close_from_eq_some {opener closer : UInt8} {tail : List UInt8} {index depth close : Nat}
    (h : closeFrom? opener closer tail index depth = some close) :
    ∃ inner, close = index + inner ∧ tail[inner]? = some closer := by
  induction tail generalizing index depth with
  | nil => simp [closeFrom?] at h
  | cons b rest ih =>
      have hlater : ∀ depth, closeFrom? opener closer rest (index + 1) depth = some close →
          ∃ inner, close = index + inner ∧ (b :: rest)[inner]? = some closer := by
        intro depth hrest
        obtain ⟨inner, hclose, hinner⟩ := ih hrest
        exact ⟨inner + 1, by omega, by rw [List.getElem?_cons_succ, hinner]⟩
      rw [closeFrom?] at h
      split at h
      · exact hlater _ h
      · split at h
        · next hb =>
            split at h
            · exact ⟨0, (Option.some.inj h).symm, by rw [hb]; rfl⟩
            · exact hlater _ h
        · exact hlater _ h

/-- The brackets that are paired. -/
def bracketPairs : List (Char × Char) :=
  [('{', '}'), ('(', ')'), ('[', ']'), ('<', '>')]

/-- The bytes that are paired are brackets. -/
theorem closer_of_eq_some {opener closer : UInt8} (h : closerOf? opener = some closer) :
    (Char.ofNat opener.toNat, Char.ofNat closer.toNat) ∈ bracketPairs ∧ opener.toNat < 128 ∧
      closer.toNat < 128 ∧ opener ≠ closer := by
  unfold closerOf? at h
  split at h
  · next hopener => cases h; subst hopener; decide
  · split at h
    · next hopener => cases h; subst hopener; decide
    · split at h
      · next hopener => cases h; subst hopener; decide
      · split at h
        · next hopener => cases h; subst hopener; decide
        · cases h

/-- A bracket stands at the start of a pair, and the one that closes it further on. -/
theorem matching_delimiter_eq_some {text : Text} {start close : Nat}
    (h : matchingDelimiter? text start = some close) :
    ∃ opener closer, (opener, closer) ∈ bracketPairs ∧ StandsAt text start [opener] ∧
      StandsAt text close [closer] ∧ start < close := by
  obtain ⟨first, hfirst, h⟩ := Option.bind_eq_some_iff.mp h
  obtain ⟨last, hlast, h⟩ := Option.bind_eq_some_iff.mp h
  obtain ⟨hpair, hopener, hcloser, hne⟩ := closer_of_eq_some hlast
  obtain ⟨inner, rfl, hinner⟩ := close_from_eq_some h
  rw [List.head?_drop] at hfirst
  rw [List.getElem?_drop] at hinner
  refine ⟨_, _, hpair, (stands_at_of_byte hfirst hopener).1,
    (stands_at_of_byte hinner hcloser).1, ?_⟩
  have hpos : inner ≠ 0 := by
    rintro rfl
    rw [Nat.add_zero, hfirst] at hinner
    exact hne (Option.some.inj hinner)
  omega

/-- A bracket that is paired has one byte and is no white space. -/
theorem bracket_of_mem {opener closer : Char} (h : (opener, closer) ∈ bracketPairs) :
    (opener.utf8Size = 1 ∧ opener ≠ ' ') ∧ closer.utf8Size = 1 ∧ closer ≠ ' ' := by
  revert h
  simp only [bracketPairs, List.mem_cons, Prod.mk.injEq, List.not_mem_nil, or_false]
  rintro (⟨rfl, rfl⟩ | ⟨rfl, rfl⟩ | ⟨rfl, rfl⟩ | ⟨rfl, rfl⟩) <;> decide

end Bracket

namespace Cursor

/-- A cursor is in a text if what it has left is what follows its offset. -/
def IsIn (cursor : Cursor) (text : Text) : Prop :=
  ∃ front, text = front ++ cursor.rest ∧ byteLength front = cursor.offset

variable {text : Text} {cursor : Cursor}

/-- The start of a text is in it. -/
theorem start_is_in (text : Text) : (start text).IsIn text :=
  ⟨[], rfl, rfl⟩

/-- A cursor stands at a boundary. -/
theorem IsIn.is_boundary (h : cursor.IsIn text) : IsBoundary text cursor.offset := by
  obtain ⟨front, htext, hlength⟩ := h
  exact ⟨front, cursor.rest, htext, hlength⟩

/-- What a cursor has left stands at its offset. -/
theorem IsIn.stands_at (h : cursor.IsIn text) : StandsAt text cursor.offset cursor.rest := by
  obtain ⟨front, htext, hlength⟩ := h
  exact ⟨front, [], by rwa [List.append_nil], hlength⟩

/-- A cursor that has read a front of what was left is in the text. -/
theorem IsIn.of_append (h : cursor.IsIn text) {before : Option Char} {front rest : Text}
    (hrest : cursor.rest = front ++ rest) :
    IsIn ⟨before, cursor.offset + byteLength front, rest⟩ text := by
  obtain ⟨outer, rfl, hlength⟩ := h
  refine ⟨outer ++ front, by rw [hrest, List.append_assoc], ?_⟩
  rw [byte_length_append, hlength]

/-- One character further, a cursor is in the text. -/
theorem IsIn.advance (h : cursor.IsIn text) : cursor.advance.IsIn text := by
  unfold Cursor.advance
  split
  · exact h
  · next c rest hrest =>
      have hsplit : cursor.rest = [c] ++ rest := hrest
      have hin : IsIn ⟨some c, cursor.offset + byteLength [c], rest⟩ text := h.of_append hsplit
      rwa [byteLength, byteLength] at hin

/-- Any number of characters further, a cursor is in the text. -/
theorem IsIn.advance_by (h : cursor.IsIn text) (count : Nat) :
    (cursor.advanceBy count).IsIn text := by
  induction count generalizing cursor with
  | zero => exact h
  | succ n ih => exact ih h.advance

/-- What a walk skips passes its test, and what is next does not. -/
theorem skip_while_from_eq (test : Char → Bool) (before : Option Char) (offset : Nat) (rest : Text) :
    let after := skipWhileFrom test before offset rest
    rest = rest.takeWhile test ++ after.rest ∧
      after.offset = offset + byteLength (rest.takeWhile test) := by
  induction rest generalizing before offset with
  | nil => exact ⟨rfl, rfl⟩
  | cons c rest ih =>
      rw [skipWhileFrom, List.takeWhile_cons]
      split
      · obtain ⟨hrest, hoffset⟩ := ih (some c) (offset + c.utf8Size)
        refine ⟨?_, by rw [hoffset, byteLength, Nat.add_assoc]⟩
        rw [List.cons_append, ← hrest]
      · exact ⟨rfl, rfl⟩

/-- What is left after a walk. -/
theorem skip_while_rest (test : Char → Bool) (cursor : Cursor) :
    cursor.rest = cursor.rest.takeWhile test ++ (cursor.skipWhile test).rest :=
  (skip_while_from_eq test cursor.before cursor.offset cursor.rest).1

/-- Where a walk ends. -/
theorem skip_while_offset (test : Char → Bool) (cursor : Cursor) :
    (cursor.skipWhile test).offset = cursor.offset + byteLength (cursor.rest.takeWhile test) :=
  (skip_while_from_eq test cursor.before cursor.offset cursor.rest).2

/-- A cursor that is not at the end can go further on. -/
theorem IsIn.advance_further (h : cursor.IsIn text) (hne : ¬cursor.rest.isEmpty = true) :
    cursor.advance.IsIn text ∧ cursor.offset < cursor.advance.offset := by
  refine ⟨h.advance, ?_⟩
  unfold Cursor.advance
  split
  · next hnil => exact absurd (List.isEmpty_iff.mpr hnil) hne
  · next c rest hrest => exact Nat.lt_add_of_pos_right (Char.utf8Size_pos c)

/-- After a walk, a cursor is in the text. -/
theorem IsIn.skip_while (h : cursor.IsIn text) (test : Char → Bool) :
    (cursor.skipWhile test).IsIn text := by
  obtain ⟨front, rfl, hlength⟩ := h
  refine ⟨front ++ cursor.rest.takeWhile test, ?_, ?_⟩
  · rw [List.append_assoc, ← skip_while_rest]
  · rw [byte_length_append, skip_while_offset, hlength]

/-- The cursor that is sought, counting from the start of the walk. -/
theorem seek_from_eq_some {before : Option Char} {offset count : Nat} {rest : Text}
    (h : seekFrom? before offset rest count = some cursor) :
    cursor.offset = offset + count ∧ dropBytes? rest count = some cursor.rest := by
  induction rest generalizing before offset count with
  | nil =>
      cases count with
      | zero => cases h; exact ⟨rfl, rfl⟩
      | succ n => simp [seekFrom?] at h
  | cons c rest ih =>
      cases count with
      | zero => cases h; exact ⟨rfl, rfl⟩
      | succ n =>
          rw [seekFrom?] at h
          split at h
          · next hle =>
              obtain ⟨hoffset, hdrop⟩ := ih h
              exact ⟨by omega, by rw [dropBytes?, if_pos hle, hdrop]⟩
          · cases h

/-- A cursor that is sought is in the text, at the offset asked for. -/
theorem seek_eq_some {offset : Nat} (h : seek? text offset = some cursor) :
    cursor.offset = offset ∧ cursor.IsIn text := by
  obtain ⟨hoffset, hdrop⟩ := seek_from_eq_some h
  obtain ⟨front, htext, hlength⟩ := drop_bytes_eq_some_iff.mp hdrop
  rw [Nat.zero_add] at hoffset
  exact ⟨hoffset, front, htext, by rw [hlength, hoffset]⟩

/-- Every boundary has a cursor. -/
theorem exists_seek {offset : Nat} (h : IsBoundary text offset) :
    ∃ cursor, seek? text offset = some cursor ∧ cursor.offset = offset ∧ cursor.IsIn text := by
  have hsome : ∀ (before : Option Char) (base : Nat) (front back : Text),
      (seekFrom? before base (front ++ back) (byteLength front)).isSome := by
    intro before base front
    induction front generalizing before base with
    | nil =>
        intro back
        cases back <;> rfl
    | cons c front ih =>
        intro back
        have hpos := byte_length_pos c front
        obtain ⟨n, hn⟩ := Nat.exists_eq_succ_of_ne_zero hpos.ne'
        have hsize : byteLength (c :: front) = c.utf8Size + byteLength front := rfl
        rw [List.cons_append, hn, seekFrom?, if_pos (by omega)]
        have hleft : n + 1 - c.utf8Size = byteLength front := by omega
        rw [hleft]
        exact ih (some c) (base + c.utf8Size) back
  obtain ⟨front, back, rfl, rfl⟩ := h
  obtain ⟨cursor, hcursor⟩ := Option.isSome_iff_exists.mp (hsome none 0 front back)
  exact ⟨cursor, hcursor, seek_eq_some hcursor⟩

/-- A cursor that is further on has less left. -/
theorem IsIn.rest_length_lt {after : Cursor} (h : cursor.IsIn text) (hafter : after.IsIn text)
    (hlt : cursor.offset < after.offset) : after.rest.length < cursor.rest.length := by
  obtain ⟨front, htext, hfront⟩ := h
  obtain ⟨front', htext', hfront'⟩ := hafter
  have hlength := congrArg byteLength (htext.symm.trans htext')
  rw [byte_length_append, byte_length_append] at hlength
  rcases List.append_eq_append_iff.mp (htext.symm.trans htext') with
    ⟨middle, rfl, hrest⟩ | ⟨middle, rfl, hrest⟩
  · have hne : middle ≠ [] := by
      rintro rfl
      rw [hrest, List.nil_append] at hlength
      omega
    have hpos := List.length_pos_iff.mpr hne
    rw [hrest, List.length_append]
    omega
  · rw [byte_length_append] at hfront
    omega

end Cursor

end CodeAtlas.Text
