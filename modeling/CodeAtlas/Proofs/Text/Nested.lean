import CodeAtlas.Proofs.Text.Walk

/-!
# Code with matching braces

In `Nested` code every brace is matched by one of its own. A block around such code ends where the
code does (`matching_brace`), whatever stands in it. Outside brackets a text is cut at every
separator (`split_top_level_whole`, `split_top_level_part`).
-/

namespace CodeAtlas.Text

/-- Code of ASCII characters in which the braces match. -/
inductive Nested : Text → Prop where
  | nil : Nested []
  | char {c : Char} {rest : Text} (hascii : c.toNat < 128) (hopen : c ≠ '{') (hclose : c ≠ '}')
      (hrest : Nested rest) : Nested (c :: rest)
  | block {inner rest : Text} (hinner : Nested inner) (hrest : Nested rest) :
      Nested ('{' :: (inner ++ '}' :: rest))

section Nested

variable {c : Char} {text front inner middle back : Text} {index depth : Nat}

/-- Nested code in front of nested code. -/
theorem Nested.append (hfront : Nested front) (hback : Nested back) : Nested (front ++ back) := by
  induction hfront with
  | nil => exact hback
  | char hascii hopen hclose _ ih => exact .char hascii hopen hclose ih
  | block hinner _ _ ih =>
      rw [List.cons_append, List.append_assoc, List.cons_append]
      exact .block hinner ih

/-- Code without braces. -/
theorem nested_of_no_braces (h : ∀ c ∈ text, c.toNat < 128 ∧ c ≠ '{' ∧ c ≠ '}') : Nested text := by
  induction text with
  | nil => exact .nil
  | cons c rest ih =>
      obtain ⟨⟨hascii, hopen, hclose⟩, hrest⟩ := List.forall_mem_cons.mp h
      exact .char hascii hopen hclose (ih hrest)

/-- The bytes of two texts one after the other. -/
theorem bytes_append (front back : Text) : bytes (front ++ back) = bytes front ++ bytes back :=
  List.flatMap_append

/-- There are as many bytes as the length says. -/
theorem length_bytes (text : Text) : (bytes text).length = byteLength text := by
  induction text with
  | nil => rfl
  | cons c rest ih =>
      have hcons : bytes (c :: rest) = String.utf8EncodeChar c ++ bytes rest := rfl
      rw [hcons, List.length_append, String.length_utf8EncodeChar, ih, byteLength]

/-- The bytes from the start of a part on. -/
theorem drop_bytes_append (front back : Text) :
    (bytes (front ++ back)).drop (byteLength front) = bytes back := by
  rw [bytes_append, ← length_bytes front, List.drop_left]

/-- The byte of an ASCII character. -/
theorem bytes_ascii (h : c.toNat < 128) (rest : Text) :
    bytes (c :: rest) = UInt8.ofNat c.toNat :: bytes rest := by
  have hcons : bytes (c :: rest) = String.utf8EncodeChar c ++ bytes rest := rfl
  have hval : c.val.toNat ≤ 127 := Nat.le_of_lt_succ h
  rw [hcons, String.utf8EncodeChar, if_pos hval]
  rfl

/-- An ASCII character has one byte. -/
theorem size_ascii (h : c.toNat < 128) : c.utf8Size = 1 :=
  Char.utf8Size_eq_one_iff.mpr (UInt32.le_iff_toNat_le.mpr (Nat.le_of_lt_succ h))

/-- Different ASCII characters have different bytes. -/
theorem byte_ne {d : Char} (hc : c.toNat < 128) (hd : d.toNat < 128) (hne : c ≠ d) :
    UInt8.ofNat c.toNat ≠ UInt8.ofNat d.toNat := by
  intro heq
  have hnat := congrArg UInt8.toNat heq
  rw [UInt8.toNat_ofNat', UInt8.toNat_ofNat', Nat.mod_eq_of_lt (by omega),
    Nat.mod_eq_of_lt (by omega)] at hnat
  exact hne (Char.toNat_inj.mp hnat)

/-- Nested code closes no brace around it. -/
theorem Nested.close_from (h : Nested text) (rest : Text) (index depth : Nat) :
    closeFrom? 0x7B 0x7D (bytes (text ++ rest)) index (depth + 1) =
      closeFrom? 0x7B 0x7D (bytes rest) (index + byteLength text) (depth + 1) := by
  induction h generalizing rest index depth with
  | nil => rfl
  | @char c text hascii hopen hclose _ ih =>
      have hopener : UInt8.ofNat c.toNat ≠ 0x7B := byte_ne (d := '{') hascii (by decide) hopen
      have hcloser : UInt8.ofNat c.toNat ≠ 0x7D := byte_ne (d := '}') hascii (by decide) hclose
      rw [List.cons_append, bytes_ascii hascii, closeFrom?, if_neg hopener, if_neg hcloser, ih,
        byteLength, size_ascii hascii, Nat.add_assoc]
  | @block inner text _ _ hinner hrest =>
      have hshape : '{' :: (inner ++ '}' :: text) ++ rest = '{' :: (inner ++ '}' :: (text ++ rest)) := by
        simp
      have hopener : bytes ('{' :: (inner ++ '}' :: (text ++ rest))) =
          0x7B :: bytes (inner ++ '}' :: (text ++ rest)) := bytes_ascii (by decide) _
      have hcloser : bytes ('}' :: (text ++ rest)) = 0x7D :: bytes (text ++ rest) :=
        bytes_ascii (by decide) _
      have hlength : byteLength ('{' :: (inner ++ '}' :: text)) =
          1 + (byteLength inner + (1 + byteLength text)) := by
        rw [byteLength, byte_length_append, byteLength]
        rfl
      rw [hshape, hopener, closeFrom?, if_pos rfl, hinner, hcloser, closeFrom?, if_neg (by decide),
        if_pos rfl, if_neg (by omega), Nat.add_sub_cancel, hrest, hlength]
      congr 1
      omega

/-- A block around nested code ends after it. -/
theorem matching_brace (front : Text) (hinner : Nested inner) (back : Text) :
    matchingDelimiter? (front ++ '{' :: (inner ++ '}' :: back)) (byteLength front) =
      some (byteLength front + 1 + byteLength inner) := by
  have hopener : bytes ('{' :: (inner ++ '}' :: back)) = 0x7B :: bytes (inner ++ '}' :: back) :=
    bytes_ascii (by decide) _
  have hcloser : bytes ('}' :: back) = 0x7D :: bytes back := bytes_ascii (by decide) _
  rw [matchingDelimiter?, drop_bytes_append, hopener]
  show closeFrom? 0x7B 0x7D (0x7B :: bytes (inner ++ '}' :: back)) (byteLength front) 0 = _
  rw [closeFrom?, if_pos rfl, hinner.close_from, hcloser, closeFrom?, if_neg (by decide),
    if_pos rfl, if_pos rfl]

/-- An empty pair of parentheses ends at once. -/
theorem matching_parentheses (front back : Text) :
    matchingDelimiter? (front ++ '(' :: ')' :: back) (byteLength front) =
      some (byteLength front + 1) := by
  have hopener : bytes ('(' :: ')' :: back) = 0x28 :: 0x29 :: bytes back := by
    rw [bytes_ascii (by decide), bytes_ascii (by decide)]
    rfl
  rw [matchingDelimiter?, drop_bytes_append, hopener]
  rfl

/-- The byte at the start of a part. -/
theorem byte_at (front : Text) (hascii : c.toNat < 128) (back : Text) :
    (bytes (front ++ c :: back))[byteLength front]? = some (UInt8.ofNat c.toNat) := by
  rw [← List.head?_drop, drop_bytes_append, bytes_ascii hascii]
  rfl

/-- The first character that passes a test is found after those that do not. -/
theorem find_char_append {test : Char → Bool} (hfront : ∀ d ∈ front, test d = false)
    (hc : test c = true) (back : Text) :
    findChar? (front ++ c :: back) test = some (byteLength front) := by
  have hfrom : ∀ base, ((indexedFrom base (front ++ c :: back)).find? fun entry => test entry.2).map
      (·.1) = some (base + byteLength front) := by
    induction front with
    | nil =>
        intro base
        simp [indexedFrom, hc, byteLength]
    | cons d front ih =>
        obtain ⟨hd, hfront⟩ := List.forall_mem_cons.mp hfront
        intro base
        rw [List.cons_append, indexedFrom, List.find?_cons]
        simp only [hd]
        rw [ih hfront, byteLength, Nat.add_assoc]
  rw [findChar?, indexed, hfrom, Nat.zero_add]

end Nested

section Split

variable {separator : Char} {part rest : Text} {previous : Option Char} {depth : Int}

/-- A character that is no bracket. -/
def IsFlat (c : Char) : Prop :=
  c ∉ "([{<)]}>".toList

instance (c : Char) : Decidable (IsFlat c) :=
  inferInstanceAs (Decidable (c ∉ "([{<)]}>".toList))

/-- A character that is no bracket leaves the depth as it is. -/
theorem IsFlat.no_bracket {c : Char} (h : IsFlat c) :
    isBracket previous c = false ∧ depthChange previous c = 0 := by
  have hshape : "([{<)]}>".toList = ['(', '[', '{', '<', ')', ']', '}', '>'] := rfl
  simp only [IsFlat, hshape, List.mem_cons, List.not_mem_nil, or_false, not_or] at h
  obtain ⟨h1, h2, h3, h4, h5, h6, h7, h8⟩ := h
  simp [isBracket, depthChange, h1, h2, h3, h4, h5, h6, h7, h8]

/-- A text without the separator is not cut. -/
theorem split_top_level_from_whole (h : separator ∉ part) :
    splitTopLevelFrom separator previous depth part = [part] := by
  induction part generalizing previous depth with
  | nil => rfl
  | cons c part ih =>
      rw [List.mem_cons, not_or] at h
      rw [splitTopLevelFrom, if_neg (by simp [Ne.symm h.1]), ih h.2]

/-- A text without the separator is not cut. -/
theorem split_top_level_whole (h : separator ∉ part) : splitTopLevel part separator = [part] :=
  split_top_level_from_whole h

/-- A separator that is no bracket is cut where no bracket is open. -/
theorem split_at_separator (hseparator : IsFlat separator) (hdepth : depth ≤ 0) (rest : Text) :
    splitTopLevelFrom separator previous depth (separator :: rest) =
      [] :: splitTopLevelFrom separator (some separator) depth rest := by
  rw [splitTopLevelFrom, if_pos]
  simp [hseparator.no_bracket.1, hdepth]

/-- A text without brackets is cut at the first separator. -/
theorem split_top_level_from_part (hflat : ∀ c ∈ part, IsFlat c) (h : separator ∉ part)
    (hseparator : IsFlat separator) (hdepth : depth ≤ 0) :
    splitTopLevelFrom separator previous depth (part ++ separator :: rest) =
      part :: splitTopLevelFrom separator (some separator) depth rest := by
  induction part generalizing previous with
  | nil => exact split_at_separator hseparator hdepth rest
  | cons c part ih =>
      rw [List.mem_cons, not_or] at h
      obtain ⟨hc, hflat⟩ := List.forall_mem_cons.mp hflat
      rw [List.cons_append, splitTopLevelFrom, if_neg (by simp [Ne.symm h.1]), hc.no_bracket.2,
        Int.add_zero, ih hflat h.2]

/-- A text with one separator outside brackets is cut in two. -/
theorem split_top_level_two (hflat : ∀ c ∈ part, IsFlat c) (h : separator ∉ part)
    (hseparator : IsFlat separator) (hrest : separator ∉ rest) :
    splitTopLevel (part ++ separator :: rest) separator = [part, rest] := by
  rw [splitTopLevel, split_top_level_from_part hflat h hseparator (Int.le_refl 0),
    split_top_level_from_whole hrest]

end Split

end CodeAtlas.Text
