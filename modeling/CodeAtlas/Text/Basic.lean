import CodeAtlas.Text.CharClass

/-!
# Text and byte offsets

A text is the list of its characters. Positions in it are byte offsets of its UTF-8 form, so a cut
at an offset succeeds only on a character boundary inside the text: `dropBytes?`, `takeBytes?` and
`slice?` answer `none` for every other offset.
-/

namespace CodeAtlas

/-- A text as the list of its characters. -/
abbrev Text := List Char

namespace Text

/-- Whether every character of a text satisfies a condition is decided along the text, not over all
characters. -/
instance (priority := high) decidableForallMem {p : Char → Prop} [DecidablePred p]
    (text : List Char) : Decidable (∀ c ∈ text, p c) :=
  List.decidableBAll p text

/-- The same for the character that may be there. -/
instance (priority := high) decidableForallMemOption {p : Char → Prop} [DecidablePred p]
    (found : Option Char) : Decidable (∀ c ∈ found, p c) :=
  Option.decidableForallMem found

/-- The number of bytes of the UTF-8 form. -/
def byteLength : Text → Nat
  | [] => 0
  | c :: rest => c.utf8Size + byteLength rest

/-- The bytes of the UTF-8 form. -/
def bytes (text : Text) : List UInt8 :=
  text.flatMap String.utf8EncodeChar

/-- The text from byte offset `offset` on, or `none` unless that is a character boundary. -/
def dropBytes? : Text → Nat → Option Text
  | text, 0 => some text
  | [], _ + 1 => none
  | c :: rest, n + 1 => if c.utf8Size ≤ n + 1 then dropBytes? rest (n + 1 - c.utf8Size) else none

/-- The first `count` bytes, or `none` unless they end at a character boundary. -/
def takeBytes? : Text → Nat → Option Text
  | _, 0 => some []
  | [], _ + 1 => none
  | c :: rest, n + 1 =>
    if c.utf8Size ≤ n + 1 then (takeBytes? rest (n + 1 - c.utf8Size)).map (c :: ·) else none

/-- The text between two byte offsets, or `none` unless both are character boundaries in order. -/
def slice? (text : Text) (start stop : Nat) : Option Text :=
  if start ≤ stop then (dropBytes? text start).bind (takeBytes? · (stop - start)) else none

/-- The characters paired with their byte offsets, counted from `base`. -/
def indexedFrom (base : Nat) : Text → List (Nat × Char)
  | [] => []
  | c :: rest => (base, c) :: indexedFrom (base + c.utf8Size) rest

/-- The characters paired with their byte offsets. -/
def indexed (text : Text) : List (Nat × Char) :=
  indexedFrom 0 text

/-- Whether the text starts with `head`. -/
def startsWith : Text → Text → Bool
  | _, [] => true
  | [], _ :: _ => false
  | c :: rest, d :: head => c = d && startsWith rest head

/-- Whether the text ends with `tail`. -/
def endsWith (text tail : Text) : Bool :=
  startsWith text.reverse tail.reverse

/-- What follows `head`, if the text starts with it. -/
def dropHead? : Text → Text → Option Text
  | text, [] => some text
  | [], _ :: _ => none
  | c :: rest, d :: head => if c = d then dropHead? rest head else none

/-- Whether `part` occurs in the text. -/
def contains (text part : Text) : Bool :=
  startsWith text part || match text with
    | [] => false
    | _ :: rest => contains rest part

/-- The byte offset, counted from `base`, of the first occurrence of `part`. -/
def findFrom? (base : Nat) (text part : Text) : Option Nat :=
  if startsWith text part then some base
  else match text with
    | [] => none
    | c :: rest => findFrom? (base + c.utf8Size) rest part

/-- The byte offset of the first occurrence of `part`. -/
def find? (text part : Text) : Option Nat :=
  findFrom? 0 text part

/-- The byte offset of the first character that satisfies `test`. -/
def findChar? (text : Text) (test : Char → Bool) : Option Nat :=
  (indexed text).find? (fun entry => test entry.2) |>.map (·.1)

/-- The text without leading white space. -/
def trimStart (text : Text) : Text :=
  text.dropWhile isWhiteSpace

/-- The text without trailing characters that satisfy `test`. -/
def dropEndWhile (text : Text) (test : Char → Bool) : Text :=
  (text.reverse.dropWhile test).reverse

/-- The text without trailing white space. -/
def trimEnd (text : Text) : Text :=
  dropEndWhile text isWhiteSpace

/-- The text without white space at either end. -/
def trim (text : Text) : Text :=
  trimEnd (trimStart text)

/-- Cut at every character that satisfies `test`, dropping it: one part more than cuts. -/
def splitBy (test : Char → Bool) : Text → List Text
  | [] => [[]]
  | c :: rest =>
    if test c then [] :: splitBy test rest
    else match splitBy test rest with
      | [] => [[c]]
      | part :: parts => (c :: part) :: parts

section Split

variable {test : Char → Bool} {separator c : Char} {part rest : Text}

/-- A split text has a first part. -/
theorem split_by_ne_nil (test : Char → Bool) (text : Text) : splitBy test text ≠ [] := by
  cases text with
  | nil => simp [splitBy]
  | cons c rest =>
      rw [splitBy]
      split
      · simp
      · split <;> simp

/-- A character that cuts ends an empty part. -/
theorem split_by_cut (hc : test c = true) : splitBy test (c :: rest) = [] :: splitBy test rest := by
  rw [splitBy, if_pos hc]

/-- A part without characters that cut goes up to the first one. -/
theorem split_by_part (hpart : ∀ d ∈ part, test d = false) (hc : test c = true) :
    splitBy test (part ++ c :: rest) = part :: splitBy test rest := by
  induction part with
  | nil => exact split_by_cut hc
  | cons d part ih =>
      obtain ⟨hd, hpart⟩ := List.forall_mem_cons.mp hpart
      rw [List.cons_append, splitBy, if_neg (by simp [hd]), ih hpart]

/-- A text without characters that cut is one part. -/
theorem split_by_whole (hpart : ∀ d ∈ part, test d = false) : splitBy test part = [part] := by
  induction part with
  | nil => rfl
  | cons d part ih =>
      obtain ⟨hd, hpart⟩ := List.forall_mem_cons.mp hpart
      rw [splitBy, if_neg (by simp [hd]), ih hpart]

/-- A part without the character that cuts is not cut. -/
theorem split_by_of_not_mem (h : separator ∉ part) : splitBy (· = separator) part = [part] :=
  split_by_whole fun _ hd => decide_eq_false (ne_of_mem_of_not_mem hd h)

/-- A part without the character that cuts goes up to the first cut. -/
theorem split_by_append (h : separator ∉ part) :
    splitBy (· = separator) (part ++ separator :: rest) =
      part :: splitBy (· = separator) rest :=
  split_by_part (fun _ hd => decide_eq_false (ne_of_mem_of_not_mem hd h)) (decide_eq_true rfl)

end Split

/-- The maximal runs of characters other than white space. -/
def words (text : Text) : List Text :=
  (splitBy isWhiteSpace text).filter (!·.isEmpty)

/-- Parts joined by a separator. -/
def join (separator : Text) : List Text → Text
  | [] => []
  | [part] => part
  | part :: parts => part ++ separator ++ join separator parts

/-- Consecutive parts that one byte divides, each with the offset where it starts. -/
def withOffsets (start : Nat) : List Text → List (Nat × Text)
  | [] => []
  | part :: rest => (start, part) :: withOffsets (start + byteLength part + 1) rest

/-- A line without one trailing carriage return. -/
def dropReturn (line : Text) : Text :=
  match line.reverse with
  | '\r' :: rest => rest.reverse
  | _ => line

/-- The lines of a text: cut at line feeds, a carriage return before a line feed dropped, and
nothing after a last line feed. -/
def lines (text : Text) : List Text :=
  let parts := splitBy (· = '\n') text
  let ended := parts.dropLast.map dropReturn
  match parts.getLast? with
  | none | some [] => ended
  | some last => ended ++ [last]

end Text

end CodeAtlas
