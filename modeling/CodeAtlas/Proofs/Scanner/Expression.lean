import CodeAtlas.Hint.Expression
import CodeAtlas.Proofs.Scanner.Basic

/-!
# Types of expressions can always be told

`inferStep?` is one step of the inference, given the types of the parts. It asks only for parts that
are shorter than the expression, and makes no cut outside it: two ways of typing that agree on the
shorter texts lead to the same value (`infer_step_agrees`). So the bound on the depth is never
reached, and inference is its own step (`infer_eq_step`).
-/

namespace CodeAtlas.Hint

open Text (StandsAt IsBoundary byteLength)

/-- Two computations give the same value. -/
def Agree {α : Type} (one other : Option α) : Prop :=
  ∃ value, one = some value ∧ other = some value

section Rules

variable {α β : Type}

/-- A computation that succeeds agrees with itself. -/
theorem agree_of_is_some {result : Option α} (h : result.isSome) : Agree result result := by
  obtain ⟨value, hvalue⟩ := Option.isSome_iff_exists.mp h
  exact ⟨value, hvalue, hvalue⟩

/-- A value agrees with itself. -/
theorem agree_pure (value : α) : Agree (pure value) (pure value) :=
  ⟨value, rfl, rfl⟩

/-- Computations agree if they go on from one value and agree after it. -/
theorem Agree.bind {one other : Option α} {next next' : α → Option β} (h : Agree one other)
    (hnext : ∀ value, one = some value → Agree (next value) (next' value)) :
    Agree (one >>= next) (other >>= next') := by
  obtain ⟨value, hone, rfl⟩ := h
  rw [hone]
  exact hnext value hone

/-- Choices agree if both of their sides do. -/
theorem agree_ite {condition : Prop} [Decidable condition] {yes no yes' no' : Option α}
    (hyes : condition → Agree yes yes') (hno : ¬condition → Agree no no') :
    Agree (if condition then yes else no) (if condition then yes' else no') := by
  split
  · next h => exact hyes h
  · next h => exact hno h

/-- Lists of computations agree if the computations do. -/
theorem agree_map_m {f g : α → Option β} {items : List α} (h : ∀ item ∈ items, Agree (f item) (g item)) :
    Agree (items.mapM f) (items.mapM g) := by
  induction items with
  | nil => exact agree_pure []
  | cons item rest ih =>
      rw [List.mapM_cons, List.mapM_cons]
      refine (h item List.mem_cons_self).bind fun value _ => ?_
      refine (ih fun later hlater => h later (List.mem_cons_of_mem item hlater)).bind
        fun values _ => agree_pure _

end Rules

section Shorter

variable {text part : Text}

/-- A part has no more bytes than the whole. -/
theorem byte_length_le_of_within (h : part <:+: text) : byteLength part ≤ byteLength text := by
  obtain ⟨front, back, rfl⟩ := h
  rw [Text.byte_length_append, Text.byte_length_append]
  omega

/-- Dropping characters at the end leaves a front. -/
theorem drop_end_while_begins (text : Text) (test : Char → Bool) :
    Text.dropEndWhile text test <+: text := by
  have hends : text.reverse.dropWhile test <:+ text.reverse := List.dropWhile_suffix test
  rw [← List.reverse_prefix, List.reverse_reverse] at hends
  exact hends

/-- Trimming leaves a part. -/
theorem trim_within (text : Text) : Text.trim text <:+: text := by
  have hends : Text.trimStart text <:+ text := List.dropWhile_suffix _
  exact (drop_end_while_begins _ _).isInfix.trans hends.isInfix

/-- A bare expression is a part. -/
theorem bare_expression_within (text : Text) : bareExpression text <:+: text :=
  (trim_within _).trans ((drop_end_while_begins _ _).isInfix.trans (trim_within text))

/-- What stands between two characters is shorter. -/
theorem between_shorter {first last : Char} (h : between? first last text = some part) :
    byteLength part < byteLength text := by
  unfold between? at h
  split at h
  · next c rest =>
      split at h
      · have hbegins := List.dropLast_prefix rest
        rw [Option.some.inj h] at hbegins
        have hle := byte_length_le_of_within hbegins.isInfix
        have hpos := Char.utf8Size_pos c
        rw [byteLength]
        omega
      · cases h
  · cases h

/-- What stands in parentheses is shorter. -/
theorem parenthesized_shorter (h : parenthesized? text = some part) :
    byteLength part < byteLength text := by
  obtain ⟨inner, hinner, h⟩ := Option.bind_eq_some_iff.mp h
  obtain ⟨close, -, h⟩ := Option.bind_eq_some_iff.mp h
  split at h
  · exact Option.some.inj h ▸ between_shorter hinner
  · cases h

/-- What follows a head that is not empty is shorter. -/
theorem drop_head_shorter {head : Text} (hhead : head ≠ [])
    (h : Text.dropHead? text head = some part) : byteLength part < byteLength text := by
  have htext := Text.drop_head_eq_some h
  have hpos : byteLength head ≠ 0 := fun hzero => hhead (Text.byte_length_eq_zero.mp hzero)
  rw [htext, Text.byte_length_append]
  omega

/-- The parts that are joined are no longer than the text. -/
theorem byte_length_le_of_mem_join {separator : Char} {parts : List Text} (h : part ∈ parts) :
    byteLength part ≤ byteLength (Text.join [separator] parts) := by
  induction parts with
  | nil => cases h
  | cons first rest ih =>
      by_cases hnil : rest = []
      · subst hnil
        rw [List.mem_singleton] at h
        rw [h, Text.join]
      · rw [Text.join_cons hnil, Text.byte_length_append, byteLength]
        rcases List.mem_cons.mp h with rfl | hlater
        · omega
        · have hle := ih hlater
          omega

/-- The parts between separators outside brackets are no longer than the text. -/
theorem byte_length_le_of_mem_top_level {separator : Char}
    (h : part ∈ Text.splitTopLevel text separator) : byteLength part ≤ byteLength text := by
  have hle : byteLength part ≤ byteLength (Text.join [separator] _) := byte_length_le_of_mem_join h
  rwa [Text.join_split_top_level] at hle

/-- The elements of an array literal are shorter. -/
theorem element_shorter (hne : text ≠ []) (h : part ∈ arrayElements text) :
    byteLength part < byteLength text := by
  obtain ⟨hmem, -⟩ := List.mem_filter.mp h
  obtain ⟨element, helement, rfl⟩ := List.mem_map.mp hmem
  have htrim := byte_length_le_of_within (trim_within element)
  have hinner := byte_length_le_of_mem_top_level helement
  have hlt : byteLength ((between? '[' ']' text).getD []) < byteLength text := by
    cases hbetween : between? '[' ']' text with
    | none =>
        obtain ⟨c, rest, rfl⟩ := List.exists_cons_of_ne_nil hne
        exact Text.byte_length_pos c rest
    | some inner => exact between_shorter hbetween
  omega

end Shorter

section TopLevel

variable {needle text : Text} {base offset : Nat} {depth : Int}

/-- A needle that is found outside brackets stands there, counting offsets from `base`. -/
theorem stands_at_of_mem_top_level (h : offset ∈ topLevelFrom needle base depth text) :
    ∃ inner, offset = base + inner ∧ StandsAt text inner needle := by
  induction text generalizing base depth with
  | nil => simp [topLevelFrom] at h
  | cons c rest ih =>
      have hlater : ∀ depth, offset ∈ topLevelFrom needle (base + c.utf8Size) depth rest →
          ∃ inner, offset = base + inner ∧ StandsAt (c :: rest) inner needle := by
        intro depth hrest
        obtain ⟨inner, hoffset, front, back, htext, hfront⟩ := ih hrest
        refine ⟨c.utf8Size + inner, by omega, c :: front, back, ?_, ?_⟩
        · rw [htext, List.cons_append]
        · rw [byteLength, hfront]
      rw [topLevelFrom] at h
      split at h
      · next hstarts =>
          rcases List.mem_cons.mp h with rfl | hrest
          · have hbegins := Text.starts_with_iff_begins.mp (Bool.and_eq_true_iff.mp hstarts).2
            exact ⟨0, rfl, Text.stands_at_of_begins hbegins⟩
          · exact hlater _ hrest
      · exact hlater _ h

/-- Needles are found from left to right. -/
theorem top_level_ascending :
    (topLevelFrom needle base depth text).Pairwise (· < ·) ∧
      ∀ offset ∈ topLevelFrom needle base depth text, base ≤ offset := by
  induction text generalizing base depth with
  | nil => simp [topLevelFrom]
  | cons c rest ih =>
      have hpos := Char.utf8Size_pos c
      rw [topLevelFrom]
      split
      · refine ⟨List.pairwise_cons.mpr ⟨fun later hlater => ?_, ih.1⟩, fun later hlater => ?_⟩
        · have hle := ih.2 later hlater
          omega
        · rcases List.mem_cons.mp hlater with rfl | hrest
          · exact Nat.le_refl _
          · have hle := ih.2 later hrest
            omega
      · refine ⟨ih.1, fun later hlater => ?_⟩
        have hle := ih.2 later hlater
        omega

/-- A text can be cut at characters of one byte that stand in it from left to right. The parts end
before the end of the text, the last one apart. -/
theorem cut_at_yields {text : Text} {c : Char} (hc : c.utf8Size = 1) {start : Nat}
    {offsets : List Nat} (hstart : IsBoundary text start) (hascending : offsets.Pairwise (· < ·))
    (hoffsets : ∀ offset ∈ offsets, start ≤ offset ∧ StandsAt text offset [c]) :
    Yields (fun parts => ∀ part ∈ parts, start + byteLength part ≤ byteLength text ∧
        (offsets ≠ [] → byteLength part < byteLength text))
      (cutAt? text start offsets) := by
  induction offsets generalizing start with
  | nil =>
      obtain ⟨rest, hrest⟩ := Option.isSome_iff_exists.mp (Text.drop_bytes_is_some_iff.mpr hstart)
      obtain ⟨front, rfl, rfl⟩ := Text.drop_bytes_eq_some_iff.mp hrest
      rw [cutAt?, hrest]
      refine yields_some fun part hpart => ?_
      rw [List.mem_singleton.mp hpart, Text.byte_length_append]
      exact ⟨Nat.le_refl _, fun h => absurd rfl h⟩
  | cons offset rest ih =>
      obtain ⟨⟨hle, hat⟩, hrest⟩ := List.forall_mem_cons.mp hoffsets
      obtain ⟨hlt, hascending⟩ := List.pairwise_cons.mp hascending
      have hend := hat.le_byte_length
      have hnext := hat.stop_boundary
      rw [byteLength, byteLength, hc] at hend hnext
      obtain ⟨part, hpart⟩ := Option.isSome_iff_exists.mp
        (Text.slice_is_some_iff.mpr ⟨hle, hstart, hat.start_boundary⟩)
      have hlength := (Text.slice_eq_some_iff.mp hpart).2
      have hlater := ih hnext hascending fun later hmem =>
        ⟨hlt later hmem, (hrest later hmem).2⟩
      rw [cutAt?]
      refine yields_bind_of_eq hpart (hlater.bind fun parts hparts => yields_pure ?_)
      refine List.forall_mem_cons.mpr ⟨⟨by omega, fun _ => by omega⟩, fun later hmem => ?_⟩
      have hbound := (hparts later hmem).1
      exact ⟨by omega, fun _ => by omega⟩

end TopLevel

section Step

variable {expression : Text}

/-- Where a masked expression has a keyword between spaces outside brackets, the expression can be
cut before and after them: the spaces are one byte each there, being next to letters of code. -/
theorem assertion_boundaries {offset : Nat}
    (h : offset ∈ topLevelOffsets (Text.mask .all expression) " as ") :
    IsBoundary expression offset ∧ IsBoundary expression (offset + 4) ∧
      offset < byteLength expression := by
  obtain ⟨inner, rfl, hstands⟩ := stands_at_of_mem_top_level h
  rw [Nat.zero_add]
  have hfits : Text.MaskState.Fits .code expression.head? := trivial
  have hbefore : StandsAt (Text.mask .all expression) inner ([' ', 'a'] ++ ['s', ' ']) := hstands
  have hafter := hbefore.back
  have hend := hstands.le_byte_length
  rw [(Text.mask_same_layout .all expression).byte_length_eq] at hend
  have hpos : byteLength " as ".toList = 4 := by decide
  refine ⟨Text.boundary_before_letter hfits (by decide) hbefore.front, ?_, by omega⟩
  exact Text.boundary_after_letter hfits (by decide) hafter

/-- Whether a text is one literal can be told if its first character has one byte: so has the last
one, if it is the same. -/
theorem single_literal_is_some {masked : Text} {quote : Char} (hhead : masked.head? = some quote)
    (hsize : quote.utf8Size = 1) : (isSingleLiteral? masked).isSome := by
  obtain ⟨rest, hfirst⟩ : ∃ rest, masked = [quote] ++ rest := by
    obtain ⟨rest, hrest⟩ := List.head?_eq_some_iff.mp hhead
    exact ⟨rest, hrest⟩
  have hone : byteLength [quote] = 1 := by rw [byteLength, byteLength, hsize]
  rw [isSingleLiteral?, hhead]
  dsimp only
  split
  · next hquotes =>
      obtain ⟨hlong, hlast⟩ := Bool.and_eq_true_iff.mp hquotes
      obtain ⟨front, hend⟩ := List.getLast?_eq_some_iff.mp (of_decide_eq_true hlast)
      have hlength : byteLength masked = byteLength front + 1 := by
        rw [hend, Text.byte_length_append, hone]
      have hlt := of_decide_eq_true hlong
      have hinside : (Text.slice? masked 1 (byteLength masked - 1)).isSome :=
        Text.slice_is_some_iff.mpr ⟨by omega, ⟨[quote], rest, hfirst, hone⟩,
          ⟨front, [quote], hend, by omega⟩⟩
      obtain ⟨inside, hslice⟩ := Option.isSome_iff_exists.mp hinside
      rw [hslice]
      rfl
  · rfl

/-- Whether an expression is a text literal can always be told. -/
theorem text_literal_is_some (expression : Text) :
    (isTextLiteral? expression (Text.mask .all expression)).isSome := by
  unfold isTextLiteral?
  split
  · next hquote =>
      cases expression with
      | nil => cases hquote
      | cons quote rest =>
          have hone : quote.utf8Size = 1 ∧ quote ≠ '/' := by
            rw [List.head?_cons, Option.any_some] at hquote
            simp only [Bool.or_eq_true, decide_eq_true_eq] at hquote
            rcases hquote with (rfl | rfl) | rfl <;> decide
          exact single_literal_is_some (Text.head_mask_from_code .all hone.2 rest) hone.1
  · rfl

/-- The operands of a sum can be cut out, and they are shorter. -/
theorem operands_yield (expression : Text) :
    Yields (fun operands => ∀ part ∈ operands,
        atTopLevel (Text.mask .all expression) "+" = true → byteLength part < byteLength expression)
      (cutAt? expression 0 (topLevelOffsets (Text.mask .all expression) "+")) := by
  have hplus : '+'.utf8Size = 1 ∧ '+' ≠ ' ' := by decide
  have hoffsets : ∀ offset ∈ topLevelOffsets (Text.mask .all expression) "+",
      0 ≤ offset ∧ StandsAt expression offset ['+'] := by
    intro offset hmem
    obtain ⟨inner, hoffset, hinner⟩ := stands_at_of_mem_top_level hmem
    rw [Nat.zero_add] at hoffset
    exact ⟨Nat.zero_le _, hoffset ▸
      (Text.mask_same_layout .all expression).stands_at hplus.2 hinner⟩
  refine (cut_at_yields hplus.1 (Text.is_boundary_zero expression) top_level_ascending.1
    hoffsets).imp fun operands hoperands part hpart htop => (hoperands part hpart).2 ?_
  intro hnil
  rw [atTopLevel, topLevelOffsets, hnil] at htop
  cases htop

variable {one other : Text → Option (Option String)}

/-- The types of a compound expression agree if the types of all shorter texts do. -/
theorem compound_type_agrees
    (h : ∀ part, byteLength part < byteLength expression → Agree (one part) (other part))
    (hne : expression ≠ []) :
    Agree (compoundType? one expression (Text.mask .all expression))
      (compoundType? other expression (Text.mask .all expression)) := by
  unfold compoundType?
  refine agree_ite (fun _ => ?array) fun _ => agree_ite (fun _ => agree_pure _) fun _ =>
    agree_ite (fun htop => ?sum) fun _ => agree_ite (fun _ => agree_pure _) fun _ => agree_pure _
  case array =>
    have helements := agree_map_m fun part hpart => h part (element_shorter hne hpart)
    exact helements.bind fun types _ => agree_pure _
  case sum =>
    obtain ⟨operands, hcut, hshorter⟩ := operands_yield expression
    have hoperands := agree_map_m fun part hpart => h part (hshorter part hpart htop)
    rw [hcut]
    exact hoperands.bind fun types _ => agree_pure _

/-- The types of an assertion agree if the types of all shorter texts do. -/
theorem asserted_type_agrees {offset : Nat}
    (h : ∀ part, byteLength part < byteLength expression → Agree (one part) (other part))
    (hoffset : offset ∈ topLevelOffsets (Text.mask .all expression) " as ") :
    Agree (assertedType? one expression offset) (assertedType? other expression offset) := by
  obtain ⟨hbefore, hafter, hlt⟩ := assertion_boundaries hoffset
  unfold assertedType?
  refine (agree_of_is_some (Text.drop_bytes_is_some_iff.mpr hafter)).bind fun type _ => ?_
  refine agree_ite (fun _ => ?_) fun _ => agree_pure _
  refine (agree_of_is_some (Text.take_bytes_is_some_iff.mpr hbefore)).bind fun asserted htake => ?_
  obtain ⟨back, -, hlength⟩ := Text.take_bytes_eq_some_iff.mp htake
  exact h asserted (by omega)

/-- Steps agree if the types of all shorter texts do. -/
theorem infer_step_agrees {text : Text}
    (h : ∀ part, byteLength part < byteLength text → Agree (one part) (other part)) :
    Agree (inferStep? one text) (inferStep? other text) := by
  have hbare := byte_length_le_of_within (bare_expression_within text)
  have hshorter : ∀ part, byteLength part < byteLength (bareExpression text) →
      Agree (one part) (other part) := fun part hpart => h part (by omega)
  unfold inferStep?
  refine agree_ite (fun _ => agree_pure _) fun hne => ?_
  split
  · next inner hinner => exact hshorter inner (parenthesized_shorter hinner)
  split
  · next rest hrest => exact hshorter rest (drop_head_shorter (by decide) hrest)
  dsimp only
  split
  · next offset hoffset =>
      exact asserted_type_agrees hshorter (List.mem_of_getLast? hoffset)
  refine agree_ite (fun _ => agree_pure _) fun _ => agree_ite (fun _ => agree_pure _) fun _ =>
    agree_ite (fun _ => agree_pure _) fun _ => ?_
  refine (agree_of_is_some (text_literal_is_some _)).bind fun isLiteral _ => ?_
  refine agree_ite (fun _ => agree_pure _) fun _ => compound_type_agrees hshorter fun hnil => ?_
  exact hne (by rw [hnil]; rfl)

end Step

/-- Once the fuel exceeds the length of the text, more of it changes nothing. -/
theorem infer_from_agrees {text : Text} {fuel fuel' : Nat} (hfuel : byteLength text < fuel)
    (hfuel' : byteLength text < fuel') : Agree (inferFrom? fuel text) (inferFrom? fuel' text) := by
  induction fuel generalizing text fuel' with
  | zero => omega
  | succ fuel ih =>
      cases fuel' with
      | zero => omega
      | succ fuel' => exact infer_step_agrees fun part hpart => ih (by omega) (by omega)

/-- Inference gives a value. -/
theorem infer_is_some (text : Text) : (infer? text).isSome := by
  obtain ⟨type, htype, -⟩ := infer_from_agrees (Nat.lt_succ_self (byteLength text))
    (Nat.lt_succ_self (byteLength text))
  exact Option.isSome_iff_exists.mpr ⟨type, htype⟩

/-- Inference is its own step: the bound on the depth is never reached. -/
theorem infer_eq_step (text : Text) : infer? text = inferStep? infer? text := by
  have hagree : Agree (inferStep? (inferFrom? (byteLength text)) text) (inferStep? infer? text) :=
    infer_step_agrees fun part hpart => infer_from_agrees hpart (Nat.lt_succ_self _)
  obtain ⟨type, hone, hother⟩ := hagree
  exact hone.trans hother.symm

end CodeAtlas.Hint
