import CodeAtlas.Proofs.Scanner.Expression
import CodeAtlas.Proofs.Text.Parts

/-!
# The elements of array literals

An array literal is typed by the pieces between its commas. The literal as a whole is masked before its
kind is told, so it is always taken for an array (`infer_array`), but the pieces are cut from its
unmasked text. Read `array_typed_by_elements` first: the pieces are the elements exactly if cutting
keeps them (`keepsParts`), and then the array has the type that its elements share.
`literal_and_comparison_cut` shows elements that are not kept.
-/

namespace CodeAtlas

namespace Hint

open Text (Brackets isNested isNestedFrom exists_steps mask)

section Inside

variable {awaited : List Char} {needle text back : Text} {base : Nat}

/-- How a character changes the depth is how many closers more are awaited after it. -/
theorem depth_from_of_steps {c : Char} {later : List Char}
    (h : Brackets.ofCode.Steps awaited none c later) (outside : Int) :
    depthFrom (awaited.length + outside) c = later.length + outside := by
  cases h with
  | @opens closer hopen =>
      have hc : c = '(' ∨ c = '[' ∨ c = '{' := by
        by_contra hne
        simp only [not_or] at hne
        replace hopen : Text.awaited? c = some closer := hopen
        simp [Text.awaited?, hne] at hopen
      rw [depthFrom, if_pos (by simpa [or_assoc] using hc), List.length_cons]
      omega
  | closes hclose hawaited =>
      replace hclose : Text.isCloser c = true := hclose
      simp only [Text.isCloser, Bool.or_eq_true, decide_eq_true_eq] at hclose
      rw [hawaited, List.length_cons]
      rcases hclose with (rfl | rfl) | rfl <;> simp [depthFrom] <;> omega
  | other hopen hclose =>
      have hopeners : c ≠ '(' ∧ c ≠ '[' ∧ c ≠ '{' := by
        refine ⟨?_, ?_, ?_⟩ <;> rintro rfl <;> cases hopen
      replace hclose : Text.isCloser c = false := hclose
      simp only [Text.isCloser, Bool.or_eq_false_iff, decide_eq_false_iff_not] at hclose
      simp [depthFrom, hopeners, hclose]

/-- Inside a bracket nothing is found. -/
theorem top_level_from_inside (h : isNestedFrom awaited text = true) :
    topLevelFrom needle base (awaited.length + 1) (text ++ back) =
      topLevelFrom needle (base + Text.byteLength text) 1 back := by
  induction text generalizing awaited base with
  | nil =>
      obtain rfl : awaited = [] := Text.nested_from_nil.mp h
      rfl
  | cons c text ih =>
      obtain ⟨later, hsteps, hlater⟩ := exists_steps h
      rw [List.cons_append, topLevelFrom, depth_from_of_steps hsteps, if_neg, ih hlater, Text.byteLength,
        Nat.add_assoc]
      simp only [Bool.and_eq_true, decide_eq_true_eq]
      omega

/-- In a text between square brackets, nothing but the last bracket is found. -/
theorem top_level_bracketed (h : isNested text = true) {c : Char} {rest : Text} (hc : c ≠ ']') :
    topLevelFrom (c :: rest) 0 0 ('[' :: (text ++ [']'])) = [] := by
  have hinside : topLevelFrom (c :: rest) 1 (([] : List Char).length + 1) (text ++ [']']) =
      topLevelFrom (c :: rest) (1 + Text.byteLength text) 1 [']'] := top_level_from_inside h
  have hlast : topLevelFrom (c :: rest) (1 + Text.byteLength text) 1 [']'] = [] := by
    simp [topLevelFrom, Text.startsWith, hc.symm]
  rw [topLevelFrom, if_neg (by simp [depthFrom])]
  exact hinside.trans hlast

/-- What stands between square brackets is not read as a comparison. -/
theorem is_boolean_bracketed (h : isNested text = true) (expression : Text) :
    isBoolean ('[' :: expression) ('[' :: (text ++ [']'])) = false := by
  have hhead : ∀ needle ∈ ["===", "!==", "==", "!=", "<=", ">=", " < ", " > ", " instanceof ", " in "],
      needle.toList.head?.any (· ≠ ']') = true := by
    decide
  have hnone : ∀ needle ∈ ["===", "!==", "==", "!=", "<=", ">=", " < ", " > ", " instanceof ", " in "],
      ¬atTopLevel ('[' :: (text ++ [']'])) needle = true := by
    intro needle hneedle
    obtain ⟨c, hc, hne⟩ := (Option.any_eq_true _ _).mp (hhead needle hneedle)
    obtain ⟨rest, hrest⟩ := List.head?_eq_some_iff.mp hc
    rw [atTopLevel, topLevelOffsets, hrest, top_level_bracketed h (of_decide_eq_true hne)]
    decide
  rw [isBoolean, List.any_eq_false.mpr hnone]
  rfl

end Inside

section Array

variable {elements : List Text}

/-- The text of an array literal with the given elements. -/
def arrayText (elements : List Text) : Text :=
  '[' :: (Text.join ", ".toList elements ++ [']'])

/-- An element of an array literal: an expression that is not blank, free of comments, with its
literals closed and its brackets properly nested, and without commas outside of both. -/
structure IsElement (element : Text) : Prop where
  not_blank : Text.trim element ≠ []
  uncommented : mask .comments element = element
  closed : Text.MaskState.code.after element [] = .code
  nested : isNested (mask .all element) = true
  no_comma : atTopLevel (mask .all element) "," = false

instance (element : Text) : Decidable (IsElement element) :=
  decidable_of_iff (Text.trim element ≠ [] ∧ mask .comments element = element ∧
      Text.MaskState.code.after element [] = .code ∧ isNested (mask .all element) = true ∧
      atTopLevel (mask .all element) "," = false)
    ⟨fun ⟨hblank, hcomments, hclosed, hnested, hcomma⟩ =>
      ⟨hblank, hcomments, hclosed, hnested, hcomma⟩,
    fun ⟨hblank, hcomments, hclosed, hnested, hcomma⟩ =>
      ⟨hblank, hcomments, hclosed, hnested, hcomma⟩⟩

/-- Punctuation is plain code. -/
theorem punctuation_is_plain : ∀ c ∈ ['[', ']', ',', ' '], Text.IsPlain c := by
  simp [Text.IsPlain, Text.IsQuote]

/-- Masking joined parts whose literals are closed masks the parts. -/
theorem mask_from_join (h : ∀ element ∈ elements, Text.MaskState.code.after element [] = .code) :
    Text.maskFrom .all .code (Text.join ", ".toList elements ++ [']']) =
      Text.join ", ".toList (elements.map (mask .all)) ++ [']'] := by
  induction elements with
  | nil => rfl
  | cons element rest ih =>
      obtain ⟨helement, hrest⟩ := List.forall_mem_cons.mp h
      cases rest with
      | nil =>
          change Text.maskFrom .all .code (element ++ [']']) = mask .all element ++ [']']
          rw [Text.mask_from_before (by simp), helement]
          rfl
      | cons next rest =>
          have hcomma : Text.maskFrom .all .code
              ([',', ' '] ++ (Text.join ", ".toList (next :: rest) ++ [']'])) = _ :=
            Text.mask_from_plain .all (fun c hc => punctuation_is_plain c (by simp_all)) _
          rw [List.map_cons, List.map_cons, Text.join_parts, Text.join_parts, List.append_assoc,
            List.append_assoc, Text.mask_from_before (by simp), helement]
          exact congrArg (mask .all element ++ ·) (hcomma.trans (congrArg ([',', ' '] ++ ·) (ih hrest)))

/-- Masking an array literal masks its elements. -/
theorem mask_array (h : ∀ element ∈ elements, Text.MaskState.code.after element [] = .code) :
    mask .all (arrayText elements) = arrayText (elements.map (mask .all)) := by
  have hplain : ∀ c ∈ ['['], Text.IsPlain c := fun c hc => punctuation_is_plain c (by simp_all)
  have hbracket := Text.mask_from_plain .all hplain (Text.join ", ".toList elements ++ [']'])
  rw [mask_from_join h] at hbracket
  exact hbracket

/-- An array literal is a bare expression. -/
theorem bare_array (elements : List Text) : bareExpression (arrayText elements) = arrayText elements := by
  have hlast : (arrayText elements).getLast? = some ']' := by
    rw [arrayText, ← List.cons_append, List.getLast?_concat]
  have htight : Text.IsTight (arrayText elements) :=
    ⟨⟨'[', rfl, by decide⟩, ']', hlast, by decide⟩
  have hsemicolon : Text.dropEndWhile (arrayText elements) (· = ';') = arrayText elements := by
    rw [Text.dropEndWhile, Text.drop_while_of_head, List.reverse_reverse]
    intro c hc
    rw [List.head?_reverse, hlast] at hc
    rw [← Option.some.inj hc]
    rfl
  rw [bareExpression, Text.trim_of_tight htight, hsemicolon, Text.trim_of_tight htight]

/-- The type of an expression, as inference gives it. -/
def typeOf (expression : Text) : Option String :=
  (infer? expression).getD none

/-- Inference gives the type. -/
theorem infer_eq_type_of (expression : Text) : infer? expression = some (typeOf expression) := by
  obtain ⟨type, htype⟩ := Option.isSome_iff_exists.mp (infer_is_some expression)
  rw [typeOf, htype, Option.getD_some]

/-- The types of several expressions. -/
theorem map_m_infer (expressions : List Text) :
    expressions.mapM infer? = some (expressions.map typeOf) := by
  induction expressions with
  | nil => rfl
  | cons expression rest ih =>
      rw [List.mapM_cons, infer_eq_type_of, ih]
      rfl

/-- White space around an expression does not matter for its type. -/
theorem type_of_trim (expression : Text) : typeOf (Text.trim expression) = typeOf expression := by
  have htrim : Text.trim (Text.trim expression) = Text.trim expression := by
    by_cases hnil : Text.trim expression = []
    · rw [hnil]
      rfl
    · exact Text.trim_of_tight (Text.is_tight_trim hnil)
  have hbare : bareExpression (Text.trim expression) = bareExpression expression := by
    rw [bareExpression, bareExpression, htrim]
  rw [typeOf, typeOf, infer_eq_step, infer_eq_step expression, inferStep?, inferStep?, hbare]

/-- The type of an array literal is that of the pieces that it is cut into. -/
theorem infer_array (h : ∀ element ∈ elements, IsElement element) :
    infer? (arrayText elements) =
      some (some (arrayType ((arrayElements (arrayText elements)).map typeOf))) := by
  have hnested : isNested (Text.join ", ".toList (elements.map (mask .all))) = true := by
    refine Text.nested_join fun part hpart => ?_
    obtain ⟨element, helement, rfl⟩ := List.mem_map.mp hpart
    exact (h element helement).nested
  have hmasked : mask .all (arrayText elements) = arrayText (elements.map (mask .all)) :=
    mask_array fun element helement => (h element helement).closed
  -- Only the last bracket stands outside brackets, so nothing but the first one tells the type.
  have hasserted : topLevelOffsets (arrayText (elements.map (mask .all))) " as " = [] :=
    top_level_bracketed hnested (show ' ' ≠ ']' by decide)
  have hboolean : isBoolean (arrayText elements) (arrayText (elements.map (mask .all))) = false :=
    is_boolean_bracketed hnested _
  have hfunction : isFunction (arrayText (elements.map (mask .all))) = false := by
    rw [isFunction, Bool.or_eq_false_iff, Bool.and_eq_false_iff]
    exact ⟨Or.inr rfl, rfl⟩
  rw [infer_eq_step, inferStep?, bare_array, hmasked]
  dsimp only
  rw [hasserted, hboolean, hfunction]
  change (arrayElements (arrayText elements)).mapM infer? >>= _ = _
  rw [map_m_infer]
  rfl

/-- Cutting keeps the elements if it gives them back, apart from the white space around them. -/
theorem array_elements_eq (h : ∀ element ∈ elements, IsElement element)
    (hcut : Text.splitTopLevel (Text.join ", ".toList elements) ',' = Text.spaced elements) :
    arrayElements (arrayText elements) = elements.map Text.trim := by
  have hinner : between? '[' ']' (arrayText elements) = some (Text.join ", ".toList elements) := by
    simp [between?, arrayText]
  have htrim : (Text.spaced elements).map Text.trim = elements.map Text.trim := by
    cases elements with
    | nil => rfl
    | cons element rest =>
        rw [Text.spaced, List.map_cons, List.map_map, List.map_cons]
        refine congrArg _ (List.map_congr_left fun other _ => ?_)
        exact Text.trim_cons (by decide) other
  rw [arrayElements, hinner, Option.getD_some, hcut, htrim, List.filter_eq_self]
  intro piece hpiece
  obtain ⟨element, helement, rfl⟩ := List.mem_map.mp hpiece
  simpa using (h element helement).not_blank

/-- Elements of one type make an array of it. -/
theorem array_type_same {types : List (Option String)} {type : String} (hne : types ≠ [])
    (h : ∀ other ∈ types, other = some type) : arrayType types = type ++ "[]" := by
  cases types with
  | nil => contradiction
  | cons first rest =>
      obtain ⟨rfl, hrest⟩ := List.forall_mem_cons.mp h
      exact if_pos (List.all_eq_true.mpr fun other hother => decide_eq_true (hrest other hother))

/-- Elements of no common type make an array of anything. -/
theorem array_type_mixed {types : List (Option String)}
    (h : ¬∃ type, ∀ other ∈ types, other = some type) : arrayType types = "any[]" := by
  unfold arrayType
  split
  · next type rest =>
      refine if_neg fun hall => h ⟨type, List.forall_mem_cons.mpr ⟨rfl, fun other hother => ?_⟩⟩
      exact of_decide_eq_true (List.all_eq_true.mp hall other hother)
  · rfl

end Array

section Counted

/-- Whether a character of masked text is a comma or a bracket that nests. -/
def isNesting (c : Char) : Bool :=
  c = ',' || (Text.awaited? c).isSome || Text.isCloser c

/-- What cutting at commas looks at: brackets, angle brackets among them unless they end an arrow, and
commas. -/
def counted : (previous : Option Char) → Text → Text
  | _, [] => []
  | previous, c :: rest =>
    if Text.isBracket previous c || c = ',' then c :: counted (some c) rest
    else counted (some c) rest

/-- Reading an expression without masking it finds the same brackets and commas. -/
def IsPlainlyRead (element : Text) : Prop :=
  counted none element = (mask .all element).filter isNesting

instance (element : Text) : Decidable (IsPlainlyRead element) :=
  inferInstanceAs (Decidable (_ = _))

/-- The depth after brackets and commas, if no comma stands where none is open. -/
def depthCounted? : (depth : Int) → Text → Option Int
  | depth, [] => some depth
  | depth, c :: rest =>
    if c = ',' ∧ depth ≤ 0 then none else depthCounted? (depth + Text.depthChange none c) rest

variable {text element : Text} {elements : List Text}

/-- A character that is no bracket leaves the depth as it is. -/
theorem depth_change_of_no_bracket {previous : Option Char} {c : Char}
    (h : Text.isBracket previous c = false) : Text.depthChange previous c = 0 := by
  simp only [Text.isBracket, Bool.or_eq_false_iff, Bool.and_eq_false_iff, decide_eq_false_iff_not,
    bne_eq_false_iff_eq] at h
  obtain ⟨⟨⟨⟨⟨⟨⟨h1, h2⟩, h3⟩, h4⟩, h5⟩, h6⟩, h7⟩, harrow⟩ := h
  simp only [Text.depthChange, h1, h2, h3, h4, h5, h6, h7, decide_false, Bool.or_false,
    Bool.false_eq_true, if_false]
  split
  · next hc => exact if_pos (harrow.resolve_left fun hne => hne hc)
  · rfl

/-- Only what is counted decides whether a text is cut. -/
theorem depth_uncut_eq (previous : Option Char) (depth : Int) (text : Text) :
    Text.depthUncut? previous depth text = depthCounted? depth (counted previous text) := by
  induction text generalizing previous depth with
  | nil => rfl
  | cons c rest ih =>
      rw [Text.depthUncut?, counted, ih]
      by_cases hbracket : Text.isBracket previous c = true
      · have hchange : Text.depthChange previous c = Text.depthChange none c := by
          by_cases hc : c = '>'
          · have harrow : previous ≠ some '=' := by
              simpa [hc, Text.isBracket] using hbracket
            simp [Text.depthChange, hc, harrow]
          · simp [Text.depthChange, hc]
        rw [hbracket, Bool.true_or, if_pos rfl, depthCounted?, hchange]
      · have hchange : Text.depthChange previous c = 0 :=
          depth_change_of_no_bracket (by simpa using hbracket)
        rw [Bool.eq_false_iff.mpr hbracket, Bool.false_or, hchange, Int.add_zero]
        by_cases hcomma : c = ','
        · have hflat : Text.depthChange none ',' = 0 := Text.comma_is_flat.no_bracket.2
          subst hcomma
          rw [if_pos (decide_eq_true rfl), depthCounted?, hflat, Int.add_zero]
        · rw [if_neg fun h => hcomma h.1, if_neg (by simpa using hcomma)]

/-- A character that nests changes both depths alike. -/
theorem depth_from_of_nesting {c : Char} (h : isNesting c = true) (depth : Int) :
    depthFrom depth c = depth + Text.depthChange none c := by
  have hcases : c = ',' ∨ c = '(' ∨ c = '[' ∨ c = '{' ∨ c = ')' ∨ c = ']' ∨ c = '}' := by
    simp only [isNesting, Text.awaited?, Text.isCloser, Bool.or_eq_true, decide_eq_true_eq] at h
    by_contra hne
    simp only [not_or] at hne
    simp [hne] at h
  rcases hcases with rfl | rfl | rfl | rfl | rfl | rfl | rfl <;>
    simp [depthFrom, Text.depthChange, Int.sub_eq_add_neg]

/-- In properly nested text with no comma outside brackets, no bracket is left open. -/
theorem depth_counted_of_nested {awaited : List Char} {base : Nat}
    (hnested : isNestedFrom awaited text = true)
    (hcomma : topLevelFrom [','] base awaited.length text = []) :
    depthCounted? awaited.length (text.filter isNesting) = some 0 := by
  induction text generalizing awaited base with
  | nil =>
      obtain rfl : awaited = [] := Text.nested_from_nil.mp hnested
      rfl
  | cons c rest ih =>
      obtain ⟨later, hsteps, hlater⟩ := exists_steps hnested
      have hdepth := depth_from_of_steps hsteps 0
      rw [Int.add_zero, Int.add_zero] at hdepth
      rw [topLevelFrom, hdepth] at hcomma
      obtain ⟨hnot, hrest⟩ : ¬(later.length = 0 ∧ c = ',') ∧
          topLevelFrom [','] (base + c.utf8Size) later.length rest = [] := by
        split at hcomma
        · contradiction
        · next hfound =>
            exact ⟨fun hc => hfound (by simp [hc.1, hc.2, Text.startsWith]), hcomma⟩
      rw [List.filter_cons]
      by_cases hnesting : isNesting c = true
      · have hkept : ¬(c = ',' ∧ (awaited.length : Int) ≤ 0) := by
          rintro ⟨rfl, hle⟩
          have hsame : depthFrom awaited.length ',' = awaited.length := rfl
          exact hnot ⟨by omega, rfl⟩
        rw [if_pos hnesting, depthCounted?, if_neg hkept, ← depth_from_of_nesting hnesting, hdepth]
        exact ih hlater hrest
      · rw [if_neg hnesting]
        cases hsteps with
        | @opens closer hopen =>
            replace hopen : Text.awaited? c = some closer := hopen
            simp [isNesting, hopen] at hnesting
        | closes hclose _ =>
            replace hclose : Text.isCloser c = true := hclose
            simp [isNesting, hclose] at hnesting
        | other _ _ => exact ih hlater hrest

/-- Elements whose brackets and commas are read plainly are kept. -/
theorem keeps_parts_of_plainly_read (h : ∀ element ∈ elements, IsElement element)
    (hplain : ∀ element ∈ elements, IsPlainlyRead element) : Text.keepsParts 0 elements = true := by
  induction elements with
  | nil => rfl
  | cons element rest ih =>
      obtain ⟨helement, hrest⟩ := List.forall_mem_cons.mp h
      obtain ⟨hread, hplain⟩ := List.forall_mem_cons.mp hplain
      have hnone : topLevelFrom [','] 0 0 (mask .all element) = [] := by
        have hcomma := helement.no_comma
        rw [atTopLevel, Bool.not_eq_false', List.isEmpty_iff] at hcomma
        exact hcomma
      have hdepth : Text.depthUncut? none 0 element = some 0 := by
        rw [depth_uncut_eq, hread]
        have hnested : isNestedFrom [] (mask .all element) = true := helement.nested
        exact depth_counted_of_nested hnested hnone
      simp [Text.keepsParts, hdepth, ih hrest hplain]

end Counted

/-- An array literal is typed by the pieces that its source is cut into at commas, literals and
comparisons not masked. These are its elements exactly if cutting keeps them, and then it is an array
of their type if they all have the same, and of anything otherwise. Elements are kept if their
brackets and commas are read plainly. -/
theorem array_typed_by_elements {elements : List Text} (hne : elements ≠ [])
    (h : ∀ element ∈ elements, IsElement element) :
    infer? (arrayText elements) =
      some (some (arrayType ((arrayElements (arrayText elements)).map typeOf))) ∧
    (Text.splitTopLevel (Text.join ", ".toList elements) ',' = Text.spaced elements ↔
      Text.keepsParts 0 elements = true) ∧
    (Text.keepsParts 0 elements = true →
      (∀ type, (∀ element ∈ elements, infer? element = some (some type)) →
        infer? (arrayText elements) = some (some (type ++ "[]"))) ∧
      ((¬∃ type, ∀ element ∈ elements, infer? element = some (some type)) →
        infer? (arrayText elements) = some (some "any[]"))) ∧
    ((∀ element ∈ elements, IsPlainlyRead element) → Text.keepsParts 0 elements = true) := by
  have hcut : Text.splitTopLevel (Text.join ", ".toList elements) ',' = Text.spaced elements ↔
      Text.keepsParts 0 elements = true := Text.split_join_iff (by simp) hne
  have hinfer := infer_array h
  refine ⟨hinfer, hcut, fun hkeeps => ?_, keeps_parts_of_plainly_read h⟩
  have htypes : (arrayElements (arrayText elements)).map typeOf = elements.map typeOf := by
    rw [array_elements_eq h (hcut.mpr hkeeps), List.map_map]
    simp only [Function.comp_def, type_of_trim]
  have hsame : ∀ type element, infer? element = some (some type) ↔ typeOf element = some type := by
    intro type element
    rw [infer_eq_type_of, Option.some.injEq]
  rw [hinfer, htypes]
  simp only [hsame]
  refine ⟨fun type hall => ?_, fun hnone => ?_⟩
  · rw [array_type_same (by simpa using hne) (by simpa using hall)]
  · rw [array_type_mixed (by simpa using hnone)]

/-- Arrays of numbers are elements of one type. -/
theorem array_of_arrays :
    infer? (arrayText ["[1, 2]".toList, "[3]".toList]) = some (some "number[][]") := by
  have helements : ∀ element ∈ ["[1, 2]".toList, "[3]".toList],
      IsElement element ∧ IsPlainlyRead element ∧ infer? element = some (some "number[]") := by
    decide +kernel
  obtain ⟨-, -, htyped, hkeeps⟩ :=
    array_typed_by_elements (by simp) fun element helement => (helements element helement).1
  have hkept := hkeeps fun element helement => (helements element helement).2.1
  exact (htyped hkept).1 "number[]" fun element helement => (helements element helement).2.2

/-- A comma in a string literal cuts the literal in two, and after a comparison that seems to open a
bracket the rest of the array seems to be one element. -/
theorem literal_and_comparison_cut :
    (IsElement "'a,b'".toList ∧ infer? "'a,b'".toList = some (some "string") ∧
      infer? (arrayText ["'a,b'".toList]) = some (some "any[]")) ∧
    IsElement "a < b".toList ∧ IsElement "1".toList ∧
      infer? "a < b".toList = some (some "boolean") ∧ infer? "1".toList = some (some "number") ∧
      infer? (arrayText ["a < b".toList, "1".toList]) = some (some "boolean[]") := by
  decide +kernel

end Hint

end CodeAtlas
