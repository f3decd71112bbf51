import CodeAtlas.Proofs.Hint.Annotated
import CodeAtlas.Proofs.Hint.Front

/-!
# Bodies of nested functions do not show in hints

A function that is declared without types is given a hint from its `return` statements. A function that is
bound to a constant in its body, written with the keyword or as an arrow function, is passed over: the hint
is the same whatever its body is (`nested_body_hidden`). `Binding` is the code around that body, and
`Binding.IsWhole` says what is asked of it. The walk finds the same expressions in front of the body
(`finds_of_passed`), passes the body (`leads_past_block`), and goes on as in what follows alone
(`returns_after_block`).
-/

namespace CodeAtlas.Hint

open Text (Cursor byteLength isNested isNestedFrom)

/-- Code that can stand anywhere in code: no literal and no comment is open at its end, and its brackets
are properly nested. -/
structure IsWholeCode (text : Text) : Prop where
  closed : Text.MaskState.code.after text [] = .code
  nested : isNested (Text.mask .all text) = true

instance (text : Text) : Decidable (IsWholeCode text) :=
  decidable_of_iff (Text.MaskState.code.after text [] = .code ∧ isNested (Text.mask .all text) = true)
    ⟨fun h => ⟨h.1, h.2⟩, fun h => ⟨h.closed, h.nested⟩⟩

/-- The two forms of a function that is bound to a constant. -/
inductive FunctionForm where
  /-- A function expression. -/
  | keyword
  /-- An arrow function. -/
  | arrow
  deriving DecidableEq, Repr

namespace FunctionForm

/-- What opens the parameters. -/
def opens (form : FunctionForm) : String :=
  match form with
  | keyword => "function ("
  | arrow => "("

/-- What closes the parameters, up to the body. -/
def closes (form : FunctionForm) : String :=
  match form with
  | keyword => ") "
  | arrow => ") => "

/-- A function up to its body, and what follows. -/
def written (form : FunctionForm) (params rest : Text) : Text :=
  form.opens.toList ++ (params ++ (form.closes.toList ++ rest))

/-- What is written up to the last space before the keyword or the arrow. -/
def front (form : FunctionForm) (params : Text) : Text :=
  match form with
  | keyword => []
  | arrow => ' ' :: '(' :: (params ++ [')'])

/-- What is written between that space and the body. -/
def link (form : FunctionForm) (params : Text) : Text :=
  match form with
  | keyword => keyword.opens.toList ++ (params ++ [')', ' '])
  | arrow => ['=', '>', ' ']

end FunctionForm

/-- The code around the body of a function that is bound to a constant in the body of another function. -/
structure Binding where
  form : FunctionForm
  before : Text
  params : Text
  after : Text

namespace Binding

/-- The masked form of the code. -/
def masked (binding : Binding) : Binding where
  form := binding.form
  before := Text.mask .all binding.before
  params := Text.mask .all binding.params
  after := Text.mask .all binding.after

/-- The body of the outer function, around what stands in the body of the inner one. -/
def body (binding : Binding) (inner : Text) : Text :=
  " ".toList ++ (binding.before ++ (" const g = ".toList ++ binding.form.written binding.params
    ("\x7b ".toList ++ (inner ++ (" \x7d; ".toList ++ (binding.after ++ " ".toList))))))

/-- The body of the outer function up to the last space before the inner one's keyword or arrow. -/
def front (binding : Binding) : Text :=
  ' ' :: (binding.before ++ (" const g =".toList ++ binding.form.front binding.params))

/-- What stands between that space and the body of the inner function. -/
def link (binding : Binding) : Text :=
  binding.form.link binding.params

/-- What follows the body of the inner function. -/
def tail (binding : Binding) : Text :=
  "; ".toList ++ (binding.after ++ [' '])

/-- The code is whole, there is no brace in the parameters, and every `return` statement before them is
ended by a semicolon at its own bracket level. -/
structure IsWhole (binding : Binding) : Prop where
  before : IsWholeCode binding.before
  returns : ReturnsEnd (Text.mask .all binding.before)
  params : IsWholeCode binding.params
  unbraced : '{' ∉ Text.mask .all binding.params
  after : IsWholeCode binding.after

end Binding

/-- A function of a given name, without parameters. -/
def outerFunction (name body : Text) : Text :=
  "function ".toList ++ (name ++ ("() \x7b".toList ++ (body ++ "\x7d".toList)))

/-- A function up to the brace that opens its body, without the brace. -/
def beforeBody (name : Text) : Text :=
  "function ".toList ++ name ++ "()".toList ++ [' ']

section Masked

variable {binding : Binding} {name inner text params rest : Text}

/-- Whole code is masked on its own in front of a part that does not make a comment of its end. -/
theorem IsWholeCode.mask_append (h : IsWholeCode text) (part : Text)
    (hpart : part.head?.any (fun c => c ≠ '/' && c ≠ '*') = true) (rest : Text) :
    Text.maskFrom .all .code (text ++ (part ++ rest)) =
      Text.mask .all text ++ Text.maskFrom .all .code (part ++ rest) := by
  rw [Text.mask_from_before, h.closed, Text.mask]
  cases part with
  | nil => cases hpart
  | cons d part =>
      intro c hc
      obtain rfl : d = c := Option.some.inj hc
      simpa using hpart

/-- Plain code is masked on its own. -/
theorem mask_plain (part : Text) (hpart : IsPlainLine part) (rest : Text) :
    Text.maskFrom .all .code (part ++ rest) = part ++ Text.maskFrom .all .code rest :=
  Text.mask_from_plain .all hpart.plain rest

/-- A function is masked up to its body. -/
theorem mask_written (form : FunctionForm) (hparams : IsWholeCode params) (rest : Text) :
    Text.maskFrom .all .code (form.written params rest) =
      form.written (Text.mask .all params) (Text.maskFrom .all .code rest) := by
  have hopens : IsPlainLine form.opens.toList := by cases form <;> decide
  have hcloses : IsPlainLine form.closes.toList := by cases form <;> decide
  rw [FunctionForm.written, mask_plain _ hopens, hparams.mask_append _ (by cases form <;> decide),
    mask_plain _ hcloses, FunctionForm.written]

/-- The parts of a function are masked on their own. -/
theorem Binding.IsWhole.mask_outer_function (h : binding.IsWhole) (hname : Text.IsWord name)
    (hinner : IsWholeCode inner) :
    Text.mask .all (outerFunction name (binding.body inner)) =
      outerFunction name (binding.masked.body (Text.mask .all inner)) := by
  have hend : Text.maskFrom .all .code "\x7d".toList = "\x7d".toList := by decide
  unfold outerFunction Binding.body
  simp only [List.append_assoc, FunctionForm.written]
  change Text.maskFrom .all .code _ = _
  rw [mask_plain "function ".toList (by decide), mask_plain name (plain_line_of_word hname),
    mask_plain "() \x7b".toList (by decide), mask_plain " ".toList (by decide),
    h.before.mask_append " const g = ".toList (by decide), mask_plain " const g = ".toList (by decide),
    ← FunctionForm.written, mask_written binding.form h.params, mask_plain "\x7b ".toList (by decide),
    hinner.mask_append " \x7d; ".toList (by decide), mask_plain " \x7d; ".toList (by decide),
    h.after.mask_append " ".toList (by decide), mask_plain " ".toList (by decide), hend,
    FunctionForm.written]
  rfl

/-- Masking keeps the length. -/
theorem byte_length_mask (text : Text) : byteLength (Text.mask .all text) = byteLength text :=
  (Text.mask_same_layout .all text).byte_length_eq

/-- Masked, what stands in front of an inner function has as many bytes. -/
theorem Binding.byte_length_front (binding : Binding) :
    byteLength binding.front = byteLength binding.masked.front := by
  have hform : byteLength (binding.form.front (Text.mask .all binding.params)) =
      byteLength (binding.form.front binding.params) := by
    cases binding.form with
    | keyword => rfl
    | arrow => simp only [FunctionForm.front, byteLength, Text.byte_length_append, byte_length_mask]
  unfold Binding.front Binding.masked
  simp only [byteLength, Text.byte_length_append, byte_length_mask, hform]

/-- Masked, the link to the body of an inner function has as many bytes. -/
theorem Binding.byte_length_link (binding : Binding) :
    byteLength binding.link = byteLength binding.masked.link := by
  unfold Binding.link Binding.masked
  cases binding.form with
  | keyword =>
      change byteLength ("function (".toList ++ (binding.params ++ [')', ' '])) =
        byteLength ("function (".toList ++ (Text.mask .all binding.params ++ [')', ' ']))
      simp only [Text.byte_length_append, byte_length_mask]
  | arrow => rfl

end Masked

section Layout

variable {binding : Binding} {form : FunctionForm} {name inner text params rest : Text}

/-- The body of the outer function is its front, the link, the body of the inner one and the tail. -/
theorem Binding.body_eq (binding : Binding) (inner : Text) :
    binding.body inner = binding.front ++ ' ' :: (binding.link ++
      '{' :: (' ' :: (inner ++ [' ']) ++ '}' :: binding.tail)) := by
  have hwritten : ∀ rest : Text, " const g = ".toList ++ binding.form.written binding.params rest =
      " const g =".toList ++ binding.form.front binding.params ++ ' ' :: (binding.link ++ rest) := by
    intro rest
    unfold Binding.link
    cases binding.form with
    | keyword =>
        change " const g = ".toList ++ ("function (".toList ++ (binding.params ++ (") ".toList ++ rest))) =
          " const g =".toList ++ [] ++
            ' ' :: ("function (".toList ++ (binding.params ++ [')', ' ']) ++ rest)
        simp
    | arrow =>
        change " const g = ".toList ++ ("(".toList ++ (binding.params ++ (") => ".toList ++ rest))) =
          " const g =".toList ++ ' ' :: '(' :: (binding.params ++ [')']) ++
            ' ' :: (['=', '>', ' '] ++ rest)
        simp
  unfold Binding.body Binding.front Binding.tail
  rw [hwritten]
  simp

/-- A function is what stands before its body, and the body in braces. -/
theorem outer_function_eq (name body : Text) :
    outerFunction name body = beforeBody name ++ '{' :: (body ++ '}' :: []) := by
  unfold outerFunction beforeBody
  simp

/-- A function up to its body is properly nested. -/
theorem nested_written (form : FunctionForm) (hparams : isNested params = true)
    (hrest : isNested rest = true) : isNested (form.written params rest) = true := by
  have hopens : ∀ text, isNested (form.opens.toList ++ text) = isNestedFrom ([] ++ [')']) text :=
    Text.nested_from_after (by cases form <;> rfl)
  have hcloses : isNestedFrom [')'] (form.closes.toList ++ rest) = isNested rest :=
    Text.nested_from_after (by cases form <;> rfl) rest
  rw [FunctionForm.written, hopens, Text.nested_from_append hparams, hcloses, hrest]

/-- The body of the outer function is properly nested. -/
theorem Binding.IsWhole.nested_body (h : binding.IsWhole) (hinner : IsWholeCode inner) :
    isNested (binding.masked.body (Text.mask .all inner)) = true := by
  have hafter : isNested (binding.masked.after ++ " ".toList) = true :=
    Text.nested_append h.after.nested (by decide)
  have hopened : ∀ text, isNested ("\x7b ".toList ++ text) = isNestedFrom ([] ++ ['}']) text :=
    Text.nested_from_after rfl
  have hclosed : ∀ text, isNestedFrom ['}'] (" \x7d; ".toList ++ text) = isNested text :=
    Text.nested_from_after rfl
  have hblock : isNested ("\x7b ".toList ++ (Text.mask .all inner ++ (" \x7d; ".toList ++
      (binding.masked.after ++ " ".toList)))) = true := by
    rw [hopened, Text.nested_from_append hinner.nested, hclosed, hafter]
  unfold Binding.body
  exact Text.nested_append (by decide) (Text.nested_append h.before.nested (Text.nested_append (by decide)
    (nested_written _ h.params.nested hblock)))

/-- What stands in front of an inner function is passed. -/
theorem Binding.IsWhole.is_passed (h : binding.IsWhole) (name : Text) :
    IsPassed (beforeBody name ++ ['{']) binding.masked.front := by
  have hparams : isNested (Text.mask .all binding.params) = true := h.params.nested
  have hfront : isNested (binding.form.front (Text.mask .all binding.params)) = true := by
    cases binding.form with
    | keyword => rfl
    | arrow =>
        have hopens : isNested (" (".toList ++ (Text.mask .all binding.params ++ [')'])) =
            isNestedFrom ([] ++ [')']) (Text.mask .all binding.params ++ [')']) :=
          Text.nested_from_after rfl _
        refine hopens.trans ?_
        rw [Text.nested_from_append hparams]
        rfl
  have hspace : isNested [' '] = true := by decide
  have hnested : isNested (' ' :: (Text.mask .all binding.before ++ (" const g =".toList ++
      binding.form.front (Text.mask .all binding.params)))) = true :=
    Text.nested_append hspace (Text.nested_append h.before.nested
      (Text.nested_append (by decide) hfront))
  have hdeclared : ReturnsStay ("const g =".toList ++
      binding.form.front (Text.mask .all binding.params)) := by
    cases binding.form with
    | keyword =>
        change ReturnsStay ("const g =".toList ++ [])
        exact returns_stay_of_not_mem (by decide)
    | arrow =>
        change ReturnsStay ("const g =".toList ++
          ' ' :: ([] ++ '(' :: (Text.mask .all binding.params ++ [')'])))
        refine ReturnsStay.append (returns_stay_of_not_mem (by decide)) ?_ (by decide)
        exact ReturnsStay.append (returns_stay_of_not_mem (by decide))
          (returns_stay_in_parentheses hparams) (by decide)
  have hstay : ReturnsStay ([] ++ ' ' :: (Text.mask .all binding.before ++ ' ' ::
      ("const g =".toList ++ binding.form.front (Text.mask .all binding.params)))) :=
    ReturnsStay.append (returns_stay_of_not_mem (by decide))
      (ReturnsStay.append h.returns.stay hdeclared (by decide)) (by decide)
  refine ⟨⟨[], hnested⟩, fun front back hsplit hbefore hafter => hstay front back hsplit ?_ hafter⟩
  rw [List.getLast?_append] at hbefore
  cases hlast : front.getLast? with
  | none => rfl
  | some c => rwa [hlast] at hbefore

/-- There is no opening brace between the front of a function and its body. -/
theorem link_unbraced (form : FunctionForm) (hparams : '{' ∉ params) : '{' ∉ form.link params := by
  cases form with
  | keyword =>
      have hopens : '{' ∉ "function (".toList := by decide
      change '{' ∉ "function (".toList ++ (params ++ [')', ' '])
      rw [List.mem_append, List.mem_append, not_or, not_or]
      exact ⟨hopens, hparams, by decide⟩
  | arrow =>
      change '{' ∉ ['=', '>', ' ']
      decide

end Layout

section Walk

variable {binding : Binding} {form : FunctionForm} {name inner params : Text}

/-- What stands around the body of an inner function. -/
def Binding.IsWhole.frame (h : binding.IsWhole) (name : Text) : Frame where
  code := beforeBody name ++ ['{'] ++ binding.front
  front := beforeBody name ++ ['{'] ++ binding.masked.front
  link := binding.masked.link
  tail := binding.masked.tail ++ ['}']
  layout := by simp only [Text.byte_length_append, binding.byte_length_front]
  link_ne_nil := by
    unfold Binding.link
    cases binding.masked.form <;> exact List.cons_ne_nil _ _
  link_visible := by
    unfold Binding.link
    intro c hc
    cases hform : binding.masked.form with
    | keyword =>
        rw [hform] at hc
        obtain rfl : 'f' = c := Option.some.inj hc
        decide
    | arrow =>
        rw [hform] at hc
        obtain rfl : '=' = c := Option.some.inj hc
        decide
  link_unbraced := link_unbraced _ h.unbraced

/-- The outer function with its masked form. -/
def Binding.source (binding : Binding) (name inner : Text) : Source :=
  ⟨outerFunction name (binding.body inner),
    outerFunction name (binding.masked.body (Text.mask .all inner))⟩

/-- The offset of the brace that closes the body of the outer function. -/
def Binding.stop (binding : Binding) (name inner : Text) : Nat :=
  byteLength (beforeBody name) + 1 + byteLength (binding.masked.body (Text.mask .all inner))

/-- The outer function up to the end of the inner one. -/
def Binding.through (binding : Binding) (name inner : Text) : Text :=
  beforeBody name ++ ['{'] ++ binding.front ++
    ' ' :: (binding.link ++ '{' :: (' ' :: (inner ++ [' ']) ++ ['}']))

/-- From the link of a function on, the walk passes its body. -/
theorem leads_past_block {source : Source} {stop : Nat} {front tail : Text} (hparams : '{' ∉ params)
    (hinner : isNested inner = true)
    (hmasked : source.masked = front ++ ' ' :: (form.link params ++ '{' :: (inner ++ '}' :: tail)))
    (hboundary : Text.IsBoundary source.masked stop)
    (hlt : byteLength (front ++ ' ' :: form.link params) < stop) :
    LeadsTo source stop
      (Cursor.between (front ++ [' ']) (form.link params ++ '{' :: (inner ++ '}' :: tail))) []
      (Cursor.between (front ++ ' ' :: (form.link params ++ '{' :: (inner ++ ['}']))) tail) := by
  have hstart : byteLength (front ++ [' ']) < stop := by
    rw [Text.byte_length_append] at hlt ⊢
    simp only [byteLength] at hlt ⊢
    omega
  have hsplit : source.masked = front ++ [' '] ++ (form.link params ++ '{' :: (inner ++ '}' :: tail)) := by
    rw [hmasked, List.append_assoc]
    rfl
  have hend : front ++ ' ' :: (form.link params ++ '{' :: (inner ++ ['}'])) =
      front ++ [' '] ++ (form.link params ++ '{' :: (inner ++ ['}'])) := by
    rw [List.append_assoc]
    rfl
  rw [hend]
  cases form with
  | keyword =>
      have hkeyword : keywordAt (Cursor.between (front ++ [' '])
          (FunctionForm.keyword.link params ++ '{' :: (inner ++ '}' :: tail))) "function" = true := by
        rw [keyword_at_between, List.getLast?_concat]
        rfl
      have hlink : byteLength (front ++ [' '] ++ FunctionForm.keyword.link params) < stop := by
        rwa [List.append_assoc]
      exact leads_past_function hstart hkeyword (past_function_between hsplit
        (link_unbraced .keyword hparams) hinner hboundary hlink)
  | arrow =>
      have hlink : ∀ rest : Text, FunctionForm.arrow.link params ++ rest =
          "=>".toList ++ ([' '] ++ rest) := fun _ => rfl
      rw [hlink] at hsplit
      rw [hlink, hlink]
      have hkeyword : keywordAt (Cursor.between (front ++ [' '])
          ("=>".toList ++ ([' '] ++ '{' :: (inner ++ '}' :: tail)))) "function" = false := by
        rw [keyword_at_between]
        exact Bool.and_false _
      have hblank : ∀ c ∈ [' '], Text.isAsciiBlank c = true := by decide
      rw [← past_arrow_block hsplit hblank hinner]
      exact leads_past_arrow hstart hkeyword rfl

/-- The masked form ends with the brace that closes the body. -/
theorem Binding.source_ends (binding : Binding) (name inner : Text) :
    ∃ front, (binding.source name inner).masked = front ++ ['}'] ∧
      byteLength front = binding.stop name inner := by
  refine ⟨beforeBody name ++ '{' :: binding.masked.body (Text.mask .all inner), ?_, ?_⟩
  · change outerFunction name _ = _
    rw [outer_function_eq, List.append_assoc, List.cons_append]
  · rw [Binding.stop, Text.byte_length_append, byteLength, Nat.add_assoc]
    rfl

/-- The outer function is what goes up to the end of the inner one, and what follows. -/
theorem Binding.outer_function_eq_through (binding : Binding) (name inner : Text) :
    outerFunction name (binding.body inner) =
      binding.through name inner ++ (binding.tail ++ ['}']) := by
  rw [outer_function_eq, binding.body_eq, Binding.through]
  simp only [List.append_assoc, List.cons_append, List.nil_append]

/-- The frame of the body of an inner function surrounds it. -/
theorem Binding.IsWhole.surrounds (h : binding.IsWhole) (name : Text) (hinner : IsWholeCode inner) :
    (h.frame name).Surrounds (' ' :: (Text.mask .all inner ++ [' '])) (binding.source name inner)
      (binding.stop name inner) := by
  have hcode : (binding.source name inner).code = beforeBody name ++ ['{'] ++ binding.front ++
      ' ' :: (binding.link ++ '{' :: (' ' :: (inner ++ [' ']) ++ '}' :: (binding.tail ++ ['}']))) := by
    change outerFunction name _ = _
    rw [outer_function_eq, binding.body_eq]
    simp only [List.append_assoc, List.cons_append, List.nil_append]
  have hmasked : (binding.source name inner).masked = (h.frame name).front ++
      (h.frame name).rest (' ' :: (Text.mask .all inner ++ [' '])) := by
    change outerFunction name _ = beforeBody name ++ ['{'] ++ binding.masked.front ++
      ' ' :: (binding.masked.link ++ '{' :: (' ' :: (Text.mask .all inner ++ [' ']) ++
        '}' :: (binding.masked.tail ++ ['}'])))
    rw [outer_function_eq, binding.masked.body_eq]
    simp only [List.append_assoc, List.cons_append, List.nil_append]
  have hnested : isNested (' ' :: (Text.mask .all inner ++ [' '])) = true :=
    have hspace : isNested [' '] = true := by decide
    Text.nested_append hspace (Text.nested_append hinner.nested hspace)
  obtain ⟨front, hends, hstop⟩ := binding.source_ends name inner
  have hboundary : Text.IsBoundary (binding.source name inner).masked (binding.stop name inner) :=
    ⟨front, ['}'], hends, hstop⟩
  have hlt : byteLength ((h.frame name).front ++ ' ' :: (h.frame name).link) <
      binding.stop name inner := by
    have hlength := congrArg byteLength (hends.symm.trans hmasked)
    have hbrace : byteLength ['}'] = 1 ∧ '{'.utf8Size = 1 ∧ '}'.utf8Size = 1 := by decide
    rw [Text.byte_length_append, hbrace.1, hstop] at hlength
    simp only [Frame.rest, Text.byte_length_append, byteLength, hbrace.2.1, hbrace.2.2] at hlength ⊢
    omega
  exact ⟨⟨_, hcode⟩, hmasked, hnested, hboundary, hlt,
    leads_past_block h.unbraced hnested hmasked hboundary hlt⟩

/-- Up to the end of the inner function, the outer one ends in a brace, and its masked form has as many
bytes. -/
theorem Binding.through_ends (binding : Binding) (name inner : Text) :
    (binding.through name inner).getLast? = some '}' ∧
      byteLength (binding.through name inner) =
        byteLength (binding.masked.through name (Text.mask .all inner)) := by
  constructor
  · have hlast : binding.through name inner = beforeBody name ++ ['{'] ++ binding.front ++
        ' ' :: (binding.link ++ '{' :: (' ' :: (inner ++ [' ']))) ++ ['}'] := by
      simp only [Binding.through, List.append_assoc, List.cons_append, List.nil_append]
    rw [hlast, List.getLast?_concat]
  · simp only [Binding.through, byteLength, Text.byte_length_append, byte_length_mask,
      ← binding.byte_length_front, ← binding.byte_length_link]

/-- What follows the inner function, with its masked form. -/
def Binding.tailSource (binding : Binding) : Source :=
  ⟨binding.tail ++ ['}'], binding.masked.tail ++ ['}']⟩

/-- What the walk finds after the inner function it finds in what follows the inner function alone. -/
theorem returns_after_block (h : binding.IsWhole) (name inner : Text) (fuel : Nat) :
    returnExpressionsFrom? (binding.source name inner) (binding.stop name inner) fuel
        ((h.frame name).after (' ' :: (Text.mask .all inner ++ [' ']))) =
      returnExpressionsFrom? binding.tailSource (byteLength binding.masked.tail) fuel
        (Cursor.between [] binding.tailSource.masked) := by
  obtain ⟨-, hlayout⟩ := binding.through_ends name inner
  obtain ⟨hlast, -⟩ := binding.masked.through_ends name (Text.mask .all inner)
  have hmasked := binding.masked.outer_function_eq_through name (Text.mask .all inner)
  have hsource : binding.source name inner = binding.tailSource.behind (binding.through name inner)
      (binding.masked.through name (Text.mask .all inner)) := by
    rw [Binding.source, binding.outer_function_eq_through, hmasked]
    rfl
  have hcursor : (h.frame name).after (' ' :: (Text.mask .all inner ++ [' '])) =
      Cursor.behind (binding.masked.through name (Text.mask .all inner))
        (Cursor.between [] binding.tailSource.masked) := by
    rw [Cursor.behind_between, List.append_nil]
    rfl
  have hstop : binding.stop name inner =
      byteLength (binding.masked.through name (Text.mask .all inner)) +
        byteLength binding.masked.tail := by
    obtain ⟨front, hends, hstop⟩ := binding.source_ends name inner
    have hlength := congrArg byteLength (hends.symm.trans hmasked)
    rw [← List.append_assoc, Text.byte_length_append, hstop, Text.byte_length_append _ ['}'],
      Text.byte_length_append] at hlength
    exact Nat.add_right_cancel hlength
  rw [hsource, hstop, hcursor]
  exact returns_behind _ hlayout (by rw [hlast]; rfl) _ fuel

/-- The expressions that the outer function returns do not depend on the body of the inner one. -/
theorem exists_returned (h : binding.IsWhole) (hname : Text.IsWord name) :
    ∃ values, ∀ inner, IsWholeCode inner →
      returnExpressions? (binding.source name inner) (byteLength (beforeBody name) + 1)
        (binding.stop name inner) = some values := by
  obtain ⟨found, hfound⟩ : (h.frame name).Finds (beforeBody name ++ ['{']) binding.masked.front :=
    finds_of_passed rfl (h.is_passed name)
  have hrun : ∀ inner, IsWholeCode inner → ∃ values fuel later,
      returnExpressions? (binding.source name inner) (byteLength (beforeBody name) + 1)
        (binding.stop name inner) = some values ∧
      returnExpressionsFrom? binding.tailSource (byteLength binding.masked.tail) fuel
        (Cursor.between [] binding.tailSource.masked) = some later ∧ values = found ++ later := by
    intro inner hinner
    have hsurrounds := h.surrounds name hinner
    have hstart : byteLength (beforeBody name) + 1 = byteLength (beforeBody name ++ ['{']) := by
      rw [Text.byte_length_append]
      rfl
    have layout : Text.SameLayout (binding.source name inner).code (binding.source name inner).masked := by
      have hsame := Text.mask_same_layout .all (outerFunction name (binding.body inner))
      rwa [h.mask_outer_function hname hinner] at hsame
    have hboundary : Text.IsBoundary (binding.source name inner).code
        (byteLength (beforeBody name ++ ['{'])) := by
      refine ⟨beforeBody name ++ ['{'], binding.body inner ++ ['}'], ?_, rfl⟩
      change outerFunction name _ = _
      rw [outer_function_eq, List.append_assoc]
      rfl
    have hcloses : ClosesAt (binding.source name inner) (binding.stop name inner) := by
      obtain ⟨front, hends, hstop⟩ := binding.source_ends name inner
      exact ⟨'{', '}', by decide, front, [], hends, hstop⟩
    obtain ⟨values, hvalues⟩ := Option.isSome_iff_exists.mp
      (return_expressions_is_some layout hboundary hcloses)
    have hwalk := hvalues
    rw [returnExpressions?, hsurrounds.masked_eq rfl, Cursor.seek_between] at hwalk
    obtain ⟨fuel, later, hlater, rfl⟩ := hfound hsurrounds _ values hwalk
    rw [returns_after_block] at hlater
    refine ⟨_, fuel, later, ?_, hlater, rfl⟩
    rw [hstart]
    exact hvalues
  have hempty : IsWholeCode [] := ⟨rfl, rfl⟩
  obtain ⟨_, fuel, later, -, hlater, rfl⟩ := hrun [] hempty
  refine ⟨found ++ later, fun inner hinner => ?_⟩
  obtain ⟨_, other, last, hvalues, hlast, rfl⟩ := hrun inner hinner
  rw [hvalues, returns_unique hlast hlater]

end Walk

section Hints

variable {symbol : Symbol} {binding : Binding} {source : Source} {inner other : Text}

/-- The hint for a function whose body opens after a space is read off the body. -/
theorem body_hint_at_brace (symbol : Symbol) (source : Source) (isAsync : Bool) (front rest : Text) :
    bodyHint? symbol source isAsync (Cursor.between front (' ' :: '{' :: rest)) =
      returnsHint? symbol source isAsync (Cursor.between (front ++ [' ']) ('{' :: rest)) := by
  have hblank : ∀ c ∈ [' '], Text.isAsciiBlank c = true := by decide
  have hskip : Cursor.skipBlanks (Cursor.between front (' ' :: '{' :: rest)) =
      Cursor.between (front ++ [' ']) ('{' :: rest) :=
    Cursor.skip_while_between hblank (fun c hc => by cases hc; rfl) front
  have hnext : Cursor.next? (Cursor.between (front ++ [' ']) ('{' :: rest)) = some '{' := rfl
  have harrow : Cursor.startsWith (Cursor.between (front ++ [' ']) ('{' :: rest)) "=>" = false := rfl
  rw [bodyHint?, hskip]
  simp [hnext, harrow]

/-- The hint for a function without a written type is read off its body. -/
theorem of_outer_function {body masked : Text} (hname : IsNamedAt symbol 10)
    (hkind : symbol.kind = .function)
    (hmask : Text.mask .all (outerFunction symbol.name.toList body) =
      outerFunction symbol.name.toList masked) :
    of? symbol (outerFunction symbol.name.toList body) =
      returnsHint? symbol
        ⟨outerFunction symbol.name.toList body, outerFunction symbol.name.toList masked⟩
        (symbol.hasModifier .async)
        (Cursor.between (beforeBody symbol.name.toList) ('{' :: (masked ++ ['}']))) := by
  have hplain : '\n' ∉ "function ".toList ++ (symbol.name.toList ++ ['(']) := by
    have hword := plain_line_of_word hname.word
    simp only [List.mem_append, not_or]
    exact ⟨by decide, fun hmem => (hword _ hmem).2 rfl, by decide⟩
  have hcode : outerFunction symbol.name.toList body = "function ".toList ++
      (symbol.name.toList ++ ['(']) ++ ')' :: (' ' :: '{' :: (body ++ ['}'])) := by
    unfold outerFunction
    simp
  have hsplit : outerFunction symbol.name.toList masked = "function ".toList ++ symbol.name.toList ++
      ("()".toList ++ ' ' :: '{' :: (masked ++ ['}'])) := by
    unfold outerFunction
    simp
  obtain ⟨more, rows, hrow⟩ := Text.split_by_begins hplain (')' :: (' ' :: '{' :: (body ++ ['}'])))
  have hline : "function ".toList ++ (symbol.name.toList ++ ['(']) ++ more =
      "function ".toList ++ (symbol.name.toList ++ '(' :: more) := by simp
  rw [← hcode, hline] at hrow
  have hnamed := name_end_at_column (show IsNamedAt symbol ("function ".toList.length + 1) from hname)
    hrow rfl rfl
  have hseek := Cursor.seek_between ("function ".toList ++ symbol.name.toList)
    ("()".toList ++ ' ' :: '{' :: (masked ++ ['}']))
  rw [← hsplit, Text.byte_length_append] at hseek
  have hhint : callableHint? symbol
      ⟨outerFunction symbol.name.toList body, outerFunction symbol.name.toList masked⟩ _ = _ :=
    callable_hint_at_parameters symbol ("function ".toList ++ symbol.name.toList).getLast? hsplit
  rw [body_hint_at_brace] at hhint
  unfold beforeBody
  rw [← hhint, of?]
  simp only [hmask, hnamed, hseek, hkind, Option.bind_eq_bind, Option.bind_some]
  rfl

/-- The brace that opens the body of a function is closed at the last one. -/
theorem Binding.IsWhole.closer (h : binding.IsWhole) (name : Text) (hinner : IsWholeCode inner) :
    closerAt? (binding.source name inner) (Cursor.between (beforeBody name)
        ('{' :: (binding.masked.body (Text.mask .all inner) ++ ['}']))) =
      some (binding.stop name inner) := by
  change Text.matchingDelimiter? (outerFunction name _) (byteLength (beforeBody name)) = _
  rw [outer_function_eq]
  exact Text.matching_block _ (h.nested_body hinner) []

/-- The hint of a callable depends on the expressions that its body returns. -/
theorem returns_hint_congr {different : Source} {isAsync : Bool} {body otherBody : Cursor}
    {close otherClose : Nat} (hclose : closerAt? source body = some close)
    (hother : closerAt? different otherBody = some otherClose)
    (hsame : returnExpressions? source (body.offset + 1) close =
      returnExpressions? different (otherBody.offset + 1) otherClose) :
    returnsHint? symbol source isAsync body = returnsHint? symbol different isAsync otherBody := by
  rw [returnsHint?, returnsHint?, hclose, hother]
  dsimp only
  rw [hsame]

/-- The hint for a function does not depend on the body of a function that it binds to a constant, in
either form, whatever is returned there. -/
theorem nested_body_hidden (hname : IsNamedAt symbol 10) (hkind : symbol.kind = .function)
    (hbinding : binding.IsWhole) (hinner : IsWholeCode inner) (hother : IsWholeCode other) :
    ∃ found, of? symbol (outerFunction symbol.name.toList (binding.body inner)) = some found ∧
      of? symbol (outerFunction symbol.name.toList (binding.body other)) = some found := by
  obtain ⟨values, hvalues⟩ := exists_returned hbinding hname.word
  have hsame : of? symbol (outerFunction symbol.name.toList (binding.body inner)) =
      of? symbol (outerFunction symbol.name.toList (binding.body other)) := by
    rw [of_outer_function hname hkind (hbinding.mask_outer_function hname.word hinner),
      of_outer_function hname hkind (hbinding.mask_outer_function hname.word hother)]
    exact returns_hint_congr (hbinding.closer _ hinner) (hbinding.closer _ hother)
      ((hvalues inner hinner).trans (hvalues other hother).symm)
  obtain ⟨found, hfound⟩ := Option.isSome_iff_exists.mp
    (of_is_some symbol (outerFunction symbol.name.toList (binding.body inner)))
  exact ⟨found, hfound, hsame ▸ hfound⟩

/-- Two `return` statements of a function are seen, those of an arrow function between them are not. -/
theorem nested_returns_hidden :
    of? (onFirstLine "f" .function 10) (outerFunction "f".toList
        (Binding.body ⟨.arrow, "if (a) return 1;".toList, "b".toList, "return 'x';".toList⟩
          "if (b) \x7b return [b]; \x7d /* \x7b */ return null;".toList)) =
      some (hint (onFirstLine "f" .function 10) none (some "number | string") true
        (.fromReturns 2)) := by
  have hname : IsNamedAt (onFirstLine "f" .function 10) 10 := ⟨⟨by decide, by decide⟩, rfl, rfl⟩
  have hbinding : Binding.IsWhole
      ⟨.arrow, "if (a) return 1;".toList, "b".toList, "return 'x';".toList⟩ :=
    ⟨by decide, by decide, by decide, by decide, by decide⟩
  have hinner : IsWholeCode "return '\x7d';".toList := by decide
  have hother : IsWholeCode "if (b) \x7b return [b]; \x7d /* \x7b */ return null;".toList := by
    decide
  obtain ⟨found, hfound, hhidden⟩ := nested_body_hidden hname rfl hbinding hinner hother
  have hhint : of? (onFirstLine "f" .function 10) (outerFunction "f".toList
      (Binding.body ⟨.arrow, "if (a) return 1;".toList, "b".toList, "return 'x';".toList⟩
        "return '\x7d';".toList)) =
      some (hint (onFirstLine "f" .function 10) none (some "number | string") true
        (.fromReturns 2)) := by
    decide +kernel
  exact hhidden.trans (hfound.symm.trans hhint)

end Hints

end CodeAtlas.Hint
