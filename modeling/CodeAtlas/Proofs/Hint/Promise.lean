import CodeAtlas.Proofs.Scanner.Hint
import CodeAtlas.Proofs.Text.Angled

/-!
# The types of asynchronous callables

The type inferred for a callable joins the types of its `return` statements, and that of an
asynchronous one is made a promise unless it begins like one. Read `async_callable_promised` first: it
says when the whole type is a promise. `array_of_promises_not_wrapped` shows a type that only begins
like one.
-/

namespace CodeAtlas

namespace Text

/-- The brackets of a text are properly nested, and a closing angle bracket after it does not end an
arrow. -/
def IsWholeType (text : Text) : Prop :=
  IsBalanced text ∧ text.getLast? ≠ some '='

instance (text : Text) : Decidable (IsWholeType text) :=
  inferInstanceAs (Decidable (_ ∧ _))

/-- A promise type: the bracket that it opens is the one that its last character closes. -/
def IsPromise (text : Text) : Prop :=
  ∃ inner, text = "Promise<".toList ++ (inner ++ ['>']) ∧ IsWholeType inner

variable {text left right inner : Text} {types : List String}

/-- A promise of a type is a promise type exactly if the type is a whole one. -/
theorem is_promise_of_type_iff :
    IsPromise ("Promise<".toList ++ (inner ++ ['>'])) ↔ IsWholeType inner := by
  refine ⟨fun ⟨other, heq, h⟩ => ?_, fun h => ⟨inner, rfl, h⟩⟩
  obtain rfl := List.append_cancel_right (List.append_cancel_left heq)
  exact h

/-- Two types with a bar between them. -/
theorem IsWholeType.join (hleft : IsWholeType left) (hright : IsWholeType right) :
    IsWholeType (left ++ " | ".toList ++ right) := by
  obtain ⟨hbalanced, hlast⟩ := hleft
  obtain ⟨hbalanced', hlast'⟩ := hright
  have hbar : Brackets.ofTypes.awaitedAfter? [] (left.getLast?.or none) " | ".toList = some [] :=
    Brackets.awaited_after_flat (by decide)
  constructor
  · have hfront := Brackets.awaited_after_append.mpr ⟨_, hbalanced, hbar⟩
    refine Brackets.awaited_after_append.mpr ⟨_, hfront, ?_⟩
    rw [List.getLast?_append]
    exact (awaited_after_before (by simp) (by simp)).trans hbalanced'
  · rw [List.getLast?_append]
    cases hlast : right.getLast? with
    | none => simp
    | some c => simpa [hlast] using hlast'

/-- Whole types joined by bars are one. -/
theorem is_whole_type_intercalate (h : ∀ type ∈ types, IsWholeType type.toList) :
    IsWholeType (" | ".intercalate types).toList := by
  induction types with
  | nil => exact ⟨rfl, by simp⟩
  | cons type rest ih =>
      obtain ⟨htype, hrest⟩ := List.forall_mem_cons.mp h
      cases rest with
      | nil => simpa using htype
      | cons next rest =>
          rw [String.intercalate_cons_cons, String.toList_append, String.toList_append]
          exact htype.join (ih hrest)

/-- Only the first of two types with a bar between them decides whether they begin like a promise. -/
theorem begins_promise_of_union {rest : Text} :
    "Promise<".toList <+: left ++ " | ".toList ++ rest ↔ "Promise<".toList <+: left := by
  rw [List.append_assoc]
  refine ⟨fun h => ?_, fun h => h.trans (List.prefix_append _ _)⟩
  rcases Nat.le_total "Promise<".toList.length left.length with hle | hle
  · exact List.prefix_of_prefix_length_le h (List.prefix_append _ _) hle
  · obtain ⟨back, hback⟩ := List.prefix_of_prefix_length_le (List.prefix_append _ _) h hle
    rw [← hback, List.prefix_append_right_inj] at h
    cases back with
    | nil =>
        have hsame : "Promise<".toList = left := by rw [← hback, List.append_nil]
        exact hsame ▸ List.prefix_rfl
    | cons c back =>
        obtain rfl : c = ' ' := (List.cons_prefix_cons.mp h).1
        have hspace : ' ' ∈ "Promise<".toList := by simp [← hback]
        exact absurd hspace (by decide)

/-- A type that begins like a promise is no promise type with other types after it: the bracket that it
opens is closed before its end. -/
theorem not_is_promise_of_union (h : IsBalanced left) (hbegins : "Promise<".toList <+: left)
    (right : Text) : ¬IsPromise (left ++ " | ".toList ++ right) := by
  rintro ⟨inner, heq, hinner, -⟩
  obtain ⟨part, rfl⟩ := hbegins
  rw [List.append_assoc, List.append_assoc] at heq
  have hsplit := List.append_cancel_left heq
  -- The first type closes the bracket, so it is not open inside of it.
  have hpart : Brackets.ofTypes.awaitedAfter? ['>'] (some '<') part = some [] := by
    obtain ⟨later, hfront, hback⟩ := Brackets.awaited_after_append.mp h
    obtain rfl : ['>'] = later := Option.some.inj hfront
    exact hback
  obtain ⟨after, rfl⟩ : part <+: inner := by
    have hbegins : part <+: inner ++ ['>'] := by
      rw [← hsplit]
      exact List.prefix_append _ _
    have hlength := congrArg List.length hsplit
    have hbar : " | ".toList.length = 3 := rfl
    simp only [List.length_append, List.length_cons, List.length_nil, hbar] at hlength
    exact List.prefix_of_prefix_length_le hbegins (List.prefix_append _ _) (by omega)
  obtain ⟨later, hopen, -⟩ := Brackets.awaited_after_append.mp hinner
  have hframe := Brackets.awaited_after_frame hopen ['>']
  rw [awaited_after_before (show none ≠ some '=' by simp) (show some '<' ≠ some '=' by simp)] at hframe
  have hnil := hpart.symm.trans hframe
  simp at hnil

end Text

namespace Hint

open Text (Cursor IsWholeType IsPromise)

/-- The type of something that a text returns: of nothing, of what is not told, or of a part of the
text. -/
def IsReturned (content : Text) (type : String) : Prop :=
  type = "void" ∨ type = "unknown" ∨
    ∃ expression, expression <:+: content ∧ infer? expression = some (some type)

/-- The types of what a text returns, each of them once. -/
structure AreReturned (content : Text) (types : List String) : Prop where
  nonempty : types ≠ []
  nodup : types.Nodup
  returned : ∀ type ∈ types, IsReturned content type

/-- A return type that is inferred is the union of the types that are returned, and is then a promise
in an asynchronous callable unless it begins like one. -/
def JoinsReturns (content : Text) (isAsync : Bool) (hint : TypeHint) : Prop :=
  hint.inferred = true → ∀ type, hint.returnType = some type →
    ∃ types, AreReturned content types ∧ type = promised isAsync (" | ".intercalate types)

section Returned

variable {source : Source} {cursor : Cursor} {stop : Nat} {found : Text}

/-- What is cut out of a source is a part of it. -/
theorem cut_within {start : Nat} (h : cut? source start stop = some found) :
    found <:+: source.code := by
  obtain ⟨part, hpart, rfl⟩ := Option.map_eq_some_iff.mp h
  obtain ⟨⟨front, back, hcode, -⟩, -⟩ := Text.slice_eq_some_iff.mp hpart
  have hinside : part <:+: source.code := ⟨front, back, by rw [hcode, List.append_assoc]⟩
  exact (trim_within part).trans hinside

/-- The values of the return statements are parts of the source. -/
theorem return_expressions_from_within {fuel : Nat} {values : List Text}
    (h : returnExpressionsFrom? source stop fuel cursor = some values) :
    ∀ value ∈ values, value <:+: source.code := by
  induction fuel generalizing cursor values with
  | zero => cases h
  | succ fuel ih =>
      rw [returnExpressionsFrom?] at h
      split at h
      · obtain rfl := Option.some.inj h
        exact List.forall_mem_nil _
      split at h
      · obtain ⟨past, -, h⟩ := Option.bind_eq_some_iff.mp h
        split at h
        · exact ih h
        · obtain rfl := Option.some.inj h
          exact List.forall_mem_nil _
      split at h
      · exact ih h
      split at h
      · obtain ⟨⟨found, after⟩, hfound, h⟩ := Option.bind_eq_some_iff.mp h
        obtain ⟨later, hlater, h⟩ := Option.bind_eq_some_iff.mp h
        obtain rfl := Option.some.inj h
        obtain ⟨value, hcut, hfound⟩ := Option.bind_eq_some_iff.mp hfound
        obtain ⟨past, hpast, hfound⟩ := Option.bind_eq_some_iff.mp hfound
        obtain rfl : value = found := (Prod.mk.inj (Option.some.inj hfound)).1
        exact List.forall_mem_cons.mpr ⟨cut_within hcut, ih hlater⟩
      · exact ih h

/-- A part of a text has a type that is returned, if it is known. -/
theorem returned_type_yields {content value : Text} (h : value <:+: content) :
    Yields (fun type => ∀ known, type = some known → IsReturned content known)
      (returnedType? value) := by
  unfold returnedType?
  split
  · exact yields_some fun known hknown => Or.inl (Option.some.inj hknown).symm
  · obtain ⟨type, htype⟩ := Option.isSome_iff_exists.mp (infer_is_some value)
    refine ⟨type, htype, fun known hknown => Or.inr (Or.inr ⟨value, h, ?_⟩)⟩
    rw [htype, hknown]

/-- Of the types that are known, a union has each of them once. -/
theorem add_new_known {known seen : List String} {type : String}
    (h : seen.Nodup ∧ ∀ other ∈ seen, other ∈ known) (htype : type ∈ known) :
    (if seen.contains type then seen else seen ++ [type]).Nodup ∧
      ∀ other ∈ if seen.contains type then seen else seen ++ [type], other ∈ known := by
  obtain ⟨hnodup, hknown⟩ := h
  split
  · exact ⟨hnodup, hknown⟩
  · next hseen =>
      rw [List.contains_iff_mem] at hseen
      refine ⟨List.nodup_append.mpr ⟨hnodup, by simp, fun other hother last hlast => ?_⟩,
        List.forall_mem_append.mpr ⟨hknown, by simpa using htype⟩⟩
      rintro rfl
      exact hseen (List.mem_singleton.mp hlast ▸ hother)

/-- A union of types is made of types that are known, each of them once. -/
theorem exists_union (types : List (Option String)) :
    ∃ distinct : List String, distinct ≠ [] ∧ distinct.Nodup ∧
      (∀ type ∈ distinct, type = "unknown" ∨ some type ∈ types) ∧
      unionType types = " | ".intercalate distinct := by
  obtain ⟨hnodup, hknown⟩ := List.foldlRecOn (types.filterMap id)
    (fun seen type => if seen.contains type then seen else seen ++ [type])
    (motive := fun seen => seen.Nodup ∧ ∀ other ∈ seen, other ∈ types.filterMap id)
    ⟨List.nodup_nil, by simp⟩ fun seen h type htype => add_new_known h htype
  unfold unionType
  dsimp only
  split
  · exact ⟨["unknown"], by simp, by simp, by simp, rfl⟩
  · next distinct hne =>
      refine ⟨_, hne, hnodup, fun type htype => Or.inr ?_, rfl⟩
      simpa using hknown type htype

end Returned

section Walk

variable {symbol : Symbol} {source : Source} {cursor : Cursor} {isAsync : Bool} {found : TypeHint}

/-- A hint without an inferred return type joins nothing. -/
theorem joins_returns_of_none {content : Text} {declared : Option String} {rationale : Rationale} :
    JoinsReturns content isAsync (hint symbol declared none true rationale) :=
  fun _ _ h => nomatch h

/-- A hint whose return type is written joins nothing. -/
theorem joins_returns_of_written {content : Text} {declared returns : Option String}
    {rationale : Rationale} :
    JoinsReturns content isAsync (hint symbol declared returns false rationale) :=
  fun h => nomatch h

/-- A hint joins the types that it was made of. -/
theorem joins_returns_of_types {content : Text} {types : List String} {rationale : Rationale}
    (h : AreReturned content types) :
    JoinsReturns content isAsync
      (hint symbol none (some (promised isAsync (" | ".intercalate types))) true rationale) := by
  intro _ type htype
  exact ⟨types, h, (Option.some.inj htype).symm⟩

/-- A hint may be made of a single type. -/
theorem joins_returns_of_type {content : Text} {type : String} {rationale : Rationale}
    (h : IsReturned content type) :
    JoinsReturns content isAsync
      (hint symbol none (some (promised isAsync type)) true rationale) := by
  have hreturns : AreReturned content [type] := ⟨by simp, by simp, by simpa using h⟩
  have hunion : " | ".intercalate [type] = type := String.intercalate_singleton
  rw [← hunion]
  exact joins_returns_of_types hreturns

/-- The types of the values of return statements are joined. -/
theorem returns_hint_joins (h : returnsHint? symbol source isAsync cursor = some found) :
    JoinsReturns source.code isAsync found := by
  unfold returnsHint? at h
  split at h
  · next close hclose =>
      obtain ⟨values, hvalues, h⟩ := Option.bind_eq_some_iff.mp h
      split at h
      · obtain rfl := Option.some.inj h
        exact joins_returns_of_type (Or.inl rfl)
      · obtain ⟨types, htypes, h⟩ := Option.bind_eq_some_iff.mp h
        obtain rfl := Option.some.inj h
        obtain ⟨start, -, hvalues⟩ := Option.bind_eq_some_iff.mp hvalues
        obtain ⟨distinct, hne, hnodup, hknown, hunion⟩ := exists_union types
        obtain ⟨others, hothers, hreturned⟩ := yields_map_m fun value hvalue =>
          returned_type_yields (return_expressions_from_within hvalues value hvalue)
        obtain rfl : types = others := Option.some.inj (htypes.symm.trans hothers)
        rw [hunion]
        refine joins_returns_of_types ⟨hne, hnodup, fun type htype => ?_⟩
        rcases hknown type htype with hunknown | hknown
        · exact Or.inr (Or.inl hunknown)
        · exact hreturned _ hknown type rfl
  · obtain rfl := Option.some.inj h
    exact joins_returns_of_none

/-- The type of an arrow's expression is one that is returned. -/
theorem body_hint_joins (h : bodyHint? symbol source isAsync cursor = some found) :
    JoinsReturns source.code isAsync found := by
  unfold bodyHint? at h
  dsimp only at h
  split at h
  · obtain ⟨written, -, h⟩ := Option.bind_eq_some_iff.mp h
    obtain rfl := Option.some.inj h
    exact joins_returns_of_written
  generalize (if cursor.skipBlanks.startsWith "=>" = true then
    (cursor.skipBlanks.advanceBy 2).skipBlanks else cursor.skipBlanks) = start at h
  split at h
  · obtain ⟨body, hbody, h⟩ := Option.bind_eq_some_iff.mp h
    obtain ⟨type, htype, h⟩ := Option.bind_eq_some_iff.mp h
    obtain rfl := Option.some.inj h
    cases type with
    | none => exact joins_returns_of_type (Or.inr (Or.inl rfl))
    | some type => exact joins_returns_of_type (Or.inr (Or.inr ⟨body, cut_within hbody, htype⟩))
  split at h
  · obtain rfl := Option.some.inj h
    exact joins_returns_of_none
  · exact returns_hint_joins h

/-- The types that are returned are joined from the parameters on. -/
theorem parameters_hint_joins (h : parametersHint? symbol source isAsync cursor = some found) :
    JoinsReturns source.code isAsync found := by
  unfold parametersHint? at h
  dsimp only at h
  split at h
  · split at h
    · exact body_hint_joins h
    · obtain rfl := Option.some.inj h
      exact joins_returns_of_none
  split at h
  · exact body_hint_joins h
  · obtain rfl := Option.some.inj h
    exact joins_returns_of_none

/-- The types that an asynchronous callable returns are joined, and made a promise. -/
theorem callable_hint_joins (hasync : symbol.hasModifier .async = true)
    (h : callableHint? symbol source cursor = some found) : JoinsReturns source.code true found := by
  unfold callableHint? at h
  dsimp only at h
  split at h
  · obtain ⟨declared, -, h⟩ := Option.bind_eq_some_iff.mp h
    obtain rfl := Option.some.inj h
    exact joins_returns_of_written
  · rw [hasync, Bool.true_or] at h
    exact parameters_hint_joins h

end Walk

section Promised

variable {types : List String} {first type : String}

/-- A type is made a promise, unless it begins like one. -/
theorem promised_to_list :
    (promised true type).toList =
      if "Promise<".toList <+: type.toList then type.toList
      else "Promise<".toList ++ (type.toList ++ ['>']) := by
  rw [promised, Bool.true_and]
  by_cases hbegins : "Promise<".toList <+: type.toList
  · rw [if_pos hbegins, Text.starts_with_iff_begins.mpr hbegins, Bool.not_true, if_neg Bool.false_ne_true]
  · have hstarts : Text.startsWith type.toList "Promise<".toList = false :=
      Bool.eq_false_iff.mpr fun h => hbegins (Text.starts_with_iff_begins.mp h)
    rw [if_neg hbegins, hstarts, Bool.not_false, if_pos rfl, String.toList_append, String.toList_append,
      List.append_assoc]
    rfl

/-- Whether what is made a promise is one depends on whether it was one, or a type. -/
theorem is_promise_promised_iff :
    IsPromise (promised true type).toList ↔
      if "Promise<".toList <+: type.toList then IsPromise type.toList else IsWholeType type.toList := by
  rw [promised_to_list]
  split
  · exact Iff.rfl
  · exact Text.is_promise_of_type_iff

/-- A union of whole types is made a promise, unless the first one begins like a promise. Then that must
be a promise, and no other type may come after it. -/
theorem is_promise_union_iff (hwhole : ∀ type ∈ first :: types, IsWholeType type.toList) :
    IsPromise (promised true (" | ".intercalate (first :: types))).toList ↔
      ("Promise<".toList <+: first.toList → types = [] ∧ IsPromise first.toList) := by
  have hunion := Text.is_whole_type_intercalate hwhole
  rw [is_promise_promised_iff]
  cases types with
  | nil =>
      rw [String.intercalate_singleton] at hunion ⊢
      by_cases hbegins : "Promise<".toList <+: first.toList
      · rw [if_pos hbegins]
        exact ⟨fun hpromise _ => ⟨rfl, hpromise⟩, fun h => (h hbegins).2⟩
      · rw [if_neg hbegins]
        exact ⟨fun _ h => absurd h hbegins, fun _ => hunion⟩
  | cons next rest =>
      have hfirst : IsWholeType first.toList := hwhole first List.mem_cons_self
      rw [String.intercalate_cons_cons, String.toList_append, String.toList_append] at hunion ⊢
      by_cases hbegins : "Promise<".toList <+: first.toList
      · rw [if_pos (Text.begins_promise_of_union.mpr hbegins)]
        exact ⟨fun h => absurd h (Text.not_is_promise_of_union hfirst.1 hbegins _),
          fun h => nomatch (h hbegins).1⟩
      · rw [if_neg (mt Text.begins_promise_of_union.mp hbegins)]
        exact ⟨fun _ h => absurd h hbegins, fun _ => hunion⟩

end Promised

/-- The inferred return type of an asynchronous function or method is the union of the types that it
returns, made a promise unless the union begins like one. If these are whole types, the result is a
promise, except where the first of them begins like a promise and is none, or is not the only one. -/
theorem async_callable_promised {symbol : Symbol} {content : Text} {found : TypeHint}
    {returned : String} (hkind : symbol.kind = .function ∨ symbol.kind = .method)
    (hasync : symbol.hasModifier .async = true) (hhint : of? symbol content = some found)
    (hinferred : found.inferred = true) (hreturned : found.returnType = some returned) :
    ∃ first types, AreReturned content (first :: types) ∧
      returned = promised true (" | ".intercalate (first :: types)) ∧
      (IsPromise returned.toList ↔
        if "Promise<".toList <+: (" | ".intercalate (first :: types)).toList then
          IsPromise (" | ".intercalate (first :: types)).toList
        else IsWholeType (" | ".intercalate (first :: types)).toList) ∧
      ((∀ type ∈ first :: types, IsWholeType type.toList) →
        (IsPromise returned.toList ↔
          ("Promise<".toList <+: first.toList → types = [] ∧ IsPromise first.toList))) := by
  have hjoins : JoinsReturns content true found := by
    unfold of? at hhint
    dsimp only at hhint
    split at hhint
    · next offset hoffset =>
        obtain ⟨after, -, hhint⟩ := Option.bind_eq_some_iff.mp hhint
        rcases hkind with hkind | hkind
        · rw [hkind] at hhint
          exact callable_hint_joins hasync hhint
        · rw [hkind] at hhint
          exact callable_hint_joins hasync hhint
    · obtain rfl := Option.some.inj hhint
      exact joins_returns_of_none
  obtain ⟨types, hreturns, rfl⟩ := hjoins hinferred returned hreturned
  obtain ⟨first, types, rfl⟩ := List.exists_cons_of_ne_nil hreturns.nonempty
  exact ⟨first, types, hreturns, rfl, is_promise_promised_iff, is_promise_union_iff⟩

/-- An asynchronous function `f` at the start of the file `a.ts`. -/
def asyncFunction : Symbol where
  name := "f"
  kind := .function
  location := ⟨⟨"a.ts"⟩, 1, 1, some 16⟩
  modifiers := [.async]

/-- A function that returns two types is given a promise of their union. -/
theorem async_union_promised :
    IsPromise "Promise<number | string>".toList ∧
    ∃ first types,
      AreReturned "async function f(a) \x7b if (a) return 1; return 'b'; \x7d".toList (first :: types) ∧
      "Promise<number | string>" = promised true (" | ".intercalate (first :: types)) := by
  have hhint : of? asyncFunction "async function f(a) \x7b if (a) return 1; return 'b'; \x7d".toList =
      some (hint asyncFunction none (some "Promise<number | string>") true (.fromReturns 2)) := by
    decide +kernel
  obtain ⟨first, types, hreturned, hunion, -⟩ :=
    async_callable_promised (Or.inl rfl) rfl hhint rfl rfl
  exact ⟨⟨"number | string".toList, rfl, by decide⟩, first, types, hreturned, hunion⟩

/-- An array of promises begins like a promise, and so does a union after one, but neither of them is a
promise. -/
theorem array_of_promises_not_wrapped :
    (of? asyncFunction "async function f(a) \x7b return [a as Promise<number>]; \x7d\n".toList =
        some (hint asyncFunction none (some "Promise<number>[]") true (.fromReturns 1)) ∧
      ¬IsPromise "Promise<number>[]".toList) ∧
    of? asyncFunction
        "async function f(a) \x7b if (a) return a as Promise<number>; return 1; \x7d\n".toList =
      some (hint asyncFunction none (some "Promise<number> | number") true (.fromReturns 2)) ∧
    ¬IsPromise "Promise<number> | number".toList := by
  have hlast : ∀ text, IsPromise text → text.getLast? = some '>' := by
    rintro text ⟨inner, rfl, -⟩
    rw [← List.append_assoc, List.getLast?_concat]
  refine ⟨⟨by decide +kernel, fun h => ?_⟩, by decide +kernel, fun h => ?_⟩
  · exact absurd (hlast _ h) (by decide)
  · exact absurd (hlast _ h) (by decide)

end Hint

end CodeAtlas
