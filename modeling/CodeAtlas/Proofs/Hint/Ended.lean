import CodeAtlas.Hint.Source
import CodeAtlas.Proofs.Text.Bracket

/-!
# Where the expression of a `return` statement ends

The walk over an expression stops at a semicolon or at a closing bracket of its surroundings, and at some
line ends. `endsWithin` says of a text that the walk finds such a place in it; then it stops there
whatever follows the text (`expression_end_within`). So it is with a semicolon at the bracket level of the
expression (`ReturnsEnd.stay`) and in parentheses that are closed (`returns_stay_in_parentheses`).
-/

namespace CodeAtlas.Hint

open Text (byteLength isNested isNestedFrom)

section Ends

variable {stops : List Char} {before other : Option Char} {seen text : Text} {depth : Nat}

/-- Whether the expression that starts so many brackets deep in a text ends in it: at a semicolon or a
closing bracket, outside of what it has opened. -/
def endsWithin : (depth : Nat) → Text → Bool
  | _, [] => false
  | depth, c :: rest =>
    if c = '(' || c = '[' || c = '{' then endsWithin (depth + 1) rest
    else if c = ')' || c = ']' || c = '}' then depth = 0 || endsWithin (depth - 1) rest
    else (c = ';' && depth = 0) || endsWithin depth rest

/-- An expression ends as many bytes further on as it starts. -/
theorem expression_end_further (hstops : stops.contains '=' = false) (before other : Option Char)
    (base offset depth : Nat) (seen text : Text) :
    expressionEndFrom stops before (base + offset) depth seen text =
      base + expressionEndFrom stops other offset depth seen text := by
  induction text generalizing offset depth seen with
  | nil => rfl
  | cons c rest ih =>
      simp only [expressionEndFrom, hstops, Bool.false_and, Bool.false_eq_true, if_false,
        Nat.add_assoc, ih]
      split
      · rfl
      · split <;> split
        · rfl
        · rfl
        · rfl
        · split
          · rfl
          · split
            · split <;> rfl
            · split <;> rfl

/-- Where an expression ends in a text, there is a visible character. -/
theorem exists_visible_of_ends_within (h : endsWithin depth text = true) :
    ∃ c ∈ text, Text.isWhiteSpace c = false := by
  induction text generalizing depth with
  | nil => cases h
  | cons c rest ih =>
      by_cases hc : Text.isWhiteSpace c = true
      · have hne : ∀ d, Text.isWhiteSpace d = false → c ≠ d := by
          rintro d hd rfl
          rw [hc] at hd
          cases hd
        have hrest : endsWithin depth rest = true := by
          simpa [endsWithin, hne '(' (by decide), hne '[' (by decide), hne '{' (by decide),
            hne ')' (by decide), hne ']' (by decide), hne '}' (by decide), hne ';' (by decide)] using h
        obtain ⟨d, hd, hvisible⟩ := ih hrest
        exact ⟨d, List.mem_cons_of_mem c hd, hvisible⟩
      · exact ⟨c, List.mem_cons_self, by simpa using hc⟩

/-- Whether an expression goes on after a line end is told by the next visible character. -/
theorem line_continues_append {c : Char} (h : ∃ d ∈ text, Text.isWhiteSpace d = false) (rest : Text) :
    lineContinues seen (c :: (text ++ rest)) = lineContinues seen (c :: text) := by
  have hhead : (Text.trimStart (c :: (text ++ rest))).head? = (Text.trimStart (c :: text)).head? := by
    obtain ⟨d, hd, hvisible⟩ := h
    have hne : ((c :: text).dropWhile Text.isWhiteSpace).isEmpty = false := by
      rw [Bool.eq_false_iff]
      intro hnil
      have hall := List.dropWhile_eq_nil_iff.mp (List.isEmpty_iff.mp hnil)
      rw [hall d (List.mem_cons_of_mem c hd)] at hvisible
      cases hvisible
    rw [Text.trimStart, Text.trimStart, ← List.cons_append, List.dropWhile_append, hne]
    simp only [Bool.false_eq_true, if_false]
    obtain ⟨e, tail, htail⟩ := List.exists_cons_of_ne_nil (List.isEmpty_eq_false_iff.mp hne)
    rw [htail]
    rfl
  rw [lineContinues, lineContinues, hhead]

/-- At the bracket level of the expression the walk ends at a line feed over which the line does not go on,
and it goes over each other character. -/
theorem expression_end_from_level {c : Char} (before : Option Char) (offset : Nat) (seen rest : Text)
    (hopens : ¬(c = '(' || c = '[' || c = '{') = true) (hcloses : ¬(c = ')' || c = ']' || c = '}') = true)
    (hsemicolon : c ≠ ';') (h : endsWithin 0 text = true) :
    expressionEndFrom [';'] before offset 0 seen (c :: (text ++ rest)) =
      if c = '\n' ∧ lineContinues seen (c :: text) = false then offset
      else expressionEndFrom [';'] before (offset + c.utf8Size) 0 (c :: seen) (text ++ rest) := by
  rw [expressionEndFrom, if_neg hopens, if_neg hcloses,
    line_continues_append (exists_visible_of_ends_within h)]
  by_cases hequals : c = '='
  · subst hequals
    simp
  · by_cases hfeed : c = '\n'
    · cases lineContinues seen (c :: text) <;> simp [hfeed]
    · simp [hequals, hfeed, hsemicolon]

/-- An expression that ends in a text ends there whatever follows the text. -/
theorem expression_end_within (h : endsWithin depth text = true) (seen : Text) :
    ∃ front back, text = front ++ back ∧ back ≠ [] ∧ ∀ before offset rest,
      expressionEndFrom [';'] before offset depth seen (text ++ rest) =
        offset + byteLength front := by
  induction text generalizing depth seen with
  | nil => cases h
  | cons c text ih =>
      -- Either the walk ends before the character, or it ends after it as it does in what follows.
      have hhere : (∀ before offset rest,
          expressionEndFrom [';'] before offset depth seen (c :: (text ++ rest)) = offset) →
          ∃ front back, c :: text = front ++ back ∧ back ≠ [] ∧ ∀ before offset rest,
            expressionEndFrom [';'] before offset depth seen (c :: text ++ rest) =
              offset + byteLength front :=
        fun hend => ⟨[], c :: text, rfl, List.cons_ne_nil _ _, hend⟩
      have hgo : ∀ {later}, endsWithin later text = true → (∀ before offset rest,
          expressionEndFrom [';'] before offset depth seen (c :: (text ++ rest)) =
            expressionEndFrom [';'] before (offset + c.utf8Size) later (c :: seen) (text ++ rest)) →
          ∃ front back, c :: text = front ++ back ∧ back ≠ [] ∧ ∀ before offset rest,
            expressionEndFrom [';'] before offset depth seen (c :: text ++ rest) =
              offset + byteLength front := by
        intro later hlater hstep
        obtain ⟨front, back, rfl, hback, hend⟩ := ih hlater (c :: seen)
        refine ⟨c :: front, back, rfl, hback, fun before offset rest => ?_⟩
        rw [List.cons_append, hstep, hend, byteLength, Nat.add_assoc]
      rw [endsWithin] at h
      by_cases hopens : (c = '(' || c = '[' || c = '{') = true
      · rw [if_pos hopens] at h
        exact hgo h fun before offset rest => by rw [expressionEndFrom, if_pos hopens]
      rw [if_neg hopens] at h
      by_cases hcloses : (c = ')' || c = ']' || c = '}') = true
      · rw [if_pos hcloses] at h
        by_cases hdepth : depth = 0
        · exact hhere fun before offset rest => by
            rw [expressionEndFrom, if_neg hopens, if_pos hcloses, if_pos hdepth]
        · rw [decide_eq_false hdepth, Bool.false_or] at h
          exact hgo h fun before offset rest => by
            rw [expressionEndFrom, if_neg hopens, if_pos hcloses, if_neg hdepth]
      rw [if_neg hcloses] at h
      by_cases hdepth : depth = 0
      · subst hdepth
        by_cases hsemicolon : c = ';'
        · exact hhere fun before offset rest => by
            subst hsemicolon
            rfl
        · rw [decide_eq_false hsemicolon, Bool.false_and, Bool.false_or] at h
          have hstep := fun before offset rest =>
            expression_end_from_level before offset seen rest hopens hcloses hsemicolon h
          by_cases hline : c = '\n' ∧ lineContinues seen (c :: text) = false
          · exact hhere fun before offset rest => by rw [hstep, if_pos hline]
          · exact hgo h fun before offset rest => by rw [hstep, if_neg hline]
      · rw [decide_eq_false hdepth, Bool.and_false, Bool.false_or] at h
        exact hgo h fun before offset rest => by
          rw [expressionEndFrom, if_neg hopens, if_neg hcloses, if_pos hdepth]

end Ends

section Ended

variable {text front rest value after part : Text} {depth : Nat}

/-- How many more brackets are opened in a text than closed. -/
def bracketLevel (text : Text) : Int :=
  text.countP (fun c => (Text.awaited? c).isSome) - text.countP Text.isCloser

/-- An expression is ended by a semicolon at its own bracket level. -/
def IsEnded (expression : Text) : Prop :=
  ∃ value rest, expression = value ++ ';' :: rest ∧ bracketLevel value = 0

/-- Every `return` statement is ended by a semicolon at its own bracket level. -/
def ReturnsEnd (text : Text) : Prop :=
  ∀ before after, text = before ++ ("return".toList ++ after) →
    before.getLast?.any isWordPart = false → after.head?.any isWordPart = false → IsEnded after

instance (expression : Text) : Decidable (IsEnded expression) :=
  decidable_of_iff (∃ i : Fin expression.length,
    expression.get i = ';' ∧ bracketLevel (expression.take i) = 0) (by
      constructor
      · rintro ⟨i, hsemicolon, hlevel⟩
        refine ⟨expression.take i, expression.drop (i + 1), ?_, hlevel⟩
        rw [← hsemicolon]
        simp
      · rintro ⟨value, rest, rfl, hlevel⟩
        have hlength : value.length < (value ++ ';' :: rest).length := by simp
        exact ⟨⟨value.length, hlength⟩, by simp, by simpa using hlevel⟩)

instance (text : Text) : Decidable (ReturnsEnd text) :=
  decidable_of_iff (∀ i : Fin (text.length + 1), "return".toList <+: text.drop i →
    (text.take i).getLast?.any isWordPart = false →
    (text.drop (i + 6)).head?.any isWordPart = false → IsEnded (text.drop (i + 6))) (by
      constructor
      · rintro h before after rfl hbefore hafter
        have hlength : before.length < (before ++ ("return".toList ++ after)).length + 1 := by
          simp only [List.length_append]
          omega
        have hdrop : (before ++ ("return".toList ++ after)).drop (before.length + 6) = after := by
          rw [← List.drop_drop, List.drop_left]
          rfl
        have hhere := h ⟨before.length, hlength⟩
        dsimp only at hhere
        rw [List.drop_left, List.take_left, hdrop] at hhere
        exact hhere (List.prefix_append _ _) hbefore hafter
      · rintro h i ⟨after, hafter⟩ hbefore hword
        have hdrop : text.drop (i + 6) = after := by
          rw [← List.drop_drop, ← hafter]
          rfl
        rw [hdrop] at hword ⊢
        exact h (text.take i) after (by rw [hafter, List.take_append_drop]) hbefore hword)

/-- The expression of every `return` statement ends in the text. -/
def ReturnsStay (text : Text) : Prop :=
  ∀ before after, text = before ++ ("return".toList ++ after) →
    before.getLast?.any isWordPart = false → after.head?.any isWordPart = false →
    endsWithin 0 after = true

/-- What is read of an expression by the brackets of its next character. -/
theorem ends_within_cons (depth : Nat) (c : Char) (rest : Text) :
    endsWithin depth (c :: rest) =
      if (Text.awaited? c).isSome then endsWithin (depth + 1) rest
      else if Text.isCloser c then depth = 0 || endsWithin (depth - 1) rest
      else (c = ';' && depth = 0) || endsWithin depth rest := by
  rw [endsWithin, Text.opens_iff]
  rfl

/-- One more character changes the level by its bracket. -/
theorem bracket_level_cons (c : Char) (text : Text) :
    bracketLevel (c :: text) = bracketLevel text + (if (Text.awaited? c).isSome then 1 else 0) -
      (if Text.isCloser c then 1 else 0) := by
  rw [bracketLevel, bracketLevel, List.countP_cons, List.countP_cons]
  split <;> split <;> omega

/-- An expression ends before a semicolon at its own level. -/
theorem ends_within_of_level (h : depth + bracketLevel value = 0) (rest : Text) :
    endsWithin depth (value ++ ';' :: rest) = true := by
  induction value generalizing depth with
  | nil =>
      obtain rfl : depth = 0 := by simpa [bracketLevel] using h
      rfl
  | cons c value ih =>
      rw [bracket_level_cons] at h
      rw [List.cons_append, ends_within_cons]
      by_cases hopen : (Text.awaited? c).isSome = true
      · have hclose : ¬Text.isCloser c = true := by
          intro hclose
          rw [Text.awaited_of_closer hclose] at hopen
          cases hopen
        rw [if_pos hopen, if_neg hclose] at h
        rw [if_pos hopen]
        exact ih (by omega)
      rw [if_neg hopen] at h ⊢
      by_cases hclose : Text.isCloser c = true
      · rw [if_pos hclose] at h ⊢
        by_cases hdepth : depth = 0
        · rw [decide_eq_true hdepth, Bool.true_or]
        · rw [ih (by omega), Bool.or_true]
      · rw [if_neg hclose] at h ⊢
        rw [ih (by omega), Bool.or_true]

/-- An expression ends before a parenthesis that closes its surroundings. -/
theorem ends_within_of_nested {within outer : List Char}
    (h : isNestedFrom (within ++ outer) value = true) (rest : Text) :
    endsWithin within.length (value ++ ')' :: rest) = true := by
  induction value generalizing within with
  | nil =>
      obtain rfl : within = [] := (List.append_eq_nil_iff.mp (Text.nested_from_nil.mp h)).1
      rfl
  | cons c value ih =>
      obtain ⟨later, hsteps, hlater⟩ := Text.exists_steps h
      rw [List.cons_append, ends_within_cons]
      cases hsteps with
      | @opens closer hopen =>
          have hinside : isNestedFrom ((closer :: within) ++ outer) value = true := hlater
          replace hopen : Text.awaited? c = some closer := hopen
          rw [hopen, if_pos Option.isSome_some]
          exact ih hinside
      | closes hclose hawaited =>
          replace hclose : Text.isCloser c = true := hclose
          rw [Text.awaited_of_closer hclose, if_neg (by decide), if_pos hclose]
          cases within with
          | nil => rfl
          | cons d within =>
              obtain ⟨-, rfl⟩ := List.cons.inj hawaited
              exact Bool.or_eq_true_iff.mpr (Or.inr (ih hlater))
      | other hopen hclose =>
          replace hopen : Text.awaited? c = none := hopen
          replace hclose : Text.isCloser c = false := hclose
          rw [hopen, if_neg (by decide), if_neg (by simp [hclose]), ih hlater, Bool.or_true]

/-- An expression that ends in a text ends in it whatever follows. -/
theorem ends_within_append (h : endsWithin depth text = true) (rest : Text) :
    endsWithin depth (text ++ rest) = true := by
  induction text generalizing depth with
  | nil => cases h
  | cons c text ih =>
      rw [List.cons_append]
      rw [ends_within_cons] at h ⊢
      split at h
      · next hopen => rw [if_pos hopen, ih h]
      · next hopen =>
          rw [if_neg hopen]
          split at h
          · next hclose =>
              rw [if_pos hclose]
              rcases Bool.or_eq_true_iff.mp h with hdepth | hlater
              · rw [hdepth, Bool.true_or]
              · rw [ih hlater, Bool.or_true]
          · next hclose =>
              rw [if_neg hclose]
              rcases Bool.or_eq_true_iff.mp h with hend | hlater
              · rw [hend, Bool.true_or]
              · rw [ih hlater, Bool.or_true]

/-- Where every `return` statement is ended by a semicolon, its expression stays. -/
theorem ReturnsEnd.stay (h : ReturnsEnd text) : ReturnsStay text := by
  intro before after hsplit hbefore hafter
  obtain ⟨value, rest, rfl, hlevel⟩ := h before after hsplit hbefore hafter
  exact ends_within_of_level (by rw [hlevel]; rfl) rest

/-- Without the first letter of the keyword there is no `return` statement. -/
theorem returns_stay_of_not_mem (h : 'r' ∉ text) : ReturnsStay text := by
  rintro before after rfl
  exact absurd (by simp) h

/-- The expression of a `return` statement in parentheses ends before they are closed. -/
theorem returns_stay_in_parentheses (h : isNested text = true) : ReturnsStay (text ++ [')']) := by
  intro before after hsplit _ _
  have hends : ∀ {inside}, text = before ++ ("return".toList ++ inside) →
      endsWithin 0 (inside ++ [')']) = true := by
    intro inside hinside
    rw [hinside, ← List.append_assoc] at h
    obtain ⟨awaited, hawaited⟩ := Text.exists_awaited _ h
    exact ends_within_of_nested (show isNestedFrom ([] ++ awaited) inside = true from hawaited) []
  rcases List.append_eq_append_iff.mp hsplit with ⟨middle, rfl, hmiddle⟩ | ⟨middle, hmiddle, hafter⟩
  · have hlength := congrArg List.length hmiddle
    simp only [String.reduceToList, List.length_append, List.length_cons, List.length_nil] at hlength
    omega
  · rcases List.append_eq_append_iff.mp hafter with ⟨inside, rfl, rfl⟩ | ⟨inside, hword, hlast⟩
    · exact hends hmiddle
    · cases inside with
      | nil =>
          rw [List.append_nil] at hword
          obtain rfl : after = [')'] := hlast.symm
          exact hends (by rw [hmiddle, hword, List.append_nil])
      | cons c inside =>
          obtain ⟨rfl, -⟩ := List.cons.inj hlast
          have hmem : ')' ∈ "return".toList := by rw [hword]; simp
          exact absurd hmem (by decide)

/-- A `return` statement is on one side of a character that can be in no word. -/
theorem ReturnsStay.append {c : Char} (hfront : ReturnsStay front) (hrest : ReturnsStay rest)
    (hc : isWordPart c = false) : ReturnsStay (front ++ c :: rest) := by
  have hword : ∀ d ∈ "return".toList, isWordPart d = true := by decide
  have hmem : c ∉ "return".toList := fun hmem => by
    rw [hword c hmem] at hc
    cases hc
  intro before after hsplit hbefore hafter
  rcases List.append_eq_append_iff.mp hsplit with ⟨middle, rfl, hmiddle⟩ | ⟨middle, rfl, hmiddle⟩
  · cases middle with
    | nil =>
        obtain ⟨rfl, -⟩ := List.cons.inj hmiddle
        exact absurd (by decide) hmem
    | cons d middle =>
        obtain ⟨rfl, rfl⟩ := List.cons.inj hmiddle
        refine hrest middle after rfl ?_ hafter
        rw [List.getLast?_append, List.getLast?_cons] at hbefore
        cases hlast : middle.getLast? with
        | none => rfl
        | some e => rw [hlast] at hbefore; exact hbefore
  · rcases List.append_eq_append_iff.mp hmiddle with ⟨inside, rfl, rfl⟩ | ⟨inside, hinside, hcons⟩
    · refine ends_within_append (hfront before inside rfl hbefore ?_) _
      cases inside with
      | nil => rfl
      | cons d inside => exact hafter
    · cases inside with
      | nil =>
          obtain rfl : after = c :: rest := hcons.symm
          rw [List.append_nil] at hinside
          have hstay := hfront before [] (by rw [← hinside, List.append_nil]) hbefore rfl
          cases hstay
      | cons d inside =>
          obtain ⟨rfl, -⟩ := List.cons.inj hcons
          exact absurd (by rw [hinside]; simp) hmem

end Ended

end CodeAtlas.Hint
