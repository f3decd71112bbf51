import CodeAtlas.Proofs.Text.Bracket
import CodeAtlas.Proofs.Text.Literal
import CodeAtlas.Proofs.Text.Trim

/-!
# The brackets of types

In a type, angle brackets are brackets too, but for the one of an arrow (`Brackets.ofTypes`). Every scanner
of types counts some of the brackets and not the others, so its depth is the number of awaited closers of
certain kinds: `Brackets.Steps` says what one character does to the closers, and a scanner is held to it
character by character. Cutting counts all of them, and does not cut inside a bracket
(`splits_over_nested`).
-/

namespace CodeAtlas.Text

/-- The bracket that closes one of a type. -/
def typeCloser? (c : Char) : Option Char :=
  if c = '<' then some '>' else awaited? c

/-- Whether a character closes a bracket of a type, given the character before it. The angle bracket of
an arrow closes nothing. -/
def closesType (before : Option Char) (c : Char) : Bool :=
  isCloser c || (c = '>' && before != some '=')

section Table

variable {before other : Option Char} {c closer opener : Char}

/-- The brackets of types are those that are paired. -/
theorem type_closer_iff : typeCloser? c = some closer ↔ (c, closer) ∈ bracketPairs := by
  constructor
  · intro h
    unfold typeCloser? at h
    split at h
    · next hangle =>
        obtain rfl := Option.some.inj h
        exact hangle ▸ (by decide)
    · exact pair_of_awaited h
  · have hall : ∀ pair ∈ bracketPairs, typeCloser? pair.1 = some pair.2 := by decide
    exact hall (c, closer)

/-- The characters that close a bracket. -/
theorem closes_type_cases (h : closesType before c = true) :
    c = ')' ∨ c = ']' ∨ c = '}' ∨ (c = '>' ∧ before ≠ some '=') := by
  simpa only [closesType, isCloser, Bool.or_eq_true, Bool.and_eq_true, decide_eq_true_eq,
    bne_iff_ne, or_assoc] using h

/-- A character that closes a bracket is the second one of a pair. -/
theorem closes_type_mem (h : closesType before c = true) : c ∈ bracketPairs.map (·.2) := by
  rcases closes_type_cases h with rfl | rfl | rfl | ⟨rfl, -⟩ <;> decide

/-- A character that is second in a pair closes a bracket, unless it ends an arrow. -/
theorem closes_type_of_pair (h : typeCloser? opener = some closer)
    (harrow : closer = '>' → before ≠ some '=') : closesType before closer = true := by
  have hall : ∀ pair ∈ bracketPairs, isCloser pair.2 = true ∨ pair.2 = '>' := by decide
  rw [closesType, Bool.or_eq_true, Bool.and_eq_true, decide_eq_true_eq, bne_iff_ne]
  exact (hall _ (type_closer_iff.mp h)).imp_right fun hangle => ⟨hangle, harrow hangle⟩

/-- A character that neither opens nor closes a bracket is none, unless it is the end of an arrow. -/
theorem no_bracket_of_other (hopen : typeCloser? c = none) (hclose : closesType before c = false) :
    c ∉ "([{<)]}".toList := by
  have hopeners : ∀ d ∈ "([\x7b<".toList, typeCloser? d ≠ none := by decide
  have hclosers : ∀ d ∈ ")]\x7d".toList, isCloser d = true := by decide
  intro hmem
  rcases List.mem_append.mp (show c ∈ "([\x7b<".toList ++ ")]\x7d".toList from hmem) with hmem | hmem
  · exact hopeners c hmem hopen
  · rw [closesType, hclosers c hmem, Bool.true_or] at hclose
    cases hclose

/-- An angle bracket that closes nothing ends an arrow. -/
theorem arrow_of_other (h : closesType before '>' = false) : before = some '=' := by
  simpa [closesType, show isCloser '>' = false from rfl] using h

/-- Of the character before a bracket only matters whether it is an equals sign. -/
theorem closes_type_congr (hbefore : before ≠ some '=') (hother : other ≠ some '=') :
    closesType before c = closesType other c := by
  rw [closesType, closesType, bne_iff_ne.mpr hbefore, bne_iff_ne.mpr hother]

end Table

/-- The brackets of types. -/
def Brackets.ofTypes : Brackets where
  closer? := typeCloser?
  closes := closesType
  pairs := type_closer_iff.mp
  closing := closes_type_mem

/-- The brackets of a type are properly nested. -/
def IsBalanced (text : Text) : Prop :=
  Brackets.ofTypes.awaitedAfter? [] none text = some []

instance (text : Text) : Decidable (IsBalanced text) :=
  inferInstanceAs (Decidable (_ = _))

variable {awaited later : List Char} {before other : Option Char} {c closer : Char} {text : Text}

/-- Of the character before a text only matters whether it is an equals sign. -/
theorem awaited_after_before (hbefore : before ≠ some '=') (hother : other ≠ some '=') :
    Brackets.ofTypes.awaitedAfter? awaited before text =
      Brackets.ofTypes.awaitedAfter? awaited other text :=
  Brackets.awaited_after_congr fun _ => closes_type_congr hbefore hother

section Arrows

/-- The number of arrows in a text. -/
def arrowCount : (before : Option Char) → Text → Nat
  | _, [] => 0
  | before, c :: rest =>
    (if c = '>' ∧ before = some '=' then 1 else 0) + arrowCount (some c) rest

/-- What is counted is an arrow, or the end of one that started before the text. -/
theorem arrow_count_eq_zero_iff :
    arrowCount before text = 0 ↔
      ¬(before = some '=' ∧ text.head? = some '>') ∧ ¬['=', '>'] <:+: text := by
  induction text generalizing before with
  | nil => simp [arrowCount]
  | cons c rest ih =>
      have hprefix : ['=', '>'] <+: c :: rest ↔ some c = some '=' ∧ rest.head? = some '>' := by
        cases rest <;> simp [eq_comm]
      rw [arrowCount, Nat.add_eq_zero_iff, ih, List.infix_cons_iff, hprefix, not_or]
      simp [and_comm]

/-- Each angle bracket of a text that holds no arrow closes one. -/
theorem closes_each_angle (h : arrowCount before text = 0) :
    Brackets.ofTypes.ClosesEach '>' before text := by
  obtain ⟨hstart, hinfix⟩ := arrow_count_eq_zero_iff.mp h
  rintro front back rfl
  have hbefore : front.getLast?.or before ≠ some '=' := by
    cases hlast : front.getLast? with
    | none =>
        obtain rfl := List.getLast?_eq_none_iff.mp hlast
        exact fun hequals => hstart ⟨hequals, rfl⟩
    | some d =>
        intro hequals
        obtain rfl : d = '=' := Option.some.inj hequals
        obtain ⟨left, rfl⟩ := List.getLast?_eq_some_iff.mp hlast
        exact hinfix ⟨left, back, by simp⟩
  exact closes_type_of_pair (show typeCloser? '<' = some '>' from rfl) fun _ => hbefore

/-- The closers other than angle brackets always close one. -/
theorem closes_each_of_closer (h : isCloser closer = true) (before : Option Char) (text : Text) :
    Brackets.ofTypes.ClosesEach closer before text := by
  intro front back _
  exact Bool.or_eq_true_iff.mpr (Or.inl h)

end Arrows

section Split

variable {separator : Char} {depth middle stop : Int} {last : Option Char} {part : Text}

/-- Cutting a text goes on over a part without cutting it, and reaches another depth after it. -/
def SplitsOver (separator : Char) (before : Option Char) (depth : Int) (part : Text)
    (stop : Int) : Prop :=
  ∀ rest piece pieces,
    splitTopLevelFrom separator (part.getLast?.or before) stop rest = piece :: pieces →
      splitTopLevelFrom separator before depth (part ++ rest) = (part ++ piece) :: pieces

/-- A character other than the separator is not cut, nor is one in brackets. -/
theorem splits_over_char (h : depth ≤ 0 → c ≠ separator) :
    SplitsOver separator before depth [c] (depth + depthChange before c) := by
  intro rest piece pieces hrest
  have hcut : (!isBracket before c && c = separator && depth ≤ 0) = false := by
    by_cases hdepth : depth ≤ 0
    · simp [h hdepth]
    · simp [hdepth]
  have hlast : [c].getLast?.or before = some c := rfl
  rw [hlast] at hrest
  rw [List.singleton_append, splitTopLevelFrom, if_neg (by simp [hcut]), hrest]
  rfl

/-- Two parts that are not cut are not cut one after the other. -/
theorem SplitsOver.append (hfront : SplitsOver separator before depth front middle)
    (hback : SplitsOver separator (front.getLast?.or before) middle back stop) :
    SplitsOver separator before depth (front ++ back) stop := by
  intro rest piece pieces hrest
  rw [last_append] at hrest
  rw [List.append_assoc, List.append_assoc]
  exact hfront _ _ _ (hback rest piece pieces hrest)

/-- A part without brackets and separators is not cut. -/
theorem splits_over_flat (hflat : ∀ c ∈ part, IsFlat c) (h : separator ∉ part) :
    SplitsOver separator before depth part depth := by
  induction part generalizing before with
  | nil => exact fun rest piece pieces hrest => hrest
  | cons c part ih =>
      rw [List.mem_cons, not_or] at h
      obtain ⟨hc, hflat⟩ := List.forall_mem_cons.mp hflat
      have hchar : SplitsOver separator before depth [c] (depth + depthChange before c) :=
        splits_over_char fun _ => Ne.symm h.1
      rw [hc.no_bracket.2, Int.add_zero] at hchar
      exact hchar.append (ih hflat h.2)

/-- How a character changes the depth is how many closers more are awaited after it. -/
theorem Brackets.Steps.depth_change (h : Brackets.ofTypes.Steps awaited before c later) :
    depthChange before c = later.length - awaited.length := by
  cases h with
  | @opens closer hopen =>
      have hone : ∀ pair ∈ bracketPairs, depthChange before pair.1 = 1 := by
        simp [bracketPairs, depthChange]
      rw [hone _ (type_closer_iff.mp hopen), List.length_cons]
      omega
  | @closes later hclose hawaited =>
      have hless : depthChange before c = -1 := by
        obtain rfl | rfl | rfl | ⟨rfl, harrow⟩ := closes_type_cases hclose
        · simp [depthChange]
        · simp [depthChange]
        · simp [depthChange]
        · simp [depthChange, harrow]
      rw [hless, hawaited, List.length_cons]
      omega
  | other hopen hclose =>
      have hbracket := no_bracket_of_other hopen hclose
      simp only [String.reduceToList, List.mem_cons, List.not_mem_nil, or_false, not_or] at hbracket
      obtain ⟨h1, h2, h3, h4, h5, h6, h7⟩ := hbracket
      have hangle : c = '>' → before = some '=' := by
        rintro rfl
        exact arrow_of_other hclose
      by_cases hc : c = '>'
      · simp [depthChange, hc, hangle hc]
      · simp [depthChange, h1, h2, h3, h4, h5, h6, h7, hc]

/-- Inside a bracket a text is not cut. -/
theorem splits_over_nested (h : Brackets.ofTypes.awaitedAfter? awaited before part = some later) :
    SplitsOver separator before (awaited.length + 1) part (later.length + 1) := by
  induction part generalizing awaited before with
  | nil =>
      obtain rfl := Option.some.inj h
      exact fun rest piece pieces hrest => hrest
  | cons c part ih =>
      obtain ⟨mid, hsteps, hlater⟩ := Brackets.awaited_after_cons.mp h
      have hdepth : (awaited.length : Int) + 1 + depthChange before c = mid.length + 1 := by
        rw [hsteps.depth_change]
        omega
      have hchar : SplitsOver separator before (awaited.length + 1) [c]
          (awaited.length + 1 + depthChange before c) :=
        splits_over_char fun hle => absurd hle (by omega)
      rw [hdepth] at hchar
      exact hchar.append (ih hlater)

end Split

end CodeAtlas.Text
