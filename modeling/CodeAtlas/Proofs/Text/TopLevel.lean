import CodeAtlas.Proofs.Text.Angled
import Mathlib.Algebra.GroupWithZero.Nat
import Mathlib.Data.List.Infix

/-!
# Where a text is cut at top level

A text is cut at the separators that have no more opening than closing brackets in front of them: read
`is_cut_split_iff` first. The parts make up the text, so each stands as many bytes into it as the parts
and the separators in front of it have (`stands_at_of_part`). If brackets never close before they open
and none stays open, as many are opened as closed in front of each cut, so every part is such a text
again (`IsLevel.of_part`).
-/

namespace CodeAtlas.Text

variable {separator : Char} {previous : Option Char} {depth : Int} {c : Char}
  {text front back part : Text} {parts above : List Text}

section Count

/-- Whether a character opens a bracket of a type. -/
def opensType (c : Char) : Bool :=
  c = '(' || c = '[' || c = '{' || c = '<'

/-- The brackets that a text opens. -/
def openers (text : Text) : Nat :=
  text.countP opensType

/-- The brackets that a text closes, given the character before it. -/
def closersAfter (previous : Option Char) (text : Text) : Nat :=
  ((previous :: text.map some).zip text).countP fun place => closesType place.1 place.2

/-- The brackets that a text closes. -/
def closers (text : Text) : Nat :=
  closersAfter none text

/-- The characters that open brackets are those that await a closing one. -/
theorem opens_type_eq (c : Char) : opensType c = (typeCloser? c).isSome := by
  rw [opensType, opens_iff, typeCloser?]
  split
  · next h => simp [h]
  · next h => simp [h]

/-- A character takes part in bracket counting if it opens or closes a bracket. -/
theorem is_bracket_eq (previous : Option Char) (c : Char) :
    isBracket previous c = (opensType c || closesType previous c) := by
  simp only [isBracket, opensType, closesType, isCloser, Bool.or_assoc]

/-- A character changes the depth by the bracket that it opens or closes. -/
theorem depth_change_eq (previous : Option Char) (c : Char) :
    depthChange previous c = ((opensType c).toNat : Int) - ((closesType previous c).toNat : Int) := by
  rw [opens_type_eq]
  cases hopen : typeCloser? c with
  | some closer =>
      have hsteps : Brackets.ofTypes.Steps [] previous c [closer] := .opens hopen
      have hclose : closesType previous c = false := by
        by_contra hclose
        have hcloses : Brackets.ofTypes.closes previous c = true := Bool.of_not_eq_false hclose
        exact Option.some_ne_none closer (hopen.symm.trans (Brackets.closer_of_closes hcloses))
      rw [hsteps.depth_change, hclose]
      rfl
  | none =>
      cases hclose : closesType previous c with
      | true =>
          have hsteps : Brackets.ofTypes.Steps [c] previous c [] := .closes hclose rfl
          exact hsteps.depth_change
      | false =>
          have hsteps : Brackets.ofTypes.Steps [] previous c [] := .other hopen hclose
          exact hsteps.depth_change

/-- The brackets that a text opens from its first character on. -/
theorem openers_cons (c : Char) (text : Text) :
    openers (c :: text) = (opensType c).toNat + openers text := by
  rw [openers, List.countP_cons, openers, Nat.add_comm]
  cases opensType c <;> rfl

/-- The brackets that a text closes from its first character on. -/
theorem closers_after_cons (previous : Option Char) (c : Char) (text : Text) :
    closersAfter previous (c :: text) =
      (closesType previous c).toNat + closersAfter (some c) text := by
  rw [closersAfter, List.map_cons, List.zip_cons_cons, List.countP_cons, closersAfter, Nat.add_comm]
  cases closesType previous c <;> rfl

/-- The depth over a text is the change by its first character and the depth over the others. -/
theorem depth_over_cons : (openers (c :: text) : Int) - closersAfter previous (c :: text) =
    depthChange previous c + (openers text - closersAfter (some c) text) := by
  rw [openers_cons, closers_after_cons, depth_change_eq]
  push_cast
  omega

/-- The brackets that two texts, one after the other, open. -/
theorem openers_append (front back : Text) :
    openers (front ++ back) = openers front + openers back :=
  List.countP_append

/-- The brackets that two texts, one after the other, close. -/
theorem closers_after_append (previous : Option Char) (front back : Text) :
    closersAfter previous (front ++ back) =
      closersAfter previous front + closersAfter (front.getLast?.or previous) back := by
  induction front generalizing previous with
  | nil => simp [closersAfter]
  | cons c front ih =>
      rw [List.cons_append, closers_after_cons, closers_after_cons, ih, last_cons,
        Nat.add_assoc]

/-- Behind anything but an equals sign a text closes the brackets that it closes alone. -/
theorem closers_after_other (h : previous ≠ some '=') : closersAfter previous text = closers text := by
  cases text with
  | nil => rfl
  | cons c rest =>
      have hclose : closesType previous c = closesType none c := by
        rw [closesType, closesType, bne_iff_ne.mpr h]
        rfl
      rw [closers, closers_after_cons, closers_after_cons, hclose]

/-- A character that is no bracket opens and closes none at the end of a text. -/
theorem count_before_flat (hflat : IsFlat c) (front : Text) :
    openers (front ++ [c]) = openers front ∧ closers (front ++ [c]) = closers front := by
  have hnone : opensType c = false ∧ closesType (front.getLast?.or none) c = false := by
    rw [← Bool.or_eq_false_iff, ← is_bracket_eq]
    exact hflat.no_bracket.1
  rw [openers_append, openers_cons, hnone.1, closers, closers_after_append, closers_after_cons,
    hnone.2]
  exact ⟨rfl, rfl⟩

end Count

section Place

/-- As many bytes as parts and the separators behind them have. -/
theorem byte_length_parts (separator : Char) (parts : List Text) :
    byteLength (parts.flatMap (· ++ [separator])) =
      (parts.map byteLength).sum + parts.length * separator.utf8Size := by
  induction parts with
  | nil => simp [byteLength]
  | cons part parts ih =>
      rw [List.flatMap_cons, byte_length_append, byte_length_append, ih, List.map_cons,
        List.sum_cons, List.length_cons, Nat.succ_mul, byteLength, byteLength]
      omega

/-- A part stands as many bytes into the joined parts as the parts and the separators in front of it
have. -/
theorem stands_at_of_part {k : Nat} (h : parts[k]? = some part) :
    StandsAt (join [separator] parts)
      (((parts.take k).map byteLength).sum + k * separator.utf8Size) part := by
  obtain ⟨hk, rfl⟩ := List.getElem?_eq_some_iff.mp h
  have hsplit : join [separator] parts = (parts.take k).flatMap (· ++ [separator]) ++
      (parts[k] ++ (parts.drop (k + 1)).flatMap (separator :: ·)) := by
    rw [← join_around, ← List.drop_eq_getElem_cons hk, List.take_append_drop]
  refine ⟨_, _, hsplit, ?_⟩
  rw [byte_length_parts, List.length_take_of_le hk.le]

/-- Parts with a separator behind each are the joined parts and a last separator. -/
theorem parts_eq_join (h : above ≠ []) :
    above.flatMap (· ++ [separator]) = join [separator] above ++ [separator] := by
  obtain ⟨init, last, rfl⟩ := (List.eq_nil_or_concat above).resolve_left h
  rw [List.concat_eq_append, join_around]
  simp

end Place

section Cut

/-- Between two of the parts a text is cut into, with `front` in front of the separator there and `back`
behind it. -/
def IsCut (separator : Char) (parts : List Text) (front back : Text) : Prop :=
  ∃ above below, above ≠ [] ∧ below ≠ [] ∧ parts = above ++ below ∧
    front = join [separator] above ∧ back = join [separator] below

/-- There is no cut in a single part. -/
theorem not_is_cut_singleton : ¬IsCut separator [part] front back := by
  rintro ⟨above, below, habove, hbelow, hparts, -, -⟩
  rcases List.append_eq_singleton_iff.mp hparts.symm with ⟨hnil, -⟩ | ⟨-, hnil⟩
  · exact habove hnil
  · exact hbelow hnil

/-- Behind an empty first part is a cut, and the others are those between the parts that follow. -/
theorem is_cut_nil_cons (hne : parts ≠ []) : IsCut separator ([] :: parts) front back ↔
    (front = [] ∧ back = join [separator] parts) ∨
      ∃ later, front = separator :: later ∧ IsCut separator parts later back := by
  constructor
  · rintro ⟨above, below, habove, hbelow, hparts, rfl, rfl⟩
    obtain ⟨first, above, rfl⟩ := List.exists_cons_of_ne_nil habove
    obtain ⟨rfl, rfl⟩ := List.cons.inj hparts
    rcases eq_or_ne above [] with rfl | hmore
    · exact Or.inl ⟨rfl, rfl⟩
    · exact Or.inr ⟨_, join_cons hmore, above, below, hmore, hbelow, rfl, rfl, rfl⟩
  · rintro (⟨rfl, rfl⟩ | ⟨later, rfl, above, below, habove, hbelow, rfl, rfl, rfl⟩)
    · exact ⟨[[]], parts, by simp, hne, rfl, rfl, rfl⟩
    · have hjoin : join [separator] ([] :: above) = separator :: join [separator] above :=
        join_cons habove
      exact ⟨[] :: above, below, by simp, hbelow, rfl, hjoin.symm, rfl⟩

/-- A character in front of the first part is in front of every cut. -/
theorem is_cut_char_cons : IsCut separator ((c :: part) :: parts) front back ↔
    ∃ later, front = c :: later ∧ IsCut separator (part :: parts) later back := by
  constructor
  · rintro ⟨above, below, habove, hbelow, hparts, rfl, rfl⟩
    obtain ⟨first, above, rfl⟩ := List.exists_cons_of_ne_nil habove
    obtain ⟨rfl, rfl⟩ := List.cons.inj hparts
    exact ⟨_, join_cons_char c part above, part :: above, below, by simp, hbelow, rfl, rfl, rfl⟩
  · rintro ⟨later, rfl, above, below, habove, hbelow, hparts, rfl, rfl⟩
    obtain ⟨first, above, rfl⟩ := List.exists_cons_of_ne_nil habove
    obtain ⟨rfl, rfl⟩ := List.cons.inj hparts
    exact ⟨(c :: part) :: above, below, by simp, hbelow, rfl, (join_cons_char c part above).symm, rfl⟩

/-- A text is cut at the separators at which the depth, counted on from the one at the start, is not
positive. -/
theorem is_cut_split_from_iff (hflat : IsFlat separator) :
    IsCut separator (splitTopLevelFrom separator previous depth text) front back ↔
      text = front ++ separator :: back ∧
        depth + ((openers front : Int) - closersAfter previous front) ≤ 0 := by
  induction text generalizing previous depth front with
  | nil => exact iff_of_false not_is_cut_singleton (by simp)
  | cons c rest ih =>
      -- A cut that is not at the first character is one in the rest.
      have hlater : (∃ later, front = c :: later ∧ IsCut separator
            (splitTopLevelFrom separator (some c) (depth + depthChange previous c) rest) later back) ↔
          front ≠ [] ∧ c :: rest = front ++ separator :: back ∧
            depth + ((openers front : Int) - closersAfter previous front) ≤ 0 := by
        cases front with
        | nil => simp
        | cons d front =>
            simp only [ih, List.cons.injEq, List.cons_append, depth_over_cons, ← Int.add_assoc]
            constructor
            · rintro ⟨_, ⟨rfl, rfl⟩, hrest, hdepth⟩
              exact ⟨by simp, ⟨rfl, hrest⟩, hdepth⟩
            · rintro ⟨-, ⟨rfl, hrest⟩, hdepth⟩
              exact ⟨front, ⟨rfl, rfl⟩, hrest, hdepth⟩
      have hne : ∀ previous depth, splitTopLevelFrom separator previous depth rest ≠ [] :=
        fun previous depth => split_top_level_from_ne_nil previous depth rest
      have hstart : (openers [] : Int) - closersAfter previous [] = 0 := rfl
      rw [splitTopLevelFrom]
      split
      · next hcut =>
          simp only [Bool.and_eq_true, decide_eq_true_eq] at hcut
          obtain ⟨⟨-, rfl⟩, hdepth⟩ := hcut
          rw [hflat.no_bracket.2, Int.add_zero] at hlater
          rw [is_cut_nil_cons (hne _ _), join_split_top_level_from, hlater]
          rcases eq_or_ne front [] with rfl | hfront
          · simp [hstart, hdepth, eq_comm]
          · simp [hfront]
      · next hcut =>
          obtain ⟨part, parts, hparts⟩ :=
            List.exists_cons_of_ne_nil (hne (some c) (depth + depthChange previous c))
          rw [hparts] at hlater ⊢
          show IsCut separator ((c :: part) :: parts) front back ↔ _
          rw [is_cut_char_cons, hlater, and_iff_right_iff_imp]
          rintro ⟨htext, hdepth⟩ rfl
          obtain ⟨rfl, -⟩ := List.cons.inj htext
          rw [hstart, Int.add_zero] at hdepth
          exact hcut (by simp [hflat.no_bracket.1, hdepth])

/-- A text is cut at the separators in front of which no more brackets open than close. -/
theorem is_cut_split_iff (hflat : IsFlat separator) :
    IsCut separator (splitTopLevel text separator) front back ↔
      text = front ++ separator :: back ∧ openers front ≤ closers front := by
  rw [splitTopLevel, is_cut_split_from_iff hflat, closers]
  refine and_congr_right fun _ => ?_
  omega

end Cut

section Level

/-- Brackets never close before they open, and none stays open. -/
structure IsLevel (text : Text) : Prop where
  closes_le : ∀ front, front <+: text → closers front ≤ openers front
  ends : closers text = openers text

instance (text : Text) : Decidable (IsLevel text) :=
  decidable_of_iff
    ((∀ front ∈ text.inits, closers front ≤ openers front) ∧ closers text = openers text)
    ⟨fun h => ⟨fun front hfront => h.1 front ((List.mem_inits front text).mpr hfront), h.2⟩,
      fun h => ⟨fun front hfront => h.closes_le front ((List.mem_inits front text).mp hfront), h.ends⟩⟩

/-- In front of a cut of such a text, as many brackets are opened as closed. -/
theorem IsLevel.closers_at_cut (h : IsLevel text) (hflat : IsFlat separator)
    (hcut : IsCut separator (splitTopLevel text separator) front back) :
    closers front = openers front := by
  obtain ⟨rfl, hle⟩ := (is_cut_split_iff hflat).mp hcut
  exact Nat.le_antisymm (h.closes_le front (List.prefix_append front _)) hle

/-- The parts of such a text are such texts. -/
theorem IsLevel.of_part (h : IsLevel text) (hflat : IsFlat separator) (harrow : separator ≠ '=')
    (hpart : part ∈ splitTopLevel text separator) : IsLevel part := by
  obtain ⟨above, below, hparts⟩ := List.append_of_mem hpart
  have htext := join_split_top_level text separator
  rw [hparts, join_around, ← List.append_assoc] at htext
  set front := above.flatMap (· ++ [separator]) with hfront
  have hstart : closers front = openers front ∧ front.getLast? ≠ some '=' := by
    rcases eq_or_ne above [] with rfl | hne
    · exact ⟨rfl, by simp [hfront]⟩
    · have hcut : IsCut separator (splitTopLevel text separator) (join [separator] above) _ :=
        ⟨above, part :: below, hne, by simp, hparts, rfl, rfl⟩
      rw [hfront, parts_eq_join hne, (count_before_flat hflat _).1, (count_before_flat hflat _).2]
      exact ⟨h.closers_at_cut hflat hcut, by simpa using harrow⟩
  have hstop : closers (front ++ part) = openers (front ++ part) := by
    rcases eq_or_ne below [] with rfl | hne
    · rw [List.flatMap_nil, List.append_nil] at htext
      rw [htext]
      exact h.ends
    · have hjoin : join [separator] (above ++ [part]) = front ++ part := by
        rw [join_around, List.flatMap_nil, List.append_nil]
      have hsplit : splitTopLevel text separator = above ++ [part] ++ below := by
        rw [hparts, List.append_assoc, List.singleton_append]
      rw [← hjoin]
      exact h.closers_at_cut hflat ⟨above ++ [part], below, by simp, hne, hsplit, rfl, rfl⟩
  -- What stands before the part counts for nothing in it.
  have hcount : ∀ inner, openers (front ++ inner) = openers front + openers inner ∧
      closers (front ++ inner) = closers front + closers inner := by
    intro inner
    rw [openers_append, closers, closers_after_append, Option.or_none, closers_after_other hstart.2]
    exact ⟨rfl, rfl⟩
  constructor
  · intro inner hinner
    have hbegins : front ++ inner <+: text := by
      rw [← htext]
      exact ((List.prefix_append_right_inj front).mpr hinner).trans (List.prefix_append _ _)
    have hle := h.closes_le _ hbegins
    rw [(hcount inner).1, (hcount inner).2] at hle
    omega
  · rw [(hcount part).1, (hcount part).2] at hstop
    omega

/-- The parts of a text that is cut at top level make up the text, and each stands as many bytes into it
as the parts and the separators in front of it have. At a separator that is no bracket the text is cut
just if no more brackets open than close in front of it. If in addition the separator is no equals sign,
brackets never close before they open and none stays open, then this is so in every part. -/
theorem split_top_level_exact (text : Text) (separator : Char) :
    join [separator] (splitTopLevel text separator) = text ∧
    (∀ k part, (splitTopLevel text separator)[k]? = some part →
      StandsAt text ((((splitTopLevel text separator).take k).map byteLength).sum +
        k * separator.utf8Size) part) ∧
    (IsFlat separator →
      (∀ front back, IsCut separator (splitTopLevel text separator) front back ↔
        text = front ++ separator :: back ∧ openers front ≤ closers front) ∧
      (separator ≠ '=' → IsLevel text → ∀ part ∈ splitTopLevel text separator, IsLevel part)) := by
  refine ⟨join_split_top_level text separator, fun k part hpart => ?_, fun hflat => ?_⟩
  · have hstands : StandsAt (join [separator] (splitTopLevel text separator)) _ part :=
      stands_at_of_part hpart
    rwa [join_split_top_level] at hstands
  · exact ⟨fun front back => is_cut_split_iff hflat, fun harrow hlevel part =>
      hlevel.of_part hflat harrow⟩

/-- A parameter list with a separator inside of angle brackets and one behind an arrow. -/
def parameterList : Text :=
  "é: Map<K, V>, b: (x) => z, c".toList

/-- It is cut at the second and at the third of its separators, and its brackets match in every part. -/
theorem split_parameter_list :
    IsFlat ',' ∧ ',' ≠ '=' ∧ IsLevel parameterList ∧
      splitTopLevel parameterList ',' =
        ["é: Map<K, V>".toList, " b: (x) => z".toList, " c".toList] ∧
      StandsAt parameterList 27 " c".toList ∧
      IsCut ',' (splitTopLevel parameterList ',') "é: Map<K, V>, b: (x) => z".toList " c".toList ∧
      ¬IsCut ',' (splitTopLevel parameterList ',') "é: Map<K".toList " V>, b: (x) => z, c".toList ∧
      ∀ part ∈ splitTopLevel parameterList ',', IsLevel part := by
  have hflat : IsFlat ',' := by decide
  have hlevel : IsLevel parameterList := by decide
  have hparts : splitTopLevel parameterList ',' =
      ["é: Map<K, V>".toList, " b: (x) => z".toList, " c".toList] := by decide
  obtain ⟨-, hstands, hexact⟩ := split_top_level_exact parameterList ','
  obtain ⟨hcuts, hlevels⟩ := hexact hflat
  have hlast := hstands 2 " c".toList (by rw [hparts]; rfl)
  rw [hparts] at hlast
  refine ⟨hflat, by decide, hlevel, hparts, hlast, (hcuts _ _).mpr (by decide), ?_,
    hlevels (by decide) hlevel⟩
  rw [hcuts]
  decide

end Level

end CodeAtlas.Text
