import CodeAtlas.Proofs.Pattern.Reads
import CodeAtlas.Proofs.Text.Mask
import CodeAtlas.Proofs.Text.Rows

/-!
# Scans that do not fail

A scan fails only at a cut outside its text, so a scan that gives a value has made no such cut.
`Yields` says that it gives one and what holds of it. The offsets that scans go by are found in a
masked text and used in the source: `Touches` is the condition under which that is sound. An offset
that touches a visible character of the masked text is a boundary of the source
(`Touches.is_boundary`) on one of its lines (`Touches.line_le`).
-/

namespace CodeAtlas

/-- A computation gives a value that satisfies a condition. -/
def Yields {α : Type} (good : α → Prop) (result : Option α) : Prop :=
  ∃ value, result = some value ∧ good value

section Rules

variable {α β : Type} {good : α → Prop} {fine : β → Prop}

/-- A value that satisfies the condition is given. -/
theorem yields_some {value : α} (h : good value) : Yields good (some value) :=
  ⟨value, rfl, h⟩

/-- A value that satisfies the condition is returned. -/
theorem yields_pure {value : α} (h : good value) : Yields good (pure value) :=
  ⟨value, rfl, h⟩

/-- A computation that gives a value gives some value. -/
theorem yields_of_is_some {result : Option α} (h : result.isSome) : Yields (fun _ => True) result := by
  obtain ⟨value, hvalue⟩ := Option.isSome_iff_exists.mp h
  exact ⟨value, hvalue, trivial⟩

/-- A computation that gives a value succeeds. -/
theorem Yields.is_some {result : Option α} (h : Yields good result) : result.isSome := by
  obtain ⟨value, rfl, -⟩ := h
  rfl

/-- A computation succeeds if what it goes on with does. -/
theorem is_some_bind {result : Option α} {next : α → Option β} (h : result.isSome)
    (hnext : ∀ value, (next value).isSome) : (result >>= next).isSome := by
  obtain ⟨value, rfl⟩ := Option.isSome_iff_exists.mp h
  exact hnext value

/-- What is given satisfies every weaker condition. -/
theorem Yields.imp {weaker : α → Prop} {result : Option α} (h : Yields good result)
    (himp : ∀ value, good value → weaker value) : Yields weaker result := by
  obtain ⟨value, hvalue, hgood⟩ := h
  exact ⟨value, hvalue, himp value hgood⟩

/-- A computation gives what the next one gives. -/
theorem Yields.bind {result : Option α} {next : α → Option β} (h : Yields good result)
    (hnext : ∀ value, good value → Yields fine (next value)) : Yields fine (result >>= next) := by
  obtain ⟨value, rfl, hgood⟩ := h
  exact hnext value hgood

/-- A computation that goes on from a known value gives what the next one gives. -/
theorem yields_bind_of_eq {result : Option α} {value : α} {next : α → Option β}
    (h : result = some value) (hnext : Yields fine (next value)) : Yields fine (result >>= next) := by
  rw [h]
  exact hnext

/-- A choice gives what both of its sides give. -/
theorem yields_ite {condition : Prop} [Decidable condition] {yes no : Option α}
    (hyes : condition → Yields good yes) (hno : ¬condition → Yields good no) :
    Yields good (if condition then yes else no) := by
  split
  · next h => exact hyes h
  · next h => exact hno h

/-- A list is made of what its items give. -/
theorem yields_map_m {f : α → Option β} {items : List α}
    (h : ∀ item ∈ items, Yields fine (f item)) :
    Yields (fun values => ∀ value ∈ values, fine value) (items.mapM f) := by
  induction items with
  | nil => exact yields_some (by simp)
  | cons item rest ih =>
      rw [List.mapM_cons]
      refine (h item List.mem_cons_self).bind fun value hvalue => ?_
      refine (ih fun later hlater => h later (List.mem_cons_of_mem item hlater)).bind
        fun values hvalues => yields_some ?_
      exact List.forall_mem_cons.mpr ⟨hvalue, hvalues⟩

end Rules

namespace Text

/-- A part that shows in a masked text: it is not empty and has neither spaces nor line feeds. -/
structure IsSolid (part : Text) : Prop where
  ne_nil : part ≠ []
  no_space : ' ' ∉ part
  no_feed : '\n' ∉ part

/-- An offset right before or right after a character that is neither a space nor a line feed. -/
def Touches (text : Text) (offset : Nat) : Prop :=
  ∃ start c, StandsAt text start [c] ∧ c ≠ ' ' ∧ c ≠ '\n' ∧
    (offset = start ∨ offset = start + c.utf8Size)

variable {text masked part : Text} {offset : Nat}

/-- Identifier characters show. -/
theorem is_solid_of_ident (hne : part ≠ []) (hident : ∀ c ∈ part, isIdentChar c = true) :
    IsSolid part := by
  have hspace : isIdentChar ' ' = false := by decide
  have hfeed : isIdentChar '\n' = false := by decide
  refine ⟨hne, fun hmem => ?_, fun hmem => ?_⟩
  · rw [hident _ hmem] at hspace
    cases hspace
  · rw [hident _ hmem] at hfeed
    cases hfeed

/-- The start of a solid part touches it. -/
theorem IsSolid.touches_start (hsolid : IsSolid part) (hpart : StandsAt text offset part) :
    Touches text offset := by
  obtain ⟨hne, hspace, hfeed⟩ := hsolid
  cases part with
  | nil => exact absurd rfl hne
  | cons c rest =>
      simp only [List.mem_cons, not_or] at hspace hfeed
      have hfirst : StandsAt text offset ([c] ++ rest) := hpart
      exact ⟨offset, c, hfirst.front, Ne.symm hspace.1, Ne.symm hfeed.1, Or.inl rfl⟩

/-- The end of a solid part touches it. -/
theorem IsSolid.touches_stop (hsolid : IsSolid part) (hpart : StandsAt text offset part) :
    Touches text (offset + byteLength part) := by
  obtain ⟨hne, hspace, hfeed⟩ := hsolid
  obtain ⟨front, c, rfl⟩ := List.eq_nil_or_concat part |>.resolve_left hne
  simp only [List.concat_eq_append, List.mem_append, List.mem_singleton, not_or] at *
  refine ⟨offset + byteLength front, c, hpart.back, Ne.symm hspace.2, Ne.symm hfeed.2, Or.inr ?_⟩
  rw [byte_length_append, byteLength, byteLength]
  omega

/-- An offset that touches what stands in a part touches it in the text. -/
theorem StandsAt.touches {inner : Nat} (hpart : StandsAt text offset part)
    (h : Touches part inner) : Touches text (offset + inner) := by
  obtain ⟨start, c, hc, hspace, hfeed, hoffset⟩ := h
  exact ⟨offset + start, c, hpart.trans hc, hspace, hfeed, by omega⟩

/-- An offset that touches a visible character of the masked text touches it in the source. -/
theorem SameLayout.touches (layout : SameLayout text masked) (h : Touches masked offset) :
    Touches text offset := by
  obtain ⟨start, c, hc, hspace, hfeed, hoffset⟩ := h
  exact ⟨start, c, layout.stands_at hspace hc, hspace, hfeed, hoffset⟩

/-- An offset that touches a character is a boundary. -/
theorem Touches.is_boundary (h : Touches text offset) : IsBoundary text offset := by
  obtain ⟨start, c, hc, -, -, rfl | rfl⟩ := h
  · exact hc.start_boundary
  · have hstop := hc.stop_boundary
    rwa [byteLength, byteLength, Nat.add_zero] at hstop

/-- A text is cut into one part more than it has line feeds. -/
theorem length_split_by (text : Text) :
    (splitBy (· = '\n') text).length = text.count '\n' + 1 := by
  induction text with
  | nil => rfl
  | cons c rest ih =>
      rw [splitBy]
      split
      · next hc =>
          rw [of_decide_eq_true hc, List.count_cons_self, List.length_cons, ih]
      · next hc =>
          have hne : c ≠ '\n' := fun heq => hc (by rw [heq]; rfl)
          rw [List.count_cons_of_ne hne]
          split
          · next hnil => rw [hnil] at ih; simp at ih
          · next part parts heq =>
              rw [heq, List.length_cons] at ih
              rw [List.length_cons, ih]

/-- The last part of a text that does not end with a line feed is not empty. -/
theorem last_split_by_ne_nil {text : Text} {c : Char} (hc : c ≠ '\n') :
    (splitBy (· = '\n') (text ++ [c])).getLast? ≠ some [] := by
  induction text with
  | nil => simp [splitBy, hc]
  | cons d rest ih =>
      have hne := split_by_ne_nil (· = '\n') (rest ++ [c])
      rw [List.cons_append, splitBy]
      split
      · rw [List.getLast?_cons, List.getLast?_eq_some_getLast hne] at *
        simpa using ih
      · split
        · next hnil => exact absurd hnil hne
        · next part parts heq =>
            rw [heq] at ih
            cases parts with
            | nil => simp
            | cons next parts => simpa using ih

/-- A text has as many lines as line feeds, and one more if it goes on after the last one. -/
theorem length_lines (text : Text) : text.count '\n' ≤ (lines text).length ∧
    ((splitBy (· = '\n') text).getLast? ≠ some [] →
      (lines text).length = text.count '\n' + 1) := by
  have hlength := length_split_by text
  have hsome := List.getLast?_eq_some_getLast (split_by_ne_nil (· = '\n') text)
  unfold lines
  dsimp only
  split
  · next hnone => rw [hsome] at hnone; cases hnone
  · next hlast => exact ⟨by simp [hlength], fun h => absurd hlast h⟩
  · next last hlast => exact ⟨by simp [hlength], fun _ => by simp [hlength]⟩

/-- Fewer line feeds stand before a character that is none than there are lines. -/
theorem line_feeds_before_lt {c : Char} (h : StandsAt text offset [c]) (hc : c ≠ '\n') :
    lineFeedsBefore text offset < (lines text).length := by
  obtain ⟨front, back, rfl, rfl⟩ := h
  rw [line_feeds_before_append]
  obtain ⟨hle, hlast⟩ := length_lines (front ++ ([c] ++ back))
  have hcount : (front ++ ([c] ++ back)).count '\n' = front.count '\n' + back.count '\n' := by
    rw [List.count_append, List.count_append, List.count_singleton]
    simp [hc]
  by_cases hfeed : '\n' ∈ back
  · have hpos := List.count_pos_iff.mpr hfeed
    omega
  · -- The last line goes on after its line feed, with the character if with nothing else.
    have hne : (splitBy (· = '\n') (front ++ ([c] ++ back))).getLast? ≠ some [] := by
      rcases List.eq_nil_or_concat back with rfl | ⟨middle, d, rfl⟩
      · rw [List.append_nil]
        exact last_split_by_ne_nil hc
      · have hd : d ≠ '\n' := fun heq => hfeed (by simp [heq])
        have hlast : (splitBy (· = '\n') (front ++ ([c] ++ middle) ++ [d])).getLast? ≠ some [] :=
          last_split_by_ne_nil hd
        simpa using hlast
    have hlines := hlast hne
    omega

/-- An offset that touches a character is on one of the lines. -/
theorem Touches.line_le (h : Touches text offset) :
    lineOfOffset text offset ≤ (lines text).length := by
  obtain ⟨start, c, hc, -, hfeed, hoffset⟩ := h
  have hlt := line_feeds_before_lt hc hfeed
  have heq : lineFeedsBefore text offset = lineFeedsBefore text start := by
    rcases hoffset with rfl | rfl
    · rfl
    · obtain ⟨front, back, rfl, rfl⟩ := hc
      have hsplit := line_feeds_before_append (front ++ [c]) back
      rw [byte_length_append, List.append_assoc, List.count_append, byteLength, byteLength,
        Nat.add_zero] at hsplit
      rw [hsplit, line_feeds_before_append, List.count_singleton]
      simp [hfeed]
  rw [lineOfOffset, heq]
  exact hlt

end Text

namespace Pattern

open Text (IsSolid StandsAt byteLength)

/-- Whether the groups of the given number read solid parts only. -/
def solidGroup (number : Nat) (pattern : Pattern) : Bool :=
  (pattern.bodies number).all fun body => body.readsSome && body.readsNo ' ' && body.readsNo '\n'

/-- A solid group that took part has read a solid part. -/
theorem Match.IsIn.of_solid_group {pattern : Pattern} {text : Text} {found : Match}
    {number start stop : Nat} (h : found.IsIn pattern text)
    (hsolid : pattern.solidGroup number = true)
    (hgroup : found.group? number = some (start, stop)) :
    ∃ part, found.text? text number = some part ∧ StandsAt text start part ∧ IsSolid part ∧
      stop = start + byteLength part := by
  obtain ⟨part, htext, hpart, hstop, body, hbody, groups, hreads⟩ := h.of_group hgroup
  have hall := List.all_eq_true.mp hsolid body hbody
  simp only [Bool.and_eq_true] at hall
  obtain ⟨⟨hsome, hspace⟩, hfeed⟩ := hall
  exact ⟨part, htext, hpart, ⟨hreads.ne_nil hsome, hreads.not_mem hspace, hreads.not_mem hfeed⟩,
    hstop⟩

/-- A solid group that every match records has read a solid part. -/
theorem Match.IsIn.exists_solid {pattern : Pattern} {text : Text} {found : Match} {number : Nat}
    (h : found.IsIn pattern text)
    (hstatic : (pattern.records number && pattern.solidGroup number) = true) :
    ∃ start stop part, found.group? number = some (start, stop) ∧
      found.text? text number = some part ∧ StandsAt text start part ∧ IsSolid part ∧
      stop = start + byteLength part := by
  obtain ⟨hrecords, hsolid⟩ := Bool.and_eq_true_iff.mp hstatic
  obtain ⟨start, stop, hgroup⟩ := h.exists_group hrecords
  obtain ⟨part, hpart⟩ := h.of_solid_group hsolid hgroup
  exact ⟨start, stop, part, hgroup, hpart⟩

end Pattern

end CodeAtlas
