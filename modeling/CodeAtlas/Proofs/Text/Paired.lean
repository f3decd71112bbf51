import CodeAtlas.Proofs.Text.Nested
import Mathlib.Logic.Relation

/-!
# Which bracket closes which

The search for the bracket that closes another one counts those of its kind that are open. A
`CloseSearch` is where it stands between two bytes and `CloseSearch.next?` is one round of it. After every
round the depth is the number of openers less that of closers among the bytes read, and it is not zero
(`CountedAfter.next`); so a search ends at the first byte up to which there are as many closers as openers
(`exists_search_end`). From this follow which brackets are paired (`matching_delimiter_eq_some_iff`) and
that two brackets of one kind are not closed by the same one (`IsPair.unique`).
-/

namespace CodeAtlas.Text

/-- A search between two bytes: the bytes that are left, the index of the first of them and the number
of brackets that are open. -/
structure CloseSearch where
  rest : List UInt8
  index : Nat
  depth : Nat

namespace CloseSearch

/-- One round of a search, or `none` where it ends: after the last byte, or at the closer of the only
bracket that is open. -/
def next? (opener closer : UInt8) (search : CloseSearch) : Option CloseSearch :=
  match search.rest with
  | [] => none
  | b :: rest =>
    if b = opener then some ⟨rest, search.index + 1, search.depth + 1⟩
    else if b = closer then
      if search.depth = 1 then none else some ⟨rest, search.index + 1, search.depth - 1⟩
    else some ⟨rest, search.index + 1, search.depth⟩

/-- A search gets from one place to another in any number of rounds. -/
def Reaches (opener closer : UInt8) : CloseSearch → CloseSearch → Prop :=
  Relation.ReflTransGen fun search after => search.next? opener closer = some after

/-- What a search finds from here on. -/
def found? (opener closer : UInt8) (search : CloseSearch) : Option Nat :=
  closeFrom? opener closer search.rest search.index search.depth

/-- The search for the closer of the bracket at a byte offset of a text. -/
def start (text : Text) (offset : Nat) : CloseSearch :=
  ⟨(bytes text).drop offset, offset, 0⟩

variable {opener closer : UInt8} {search after : CloseSearch}

/-- What one round of a search does with the byte it reads. -/
theorem next_cases (h : search.next? opener closer = some after) :
    ∃ b, search.rest = b :: after.rest ∧ after.index = search.index + 1 ∧
      ((b = opener ∧ after.depth = search.depth + 1) ∨
        (b ≠ opener ∧ b = closer ∧ search.depth ≠ 1 ∧ after.depth = search.depth - 1) ∨
        (b ≠ opener ∧ b ≠ closer ∧ after.depth = search.depth)) := by
  rw [next?] at h
  split at h
  · cases h
  · next b rest hrest =>
      refine ⟨b, ?_⟩
      split at h
      · next hopen =>
          cases h
          exact ⟨hrest, rfl, .inl ⟨hopen, rfl⟩⟩
      · next hopen =>
          split at h
          · next hclose =>
              split at h
              · cases h
              · next hdepth =>
                  cases h
                  exact ⟨hrest, rfl, .inr (.inl ⟨hopen, hclose, hdepth, rfl⟩)⟩
          · next hclose =>
              cases h
              exact ⟨hrest, rfl, .inr (.inr ⟨hopen, hclose, rfl⟩)⟩

/-- Where a search ends it finds nothing after the last byte, or the closer there. -/
theorem end_cases (h : search.next? opener closer = none) :
    (search.rest = [] ∧ search.found? opener closer = none) ∨
      ∃ rest, search.rest = closer :: rest ∧ closer ≠ opener ∧ search.depth = 1 ∧
        search.found? opener closer = some search.index := by
  rw [next?] at h
  split at h
  · next hrest => exact .inl ⟨hrest, by rw [found?, hrest, closeFrom?]⟩
  · next b rest hrest =>
      split at h
      · cases h
      · next hopen =>
          split at h
          · next hclose =>
              split at h
              · next hdepth =>
                  subst hclose
                  refine .inr ⟨rest, hrest, hopen, hdepth, ?_⟩
                  rw [found?, hrest, closeFrom?, if_neg hopen, if_pos rfl, if_pos hdepth]
              · cases h
          · cases h

/-- A round of a search does not change what it finds. -/
theorem found_of_next (h : search.next? opener closer = some after) :
    search.found? opener closer = after.found? opener closer := by
  obtain ⟨b, hrest, hindex, ⟨hopen, hdepth⟩ | ⟨hopen, hclose, hone, hdepth⟩ | ⟨hopen, hclose, hdepth⟩⟩ :=
    next_cases h
  · rw [found?, found?, hrest, closeFrom?, if_pos hopen, hindex, hdepth]
  · rw [found?, found?, hrest, closeFrom?, if_neg hopen, if_pos hclose, if_neg hone, hindex, hdepth]
  · rw [found?, found?, hrest, closeFrom?, if_neg hopen, if_neg hclose, hindex, hdepth]

/-- A search finds the same from every place that it gets to. -/
theorem found_of_reaches (h : Reaches opener closer search after) :
    search.found? opener closer = after.found? opener closer := by
  induction h with
  | refl => rfl
  | tail _ hnext ih => exact ih.trans (found_of_next hnext)

/-- Every search gets to its end. -/
theorem exists_end (opener closer : UInt8) (search : CloseSearch) :
    ∃ last, Reaches opener closer search last ∧ last.next? opener closer = none := by
  cases hnext : search.next? opener closer with
  | none => exact ⟨search, .refl, hnext⟩
  | some after =>
      have hless : after.rest.length < search.rest.length := by
        obtain ⟨b, hrest, -⟩ := next_cases hnext
        rw [hrest]
        exact Nat.lt_succ_self _
      obtain ⟨last, hreaches, hlast⟩ := exists_end opener closer after
      exact ⟨last, .head hnext hreaches, hlast⟩
termination_by search.rest.length

/-- What a search has counted after reading `count` bytes: the depth is the number of openers less that
of closers, and the bracket that starts the bytes was open behind every byte. -/
structure CountedAfter (opener closer : UInt8) (tail : List UInt8) (index count : Nat)
    (search : CloseSearch) : Prop where
  rest_eq : search.rest = tail.drop count
  index_eq : search.index = index + count
  depth_eq : search.depth + (tail.take count).count closer = (tail.take count).count opener
  stays_open : ∀ n, 0 < n → n ≤ count → (tail.take n).count closer < (tail.take n).count opener

variable {tail : List UInt8} {index count : Nat}

/-- Before the first byte nothing has been counted. -/
theorem counted_start (opener closer : UInt8) (tail : List UInt8) (index : Nat) :
    CountedAfter opener closer tail index 0 ⟨tail, index, 0⟩ where
  rest_eq := rfl
  index_eq := rfl
  depth_eq := rfl
  stays_open := fun _ hpos hle => absurd hpos (Nat.not_lt.mpr hle)

/-- At a byte that is not the opener, a bracket is open: the first byte is the opener. -/
theorem CountedAfter.depth_pos (h : CountedAfter opener closer tail index count search)
    (hhead : tail.head? = some opener) {b : UInt8} (hb : search.rest.head? = some b)
    (hne : b ≠ opener) : 0 < search.depth := by
  have hcount : 0 < count := by
    rw [Nat.pos_iff_ne_zero]
    rintro rfl
    rw [h.rest_eq, List.drop_zero, hhead] at hb
    exact hne (Option.some.inj hb).symm
  have hopen := h.stays_open count hcount (Nat.le_refl count)
  have hdepth := h.depth_eq
  omega

/-- The byte that is read next stands behind those that have been read. -/
theorem CountedAfter.next_byte (h : CountedAfter opener closer tail index count search) {b : UInt8}
    {rest : List UInt8} (hrest : search.rest = b :: rest) :
    tail[count]? = some b ∧ rest = tail.drop (count + 1) := by
  have hdrop : tail.drop count = b :: rest := h.rest_eq.symm.trans hrest
  refine ⟨by rw [← List.head?_drop, hdrop]; rfl, ?_⟩
  rw [← List.tail_drop, hdrop]
  rfl

/-- A byte more that has been read counts among its like. -/
theorem count_take_succ {b : UInt8} (h : tail[count]? = some b) (kind : UInt8) :
    (tail.take (count + 1)).count kind = (tail.take count).count kind + if b = kind then 1 else 0 := by
  rw [List.take_add_one, h, List.count_append, Option.toList_some, List.count_singleton]
  simp only [beq_iff_eq]

/-- After one more round the depth is still the number of openers less that of closers, and a bracket is
open. -/
theorem CountedAfter.next (h : CountedAfter opener closer tail index count search)
    (hhead : tail.head? = some opener) (hkinds : opener ≠ closer)
    (hnext : search.next? opener closer = some after) :
    CountedAfter opener closer tail index (count + 1) after := by
  obtain ⟨b, hrest, hindex, hcases⟩ := next_cases hnext
  obtain ⟨hb, hdrop⟩ := h.next_byte hrest
  have hdepth := h.depth_eq
  have hpos : b ≠ opener → 0 < search.depth := h.depth_pos hhead (by rw [hrest]; rfl)
  obtain ⟨hcounted, hopen⟩ : after.depth + (tail.take (count + 1)).count closer =
      (tail.take (count + 1)).count opener ∧ 0 < after.depth := by
    rw [count_take_succ hb, count_take_succ hb]
    rcases hcases with ⟨rfl, hdeeper⟩ | ⟨hopen, rfl, hone, hless⟩ | ⟨hopen, hclose, hsame⟩
    · rw [if_neg hkinds, if_pos rfl]
      omega
    · have hpos := hpos hopen
      rw [if_pos rfl, if_neg hopen]
      omega
    · have hpos := hpos hopen
      rw [if_neg hclose, if_neg hopen]
      omega
  refine ⟨hdrop, by rw [hindex, h.index_eq, Nat.add_assoc], hcounted, fun n hn hle => ?_⟩
  rcases Nat.lt_or_eq_of_le hle with hlt | rfl
  · exact h.stays_open n hn (Nat.le_of_lt_succ hlt)
  · omega

/-- Wherever a search from an opener gets to, it has counted the brackets up to there. -/
theorem counted_of_reaches (hhead : tail.head? = some opener) (hkinds : opener ≠ closer)
    (h : Reaches opener closer ⟨tail, index, 0⟩ search) :
    ∃ count, CountedAfter opener closer tail index count search := by
  induction h with
  | refl => exact ⟨0, counted_start opener closer tail index⟩
  | tail _ hnext ih =>
      obtain ⟨count, hcounted⟩ := ih
      exact ⟨count + 1, hcounted.next hhead hkinds hnext⟩

/-- A search from an opener goes on as long as there are more openers than closers. It ends without a
closer after the last byte, or at the byte up to which there are as many. -/
theorem exists_search_end (hhead : tail.head? = some opener) (hkinds : opener ≠ closer) (index : Nat) :
    ∃ count, (∀ n, 0 < n → n ≤ count → (tail.take n).count closer < (tail.take n).count opener) ∧
      ((tail.length ≤ count ∧ closeFrom? opener closer tail index 0 = none) ∨
        (count < tail.length ∧
          (tail.take (count + 1)).count opener = (tail.take (count + 1)).count closer ∧
          closeFrom? opener closer tail index 0 = some (index + count))) := by
  obtain ⟨last, hreaches, hend⟩ := exists_end opener closer ⟨tail, index, 0⟩
  obtain ⟨count, hcounted⟩ := counted_of_reaches hhead hkinds hreaches
  have hfound : closeFrom? opener closer tail index 0 = last.found? opener closer :=
    found_of_reaches hreaches
  refine ⟨count, hcounted.stays_open, ?_⟩
  rcases end_cases hend with ⟨hrest, hnone⟩ | ⟨rest, hrest, hclose, hdepth, hsome⟩
  · rw [hcounted.rest_eq, List.drop_eq_nil_iff] at hrest
    exact .inl ⟨hrest, hfound.trans hnone⟩
  · obtain ⟨hb, -⟩ := hcounted.next_byte hrest
    refine .inr ⟨(List.getElem?_eq_some_iff.mp hb).1, ?_, by rw [hfound, hsome, hcounted.index_eq]⟩
    have hcount := hcounted.depth_eq
    rw [count_take_succ hb, count_take_succ hb, if_neg hclose, if_pos rfl]
    omega

end CloseSearch

/-- The bytes of a text from one offset up to, but not including, another. -/
def bytesBetween (text : Text) (start stop : Nat) : List UInt8 :=
  ((bytes text).drop start).take (stop - start)

/-- An opener and the closer that belongs to it: there are as many closers as openers from the one to the
other, and fewer closers than openers in every part of these bytes that starts at the opener. -/
structure IsPair (text : Text) (opener closer : UInt8) (start close : Nat) : Prop where
  opens : (bytes text)[start]? = some opener
  start_lt : start < close
  close_lt : close < byteLength text
  balanced : (bytesBetween text start (close + 1)).count opener =
    (bytesBetween text start (close + 1)).count closer
  stays_open : ∀ stop, start < stop → stop ≤ close →
    (bytesBetween text start stop).count closer < (bytesBetween text start stop).count opener

section Pair

variable {text : Text} {opener closer : UInt8} {start other middle stop close : Nat}

/-- The bytes up to an offset between two others and those from it on. -/
theorem bytes_between_append (hstart : start ≤ middle) (hstop : middle ≤ stop) :
    bytesBetween text start stop = bytesBetween text start middle ++ bytesBetween text middle stop := by
  have hlength : stop - start = middle - start + (stop - middle) := by omega
  have hmiddle : start + (middle - start) = middle := by omega
  rw [bytesBetween, bytesBetween, bytesBetween, hlength, List.take_add, List.drop_drop, hmiddle]

/-- A search from an opener finds the closer that belongs to it. -/
theorem close_from_start_iff (hopens : (bytes text)[start]? = some opener) (hkinds : opener ≠ closer) :
    closeFrom? opener closer ((bytes text).drop start) start 0 = some close ↔
      IsPair text opener closer start close := by
  have hhead : ((bytes text).drop start).head? = some opener := by rw [List.head?_drop, hopens]
  have hlength : ((bytes text).drop start).length = byteLength text - start := by
    rw [List.length_drop, length_bytes]
  have hbetween : ∀ n, ((bytes text).drop start).take n = bytesBetween text start (start + n) := by
    intro n
    rw [bytesBetween, Nat.add_sub_cancel_left]
  obtain ⟨count, hopen, hend⟩ := CloseSearch.exists_search_end hhead hkinds start
  simp only [hbetween, hlength] at hopen hend
  constructor
  · intro hfound
    rcases hend with ⟨-, hnone⟩ | ⟨hlt, hbalanced, hsome⟩
    · rw [hnone] at hfound
      cases hfound
    · obtain rfl : start + count = close := Option.some.inj (hsome.symm.trans hfound)
      have hpos : 0 < count := by
        rw [Nat.pos_iff_ne_zero]
        rintro rfl
        obtain ⟨rest, hrest⟩ := List.head?_eq_some_iff.mp hhead
        rw [← hbetween, hrest] at hbalanced
        simp [hkinds] at hbalanced
      refine ⟨hopens, by omega, by omega, hbalanced, fun stop hstart hstop => ?_⟩
      have hstop' := hopen (stop - start) (by omega) (by omega)
      rwa [Nat.add_sub_cancel' hstart.le] at hstop'
  · intro hpair
    have hstart := hpair.start_lt
    have hclose := hpair.close_lt
    -- The search does not go beyond the closer, where the numbers are equal.
    have hle : start + count ≤ close := by
      by_contra hgt
      have hmore := hopen (close + 1 - start) (by omega) (by omega)
      rw [Nat.add_sub_cancel' (by omega : start ≤ close + 1), hpair.balanced] at hmore
      exact Nat.lt_irrefl _ hmore
    rcases hend with ⟨hall, -⟩ | ⟨hlt, hbalanced, hsome⟩
    · omega
    · -- Nor does it end before it, where they are not.
      have hge : close ≤ start + count := by
        by_contra hlt'
        have hmore := hpair.stays_open (start + (count + 1)) (by omega) (by omega)
        rw [hbalanced] at hmore
        exact Nat.lt_irrefl _ hmore
      rw [hsome, Nat.le_antisymm hle hge]

/-- An ASCII character has its byte. -/
theorem byte_of_char {b : UInt8} (h : b.toNat < 128) : (Char.ofNat b.toNat).toUInt8 = b := by
  have hvalid : b.toNat.isValidChar := .inl (by omega)
  have hnat : (Char.ofNat b.toNat).toNat = b.toNat := by
    rw [Char.ofNat, dif_pos hvalid]
    rfl
  refine UInt8.toNat_inj.mp ?_
  rw [Char.toUInt8, UInt32.toNat_toUInt8]
  show (Char.ofNat b.toNat).toNat % 256 = b.toNat
  omega

/-- The closer of a bracket is the second of a pair. -/
theorem exists_pair_of_closer (h : closerOf? opener = some closer) :
    ∃ pair ∈ bracketPairs, pair.1.toUInt8 = opener ∧ pair.2.toUInt8 = closer := by
  obtain ⟨hpair, hopener, hcloser, -⟩ := closer_of_eq_some h
  exact ⟨_, hpair, byte_of_char hopener, byte_of_char hcloser⟩

/-- The second of a pair closes the first, and is another bracket. -/
theorem closer_of_pair : ∀ pair ∈ bracketPairs,
    closerOf? pair.1.toUInt8 = some pair.2.toUInt8 ∧ pair.1.toUInt8 ≠ pair.2.toUInt8 := by
  decide

variable {pair : Char × Char} (hpair : pair ∈ bracketPairs)

include hpair

/-- At an opener the closer is searched for from there. -/
theorem matching_delimiter_of_opener (hopens : (bytes text)[start]? = some pair.1.toUInt8) :
    matchingDelimiter? text start =
      (CloseSearch.start text start).found? pair.1.toUInt8 pair.2.toUInt8 := by
  have hhead : ((bytes text).drop start).head? = some pair.1.toUInt8 := by
    rw [List.head?_drop, hopens]
  simp only [matchingDelimiter?, hhead, (closer_of_pair pair hpair).1, bind, Option.bind_some]
  rfl

/-- Wherever the search from an opener gets to, it finds the same, its depth is the number of openers less
that of closers among the bytes read, and a bracket is open where a closer comes next. -/
theorem depth_of_reaches {search : CloseSearch}
    (hopens : (bytes text)[start]? = some pair.1.toUInt8)
    (hreaches : CloseSearch.Reaches pair.1.toUInt8 pair.2.toUInt8 (.start text start) search) :
    search.found? pair.1.toUInt8 pair.2.toUInt8 = matchingDelimiter? text start ∧
      (search.depth : Int) = (bytesBetween text start search.index).count pair.1.toUInt8 -
        (bytesBetween text start search.index).count pair.2.toUInt8 ∧
      (search.rest.head? = some pair.2.toUInt8 → 0 < search.depth) := by
  have hkinds := (closer_of_pair pair hpair).2
  have hhead : ((bytes text).drop start).head? = some pair.1.toUInt8 := by
    rw [List.head?_drop, hopens]
  obtain ⟨count, hcounted⟩ := CloseSearch.counted_of_reaches hhead hkinds hreaches
  have hdepth := hcounted.depth_eq
  rw [bytesBetween, hcounted.index_eq, Nat.add_sub_cancel_left, matching_delimiter_of_opener hpair hopens]
  exact ⟨(CloseSearch.found_of_reaches hreaches).symm, by omega,
    fun hnext => hcounted.depth_pos hhead hnext hkinds.symm⟩

omit hpair

/-- What is found is the closer that belongs to the bracket, and it is found for every bracket that has
one. -/
theorem matching_delimiter_eq_some_iff : matchingDelimiter? text start = some close ↔
    ∃ pair ∈ bracketPairs, IsPair text pair.1.toUInt8 pair.2.toUInt8 start close := by
  constructor
  · intro h
    obtain ⟨opener, hopener, hfound⟩ := Option.bind_eq_some_iff.mp h
    obtain ⟨closer, hcloser, -⟩ := Option.bind_eq_some_iff.mp hfound
    rw [List.head?_drop] at hopener
    obtain ⟨pair, hmem, rfl, rfl⟩ := exists_pair_of_closer hcloser
    rw [matching_delimiter_of_opener hmem hopener] at h
    exact ⟨pair, hmem, (close_from_start_iff hopener (closer_of_pair pair hmem).2).mp h⟩
  · rintro ⟨pair, hmem, hpair⟩
    rw [matching_delimiter_of_opener hmem hpair.opens]
    exact (close_from_start_iff hpair.opens (closer_of_pair pair hmem).2).mpr hpair

/-- Of two brackets with one closer, none stands before the other: from the one to the other there are
more openers than closers, but as many from either of them to the closer. -/
theorem IsPair.not_lt (h : IsPair text opener closer start close)
    (hother : IsPair text opener closer other close) : ¬start < other := by
  intro hlt
  have hclose := hother.start_lt
  have hopen := h.stays_open other hlt hclose.le
  have hbalanced := h.balanced
  rw [bytes_between_append hlt.le (by omega : other ≤ close + 1), List.count_append,
    List.count_append, hother.balanced] at hbalanced
  omega

/-- Two brackets of one kind are not closed by the same one. -/
theorem IsPair.unique (h : IsPair text opener closer start close)
    (hother : IsPair text opener closer other close) : start = other :=
  Nat.le_antisymm (Nat.le_of_not_lt (hother.not_lt h)) (Nat.le_of_not_lt (h.not_lt hother))

/-- Brackets of one kind for which the same closer is found are the same. -/
theorem eq_of_matching_delimiter (hsame : (bytes text)[start]? = (bytes text)[other]?)
    (h : matchingDelimiter? text start = some close)
    (hother : matchingDelimiter? text other = some close) : start = other := by
  obtain ⟨pair, hmem, hpair⟩ := matching_delimiter_eq_some_iff.mp h
  obtain ⟨pair', hmem', hpair'⟩ := matching_delimiter_eq_some_iff.mp hother
  have hopener : pair.1.toUInt8 = pair'.1.toUInt8 := by
    rw [hpair.opens, hpair'.opens] at hsame
    exact Option.some.inj hsame
  have hcloser : some pair.2.toUInt8 = some pair'.2.toUInt8 := by
    rw [← (closer_of_pair pair hmem).1, hopener, (closer_of_pair pair' hmem').1]
  rw [← hopener, ← Option.some.inj hcloser] at hpair'
  exact hpair.unique hpair'

/-- The closer that belongs to a bracket is found, and nothing else is. Wherever the search gets to on
its way, the depth is the number of openers less that of closers among the bytes read, and it is positive
where a closer comes next. Different brackets of one kind have different closers. -/
theorem matching_delimiter_exact (text : Text) (start : Nat) :
    (∀ close, matchingDelimiter? text start = some close ↔
      ∃ pair ∈ bracketPairs, IsPair text pair.1.toUInt8 pair.2.toUInt8 start close) ∧
    (∀ pair ∈ bracketPairs, (bytes text)[start]? = some pair.1.toUInt8 →
      ∀ search, CloseSearch.Reaches pair.1.toUInt8 pair.2.toUInt8 (.start text start) search →
        search.found? pair.1.toUInt8 pair.2.toUInt8 = matchingDelimiter? text start ∧
        (search.depth : Int) = (bytesBetween text start search.index).count pair.1.toUInt8 -
          (bytesBetween text start search.index).count pair.2.toUInt8 ∧
        (search.rest.head? = some pair.2.toUInt8 → 0 < search.depth)) ∧
    ∀ other close, start ≠ other → (bytes text)[start]? = (bytes text)[other]? →
      matchingDelimiter? text start = some close → matchingDelimiter? text other ≠ some close :=
  ⟨fun _ => matching_delimiter_eq_some_iff,
    fun _ hmem hopens _ hreaches => depth_of_reaches hmem hopens hreaches,
    fun _ _ hne hsame h hother => hne (eq_of_matching_delimiter hsame h hother)⟩

/-- A block in a block, with a parenthesis that stays open, behind a letter of two bytes. -/
def blockInBlock : Text :=
  "é\x7ba\x7b(\x7db\x7d\x7d".toList

/-- The outer block ends at the second closing brace, after a search that has counted two braces as open
before the first one; the inner block does not end there, and the parenthesis is not closed. -/
theorem block_in_block_matched :
    matchingDelimiter? blockInBlock 2 = some 8 ∧
      (∃ pair ∈ bracketPairs, IsPair blockInBlock pair.1.toUInt8 pair.2.toUInt8 2 8) ∧
      (bytesBetween blockInBlock 2 6).count 0x7B - (bytesBetween blockInBlock 2 6).count 0x7D = (2 : Int) ∧
      matchingDelimiter? blockInBlock 4 ≠ some 8 ∧
      ¬∃ pair ∈ bracketPairs, IsPair blockInBlock pair.1.toUInt8 pair.2.toUInt8 5 8 := by
  have hfound : matchingDelimiter? blockInBlock 2 = some 8 := by decide
  obtain ⟨hexact, hdepth, hdistinct⟩ := matching_delimiter_exact blockInBlock 2
  have hreaches : CloseSearch.Reaches 0x7B 0x7D (.start blockInBlock 2)
      ⟨(bytes blockInBlock).drop 6, 6, 2⟩ :=
    .tail (.tail (.tail (.tail .refl rfl) rfl) rfl) rfl
  obtain ⟨-, htwo, -⟩ := hdepth ('{', '}') (by decide) (by decide) _ hreaches
  refine ⟨hfound, (hexact 8).mp hfound, htwo.symm, hdistinct 4 8 (by decide) (by decide) hfound, ?_⟩
  rw [← (matching_delimiter_exact blockInBlock 5).1]
  decide

end Pair

end CodeAtlas.Text
