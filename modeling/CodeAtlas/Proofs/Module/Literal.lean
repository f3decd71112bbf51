import CodeAtlas.Proofs.Module.Record
import CodeAtlas.Proofs.Text.Literal

/-!
# Specifiers and literals

Statements are looked for in a text whose literals are left in place, so the quotes of a specifier
need not be those of a literal. `Flanked` says of a pattern that it reads a specifier between two
quotes; all eight forms do. What a specifier then has to satisfy to be a literal of the source is one
condition on its place (`specifier_literal_iff`): its first quote is in code, its last one is the
same, and it is whole. In most forms nothing before the first quote can open a literal, so that the
first part of the condition only fails for a statement that does not start in code.
-/

namespace CodeAtlas.Module

open Pattern (Match Reads Groups)
open Text (StandsAt byteLength IsUnquoted IsLiteral InCode isWhole)

/-- A pattern reads a specifier as its group `number`, and nothing else as that group. It is plain if
what it reads before has no quotes. -/
inductive Flanked (number : Nat) : Bool → Pattern → Prop
  | specifier {plain : Bool} : Flanked number plain (Statement.specifier number)
  | first {plain : Bool} {first second : Pattern} (h : Flanked number plain first)
      (hother : second.bodies number = []) : Flanked number plain (.seq first second)
  | second {plain : Bool} {first second : Pattern} (hother : first.bodies number = [])
      (hplain : plain = true →
        (first.readsNo '\'' && first.readsNo '"' && first.readsNo '`') = true)
      (h : Flanked number plain second) : Flanked number plain (.seq first second)
  | rounds {lazy : Bool} {least : Nat} {most : Option Nat} {body : Pattern}
      (h : Flanked number false body) : Flanked number false (.rounds lazy least most body)

/-- A text has a part without quotes between two quotes. The part extends from `start` to `stop` if
the text starts at `offset`; if it is the first one in quotes, no quote stands before it. -/
structure IsBetween (plain : Bool) (offset : Nat) (read left : Text) (opening : Char) (part : Text)
    (closing : Char) (start stop : Nat) : Prop where
  prefix_eq : ∃ right, read = left ++ (opening :: (part ++ [closing])) ++ right
  start_eq : start = offset + byteLength left + 1
  stop_eq : stop = start + byteLength part
  opening_quote : opening = '\'' ∨ opening = '"'
  closing_quote : closing = '\'' ∨ closing = '"'
  part_plain : '\'' ∉ part ∧ '"' ∉ part
  left_plain : plain = true → IsUnquoted left

section Flanked

variable {plain : Bool} {number offset start stop : Nat} {pattern : Pattern} {read : Text}
  {groups : Groups}

/-- A pattern without a group of the number records none. -/
theorem not_mem_of_bodies_nil (h : Reads pattern offset read groups)
    (hnone : pattern.bodies number = []) : (number, start, stop) ∉ groups := by
  intro hmem
  obtain ⟨-, -, -, -, -, body, hbody, -⟩ := h.group_stands hmem
  rw [hnone] at hbody
  cases hbody

/-- A quote of a specifier is one of two characters. -/
theorem quote_cases {c : Char} (h : (CharSet.ofString "'\"").contains c = true) :
    c = '\'' ∨ c = '"' := by
  simpa using Pattern.contains_of_string_iff.mp h

/-- One character of a set is read. -/
theorem reads_char {set : CharSet} (h : Reads (.char set) offset read groups) :
    ∃ c, set.contains c = true ∧ read = [c] ∧ groups = [] := by
  cases h with
  | char hc => exact ⟨_, hc, rfl, rfl⟩
  | assertion hassertion => cases hassertion

/-- A specifier is read between its quotes. -/
theorem specifier_between (h : Reads (Statement.specifier number) offset read groups)
    (hmem : (number, start, stop) ∈ groups) :
    ∃ opening part closing, IsBetween plain offset read [] opening part closing start stop := by
  have hinner : ∀ {offset : Nat} {read : Text} {groups : Groups},
      Reads (.many1 (.char (.notIn "'\""))) offset read groups →
        groups = [] ∧ '\'' ∉ read ∧ '"' ∉ read := by
    intro offset read groups h
    refine ⟨?_, h.not_mem (by decide), h.not_mem (by decide)⟩
    refine List.eq_nil_iff_forall_not_mem.mpr ?_
    rintro ⟨other, start, stop⟩ hmem
    exact not_mem_of_bodies_nil h rfl hmem
  obtain ⟨opening, hopening, tail, htail⟩ : ∃ opening, (opening = '\'' ∨ opening = '"') ∧
      ∃ tail, read = opening :: tail ∧ Reads (.seq (.group number (.many1 (.char (.notIn "'\""))))
        Statement.quote) (offset + 1) tail groups := by
    cases h with
    | seq hfirst hsecond =>
        obtain ⟨opening, hopening, rfl, rfl⟩ := reads_char hfirst
        have hquote := quote_cases hopening
        have hone : byteLength [opening] = 1 := by rcases hquote with rfl | rfl <;> rfl
        rw [hone] at hsecond
        exact ⟨opening, hquote, _, rfl, by rwa [List.append_nil]⟩
    | assertion hassertion => cases hassertion
  obtain ⟨rfl, htail⟩ := htail
  cases htail with
  | seq hgroup hclose =>
      obtain ⟨closing, hclosing, rfl, rfl⟩ := reads_char hclose
      cases hgroup with
      | group hbody =>
          obtain ⟨rfl, hsingle, hdouble⟩ := hinner hbody
          simp only [List.nil_append, List.mem_singleton, Prod.mk.injEq, true_and] at hmem
          obtain ⟨rfl, rfl⟩ := hmem
          exact ⟨opening, _, closing, ⟨[], by simp⟩, rfl, rfl, hopening, quote_cases hclosing,
            ⟨hsingle, hdouble⟩, fun _ c hc => absurd hc List.not_mem_nil⟩
      | assertion hassertion => cases hassertion
  | assertion hassertion => cases hassertion

/-- What stands between quotes in a front or a back stands so in the whole. -/
theorem IsBetween.extend {left part : Text} {opening closing : Char} (front back : Text)
    (h : IsBetween plain (offset + byteLength front) read left opening part closing start stop)
    (hfront : plain = true → IsUnquoted front) :
    IsBetween plain offset (front ++ (read ++ back)) (front ++ left) opening part closing start
      stop where
  prefix_eq := by
    obtain ⟨right, rfl⟩ := h.prefix_eq
    exact ⟨right ++ back, by simp⟩
  start_eq := by rw [h.start_eq, Text.byte_length_append, ← Nat.add_assoc]
  stop_eq := h.stop_eq
  opening_quote := h.opening_quote
  closing_quote := h.closing_quote
  part_plain := h.part_plain
  left_plain hplain c hc := (List.mem_append.mp hc).elim (hfront hplain c) (h.left_plain hplain c)

/-- The group of a flanked pattern stands between quotes. -/
theorem Flanked.between (hflanked : Flanked number plain pattern)
    (h : Reads pattern offset read groups) (hmem : (number, start, stop) ∈ groups) :
    ∃ left opening part closing, IsBetween plain offset read left opening part closing start stop := by
  induction hflanked generalizing offset read groups with
  | specifier =>
      obtain ⟨opening, part, closing, hbetween⟩ := specifier_between h hmem
      exact ⟨[], opening, part, closing, hbetween⟩
  | first _ hother ih =>
      cases h with
      | seq hfirst hsecond =>
          rcases List.mem_append.mp hmem with hnewer | holder
          · exact absurd hnewer (not_mem_of_bodies_nil hsecond hother)
          · obtain ⟨left, opening, part, closing, hbetween⟩ := ih hfirst holder
            exact ⟨left, opening, part, closing,
              hbetween.extend [] _ fun _ c hc => absurd hc List.not_mem_nil⟩
      | assertion hassertion => cases hassertion
  | second hother hplain _ ih =>
      cases h with
      | seq hfirst hsecond =>
          rcases List.mem_append.mp hmem with hnewer | holder
          · obtain ⟨left, opening, part, closing, hbetween⟩ := ih hsecond hnewer
            have hextended := hbetween.extend _ [] fun hp c hc hquote => by
              obtain ⟨hboth, htick⟩ := Bool.and_eq_true_iff.mp (hplain hp)
              obtain ⟨hsingle, hdouble⟩ := Bool.and_eq_true_iff.mp hboth
              rcases hquote with rfl | rfl | rfl
              · exact hfirst.not_mem hsingle hc
              · exact hfirst.not_mem hdouble hc
              · exact hfirst.not_mem htick hc
            rw [List.append_nil] at hextended
            exact ⟨_, opening, part, closing, hextended⟩
          · exact absurd holder (not_mem_of_bodies_nil hfirst hother)
      | assertion hassertion => cases hassertion
  | @rounds lazy least most body _ ih =>
      generalize hpattern : Pattern.rounds lazy least most body = pattern at h
      induction h generalizing least with
      | enough => cases hmem
      | again hbody _ _ hlater =>
          cases hpattern
          rcases List.mem_append.mp hmem with hnewer | holder
          · obtain ⟨left, opening, part, closing, hbetween⟩ := hlater hnewer rfl
            have hextended := hbetween.extend _ [] (fun hp => by cases hp)
            rw [List.append_nil] at hextended
            exact ⟨_, opening, part, closing, hextended⟩
          · obtain ⟨left, opening, part, closing, hbetween⟩ := ih hbody holder
            exact ⟨left, opening, part, closing,
              hbetween.extend [] _ fun _ c hc => absurd hc List.not_mem_nil⟩
      | assertion hassertion => cases hpattern; cases hassertion
      | _ => cases hpattern

end Flanked

/-- Whether no quote can stand before the specifier in a statement of the form. A binding and an
export list are read up to characters that are no quotes. -/
def Form.isPlain : Form → Bool
  | .requireBinding | .exportList => false
  | _ => true

/-- Every form reads its specifier between quotes. -/
theorem Form.flanked (form : Form) : Flanked form.specifierGroup form.isPlain form.pattern := by
  cases form with
  | importFrom | sideEffect | importRequire | bareRequire | importCall | exportStar =>
      repeat first
        | exact .specifier
        | refine .first .specifier rfl
        | refine .second rfl (fun _ => by decide) ?_
  | requireBinding =>
      repeat first
        | refine .first .specifier rfl
        | refine .second rfl (fun h => by cases h) ?_
  | exportList =>
      repeat first
        | exact .rounds (.second rfl (fun h => by cases h)
            (.second rfl (fun h => by cases h) (.second rfl (fun h => by cases h) .specifier)))
        | refine .second rfl (fun h => by cases h) ?_

section Scan

variable {content source : Text} {form : Form} {found : Match}

/-- What stands between quotes has its first quote before it and its last one after it. -/
theorem IsBetween.stands_at {code read left part : Text} {opening closing : Char} {plain : Bool}
    {offset start stop : Nat} (hread : StandsAt code offset read)
    (h : IsBetween plain offset read left opening part closing start stop) :
    StandsAt code offset (left ++ opening :: (part ++ [closing])) ∧
      StandsAt code (offset + byteLength left) (opening :: (part ++ [closing])) := by
  obtain ⟨right, rfl⟩ := h.prefix_eq
  exact ⟨hread.front, hread.front.back⟩

/-- The specifier of a statement stands between quotes. -/
theorem IsStatement.between {code : Text} (h : IsStatement code form found source) :
    ∃ read left opening closing start stop,
      found.group? form.specifierGroup = some (start, stop) ∧ StandsAt code found.start read ∧
        IsBetween form.isPlain found.start read left opening source closing start stop := by
  obtain ⟨hmem, hspecifier⟩ := h
  obtain ⟨read, hread, -, hreads⟩ := Pattern.search_all_is_in hmem
  obtain ⟨⟨start, stop⟩, hgroup, hslice⟩ := Option.bind_eq_some_iff.mp hspecifier
  obtain ⟨⟨other, extent⟩, hfind, hextent⟩ := Option.map_eq_some_iff.mp hgroup
  have hnumber : other = form.specifierGroup := by simpa using List.find?_some hfind
  subst hnumber hextent
  obtain ⟨left, opening, part, closing, hbetween⟩ :=
    form.flanked.between hreads (List.mem_of_find?_eq_some hfind)
  have hpart : StandsAt code start part := by
    obtain ⟨-, hquoted⟩ := hbetween.stands_at hread
    have hone : byteLength [opening] = 1 := by rcases hbetween.opening_quote with rfl | rfl <;> rfl
    have hsplit : StandsAt code (found.start + byteLength left)
        ([opening] ++ (part ++ [closing])) := hquoted
    have hback := hsplit.back
    rw [hone, ← hbetween.start_eq] at hback
    exact hback.front
  have heq : source = part :=
    Option.some.inj (hslice.symm.trans (Text.slice_eq_some_iff.mpr ⟨hpart, hbetween.stop_eq⟩))
  exact ⟨read, left, opening, closing, start, stop, hgroup, hread, heq ▸ hbetween⟩

/-- Every text has a module, and its specifiers are those of the statements that record something.
The specifier of a statement is all that stands between the quotes of a literal just if its first
quote stands in code, its last one is the same, and it is whole. Where no quote can stand before the
specifier, its first quote stands in code if the statement starts there. -/
theorem specifier_literal_iff (content : Text) :
    ∃ module, scan? content = some module ∧
      (∀ source, String.ofList source ∈ module.specifiers ↔ ∃ form found,
        IsStatement (Text.mask .comments content) form found source ∧
          Records (Text.mask .comments content) found form) ∧
      ∀ form found source, IsStatement (Text.mask .comments content) form found source →
        ∃ quoteAt opening closing,
          found.group? form.specifierGroup =
            some (quoteAt + 1, quoteAt + 1 + byteLength source) ∧
          StandsAt (Text.mask .comments content) quoteAt (opening :: (source ++ [closing])) ∧
          (IsLiteral content (quoteAt + 1) source ↔
            InCode content quoteAt ∧ opening = closing ∧ isWhole source = true) ∧
          (form.isPlain = true → InCode content found.start → InCode content quoteAt) := by
  obtain ⟨module, hmodule, -⟩ := scan_yields content
  refine ⟨module, hmodule, fun source => mem_specifiers_iff hmodule, ?_⟩
  intro form found source hstatement
  obtain ⟨read, left, opening, closing, start, stop, hgroup, hread, hbetween⟩ := hstatement.between
  obtain ⟨hfirst, hquoted⟩ := hbetween.stands_at hread
  refine ⟨found.start + byteLength left, opening, closing, ?_, hquoted, ?_, ?_⟩
  · rw [hgroup, ← hbetween.start_eq, ← hbetween.stop_eq]
  · exact Text.is_literal_iff hbetween.opening_quote hbetween.closing_quote hbetween.part_plain
      hquoted
  · intro hplain hcode
    have hquote : Text.IsQuote opening :=
      hbetween.opening_quote.imp_right Or.inl
    exact hcode.first_quote (hbetween.left_plain hplain) hquote hfirst

/-- The specifier of an import in code is a literal. -/
theorem specifier_literal_one_import :
    ∃ module, scan? "import 'x';".toList = some module ∧ "x" ∈ module.specifiers ∧
      IsLiteral "import 'x';".toList 8 "x".toList := by
  obtain ⟨module, hmodule, hspecifiers, hliteral⟩ := specifier_literal_iff "import 'x';".toList
  have hstatement : IsStatement (Text.mask .comments "import 'x';".toList) .sideEffect
      { start := 0, stop := 10, groups := [(1, 8, 9)] } "x".toList :=
    ⟨List.mem_of_mem_head? (by rfl), by rfl⟩
  obtain ⟨quoteAt, opening, closing, hgroup, hquoted, hiff, hcode⟩ := hliteral _ _ _ hstatement
  obtain rfl : quoteAt = 7 := by
    have heq := congrArg (·.map Prod.fst) hgroup
    simpa [Pattern.Match.group?, Form.specifierGroup, Form.binds] using heq.symm
  refine ⟨module, hmodule, (hspecifiers _).mpr ⟨_, _, hstatement, trivial⟩, hiff.mpr ⟨?_, ?_, rfl⟩⟩
  · exact hcode rfl ⟨[], _, rfl, rfl, rfl⟩
  · obtain ⟨back, hback⟩ := Text.stands_at_iff_drop_bytes.mp hquoted
    have hrest : Text.dropBytes? (Text.mask .comments "import 'x';".toList) 7 =
        some "'x';".toList := by rfl
    have heq : ['\'', 'x', '\'', ';'] = opening :: 'x' :: closing :: back :=
      Option.some.inj (hrest.symm.trans hback)
    simp only [List.cons.injEq] at heq
    exact heq.1.symm.trans heq.2.2.1

/-- A statement that is the contents of a literal is taken for an import, though its specifier is no
literal. -/
theorem keyword_in_literal_is_import :
    ∃ module, scan? "const s = \"import 'x'\";\n".toList = some module ∧
      "x" ∈ module.specifiers ∧
      ¬∃ start, IsLiteral "const s = \"import 'x'\";\n".toList start "x".toList := by
  refine ⟨{ imports := [{ name := "", source := "x" }] }, by decide +kernel, by decide, ?_⟩
  rintro ⟨start, front, quote, back, hcontent, -, -, hcode, -⟩
  have hnone : ∀ n < 26, ("const s = \"import 'x'\";\n".toList.drop (n + 1)).head? = some 'x' →
      Text.MaskState.code.after ("const s = \"import 'x'\";\n".toList.take n)
        ("const s = \"import 'x'\";\n".toList.drop n) ≠ .code := by decide
  have hlength := congrArg List.length hcontent
  rw [List.length_append] at hlength
  have hshort : "const s = \"import 'x'\";\n".toList.length = 24 := by decide
  refine hnone front.length (by omega) ?_ ?_
  · rw [hcontent, ← List.drop_drop, List.drop_left]
    rfl
  · rw [hcontent, List.take_left, List.drop_left]
    exact hcode

end Scan

end CodeAtlas.Module
