import CodeAtlas.Proofs.Module.Missed

/-!
# The statements of printed lines

Every search through printed lines goes on from line to line (`scans_print`). So the statements of a
form are the lines of that form, each found where it starts (`search_form`), and the calls of `require`
are those in the lines that have one (`search_require`).
-/

namespace CodeAtlas.Module

open Pattern (Match Groups Piece Led Free textOf Scans Misses Passes at_word_boundary)
open Text (byteLength IsName)

/-- Lines with the offsets where they start. -/
def placesFrom (offset : Nat) : List Line → List (Nat × Line)
  | [] => []
  | line :: rest => (offset, line) :: placesFrom (offset + byteLength line.text + 2) rest

/-- The match of a line that starts at an offset. -/
def Line.found (offset : Nat) (line : Line) : Match :=
  ⟨offset, offset + byteLength line.text, line.groups offset⟩

/-- Where the call of `require` in a line starts. -/
def Line.callStart (offset : Nat) : Line → Nat
  | .importRequire name _ => offset + byteLength name.text + 10
  | .requireBinding binding _ => offset + byteLength binding.text + 9
  | _ => offset

/-- The match of the call of `require` in a line. -/
def Line.callFound (offset : Nat) (line : Line) : Match :=
  ⟨line.callStart offset, line.callStart offset + byteLength line.source.call,
    [(1, line.callStart offset + 9, line.callStart offset + 9 + byteLength line.source.text)]⟩

section Search

variable {words : List Text} {follow : Char → Bool} {pattern : Pattern} {before : Option Char}
  {offset : Nat} {rest : Text} {found : List Match}

/-- No line is empty. -/
theorem Line.text_ne_nil (line : Line) : line.text ≠ [] := by
  have hpieces := line.text_of_pieces
  intro hnil
  have hlength := congrArg List.length hpieces
  rw [hnil, Line.pieces, text_of_cons, Piece.text] at hlength
  have hpos := List.length_pos_iff.mpr line.head_is_name.ne_nil
  simp only [List.length_append, List.length_cons, List.length_nil] at hlength
  omega

/-- A scan of printed lines goes on from line to line. -/
theorem scans_print (hled : Led words follow pattern) (hits : Nat → Line → List Match)
    (hline : ∀ line before offset rest found, before.any Text.isWordChar = false →
      Scans pattern ⟨some ';', offset + byteLength line.text + 1, rest⟩ found →
      Scans pattern ⟨before, offset, line.text ++ ';' :: rest⟩ (hits offset line ++ found))
    (ended : Bool) (lines : List Line) (hbefore : before.any Text.isWordChar = false) :
    Scans pattern ⟨before, offset, print ended lines⟩
      ((placesFrom offset lines).flatMap fun place => hits place.1 place.2) := by
  have hstop : ∀ before offset, Scans pattern ⟨before, offset, []⟩ [] := by
    intro before offset
    refine .stop ?_
    by_contra hsome
    obtain ⟨-, word, -, blank, c, tail, hnil, -⟩ := hled.starts _ _ _ hsome
    simp at hnil
  induction lines generalizing before offset with
  | nil => exact hstop before offset
  | cons line lines ih =>
      rw [print, placesFrom, List.flatMap_cons]
      refine hline line before offset _ _ hbefore ?_
      split
      · next hlast =>
          rw [Bool.and_eq_true, List.isEmpty_iff] at hlast
          obtain ⟨rfl, -⟩ := hlast
          exact hstop _ _
      · exact .miss (hled.none_at (by decide) _) (ih (by decide))

/-- A line that is matched as a whole is found. -/
theorem Line.scans_hit (line : Line) (hled : Led words follow pattern) {groups : Groups}
    (hpasses : Passes pattern before offset line.text (';' :: rest) groups)
    (h : Scans pattern ⟨some ';', offset + byteLength line.text + 1, rest⟩ found) :
    Scans pattern ⟨before, offset, line.text ++ ';' :: rest⟩
      (⟨offset, offset + byteLength line.text, groups⟩ :: found) :=
  .hit line.text_ne_nil hpasses (.miss (hled.none_at (by decide) _) h)

/-- A line that holds no match is passed over. -/
theorem Line.scans_miss (line : Line) (hmisses : Misses pattern before (line.text ++ [';']) rest)
    (h : Scans pattern ⟨some ';', offset + byteLength line.text + 1, rest⟩ found) :
    Scans pattern ⟨before, offset, line.text ++ ';' :: rest⟩ found := by
  have hsplit : line.text ++ ';' :: rest = line.text ++ [';'] ++ rest := by simp
  rw [hsplit]
  refine Scans.of_misses hmisses ?_
  rwa [Text.byte_length_append, ← Nat.add_assoc, List.getLast?_concat]

/-- Every form is led by words. -/
theorem Form.led (form : Form) : ∃ words follow, Led words follow form.pattern := by
  cases form with
  | importFrom => exact ⟨_, _, import_from_led⟩
  | sideEffect => exact ⟨_, _, side_effect_led⟩
  | importRequire => exact ⟨_, _, import_require_led⟩
  | requireBinding => exact ⟨_, _, require_binding_led⟩
  | bareRequire => exact ⟨_, _, require_any_led⟩
  | importCall => exact ⟨_, _, import_call_led⟩
  | exportStar => exact ⟨_, _, export_star_led⟩
  | exportList => exact ⟨_, _, export_list_led⟩

/-- A search through printed lines finds in each line what it finds there. -/
theorem search_print (hled : Led words follow pattern) (hits : Nat → Line → List Match)
    (hline : ∀ line before offset rest found, before.any Text.isWordChar = false →
      Scans pattern ⟨some ';', offset + byteLength line.text + 1, rest⟩ found →
      Scans pattern ⟨before, offset, line.text ++ ';' :: rest⟩ (hits offset line ++ found))
    (ended : Bool) (lines : List Line) :
    pattern.searchAll (print ended lines) =
      (placesFrom 0 lines).flatMap fun place => hits place.1 place.2 :=
  Pattern.search_all_of_scans (scans_print hled hits hline ended lines rfl)

/-- What is found in some of the places is found in those. -/
theorem flat_map_of_test (test : Line → Bool) (found : Nat → Line → Match)
    (places : List (Nat × Line)) :
    (places.flatMap fun place => if test place.2 then [found place.1 place.2] else []) =
      (places.filter fun place => test place.2).map fun place => found place.1 place.2 := by
  induction places with
  | nil => rfl
  | cons place places ih =>
      rw [List.flatMap_cons, ih, List.filter_cons]
      split <;> rfl

/-- The statements of a form other than bare calls are the lines of that form. -/
theorem search_form (form : Form) (hbare : form ≠ .bareRequire) (ended : Bool) (lines : List Line) :
    form.pattern.searchAll (print ended lines) =
      ((placesFrom 0 lines).filter fun place => place.2.form = form).map
        fun place => place.2.found place.1 := by
  obtain ⟨words, follow, hled⟩ := form.led
  rw [search_print hled (fun offset line => if line.form = form then [line.found offset] else []),
    ← flat_map_of_test (·.form = form) fun offset line => line.found offset]
  · simp only [decide_eq_true_eq]
  · intro line before offset rest found hbefore h
    split
    · next hform =>
        subst hform
        exact line.scans_hit hled (line.passes hbefore) h
    · next hform => exact line.scans_miss (line.misses hform hbare) h

/-- A pattern led by `export` that goes on with neither a star nor a brace is found nowhere. -/
theorem search_export (hled : Led ["export".toList] follow pattern) (hstar : follow '*' = false)
    (hlist : follow '{' = false) (ended : Bool) (lines : List Line) :
    pattern.searchAll (print ended lines) = [] := by
  rw [search_print hled fun _ _ => [], List.flatMap_eq_nil_iff.mpr fun _ _ => rfl]
  intro line before offset rest found hbefore h
  exact line.scans_miss (line.misses_export hled (fun _ => hstar) fun _ => hlist) h

/-- The call of `require` in a line is found after a word and a clause that are free of it. -/
theorem Line.scans_call (line : Line) {word clause : Text} {pieces : List Piece} (hword : IsName word)
    (hother : word ∉ ["require".toList]) (hpieces : textOf pieces = clause ++ [' '])
    (hfree : Free ["require".toList] (· == '(') (pieces ++ [.mark '=', .mark ' ']))
    (htext : line.text = word ++ ' ' :: (clause ++ (" = ".toList ++ line.source.call)))
    (hstart : line.callStart offset = offset + (byteLength word + 1 + byteLength clause + 3))
    (h : Scans Statement.requireAny ⟨some ';', offset + byteLength line.text + 1, rest⟩ found) :
    Scans Statement.requireAny ⟨before, offset, line.text ++ ';' :: rest⟩
      (line.callFound offset :: found) := by
  have hpasses : Passes Statement.requireAny (some ' ') (line.callStart offset) line.source.call
      (';' :: rest)
      [(1, line.callStart offset + 9, line.callStart offset + 9 + byteLength line.source.text)] :=
    (passes_call line.source).after_boundary (at_word_boundary rfl rfl)
  have hcall : line.source.call ≠ [] := List.cons_ne_nil _ _
  have hfront : textOf (.word word ' ' :: (pieces ++ [.mark '=', .mark ' '])) =
      word ++ ' ' :: (clause ++ " = ".toList) := by
    simp [hpieces, Piece.text]
  have hlength : byteLength (word ++ ' ' :: (clause ++ " = ".toList)) =
      byteLength word + 1 + byteLength clause + 3 := by
    have hspace : (' ' : Char).utf8Size = 1 := rfl
    have hassign : byteLength " = ".toList = 3 := rfl
    rw [Text.byte_length_append, byteLength, Text.byte_length_append, hspace, hassign]
    omega
  have hsplit : line.text = word ++ ' ' :: (clause ++ " = ".toList) ++ line.source.call := by
    simp [htext]
  have hstop : offset + byteLength line.text + 1 =
      line.callStart offset + byteLength line.source.call + 1 := by
    rw [hsplit, Text.byte_length_append, hlength, hstart, ← Nat.add_assoc offset]
  rw [hstop] at h
  rw [hsplit, List.append_assoc, ← hfront]
  refine Scans.of_misses (require_any_led.misses_pieces
    ⟨hword, by decide, Or.inl hother, hfree⟩) ?_
  rw [hfront, hlength, ← hstart]
  have hlast : (word ++ ' ' :: (clause ++ " = ".toList)).getLast?.or before = some ' ' := by
    have hassign : " = ".toList = [' ', '='] ++ [' '] := rfl
    rw [hassign, ← List.append_assoc, ← List.cons_append, ← List.append_assoc, List.getLast?_concat]
    rfl
  rw [hlast]
  exact .hit hcall hpasses (.miss (require_any_led.none_at (by decide) _) h)

/-- No line starts with `require`. -/
theorem Line.head_ne_require (line : Line) : line.head ≠ "require".toList := by
  have himport : "import".toList ≠ "require".toList := by decide
  have hconst : "const".toList ≠ "require".toList := by decide
  have hexport : "export".toList ≠ "require".toList := by decide
  cases line with
  | sideEffect _ | importFrom _ _ | importRequire _ _ => exact himport
  | requireBinding _ _ => exact hconst
  | exportStar _ | exportList _ _ _ => exact hexport

/-- The calls of `require` are those in the lines that have one. -/
theorem search_require (ended : Bool) (lines : List Line) :
    Statement.requireAny.searchAll (print ended lines) =
      ((placesFrom 0 lines).filter fun place => place.2.calls).map
        fun place => place.2.callFound place.1 := by
  rw [search_print require_any_led
      (fun offset line => if line.calls then [line.callFound offset] else []),
    flat_map_of_test Line.calls fun offset line => line.callFound offset]
  intro line before offset rest found hbefore h
  have hapart : Apart ["require".toList] (· == '(') :=
    ⟨by decide, fun _ c hc => by simpa using hc⟩
  have hmiss : line.calls = false →
      Scans Statement.requireAny ⟨before, offset, line.text ++ ';' :: rest⟩ found :=
    fun hcalls => line.scans_miss (line.misses_of_free require_any_led hapart (Or.inl hcalls)
      (Or.inl (by simpa using line.head_ne_require))) h
  cases line with
  | sideEffect source => exact hmiss rfl
  | importFrom clause source => exact hmiss rfl
  | importRequire name source =>
      have hfree : Free ["require".toList] (· == '(') [.word name.text ' ', .mark '=', .mark ' '] :=
        name.free hapart (by decide) (closed_of_space (by decide) (by decide))
          ⟨by decide, by decide, trivial⟩
      have hpieces : textOf [.word name.text ' '] = name.text ++ [' '] := by simp [Piece.text]
      refine Line.scans_call _ import_is_name (by decide) hpieces hfree ?_ ?_ h
      · have himport : "import ".toList = "import".toList ++ [' '] := rfl
        show "import ".toList ++ name.text ++ " = ".toList ++ source.call = _
        rw [himport, List.append_assoc, List.append_assoc, List.append_assoc]
        rfl
      · have himport : byteLength "import".toList = 6 := rfl
        rw [Line.callStart, himport]
        omega
  | requireBinding binding source =>
      have hfree : Free ["require".toList] (· == '(') (binding.pieces ++ [.mark '=', .mark ' ']) :=
        binding.free hapart (closed_of_space (by decide) (by decide))
          ⟨by decide, by decide, trivial⟩
      have hword : IsName "const".toList := ⟨by decide, by decide⟩
      refine Line.scans_call _ hword (by decide) binding.text_of_pieces hfree ?_ ?_ h
      · have hconst : "const ".toList = "const".toList ++ [' '] := rfl
        show "const ".toList ++ binding.text ++ " = ".toList ++ source.call = _
        rw [hconst, List.append_assoc, List.append_assoc, List.append_assoc]
        rfl
      · have hconst : byteLength "const".toList = 5 := rfl
        rw [Line.callStart, hconst]
        omega
  | exportStar source => exact hmiss rfl
  | exportList first others source => exact hmiss rfl

end Search

end CodeAtlas.Module
