import CodeAtlas.Proofs.Heritage.Clause

/-!
# The types that a clause names

An `Ancestor` is a type as a clause names it: words with dots between them, and type arguments that may
hold anything with properly nested brackets. A header ends at its first brace or semicolon, even one in
type arguments, and so does the list of a clause: all ancestors are read up to the first one that is cut
(`names_of_list`).
-/

namespace CodeAtlas.Heritage

open Text (Brackets SplitsOver IsBalanced IsBlank IsFlat isIdentChar)

/-- What stands between the angle brackets of type parameters or arguments. -/
structure AreArguments (inner : Text) : Prop where
  balanced : IsBalanced inner
  closed : inner.getLast? ≠ some '='

instance (inner : Text) : Decidable (AreArguments inner) :=
  decidable_of_iff (IsBalanced inner ∧ inner.getLast? ≠ some '=')
    ⟨fun h => ⟨h.1, h.2⟩, fun h => ⟨h.1, h.2⟩⟩

/-- Type parameters or arguments, if there are any. -/
def angled (arguments : Option Text) : Text :=
  arguments.elim [] fun inner => '<' :: (inner ++ ['>'])

/-- A type that a class extends or implements: a name after its qualifiers, and its arguments. -/
structure Ancestor where
  qualifiers : List Text
  name : Text
  arguments : Option Text
  are_words : ∀ word ∈ qualifiers ++ [name], Text.IsWord word
  are_arguments : ∀ inner ∈ arguments, AreArguments inner

namespace Ancestor

/-- The words with dots between them. -/
def dotted (ancestor : Ancestor) : Text :=
  ancestor.qualifiers.flatMap (· ++ ['.']) ++ ancestor.name

/-- The type as it is written. -/
def text (ancestor : Ancestor) : Text :=
  ancestor.dotted ++ angled ancestor.arguments

end Ancestor

/-- The names of types, without their qualifiers. -/
def names (ancestors : List Ancestor) : List String :=
  ancestors.map fun ancestor => String.ofList ancestor.name

/-- Nothing in a text ends a header. -/
def IsUncut (text : Text) : Prop :=
  ∀ c ∈ text, c ≠ '{' ∧ c ≠ ';'

instance (text : Text) : Decidable (IsUncut text) :=
  inferInstanceAs (Decidable (∀ c ∈ text, _))

/-- A text up to where it ends a header. -/
def cut (text : Text) : Text :=
  text.takeWhile fun c => c != '{' && c != ';'

/-- The types up to the first one that ends the header. -/
def reported : List Ancestor → List Ancestor
  | [] => []
  | ancestor :: rest => if IsUncut ancestor.text then ancestor :: reported rest else [ancestor]

section Cut

variable {front back : Text}

/-- A text that does not end the header is kept. -/
theorem cut_append (h : IsUncut front) (back : Text) : cut (front ++ back) = front ++ cut back :=
  List.takeWhile_append_of_pos fun c hc => by simp [h c hc]

/-- What follows a text that ends the header is not seen. -/
theorem cut_append_of_cut (h : ¬IsUncut front) (back : Text) : cut (front ++ back) = cut front := by
  induction front with
  | nil => exact absurd (fun c hc => (List.not_mem_nil hc).elim) h
  | cons c front ih =>
      by_cases hc : c ≠ '{' ∧ c ≠ ';'
      · have hfront : ¬IsUncut front := fun hfront => h (List.forall_mem_cons.mpr ⟨hc, hfront⟩)
        have hkeep : (c != '{' && c != ';') = true := by simpa using hc
        rw [List.cons_append, cut, List.takeWhile_cons, if_pos hkeep, ← cut, ih hfront, cut, cut,
          List.takeWhile_cons, if_pos hkeep]
      · have hstop : ¬(c != '{' && c != ';') = true := by simpa using hc
        rw [List.cons_append, cut, List.takeWhile_cons, if_neg hstop, cut, List.takeWhile_cons,
          if_neg hstop]

/-- A cut text is the front of the text. -/
theorem exists_cut (text : Text) : ∃ rest, text = cut text ++ rest :=
  ⟨_, List.takeWhile_append_dropWhile.symm⟩

end Cut

section Angled

variable {inner : Text} {arguments : Option Text} {before : Option Char} {awaited : List Char}

/-- Behind the opening bracket the arguments are balanced. -/
theorem AreArguments.nested (h : AreArguments inner) :
    Brackets.ofTypes.awaitedAfter? [] (some '<') inner = some [] :=
  (Text.awaited_after_before (by decide) (by decide)).trans h.balanced

/-- The bracket behind the arguments closes them. -/
theorem AreArguments.closes (h : AreArguments inner) (awaited : List Char) :
    Brackets.ofTypes.Steps ('>' :: awaited) (inner.getLast?.or (some '<')) '>' awaited := by
  have harrow : inner.getLast?.or (some '<') ≠ some '=' := by
    have hclosed := h.closed
    cases hlast : inner.getLast? with
    | none => decide
    | some c => rwa [hlast] at hclosed
  exact .closes (Text.closes_type_of_pair (show Text.typeCloser? '<' = some '>' from rfl)
    fun _ => harrow) rfl

/-- Arguments in angle brackets are balanced. -/
theorem awaited_after_angled (h : ∀ inner ∈ arguments, AreArguments inner) :
    Brackets.ofTypes.awaitedAfter? awaited before (angled arguments) = some awaited := by
  cases arguments with
  | none => rfl
  | some inner =>
      have hinner := h inner rfl
      exact Brackets.awaited_after_cons.mpr ⟨'>' :: awaited, .opens rfl, Brackets.awaited_after_append.mpr
        ⟨'>' :: awaited, Brackets.awaited_after_frame hinner.nested ('>' :: awaited),
          Brackets.awaited_after_cons.mpr ⟨awaited, hinner.closes awaited, rfl⟩⟩⟩

/-- Arguments in angle brackets are not cut at a comma. -/
theorem splits_over_angled (h : ∀ inner ∈ arguments, AreArguments inner) :
    SplitsOver ',' before 0 (angled arguments) 0 := by
  cases arguments with
  | none => exact fun rest piece pieces hrest => hrest
  | some inner =>
      have hinner := h inner rfl
      have hopen : SplitsOver ',' before 0 ['<'] (0 + Text.depthChange before '<') :=
        Text.splits_over_char fun _ => by decide
      have hclose : SplitsOver ',' (inner.getLast?.or (some '<')) (0 + 1) ['>']
          (0 + 1 + Text.depthChange (inner.getLast?.or (some '<')) '>') :=
        Text.splits_over_char fun _ => by decide
      rw [(hinner.closes []).depth_change] at hclose
      exact hopen.append ((Text.splits_over_nested hinner.nested).append hclose)

end Angled

namespace Ancestor

variable {ancestor : Ancestor} {before : Option Char} {awaited : List Char} {rest : Text} {c : Char}

/-- The words of a type are made of identifier characters and dots. -/
theorem dotted_char (hc : c ∈ ancestor.dotted) : c = '.' ∨ isIdentChar c = true := by
  rcases List.mem_append.mp hc with hmem | hmem
  · obtain ⟨word, hword, hmem⟩ := List.mem_flatMap.mp hmem
    rcases List.mem_append.mp hmem with hmem | hmem
    · exact Or.inr ((ancestor.are_words word (List.mem_append_left _ hword)).ident c hmem)
    · exact Or.inl (List.mem_singleton.mp hmem)
  · exact Or.inr ((ancestor.are_words _ (by simp)).ident c hmem)

/-- A character that is neither a dot nor part of an identifier does not stand in the words. -/
theorem dotted_ne (hdot : c ≠ '.') (hident : isIdentChar c = false) {d : Char}
    (hd : d ∈ ancestor.dotted) : d ≠ c := by
  rintro rfl
  rcases dotted_char hd with h | h
  · exact hdot h
  · rw [hident] at h
    cases h

/-- The words of a type are no brackets. -/
theorem dotted_flat : ∀ c ∈ ancestor.dotted, IsFlat c := by
  have hall : ∀ c ∈ "([{<)]}>".toList, c ≠ '.' ∧ isIdentChar c = false := by decide
  exact fun c hc hmem => dotted_ne (hall c hmem).1 (hall c hmem).2 hc rfl

/-- The words of a type do not end a header. -/
theorem dotted_uncut : IsUncut ancestor.dotted :=
  fun _ hc => ⟨dotted_ne (by decide) (by decide) hc, dotted_ne (by decide) (by decide) hc⟩

/-- The brackets of a type are balanced. -/
theorem awaited_after_text :
    Brackets.ofTypes.awaitedAfter? awaited before ancestor.text = some awaited :=
  Brackets.awaited_after_append.mpr
    ⟨awaited, Brackets.awaited_after_flat dotted_flat, awaited_after_angled ancestor.are_arguments⟩

/-- A type is not cut at a comma. -/
theorem splits_over_text : SplitsOver ',' before 0 ancestor.text 0 :=
  (Text.splits_over_flat dotted_flat fun hmem => dotted_ne (by decide) (by decide) hmem rfl).append
    (splits_over_angled ancestor.are_arguments)

/-- The words are what dots divide. -/
theorem split_dotted :
    Text.splitBy (· = '.') ancestor.dotted = ancestor.qualifiers ++ [ancestor.name] := by
  have hdots : ∀ words : List Text, (∀ word ∈ words ++ [ancestor.name], Text.IsWord word) →
      Text.splitBy (· = '.') (words.flatMap (· ++ ['.']) ++ ancestor.name) =
        words ++ [ancestor.name] := by
    have hnot : ∀ {word : Text}, Text.IsWord word → '.' ∉ word := fun hword hmem => by
      have hdot := hword.ident '.' hmem
      revert hdot
      decide
    intro words hwords
    induction words with
    | nil => exact Text.split_by_of_not_mem (hnot (hwords _ (by simp)))
    | cons word words ih =>
        obtain ⟨hword, hwords⟩ := List.forall_mem_cons.mp hwords
        rw [List.flatMap_cons, List.append_assoc, List.append_assoc, List.singleton_append,
          Text.split_by_append (hnot hword), ih hwords]
        rfl
  exact hdots _ ancestor.are_words

/-- The words of a type are not empty, and neither start nor end with white space. -/
theorem dotted_tight (ancestor : Ancestor) : Text.IsTight ancestor.dotted := by
  have hvisible : ∀ c ∈ ancestor.dotted, Text.isWhiteSpace c = false := by
    intro c hc
    rcases dotted_char hc with rfl | hident
    · decide
    · exact Text.not_white_space_of_ident_char hident
  have hne : ancestor.dotted ≠ [] := fun hnil =>
    (ancestor.are_words ancestor.name (by simp)).ne_nil (List.append_eq_nil_iff.mp hnil).2
  refine ⟨⟨_, List.head?_eq_some_head hne, hvisible _ (List.head_mem hne)⟩,
    _, List.getLast?_eq_some_getLast hne, hvisible _ (List.getLast_mem hne)⟩

/-- Trimming leaves the words, and what follows them from the arguments on. -/
theorem exists_trim (ancestor : Ancestor) (hrest : IsBlank rest ∨ rest.head? = some '<') :
    ∃ more, Text.trim (' ' :: (ancestor.dotted ++ rest)) = ancestor.dotted ++ more ∧
      ∀ c, more.head? = some c → c = '<' := by
  have hspace : Text.isWhiteSpace ' ' = true := by decide
  rw [Text.trim_cons hspace]
  rcases hrest with hblank | hangle
  · have htrim := Text.trim_around (fun c hc => (List.not_mem_nil hc).elim)
      ancestor.dotted_tight hblank
    rw [List.nil_append] at htrim
    exact ⟨[], by rw [List.append_nil]; exact htrim, by simp⟩
  · obtain ⟨later, rfl⟩ := List.head?_eq_some_iff.mp hangle
    obtain ⟨c, hc, hvisible⟩ := ancestor.dotted_tight.1
    have hstart : Text.trimStart (ancestor.dotted ++ '<' :: later) = ancestor.dotted ++ '<' :: later := by
      refine Text.drop_while_of_head fun d hd => ?_
      rw [List.head?_append, hc] at hd
      obtain rfl := Option.some.inj hd
      exact hvisible
    obtain ⟨tail, htail, hblank⟩ := Text.exists_of_trim_end (ancestor.dotted ++ '<' :: later)
    rw [Text.trim, hstart]
    rcases List.append_eq_append_iff.mp htail with ⟨more, hfront, hback⟩ | ⟨more, hfront, hback⟩
    · refine ⟨more, hfront, fun d hd => ?_⟩
      obtain ⟨tail', rfl⟩ := List.head?_eq_some_iff.mp hd
      exact (List.cons.inj hback).1.symm
    · have hmem : '<' ∈ tail := by rw [hback]; simp
      exact absurd (hblank _ hmem) (by decide)

/-- The name of a type is the last one of its words. -/
theorem bare_name (hrest : IsBlank rest ∨ rest.head? = some '<') :
    bareTypeName? (' ' :: (ancestor.dotted ++ rest)) = some (String.ofList ancestor.name) := by
  have hname := ancestor.are_words ancestor.name (by simp)
  obtain ⟨more, htrim, hmore⟩ := ancestor.exists_trim hrest
  have htake : (ancestor.dotted ++ more).takeWhile (fun c => c != '<' && c != '(') =
      ancestor.dotted := by
    have hkeep : ∀ c ∈ ancestor.dotted, (c != '<' && c != '(') = true := fun c hc => by
      have hangle : c ≠ '<' := dotted_ne (by decide) (by decide) hc
      have hround : c ≠ '(' := dotted_ne (by decide) (by decide) hc
      simp [hangle, hround]
    rw [List.takeWhile_append_of_pos hkeep]
    cases more with
    | nil => exact List.append_nil _
    | cons c more =>
        obtain rfl := hmore c rfl
        exact List.append_nil _
  rw [bareTypeName?, htrim, htake, split_dotted, List.getLastD_concat, Text.trim_word hname]
  have hall : ancestor.name.all isIdentChar = true := List.all_eq_true.mpr hname.ident
  simp [hname.ne_nil, hall]

/-- The name of a type between a space and a blank. -/
theorem bare_name_of_text (hblank : IsBlank rest) :
    bareTypeName? (' ' :: (ancestor.text ++ rest)) = some (String.ofList ancestor.name) := by
  rw [text, List.append_assoc]
  refine bare_name ?_
  cases ancestor.arguments with
  | none => exact Or.inl hblank
  | some inner => exact Or.inr rfl

/-- A type behind a space is not cut at a comma. -/
theorem splits_over_space_text (ancestor : Ancestor) (before : Option Char) :
    SplitsOver ',' before 0 (' ' :: ancestor.text) 0 := by
  have hspace : SplitsOver ',' before 0 [' '] 0 := Text.splits_over_flat (by decide) (by decide)
  exact hspace.append splits_over_text

/-- A type whose arguments end the header is read up to there as one piece. -/
theorem exists_piece_of_cut (hcut : ¬IsUncut ancestor.text) (before : Option Char) :
    ∃ more, cut (' ' :: ancestor.text) = ' ' :: (ancestor.dotted ++ '<' :: more) ∧
      Text.splitTopLevelFrom ',' before 0 (' ' :: (ancestor.dotted ++ '<' :: more)) =
        [' ' :: (ancestor.dotted ++ '<' :: more)] := by
  cases harguments : ancestor.arguments with
  | none =>
      refine absurd ?_ hcut
      rw [text, harguments, angled, Option.elim_none, List.append_nil]
      exact dotted_uncut
  | some inner =>
      have htext : ancestor.text = ancestor.dotted ++ '<' :: (inner ++ ['>']) := by
        rw [text, harguments, angled, Option.elim_some]
      have hinner : ¬IsUncut inner := fun huncut => by
        refine hcut ?_
        rw [htext]
        exact List.forall_mem_append.mpr ⟨dotted_uncut, List.forall_mem_cons.mpr
          ⟨by decide, List.forall_mem_append.mpr ⟨huncut, by decide⟩⟩⟩
      have hfront : IsUncut (' ' :: (ancestor.dotted ++ ['<'])) :=
        List.forall_mem_cons.mpr ⟨by decide, List.forall_mem_append.mpr ⟨dotted_uncut, by decide⟩⟩
      have hsplit : ∀ back, ' ' :: (ancestor.dotted ++ '<' :: back) =
          ' ' :: (ancestor.dotted ++ ['<']) ++ back := by simp
      refine ⟨cut inner, ?_, ?_⟩
      · rw [htext, hsplit (inner ++ _), hsplit (cut inner), cut_append hfront, cut_append_of_cut hinner]
      · obtain ⟨rest, hrest⟩ := exists_cut inner
        have hnested := (ancestor.are_arguments inner harguments).nested
        rw [hrest] at hnested
        obtain ⟨later, hlater, -⟩ := Brackets.awaited_after_append.mp hnested
        have hwords : SplitsOver ',' before 0 (' ' :: ancestor.dotted) 0 :=
          Text.splits_over_flat (List.forall_mem_cons.mpr ⟨by decide, dotted_flat⟩) fun hmem => by
            rcases List.mem_cons.mp hmem with h | hmem
            · exact absurd h (by decide)
            · exact dotted_ne (by decide) (by decide) hmem rfl
        have hopen : SplitsOver ',' ((' ' :: ancestor.dotted).getLast?.or before) 0 ['<'] (0 + 1) :=
          Text.splits_over_char fun _ => by decide
        have hover := hwords.append (hopen.append (Text.splits_over_nested hlater)) [] [] [] rfl
        rwa [List.append_nil] at hover

end Ancestor

section List

variable {ancestors : List Ancestor}

/-- In a list the types are named up to the first one that ends the header. -/
theorem names_of_list (hne : ancestors ≠ []) (previous : Option Char) :
    (Text.splitTopLevelFrom ',' previous 0 (cut (' ' ::
      (Text.join ", ".toList (ancestors.map Ancestor.text) ++ " {}".toList)))).filterMap bareTypeName? =
        names (reported ancestors) := by
  induction ancestors generalizing previous with
  | nil => exact absurd rfl hne
  | cons ancestor rest ih =>
      by_cases hcut : IsUncut ancestor.text
      · have hspace : IsUncut (' ' :: ancestor.text) := List.forall_mem_cons.mpr ⟨by decide, hcut⟩
        have hover := ancestor.splits_over_space_text previous
        rw [reported, if_pos hcut]
        cases rest with
        | nil =>
            have hblank : IsBlank [' '] := List.forall_mem_singleton.mpr (by decide)
            have hsplit := hover [' '] [' '] [] rfl
            rw [List.map_singleton, Text.join, ← List.cons_append, cut_append hspace,
              show cut " {}".toList = [' '] from rfl, hsplit, List.cons_append]
            rw [List.filterMap_cons_some (ancestor.bare_name_of_text hblank)]
            rfl
        | cons next rest =>
            have hlist : ' ' :: (Text.join ", ".toList ((ancestor :: next :: rest).map Ancestor.text) ++
                " {}".toList) = ' ' :: ancestor.text ++ ',' :: ' ' ::
                  (Text.join ", ".toList ((next :: rest).map Ancestor.text) ++ " {}".toList) := by
              simp [Text.join]
            have hcomma : ∀ back, cut (',' :: back) = ',' :: cut back := fun back => rfl
            have hsplit := hover (',' :: cut (' ' :: (Text.join ", ".toList
              ((next :: rest).map Ancestor.text) ++ " {}".toList))) _ _
              (Text.split_at_separator (by decide) (Int.le_refl 0) _)
            rw [hlist, cut_append hspace, hcomma, hsplit, List.append_nil]
            have hname :=
              ancestor.bare_name_of_text (show IsBlank [] from fun _ h => (List.not_mem_nil h).elim)
            rw [List.append_nil] at hname
            rw [List.filterMap_cons_some hname, ih (List.cons_ne_nil _ _)]
            rfl
      · obtain ⟨more, hmore, hsplit⟩ := Ancestor.exists_piece_of_cut hcut previous
        have hspace : ¬IsUncut (' ' :: ancestor.text) :=
          fun huncut => hcut (List.forall_mem_cons.mp huncut).2
        have hlist : ∃ back, ' ' :: (Text.join ", ".toList ((ancestor :: rest).map Ancestor.text) ++
            " {}".toList) = ' ' :: ancestor.text ++ back := by
          cases rest <;> simp [Text.join]
        obtain ⟨back, hlist⟩ := hlist
        rw [reported, if_neg hcut, hlist, cut_append_of_cut hspace, hmore, hsplit,
          List.filterMap_cons_some (Ancestor.bare_name (Or.inr rfl))]
        rfl

/-- A list is reported whole just if no type but the last one ends the header. -/
theorem names_reported_iff :
    names (reported ancestors) = names ancestors ↔
      ∀ ancestor ∈ ancestors.dropLast, IsUncut ancestor.text := by
  induction ancestors with
  | nil => simp [reported]
  | cons ancestor rest ih =>
      rw [reported]
      cases rest with
      | nil => by_cases hcut : IsUncut ancestor.text <;> simp [hcut, reported]
      | cons next rest =>
          rw [List.dropLast_cons_of_ne_nil (List.cons_ne_nil _ _), List.forall_mem_cons, ← ih]
          by_cases hcut : IsUncut ancestor.text
          · simp [hcut, names]
          · simp [hcut, names]

end List

end CodeAtlas.Heritage
