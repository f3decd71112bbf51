import CodeAtlas.Proofs.Heritage.Ancestor
import CodeAtlas.Proofs.Module.Led

/-!
# Printed class headers

A `ClassLine` is the line that declares a class with type parameters and clauses. Its header is read
back, but for two things that lose an interface (`ClassLine.KeepsClauses`): the header ends at the first
brace or semicolon, and the keyword `implements` is not found after an arrow in the arguments of the
base. `header_recovered` says that nothing else does.
-/

namespace CodeAtlas.Heritage

open Pattern (Passes CanRead Misses Scans Match)
open Text (bytes byteLength IsBlank isWhiteSpace)

/-- A class with its type parameters, the class it extends and the interfaces it implements. -/
structure ClassLine where
  name : Text
  parameters : Option Text
  base : Option Ancestor
  interfaces : List Ancestor

/-- No keyword of a declaration stands in a text with white space behind it. -/
def IsHeaderless (text : Text) : Prop :=
  ∀ front word c back, text = front ++ (word ++ c :: back) →
    word = "class".toList ∨ word = "interface".toList → isWhiteSpace c = true →
      front.getLast?.any Text.isWordChar = true

namespace ClassLine

/-- The clauses as they are written. -/
def clauses (line : ClassLine) : Text :=
  (line.base.elim [] fun base => " extends ".toList ++ base.text) ++
    if line.interfaces.isEmpty then []
    else " implements ".toList ++ Text.join ", ".toList (line.interfaces.map Ancestor.text)

/-- What follows the name. -/
def tail (line : ClassLine) : Text :=
  angled line.parameters ++ (line.clauses ++ " {}".toList)

/-- The whole line. -/
def text (line : ClassLine) : Text :=
  "class ".toList ++ line.name ++ line.tail

/-- The keyword and the name stand in front. -/
theorem text_eq (line : ClassLine) : line.text = "class ".toList ++ line.name ++ line.tail :=
  rfl

/-- The header of the line with the given names in its clauses. -/
def header (line : ClassLine) (bases interfaces : List String) : ClassHeader where
  kind := .ofClass
  name := String.ofList line.name
  line := 1
  column := 7
  bases := bases
  interfaces := interfaces

/-- The name is one that patterns read, the parameters hold no arrow, the line holds no literals,
comments and other headers, and no type of a clause holds the keyword of a clause. -/
structure IsPlain (line : ClassLine) : Prop where
  starts : ∃ c rest, line.name = c :: rest ∧ CharSet.identStart.contains c = true
  goes_on : ∀ c ∈ line.name, CharSet.identPart.contains c = true
  is_no_clause : line.name ≠ "extends".toList ∧ line.name ≠ "implements".toList
  parameters : ∀ inner ∈ line.parameters, AreArguments inner ∧ ¬['=', '>'] <:+: inner
  unquoted : Text.IsUnquoted line.tail
  no_line_comment : ¬['/', '/'] <:+: line.tail
  no_block_comment : ¬['/', '*'] <:+: line.tail
  headerless : IsHeaderless line.tail
  unclaimed : ∀ ancestor ∈ line.base.toList ++ line.interfaces,
    ¬HoldsKeyword "extends" ancestor.text ∧ ¬HoldsKeyword "implements" ancestor.text

/-- No interface is lost: the type arguments of the base hold no arrow, and neither they nor those of an
interface with another one behind it end the header. -/
def KeepsClauses (line : ClassLine) : Prop :=
  (line.interfaces = [] ∨ ∀ base ∈ line.base, IsUncut base.text ∧ ¬['=', '>'] <:+: base.text) ∧
    ∀ ancestor ∈ line.interfaces.dropLast, IsUncut ancestor.text

end ClassLine

/-- Both clauses of a header are read, and name certain types. -/
def HasClauses (header : Text) (bases interfaces : List String) : Prop :=
  clause? header (keywordAtTopLevel? header "extends") 7 (keywordAtTopLevel? header "implements") =
      some bases ∧
    clause? header (keywordAtTopLevel? header "implements") 10 (keywordAtTopLevel? header "extends") =
      some interfaces

section Found

variable {before : Option Char} {offset : Nat} {name rest read : Text} {c : Char}

/-- A character that starts an identifier is visible. -/
theorem visible_of_ident_start (h : CharSet.identStart.contains c = true) :
    isWhiteSpace c = false := by
  rcases Module.ident_start_cases h with hname | rfl
  · exact Text.not_white_space_of_name_char hname
  · decide

/-- The keyword of a class and its name are read. -/
theorem header_passes (hstarts : ∃ c rest, name = c :: rest ∧ CharSet.identStart.contains c = true)
    (hname : ∀ c ∈ name, CharSet.identPart.contains c = true)
    (hrest : ∀ c, rest.head? = some c → CharSet.identPart.contains c = false) :
    Passes headerPattern none 0 ("class ".toList ++ name) rest
      [(2, 6, 6 + byteLength name), (1, 0, 5)] := by
  obtain ⟨c, more, rfl, hc⟩ := hstarts
  have hboundary : Pattern.atWordBoundary ⟨none, 0, "class ".toList ++ c :: more ++ rest⟩ = true :=
    Pattern.at_word_boundary rfl (show Text.isWordChar 'c' = true by decide)
  have hkeyword : Passes (.group 1 (.alt (.literal "class") (.literal "interface"))) none 0
      "class".toList ([' '] ++ c :: more ++ rest) [(1, 0, 0 + byteLength "class".toList)] :=
    (Pattern.passes_literal "class" _).alt_first.group
  have hspace : Passes .blanks1 (some 's') 5 [' '] (c :: more ++ rest) [] :=
    Pattern.passes_blank (Nat.le_refl 1) (Text.head_of_cons (visible_of_ident_start hc) _)
  have hident : Passes (.group 2 .identifier) (some ' ') 6 (c :: more) rest
      [(2, 6, 6 + byteLength (c :: more))] :=
    ((Pattern.passes_char hc).seq (Pattern.passes_chars
      (fun d hd => hname d (List.mem_cons_of_mem c hd)) (Nat.zero_le _) hrest)).group
  exact Passes.after_boundary hboundary (hkeyword.seq (hspace.seq hident))

/-- A header starts with a keyword, and behind white space follows a name. -/
theorem exists_of_can_read
    (h : CanRead (.seq (.group 1 (.alt (.literal "class") (.literal "interface")))
      (.seq .blanks1 (.group 2 .identifier))) read) :
    ∃ word blank c tail, read = word ++ (blank ++ c :: tail) ∧
      (word = "class".toList ∨ word = "interface".toList) ∧ 1 ≤ blank.length ∧ IsBlank blank ∧
      CharSet.identStart.contains c = true := by
  obtain ⟨word, later, rfl, hword, hlater⟩ := h.of_seq
  obtain ⟨blank, name, rfl, hblank, hname⟩ := hlater.of_seq
  obtain ⟨first, tail, rfl, hfirst, -⟩ := hname.of_group.of_seq
  obtain ⟨c, hc, rfl⟩ := hfirst.of_char
  obtain ⟨hlength, hwhite⟩ := hblank.is_blank
  exact ⟨word, blank, c, tail, rfl, hword.of_group.of_alt.imp (·.of_literal) (·.of_literal), hlength,
    hwhite, hc⟩

/-- Headers are led by their keywords. -/
theorem header_led : Pattern.Led ["class".toList, "interface".toList] CharSet.identStart.contains
    headerPattern := by
  refine Pattern.led_of_reads (List.forall_mem_cons.mpr ⟨⟨by decide, by decide⟩,
    List.forall_mem_singleton.mpr ⟨by decide, by decide⟩⟩) fun read hread => ?_
  obtain ⟨word, blank, c, tail, rfl, hword, hlength, hblank, hc⟩ := exists_of_can_read hread
  refine ⟨word, by simpa using hword, blank, c, tail, rfl, hblank, visible_of_ident_start hc, hc, ?_⟩
  rintro rfl
  exact absurd hlength (by decide)

/-- Where a header starts stands a keyword with white space behind it and no word in front of it. -/
theorem exists_of_match (h : Pattern.matchAt? headerPattern ⟨before, offset, rest⟩ ≠ none) :
    before.any Text.isWordChar = false ∧ ∃ word c back, rest = word ++ c :: back ∧
      (word = "class".toList ∨ word = "interface".toList) ∧ isWhiteSpace c = true := by
  refine ⟨(header_led.starts _ _ _ h).1, ?_⟩
  by_contra hnone
  refine h (Pattern.match_at_of_fails (Pattern.fails_of_cannot_read fun read hread hprefix => hnone ?_))
  obtain ⟨boundary, later, rfl, hboundary, hlater⟩ := hread.of_seq
  obtain rfl := hboundary.of_word_boundary
  obtain ⟨word, blank, c, tail, rfl, hword, hlength, hblank, -⟩ := exists_of_can_read hlater
  obtain ⟨back, rfl⟩ := hprefix
  obtain ⟨d, more, rfl⟩ := List.exists_cons_of_length_pos hlength
  exact ⟨word, d, more ++ c :: tail ++ back, by simp, hword, hblank d List.mem_cons_self⟩

/-- No header starts in a text without headers that does not go on with a word. -/
theorem headerless_misses (h : IsHeaderless (c :: rest)) (hc : Text.isWordChar c = false) :
    Misses headerPattern before (c :: rest) [] := by
  intro offset front d back hsplit
  by_contra hsome
  obtain ⟨hbefore, word, e, more, hword, hkeyword, hblank⟩ := exists_of_match hsome
  rw [List.append_nil] at hword
  cases front with
  | nil =>
      obtain ⟨rfl, -⟩ := List.cons.inj hsplit
      rcases hkeyword with rfl | rfl
      · obtain ⟨rfl, -⟩ := List.cons.inj hword
        exact absurd hc (by decide)
      · obtain ⟨rfl, -⟩ := List.cons.inj hword
        exact absurd hc (by decide)
  | cons f front =>
      have hlast := h (f :: front) word e more (by rw [hsplit, hword]) hkeyword hblank
      rw [List.getLast?_cons, Option.some_or, ← List.getLast?_cons, hlast] at hbefore
      cases hbefore

end Found

section Clauses

variable {header front part back : Text} {keyword : String} {length : Nat}

/-- A clause goes to the end of the header, if the other one does not follow it. -/
theorem clause_to_end (keyword : String) (hheader : header = front ++ (keyword.toList ++ part))
    (hlength : byteLength keyword.toList = length) {other : Option Nat}
    (hother : ∀ stop ∈ other, stop ≤ byteLength front) :
    clause? header (some (byteLength front)) length other = some (typeNames part) := by
  have hslice : Text.slice? header (byteLength front + length) (byteLength header) = some part := by
    refine Text.slice_eq_some_iff.mpr ⟨⟨front ++ keyword.toList, [], by simp [hheader], ?_⟩, ?_⟩
    · rw [Text.byte_length_append, hlength]
    · rw [hheader, Text.byte_length_append, Text.byte_length_append, hlength, Nat.add_assoc]
  cases other with
  | none =>
      rw [clause?, hslice]
      rfl
  | some stop =>
      rw [clause?, if_neg (Nat.not_lt.mpr (hother stop rfl)), hslice]
      rfl

/-- A clause goes up to the other one, if that follows it. -/
theorem clause_to_other (keyword : String) (hheader : header = front ++ (keyword.toList ++ (part ++ back)))
    (hlength : byteLength keyword.toList = length) (hpos : 0 < length) :
    clause? header (some (byteLength front)) length
      (some (byteLength front + length + byteLength part)) = some (typeNames part) := by
  have hslice : Text.slice? header (byteLength front + length)
      (byteLength front + length + byteLength part) = some part := by
    refine Text.slice_eq_some_iff.mpr ⟨⟨front ++ keyword.toList, back, by simp [hheader], ?_⟩, rfl⟩
    rw [Text.byte_length_append, hlength]
  rw [clause?, if_pos (by omega), hslice]
  rfl

/-- A keyword does not stand in the part of a text that belongs to the header if it does not stand in
the text. -/
theorem not_holds_cut (hkeyword : IsKeyword keyword) (h : ¬HoldsKeyword keyword part) :
    ¬HoldsKeyword keyword (cut part) := by
  intro hholds
  have hsplit : cut part ++ part.dropWhile (fun c => c != '{' && c != ';') = part :=
    List.takeWhile_append_dropWhile
  refine h ?_
  rw [← hsplit]
  cases hrest : part.dropWhile fun c => c != '{' && c != ';' with
  | nil => rwa [List.append_nil]
  | cons c rest =>
      have hstop := Text.head_drop_while hrest
      have hgap : IsGap c := by
        by_cases hbrace : c = '{'
        · exact hbrace ▸ (by decide)
        · have hsemicolon : c = ';' := by simpa [hbrace] using hstop
          exact hsemicolon ▸ (by decide)
      exact (holds_keyword_gap hkeyword hgap).mpr (Or.inl hholds)

/-- A keyword that stands in no type of a list does not stand in the list. -/
theorem not_holds_list (hkeyword : IsKeyword keyword) {ancestors : List Ancestor}
    (h : ∀ ancestor ∈ ancestors, ¬HoldsKeyword keyword ancestor.text) :
    ¬HoldsKeyword keyword (Text.join ", ".toList (ancestors.map Ancestor.text) ++ " {}".toList) := by
  have hcomma : IsGap ',' := by decide
  have hspace : IsGap ' ' := by decide
  have hopen : IsGap '{' := by decide
  have hclose : IsGap '}' := by decide
  have hend : ∀ text, HoldsKeyword keyword (text ++ " {}".toList) ↔ HoldsKeyword keyword text := by
    intro text
    rw [show " {}".toList = [' ', '{', '}'] from rfl, holds_keyword_gap hkeyword hspace,
      holds_keyword_cons hkeyword hopen, holds_keyword_cons hkeyword hclose]
    exact or_iff_left (not_holds_keyword_nil hkeyword)
  rw [hend]
  induction ancestors with
  | nil => exact not_holds_keyword_nil hkeyword
  | cons ancestor rest ih =>
      obtain ⟨hancestor, hrest⟩ := List.forall_mem_cons.mp h
      cases rest with
      | nil => exact hancestor
      | cons next rest =>
          have hjoin : Text.join ", ".toList ((ancestor :: next :: rest).map Ancestor.text) =
              ancestor.text ++ ',' :: ' ' ::
                Text.join ", ".toList ((next :: rest).map Ancestor.text) := by
            simp [Text.join]
          rw [hjoin, holds_keyword_gap hkeyword hcomma, holds_keyword_cons hkeyword hspace, not_or]
          exact ⟨hancestor, ih hrest⟩

/-- The keyword that a header starts with is found. -/
theorem keyword_at_start (hkeyword : IsKeyword keyword) (more : Text) :
    keywordAtTopLevel? (' ' :: (keyword.toList ++ ' ' :: more)) keyword = some 1 :=
  keyword_found hkeyword (not_holds_keyword_nil hkeyword) rfl more

/-- A header with a base has one clause if the keyword of the other one is not found. -/
theorem has_clauses_of_base {more : Text} (hheader : header = ' ' :: ("extends".toList ++ ' ' :: more))
    (h : keywordAtTopLevel? header "implements" = none) :
    HasClauses header (typeNames (' ' :: more)) [] := by
  have hextends : keywordAtTopLevel? header "extends" = some (byteLength [' ']) := by
    rw [hheader]
    exact keyword_at_start extends_is_keyword more
  rw [HasClauses, hextends, h]
  exact ⟨clause_to_end "extends" hheader rfl fun _ hstop => absurd hstop (Option.not_mem_none _), rfl⟩

/-- A header with interfaces has one clause if the keyword of the other one is not in it. -/
theorem has_clauses_of_interfaces {more : Text}
    (hheader : header = ' ' :: ("implements".toList ++ ' ' :: more))
    (h : ¬HoldsKeyword "extends" more) : HasClauses header [] (typeNames (' ' :: more)) := by
  have hspace : IsGap ' ' := by decide
  have himplements : keywordAtTopLevel? header "implements" = some (byteLength [' ']) := by
    rw [hheader]
    exact keyword_at_start implements_is_keyword more
  have hextends : keywordAtTopLevel? header "extends" = none := by
    refine keyword_none ?_
    rw [hheader, holds_keyword_cons extends_is_keyword hspace,
      holds_keyword_gap extends_is_keyword hspace, not_or]
    exact ⟨by decide, h⟩
  rw [HasClauses, hextends, himplements]
  exact ⟨rfl, clause_to_end "implements" hheader rfl fun _ hstop => absurd hstop (Option.not_mem_none _)⟩

/-- The keyword in front of a base does not change the depth. -/
theorem byte_depth_behind_extends (text : Text) :
    byteDepth (bytes (" extends ".toList ++ text)) = byteDepth (bytes text) := by
  have hzero : byteDepth (bytes " extends ".toList) = 0 := by decide +kernel
  rw [Text.bytes_append, byte_depth_append, hzero, Int.zero_add]

/-- A header with a base and interfaces has both clauses if the base leads to no other depth. -/
theorem has_clauses_of_both {base more : Text}
    (hheader : header = " extends ".toList ++ base ++ ' ' :: ("implements".toList ++ ' ' :: more))
    (hbase : ¬HoldsKeyword "implements" base) (hdepth : byteDepth (bytes base) = 0) :
    HasClauses header (typeNames (' ' :: (base ++ [' ']))) (typeNames (' ' :: more)) := by
  have hspace : IsGap ' ' := by decide
  have hextends : keywordAtTopLevel? header "extends" = some (byteLength [' ']) := by
    rw [hheader]
    exact keyword_at_start extends_is_keyword _
  have hfront : ¬HoldsKeyword "implements" (" extends ".toList ++ base) := by
    have hsplit : " extends ".toList ++ base = " extends".toList ++ ' ' :: base := rfl
    rw [hsplit, holds_keyword_gap implements_is_keyword hspace, not_or]
    exact ⟨by decide, hbase⟩
  have hzero : byteDepth (bytes (" extends ".toList ++ base)) = 0 :=
    (byte_depth_behind_extends base).trans hdepth
  have himplements : keywordAtTopLevel? header "implements" =
      some (byteLength (" extends ".toList ++ base ++ [' '])) := by
    rw [hheader, keyword_found implements_is_keyword hfront hzero more,
      Text.byte_length_append _ [' ']]
    rfl
  have hsplit : header = [' '] ++ ("extends".toList ++ (' ' :: (base ++ [' ']) ++
      ("implements".toList ++ ' ' :: more))) := by
    rw [hheader]
    simp
  have hstop : byteLength (" extends ".toList ++ base ++ [' ']) =
      byteLength [' '] + 7 + byteLength (' ' :: (base ++ [' '])) := by
    have hfront : " extends ".toList ++ base ++ [' '] =
        [' '] ++ "extends".toList ++ (' ' :: (base ++ [' '])) := by simp
    rw [hfront, Text.byte_length_append, Text.byte_length_append]
    rfl
  have hother : ∀ stop ∈ some (byteLength [' ']),
      stop ≤ byteLength (" extends ".toList ++ base ++ [' ']) := by
    intro stop hmem
    obtain rfl := Option.some.inj hmem
    rw [hstop]
    omega
  rw [HasClauses, hextends, himplements]
  refine ⟨?_, clause_to_end "implements" (by rw [hheader]; simp) rfl hother⟩
  rw [hstop]
  exact clause_to_other "extends" hsplit rfl (by decide)

/-- The list of types in a header, up to where it ends. -/
def listed (ancestors : List Ancestor) : Text :=
  cut (Text.join ", ".toList (ancestors.map Ancestor.text) ++ " {}".toList)

/-- The types of a list are named up to the first one that ends the header. -/
theorem names_of_listed {ancestors : List Ancestor} (hne : ancestors ≠ []) :
    typeNames (' ' :: listed ancestors) = names (reported ancestors) :=
  names_of_list hne none

/-- The header of a class with a base alone names it. -/
theorem has_clauses_of_single {base : Ancestor} (h : ¬HoldsKeyword "implements" base.text) :
    HasClauses (" extends ".toList ++ listed [base]) (names [base]) [] := by
  have hspace : IsGap ' ' := by decide
  have hnone : keywordAtTopLevel? (" extends ".toList ++ listed [base]) "implements" = none := by
    have hsplit : " extends ".toList ++ listed [base] = " extends".toList ++ ' ' :: listed [base] := rfl
    refine keyword_none ?_
    rw [hsplit, holds_keyword_gap implements_is_keyword hspace, not_or]
    exact ⟨by decide, not_holds_cut implements_is_keyword
      (not_holds_list implements_is_keyword (List.forall_mem_singleton.mpr h))⟩
  have hnames : names (reported [base]) = names [base] :=
    names_reported_iff.mpr fun _ hmem => absurd hmem List.not_mem_nil
  rw [← hnames, ← names_of_listed (List.cons_ne_nil _ _)]
  exact has_clauses_of_base rfl hnone

/-- Over a type the depth sinks by one for each arrow. -/
theorem byte_depth_text_eq_zero_iff {ancestor : Ancestor} :
    byteDepth (bytes ancestor.text) = 0 ↔ ¬['=', '>'] <:+: ancestor.text := by
  have hnested : Text.Brackets.ofTypes.awaitedAfter? [] none ancestor.text = some [] :=
    Ancestor.awaited_after_text
  have harrow : Text.arrowCount none ancestor.text = 0 ↔ ¬['=', '>'] <:+: ancestor.text := by
    rw [Text.arrow_count_eq_zero_iff]
    exact and_iff_right fun hnone => absurd hnone.1 (Option.some_ne_none '=').symm
  rw [byte_depth_of_awaited hnested, ← harrow]
  omega

end Clauses

section Line

variable {line : ClassLine}

/-- The header of a class with interfaces alone names them up to the one that ends the header. -/
theorem has_clauses_of_list {interfaces : List Ancestor} (hne : interfaces ≠ [])
    (h : ∀ ancestor ∈ interfaces, ¬HoldsKeyword "extends" ancestor.text) :
    HasClauses (" implements ".toList ++ listed interfaces) [] (names (reported interfaces)) := by
  rw [← names_of_listed hne]
  exact has_clauses_of_interfaces rfl
    (not_holds_cut extends_is_keyword (not_holds_list extends_is_keyword h))

/-- The header of a class with a base and interfaces names all of them if there is no arrow in the base,
and else no interface. -/
theorem exists_clauses_of_both {base : Ancestor} {interfaces : List Ancestor} (hne : interfaces ≠ [])
    (huncut : IsUncut base.text)
    (h : ∀ ancestor ∈ base :: interfaces, ¬HoldsKeyword "implements" ancestor.text) :
    ∃ bases found, HasClauses
        (" extends ".toList ++ base.text ++ (" implements ".toList ++ listed interfaces)) bases found ∧
      ((¬['=', '>'] <:+: base.text ∧ bases = names [base] ∧ found = names (reported interfaces)) ∨
        (['=', '>'] <:+: base.text ∧ found = [])) := by
  have hspace : IsGap ' ' := by decide
  obtain ⟨hbase, hinterfaces⟩ := List.forall_mem_cons.mp h
  have hlist := not_holds_cut implements_is_keyword (not_holds_list implements_is_keyword hinterfaces)
  by_cases harrow : ['=', '>'] <:+: base.text
  · have hdepth : byteDepth (bytes (" extends ".toList ++ base.text)) ≠ 0 := by
      rw [byte_depth_behind_extends]
      exact fun hzero => byte_depth_text_eq_zero_iff.mp hzero harrow
    have hfront : ¬HoldsKeyword "implements" (" extends ".toList ++ base.text) := by
      have hsplit : " extends ".toList ++ base.text = " extends".toList ++ ' ' :: base.text := rfl
      rw [hsplit, holds_keyword_gap implements_is_keyword hspace, not_or]
      exact ⟨by decide, hbase⟩
    have hlost := keyword_lost implements_is_keyword hfront hdepth hlist
    exact ⟨_, [], has_clauses_of_base rfl hlost, Or.inr ⟨harrow, rfl⟩⟩
  · have hboth : HasClauses (" extends ".toList ++ base.text ++
        ' ' :: ("implements".toList ++ ' ' :: listed interfaces)) _ _ :=
      has_clauses_of_both rfl hbase (byte_depth_text_eq_zero_iff.mpr harrow)
    have hsingle : ' ' :: (base.text ++ [' ']) = ' ' :: listed [base] := by
      rw [listed, List.map_singleton, Text.join, cut_append huncut]
      rfl
    have hnames : names (reported [base]) = names [base] :=
      names_reported_iff.mpr fun _ hmem => absurd hmem List.not_mem_nil
    rw [hsingle, names_of_listed (List.cons_ne_nil _ _), names_of_listed hne, hnames] at hboth
    exact ⟨_, _, hboth, Or.inl ⟨harrow, rfl, rfl⟩⟩

/-- The header of a class with a base alone ends in the base or behind it. -/
theorem cut_base (base : Ancestor) :
    cut (" extends ".toList ++ base.text ++ " {}".toList) = " extends ".toList ++ listed [base] := by
  rw [List.append_assoc, cut_append (by decide)]
  rfl

/-- A header that ends in its base goes on with no interface. -/
theorem cut_base_of_cut {base : Ancestor} (h : ¬IsUncut base.text) (back : Text) :
    cut (" extends ".toList ++ base.text ++ back) = " extends ".toList ++ listed [base] := by
  rw [List.append_assoc, cut_append (by decide), cut_append_of_cut h, listed, List.map_singleton,
    Text.join, cut_append_of_cut h]

/-- The header of a class with interfaces alone ends in the list of them or behind it. -/
theorem cut_interfaces (interfaces : List Ancestor) :
    cut (" implements ".toList ++ Text.join ", ".toList (interfaces.map Ancestor.text) ++ " {}".toList) =
      " implements ".toList ++ listed interfaces := by
  rw [List.append_assoc, cut_append (by decide)]
  rfl

/-- A header that does not end in its base goes on with the interfaces. -/
theorem cut_both {base : Ancestor} (h : IsUncut base.text) (interfaces : List Ancestor) :
    cut (" extends ".toList ++ base.text ++
        (" implements ".toList ++ Text.join ", ".toList (interfaces.map Ancestor.text)) ++ " {}".toList) =
      " extends ".toList ++ base.text ++ (" implements ".toList ++ listed interfaces) := by
  have hfront : IsUncut (" extends ".toList ++ base.text) := List.forall_mem_append.mpr ⟨by decide, h⟩
  rw [List.append_assoc, cut_append hfront, cut_interfaces]

/-- The clauses of a header are read, and all that they name is recovered just if they are kept. -/
theorem exists_clauses (h : line.IsPlain) : ∃ bases interfaces,
    HasClauses (cut (line.clauses ++ " {}".toList)) bases interfaces ∧
      ((bases = names line.base.toList ∧ interfaces = names line.interfaces) ↔ line.KeepsClauses) := by
  have hclaims := h.unclaimed
  rw [ClassLine.KeepsClauses, ClassLine.clauses]
  cases hinterfaces : line.interfaces with
  | nil =>
      cases hbase : line.base with
      | none => exact ⟨[], [], ⟨rfl, rfl⟩, by simp [names]⟩
      | some base =>
          rw [hbase, hinterfaces] at hclaims
          refine ⟨names [base], [], ?_, by simp [names]⟩
          change HasClauses (cut (" extends ".toList ++ base.text ++ [] ++ " {}".toList)) _ _
          rw [List.append_nil, cut_base]
          exact has_clauses_of_single (hclaims base (by simp)).2
  | cons first rest =>
      have hne : first :: rest ≠ [] := List.cons_ne_nil _ _
      have hnames : names (first :: rest) ≠ [] := List.cons_ne_nil _ _
      cases hbase : line.base with
      | none =>
          rw [hbase, hinterfaces] at hclaims
          refine ⟨[], names (reported (first :: rest)), ?_, ?_⟩
          · change HasClauses (cut (" implements ".toList ++
              Text.join ", ".toList ((first :: rest).map Ancestor.text) ++ " {}".toList)) _ _
            rw [cut_interfaces]
            exact has_clauses_of_list hne fun ancestor hmem => (hclaims ancestor (by simpa using hmem)).1
          · simp only [← names_reported_iff]
            simp [names]
      | some base =>
          rw [hbase, hinterfaces] at hclaims
          by_cases huncut : IsUncut base.text
          · obtain ⟨bases, found, hclauses, hfound⟩ := exists_clauses_of_both hne huncut
              fun ancestor hmem => (hclaims ancestor (by simpa using hmem)).2
            refine ⟨bases, found, cut_both huncut (first :: rest) ▸ hclauses, ?_⟩
            rcases hfound with ⟨harrow, rfl, rfl⟩ | ⟨harrow, rfl⟩
            · simp only [← names_reported_iff]
              simp [huncut, harrow]
            · exact iff_of_false (fun hall => hnames hall.2.symm) fun hkeeps =>
                (hkeeps.1.resolve_left hne base rfl).2 harrow
          · refine ⟨names [base], [], ?_, iff_of_false (fun hall => hnames hall.2.symm) fun hkeeps =>
              huncut (hkeeps.1.resolve_left hne base rfl).1⟩
            change HasClauses (cut (" extends ".toList ++ base.text ++ (" implements ".toList ++
              Text.join ", ".toList ((first :: rest).map Ancestor.text)) ++ " {}".toList)) _ _
            rw [List.append_assoc _ _ " {}".toList, cut_base_of_cut huncut]
            exact has_clauses_of_single (hclaims base (by simp)).2

/-- The clauses, or the body, stand behind a space. -/
theorem exists_after_parameters (line : ClassLine) : ∃ c rest,
    line.clauses ++ " {}".toList = ' ' :: c :: rest ∧ isWhiteSpace c = false ∧ c ≠ '<' := by
  rw [ClassLine.clauses]
  cases line.base with
  | none =>
      cases line.interfaces with
      | nil => exact ⟨'{', ['}'], rfl, by decide, by decide⟩
      | cons first rest => exact ⟨'i', _, rfl, by decide, by decide⟩
  | some base => exact ⟨'e', _, rfl, by decide, by decide⟩

/-- Behind the name comes a space or an angle bracket. -/
theorem exists_tail (line : ClassLine) : ∃ c rest, line.tail = c :: rest ∧ (c = ' ' ∨ c = '<') := by
  obtain ⟨c, rest, hrest, -⟩ := exists_after_parameters line
  rw [ClassLine.tail, hrest]
  cases line.parameters with
  | none => exact ⟨' ', _, rfl, Or.inl rfl⟩
  | some inner => exact ⟨'<', _, rfl, Or.inr rfl⟩

/-- Nothing of a plain line is masked. -/
theorem mask_line (h : line.IsPlain) : Text.mask .all line.text = line.text := by
  have hident : ∀ c d, CharSet.identPart.contains c = true → CharSet.identPart.contains d = false →
      c ≠ d := by
    rintro c d hc hd rfl
    rw [hc] at hd
    cases hd
  have hname : ∀ c ∈ line.name, Text.IsPlain c := fun c hc =>
    have hpart := h.goes_on c hc
    ⟨hident c _ hpart (by decide), fun hquote => by
      rcases hquote with hquote | hquote | hquote <;> exact hident c _ hpart (by decide) hquote⟩
  have hplain : ∀ c ∈ "class ".toList ++ line.name, Text.IsPlain c :=
    List.forall_mem_append.mpr ⟨by
      simp only [String.reduceToList, List.forall_mem_cons, Text.IsPlain, Text.IsQuote]
      decide, hname⟩
  have hnone : ∀ c, ([] : Text).head? = some c → c ≠ '/' ∧ c ≠ '*' := fun c hc => by cases hc
  have htail := Text.mask_from_uncommented .all h.unquoted h.no_line_comment h.no_block_comment hnone
  have hkept : Text.maskFrom .all .code line.tail = line.tail := by
    rw [List.append_nil] at htail
    exact htail.trans (List.append_nil _)
  have hmask := Text.mask_from_plain .all hplain line.tail
  rw [hkept] at hmask
  exact hmask

/-- A line declares one class. -/
theorem search_line (h : line.IsPlain) : headerPattern.searchAll line.text =
    [⟨0, 0 + byteLength ("class ".toList ++ line.name), [(2, 6, 6 + byteLength line.name), (1, 0, 5)]⟩] := by
  obtain ⟨c, rest, htail, hc⟩ := exists_tail line
  have hmark : Text.isWordChar c = false ∧ CharSet.identPart.contains c = false := by
    rcases hc with rfl | rfl
    · decide
    · decide
  have hpasses : Passes headerPattern none 0 ("class ".toList ++ line.name) line.tail
      [(2, 6, 6 + byteLength line.name), (1, 0, 5)] :=
    header_passes h.starts h.goes_on (by rw [htail]; exact Text.head_of_cons hmark.2 rest)
  have hheaderless := h.headerless
  rw [htail] at hheaderless
  have hmisses : ∀ before, Misses headerPattern before line.tail [] := fun before =>
    htail ▸ headerless_misses hheaderless hmark.1
  have hstop : ∀ before offset, Scans headerPattern ⟨before, offset, []⟩ [] := fun before offset => by
    refine .stop ?_
    by_contra hsome
    obtain ⟨-, word, d, back, hnil, -⟩ := exists_of_match hsome
    simp at hnil
  have hlater : ∀ before offset, Scans headerPattern ⟨before, offset, line.tail⟩ [] :=
    fun before offset => by
      have hscans := Scans.of_misses (hmisses before) (hstop _ (offset + byteLength line.tail))
      rwa [List.append_nil] at hscans
  exact Pattern.search_all_of_scans (.hit (List.cons_ne_nil _ _) hpasses (hlater _ _))

/-- The clauses start behind the parameters. -/
theorem header_start_line (h : line.IsPlain) :
    headerStart? line.text (6 + byteLength line.name) =
      some (6 + byteLength line.name + byteLength (angled line.parameters)) := by
  have hsize : byteLength ("class ".toList ++ line.name) = 6 + byteLength line.name :=
    Text.byte_length_append _ _
  have hdrop : Text.dropBytes? line.text (6 + byteLength line.name) = some line.tail :=
    Text.drop_bytes_eq_some_iff.mpr ⟨_, rfl, hsize⟩
  unfold headerStart?
  rw [hdrop]
  cases hparameters : line.parameters with
  | none =>
      obtain ⟨c, rest, hrest, hvisible, hangle⟩ := exists_after_parameters line
      have htail : line.tail = ' ' :: c :: rest := by
        rw [ClassLine.tail, hparameters]
        exact hrest
      have hhead : (Text.trimStart (' ' :: c :: rest)).head? = some c := by
        rw [Text.trimStart, List.dropWhile_cons_of_pos (by decide),
          List.dropWhile_cons_of_neg (by simp [hvisible])]
        rfl
      dsimp only [bind, Option.bind]
      rw [htail, hhead, if_neg fun heq => hangle (Option.some.inj heq)]
      rfl
  | some inner =>
      obtain ⟨harguments, harrow⟩ := h.parameters inner hparameters
      have htail : line.tail = '<' :: (inner ++ '>' :: (line.clauses ++ " {}".toList)) := by
        rw [ClassLine.tail, hparameters, angled, Option.elim_some, List.cons_append, List.append_assoc]
        rfl
      have hhead : (Text.trimStart line.tail).head? = some '<' := by
        rw [htail, Text.trimStart, List.dropWhile_cons_of_neg (by decide)]
        rfl
      have hfind : Text.findChar? line.tail (· = '<') = some 0 := by
        rw [htail]
        rfl
      have hfree : Text.arrowCount (some '<') inner = 0 := by
        rw [Text.arrow_count_eq_zero_iff]
        exact ⟨fun hequals => absurd hequals.1 (by decide), harrow⟩
      have hclose : Text.matchingDelimiter? line.text (6 + byteLength line.name) =
          some (6 + byteLength line.name + 1 + byteLength inner) := by
        rw [ClassLine.text_eq, htail, ← hsize]
        exact Text.Brackets.matching_of_balanced rfl harguments.nested (Text.closes_each_angle hfree) _ _
      have hstop : byteLength (angled (some inner)) = 1 + byteLength inner + 1 := by
        rw [angled, Option.elim_some, byteLength, Text.byte_length_append, ← Nat.add_assoc]
        rfl
      dsimp only [bind, Option.bind]
      rw [hhead, if_pos rfl, hfind, Option.getD_some, Nat.add_zero, hclose, hstop]
      exact congrArg some (show 6 + byteLength line.name + 1 + byteLength inner + 1 = _ by omega)

/-- The name of a class stands at column seven of the line. -/
theorem place_of_name (h : line.IsPlain) :
    Text.lineOfOffset line.text 6 = 1 ∧ Text.columnAt? line.text 6 = some 7 := by
  obtain ⟨c, more, hstart, -⟩ := h.starts
  have hsplit : line.text = "class ".toList ++ c :: (more ++ line.tail) := by
    rw [ClassLine.text_eq, hstart, List.append_assoc]
    rfl
  have htake : Text.takeBytes? line.text 6 = some "class ".toList :=
    Text.take_bytes_eq_some_iff.mpr ⟨_, hsplit, rfl⟩
  have hle : 6 ≤ byteLength line.text := by
    rw [hsplit, Text.byte_length_append]
    exact Nat.le_add_right 6 _
  constructor
  · rw [hsplit]
    rfl
  · rw [Text.columnAt?, Nat.min_eq_left hle, htake, hsplit]
    rfl

/-- The name of a class is not taken for the keyword of a clause. -/
theorem name_not_clause (h : line.IsPlain) :
    (String.ofList line.name = "extends" || String.ofList line.name = "implements") = false := by
  have hne : ∀ word : String, line.name ≠ word.toList → String.ofList line.name ≠ word := by
    rintro word hword rfl
    exact hword String.toList_ofList.symm
  obtain ⟨hextends, himplements⟩ := h.is_no_clause
  simp [hne _ hextends, hne _ himplements]

/-- The header of a line is read. -/
theorem header_of_line (h : line.IsPlain) {bases interfaces : List String}
    (hclauses : HasClauses (cut (line.clauses ++ " {}".toList)) bases interfaces) :
    header? line.text line.text ⟨0, 0 + byteLength ("class ".toList ++ line.name),
      [(2, 6, 6 + byteLength line.name), (1, 0, 5)]⟩ = some (some (line.header bases interfaces)) := by
  have hkeyword : Text.slice? line.text 0 5 = some "class".toList :=
    Text.slice_eq_some_iff.mpr ⟨⟨[], [' '] ++ line.name ++ line.tail, rfl, rfl⟩, rfl⟩
  have hname : Text.slice? line.text 6 (6 + byteLength line.name) = some line.name :=
    Text.slice_eq_some_iff.mpr ⟨⟨"class ".toList, line.tail, List.append_assoc _ _ _, rfl⟩, rfl⟩
  have hbefore : Text.takeBytes? line.text 0 = some [] :=
    Text.take_bytes_eq_some_iff.mpr ⟨line.text, rfl, rfl⟩
  have hrest : Text.dropBytes? line.text
      (6 + byteLength line.name + byteLength (angled line.parameters)) =
        some (line.clauses ++ " {}".toList) := by
    refine Text.drop_bytes_eq_some_iff.mpr
      ⟨"class ".toList ++ line.name ++ angled line.parameters, ?_, ?_⟩
    · rw [ClassLine.text_eq, ClassLine.tail, List.append_assoc _ (angled _)]
    · rw [Text.byte_length_append, Text.byte_length_append]
      rfl
  have hbody : (line.clauses ++ " {}".toList).any (fun c => c = '{' || c = ';') = true :=
    List.any_eq_true.mpr ⟨'{', by simp, by decide⟩
  obtain ⟨hline, hcolumn⟩ := place_of_name h
  obtain ⟨hbases, hinterfaces⟩ := hclauses
  have hfirst : ∀ n, (Match.group? ⟨0, n, [(2, 6, 6 + byteLength line.name), (1, 0, 5)]⟩ 1) = some (0, 5) :=
    fun n => rfl
  have hsecond : ∀ n, (Match.group? ⟨0, n, [(2, 6, 6 + byteLength line.name), (1, 0, 5)]⟩ 2) =
      some (6, 6 + byteLength line.name) := fun n => rfl
  unfold header?
  simp only [Match.text?, hfirst, hsecond, Option.bind_some, hkeyword, hname, hbefore, bind, pure]
  have hclause := name_not_clause h
  have hdot : (Text.trimEnd []).getLast? ≠ some '.' := by decide
  have hcut : (line.clauses ++ " {}".toList).takeWhile (fun c => c != '{' && c != ';') =
      cut (line.clauses ++ " {}".toList) := rfl
  rw [hclause, if_neg Bool.false_ne_true, if_neg hdot, header_start_line h, Option.bind_some, hrest,
    Option.bind_some, hbody, if_neg (by decide), hcut, hbases, Option.bind_some, hinterfaces,
    Option.bind_some, hcolumn, Option.bind_some, hline, if_pos trivial]
  rfl

/-- The header of a printed class line is the only one that is read from it, and its clauses name all
that is written in them just if they are kept. -/
theorem header_recovered (h : line.IsPlain) : ∃ bases interfaces,
    scan? line.text = some [line.header bases interfaces] ∧
      ((bases = names line.base.toList ∧ interfaces = names line.interfaces) ↔ line.KeepsClauses) := by
  obtain ⟨bases, interfaces, hclauses, hkept⟩ := exists_clauses h
  refine ⟨bases, interfaces, ?_, hkept⟩
  rw [scan?, mask_line h, search_line h, List.mapM_cons, header_of_line h hclauses]
  rfl

end Line

/-- A text without the keywords of declarations holds no header. -/
theorem headerless_of_no_keyword {text : Text} (hclass : ¬"class".toList <:+: text)
    (hinterface : ¬"interface".toList <:+: text) : IsHeaderless text := by
  rintro front word c back rfl hword -
  have hpart : word <:+: front ++ (word ++ c :: back) := ⟨front, c :: back, by rw [List.append_assoc]⟩
  rcases hword with rfl | rfl
  · exact absurd hpart hclass
  · exact absurd hpart hinterface

/-- A class with arrows in the arguments of an interface and braces in those of the last one. -/
def nestedLine : ClassLine where
  name := "N".toList
  parameters := some "T extends [T, U], V = A<T>".toList
  base := some ⟨["ns".toList], "Base".toList, some "Map<T, [V]>".toList, by decide +kernel,
    by decide +kernel⟩
  interfaces := [⟨[], "I".toList, some "(a: T) => [T, U]".toList, by decide +kernel, by decide +kernel⟩,
    ⟨["m".toList, "n".toList], "J".toList, some "{ b: T; c: U }".toList, by decide +kernel,
      by decide +kernel⟩]

/-- Its header is recovered. -/
theorem nested_line_recovered :
    scan? nestedLine.text = some [nestedLine.header ["Base"] ["I", "J"]] := by
  have hplain : nestedLine.IsPlain :=
    { starts := ⟨'N', [], rfl, by decide⟩
      goes_on := by decide +kernel
      is_no_clause := by decide +kernel
      parameters := by decide +kernel
      unquoted := by decide +kernel
      no_line_comment := by decide +kernel
      no_block_comment := by decide +kernel
      headerless := headerless_of_no_keyword (by decide +kernel) (by decide +kernel)
      unclaimed := by decide +kernel }
  obtain ⟨bases, interfaces, hscan, hkept⟩ := header_recovered hplain
  have hkeeps : nestedLine.KeepsClauses := by
    rw [ClassLine.KeepsClauses]
    decide +kernel
  obtain ⟨rfl, rfl⟩ := hkept.mpr hkeeps
  exact hscan

/-- An arrow in the parameters loses every clause, one in the arguments of the base loses the
interfaces, and a brace in the arguments of an interface loses those behind it. -/
theorem clauses_lost :
    scan? "class N<T = (a) => R> extends B \x7b\x7d".toList = some [⟨.ofClass, "N", 1, 7, [], []⟩] ∧
    scan? "class N extends B<(a) => R> implements I \x7b\x7d".toList =
      some [⟨.ofClass, "N", 1, 7, ["B"], []⟩] ∧
    scan? "class N implements I<\x7b a: b \x7d>, J \x7b\x7d".toList =
      some [⟨.ofClass, "N", 1, 7, [], ["I"]⟩] := by
  decide +kernel

end CodeAtlas.Heritage
