import TypeShape.Proofs.Rendering

/-!
# Descriptors are read back

The canonical text of a canonical descriptor is read as that descriptor (`read_render`). For each of
the five forms it is shown that no form of higher precedence applies to its canonical text. Because
all that is read is canonical, showing what was read and reading it again changes nothing
(`parse_render_of_parse`).
-/

namespace TypeShape

/-- The brackets that end a text do not let it be enclosed in parentheses. -/
lemma not_enclosed_of_getLast? {text : Text} (h : text.getLast? ≠ some ')') : ¬ Enclosed text := by
  rintro ⟨inside, _, rfl⟩
  rw [← List.cons_append, List.getLast?_concat] at h
  exact h rfl

/-- What begins otherwise is not enclosed in parentheses. -/
lemma not_enclosed_of_head? {text : Text} (h : text.head? ≠ some '(') : ¬ Enclosed text := by
  rintro ⟨inside, _, rfl⟩
  exact h rfl

/-- A text with brackets after it ends in a bracket. -/
lemma getLast?_brackets (element inside : Text) :
    (element ++ '[' :: (inside ++ [']'])).getLast? = some ']' :=
  Text.getLast?_append_pair ..

/-- Operators outside of delimiters do not let a text be enclosed in parentheses. -/
lemma Segments.not_enclosed {separator : Char} {text : Text} {segments : List Text}
    (h : Segments separator text segments) (plain : Role.of separator = .plain)
    (several : 2 ≤ segments.length) : ¬ Enclosed text := by
  rintro ⟨inside, balanced, rfl⟩
  have free : Outer (· ≠ separator) ('(' :: (inside ++ [')'])) :=
    .pair (d := .paren) balanced (Delimiter.opener_ne_of_plain _ plain)
      (Delimiter.closer_ne_of_plain _ plain)
  have short := (Scan.length_segments_lt_two_iff plain h).mpr free
  omega

namespace Descriptor

variable {cc : Classifier} {p : Char → Prop} {text : Text} {texts : List Text} {d : Descriptor}
variable {word symbols name : Text} {args : List Text} {parameters : Parameters}

/-- Parts stay as they are when they are read as operands. -/
lemma operands_of_parts (own : cc.OwnSymbols) (parts : ∀ text ∈ texts, Part p text) :
    operands cc texts = .ok texts := by
  have trims : ∀ text ∈ texts, cc.trim text = text := fun text mem => (parts text mem).trim_eq own
  rw [operands_eq, if_neg, List.map_congr_left trims, List.map_id']
  rintro ⟨text, mem, blank⟩
  rw [trims text mem] at blank
  exact (parts text mem).ne_nil blank

/-- Generic arguments are read back. -/
lemma readArgs_join (own : cc.OwnSymbols) (ne : args ≠ [])
    (parts : ∀ arg ∈ args, Part (· ≠ ',') arg) :
    readArgs cc (Text.join [','] args) = .ok args := by
  have segments := Part.segments ne parts fun c => id
  have balanced_parts : ∀ arg ∈ args, Part (fun _ => True) arg := fun arg mem =>
    (parts arg mem).mono fun c _ => trivial
  have joined : Part (fun _ => True) (Text.join [','] args) :=
    Part.join rfl trivial ne balanced_parts
  unfold readArgs
  rw [joined.trim_eq own, if_neg (by simpa using joined.ne_nil),
    (Scan.splitTop_eq_ok_iff_segments rfl).mpr segments]
  exact operands_of_parts own parts

/-- The flag word and its colon are found again. -/
lemma takeFlagWord_render (own : cc.OwnSymbols) {rest : Text}
    (worded : ∀ c ∈ word, isWordFlag c = true) (symbol : ∀ c ∈ symbols, cc .flagSymbol c = true)
    (no_colon : (cc.skip (rest.dropWhile (cc .flagWord))).head? ≠ some ':') :
    takeFlagWord cc (renderFlags (word ++ symbols) ++ rest) = (word, symbols ++ rest) := by
  by_cases ne : word = []
  · -- without a word no colon is shown, and neither symbols nor a name may be taken for one
    subst ne
    rw [List.nil_append, renderFlags_symbols own symbol]
    apply takeFlagWord_eq
    cases symbols with
    | nil => exact no_colon
    | cons c symbols =>
      have is_symbol := symbol c (by simp)
      have not_word : cc .flagWord c = false := by
        rw [own.flagWord_eq]
        exact own.symbol_not_wordFlag is_symbol
      have not_blank : cc .whitespace c = false := by
        rw [own.whitespace_eq]
        exact own.symbol_not_blank c is_symbol
      rw [List.cons_append, List.dropWhile_cons_of_neg (by simp [not_word])]
      unfold Classifier.skip
      rw [List.dropWhile_cons_of_neg (by simp [not_blank]), List.head?_cons]
      rintro ⟨⟩
      exact own.symbol_not_punctuation _ is_symbol (by decide)
  · rw [renderFlags_append own ne worded symbol, List.append_assoc, List.cons_append]
    rw [← own.flagWord_eq] at worded
    exact takeFlagWord_append own ne worded Text.blank_nil

/-- A name is not taken for a flag word. -/
lemma head?_dropWhile_append (own : cc.OwnSymbols) {front rest : Text} {c : Char}
    (chars : ∀ c ∈ front, cc .nameChar c = true ∨ cc .namespaceSeparator c = true)
    (head : ((front ++ rest).dropWhile (cc .flagWord)).head? = some c) :
    cc .namespaceSeparator c = true ∨ (rest.dropWhile (cc .flagWord)).head? = some c := by
  -- the characters of a flag word are those of names, so only a separator can stop it early
  induction front with
  | nil => exact .inr head
  | cons d front ih =>
    by_cases accepts : cc .flagWord d = true
    · rw [List.cons_append, List.dropWhile_cons_of_pos accepts] at head
      exact ih (fun other mem => chars other (by simp [mem])) head
    · rw [List.cons_append, List.dropWhile_cons_of_neg accepts] at head
      cases head
      rw [own.flagWord_eq, ← own.nameChar_eq] at accepts
      exact .inl ((chars c (by simp)).resolve_left accepts)

/-- Nothing is skipped where punctuation begins. -/
lemma skip_eq_self (own : cc.OwnSymbols)
    (punct : ∀ c, text.head? = some c → c ∈ Classifier.punctuation) : cc.skip text = text :=
  Text.dropWhile_eq_self fun c head => own.eq_false (punct c head)

/-- No colon follows the characters of a name. -/
lemma no_colon (own : cc.OwnSymbols) {rest : Text} (is_name : cc.Name name)
    (punct : ∀ c, rest.head? = some c → c ∈ Classifier.punctuation ∧ c ≠ ':') :
    (cc.skip ((name ++ rest).dropWhile (cc .flagWord))).head? ≠ some ':' := by
  have stays : rest.dropWhile (cc .flagWord) = rest :=
    Text.dropWhile_eq_self fun c head => own.eq_false (punct c head).1
  have heads : ∀ c, ((name ++ rest).dropWhile (cc .flagWord)).head? = some c →
      cc .whitespace c = false ∧ c ≠ ':' := by
    intro c head
    rcases head?_dropWhile_append own (is_name.chars own) head with separates | head
    · constructor
      · rw [own.whitespace_eq]
        exact own.not_blank separates (by simp)
      · rintro rfl
        exact own.not_punctuation separates (by decide)
    · rw [stays] at head
      exact ⟨own.eq_false (punct c head).1, (punct c head).2⟩
  have skipped : cc.skip ((name ++ rest).dropWhile (cc .flagWord)) = _ :=
    Text.dropWhile_eq_self fun c head => (heads c head).1
  rw [skipped]
  exact fun head => (heads ':' head).2 rfl

/-- What follows a name begins with a list. -/
lemma head?_lists {list angles : Text} (listed : Delimiter.paren.Wraps list)
    (angled : Delimiter.angle.Wraps angles) {c : Char} (head : (list ++ angles).head? = some c) :
    c = '(' ∨ c = '<' := by
  rw [List.head?_append] at head
  rcases Option.or_eq_some_iff.mp head with head | ⟨_, head⟩
  · exact .inl (listed.head? head)
  · exact .inr (angled.head? head)

/-- What follows a name ends with a list. -/
lemma getLast?_lists {list angles : Text} (listed : Delimiter.paren.Wraps list)
    (angled : Delimiter.angle.Wraps angles) {c : Char} (last : (list ++ angles).getLast? = some c) :
    c = ')' ∨ c = '>' := by
  rw [List.getLast?_append] at last
  rcases Option.or_eq_some_iff.mp last with last | ⟨_, last⟩
  · exact .inr (angled.getLast? last)
  · exact .inl (listed.getLast? last)

/-- The parameters are found again. -/
lemma takePair_renderParameters (own : cc.OwnSymbols) {angles : Text}
    (proper : parameters.Proper cc) (angled : Delimiter.angle.Wraps angles) :
    ∃ list, Scan.takePair .paren (cc.skip (renderParameters parameters ++ angles)) =
        .ok (list, angles) ∧
      (list.map (Parameters.read cc)).getD (.ok .empty) = .ok parameters := by
  have stays : cc.skip (renderParameters parameters ++ angles) =
      renderParameters parameters ++ angles := by
    apply skip_eq_self own
    intro c head
    rcases head?_lists (wraps_renderParameters own proper) angled head with rfl | rfl <;> decide
  rw [stays]
  by_cases nothing : parameters.isEmpty = true
  · have eq : parameters = .empty := by
      obtain ⟨items⟩ := parameters
      exact congrArg Parameters.mk (List.isEmpty_iff.mp nothing)
    have left_out : renderParameters parameters = [] := if_pos nothing
    refine ⟨none, ?_, congrArg Except.ok eq.symm⟩
    rw [left_out, List.nil_append]
    refine Scan.takePair_eq_none_iff.mpr ⟨fun head => ?_, rfl⟩
    cases angled.head? head
  · have shown : renderParameters parameters = '(' :: (parameters.write ++ [')']) := if_neg nothing
    refine ⟨some parameters.write, ?_, Parameters.read_write own proper⟩
    rw [shown]
    refine Scan.takePair_eq_some_iff.mpr ⟨Parameters.balanced_write own proper, ?_⟩
    simp [Delimiter.opener, Delimiter.closer]

/-- The generic arguments are found again. -/
lemma takePair_renderArgs (own : cc.OwnSymbols) (parts : ∀ arg ∈ args, Part (· ≠ ',') arg) :
    ∃ angles, Scan.takePair .angle (cc.skip (renderArgs args)) = .ok (angles, []) ∧
      (angles.map (readArgs cc)).getD (.ok []) = .ok args := by
  have stays : cc.skip (renderArgs args) = renderArgs args := by
    apply skip_eq_self own
    intro c head
    cases (wraps_renderArgs parts).head? head
    decide
  rw [stays]
  cases args with
  | nil => exact ⟨none, Scan.takePair_eq_none_iff.mpr ⟨nofun, rfl⟩, rfl⟩
  | cons first rest =>
    refine ⟨some _, ?_, readArgs_join own (by simp) parts⟩
    refine Scan.takePair_eq_some_iff.mpr ⟨?_, rfl⟩
    refine balanced_iff_outer.mpr (.join rfl trivial fun arg mem => ?_)
    exact balanced_iff_outer.mp (parts arg mem).outer.balanced

/-- The components of a generic are found again. -/
lemma readGeneric_render (own : cc.OwnSymbols) (worded : ∀ c ∈ word, isWordFlag c = true)
    (symbol : ∀ c ∈ symbols, cc .flagSymbol c = true) (is_name : cc.Name name)
    (first : ∀ c, name.head? = some c → cc .flagSymbol c = false) (proper : parameters.Proper cc)
    (parts : ∀ arg ∈ args, Part (· ≠ ',') arg) :
    readGeneric cc (generic (word ++ symbols) name args parameters).render =
      .ok (.generic (word ++ symbols) name args parameters) := by
  have listed := wraps_renderParameters own proper
  have angled := wraps_renderArgs parts
  have heads : ∀ c, (renderParameters parameters ++ renderArgs args).head? = some c →
      c ∈ Classifier.punctuation ∧ c ≠ ':' := by
    intro c head
    rcases head?_lists listed angled head with rfl | rfl <;> decide
  have ends : cc.Ends (renderParameters parameters ++ renderArgs args) := fun c head =>
    ⟨own.eq_false (heads c head).1, own.eq_false (heads c head).1⟩
  have unflagged : cc.Unflagged (name ++ (renderParameters parameters ++ renderArgs args)) := by
    intro c head
    rw [List.head?_append_of_ne_nil _ is_name.ne_nil] at head
    rw [own.whitespace_eq]
    exact ⟨is_name.not_blank own c (List.mem_of_mem_head? head), first c head⟩
  obtain ⟨list, list_taken, list_read⟩ := takePair_renderParameters own proper angled
  obtain ⟨angles, angles_taken, angles_read⟩ := takePair_renderArgs own parts
  rw [render_generic, List.append_assoc]
  exact readGeneric_of_components
    (takeFlagWord_render own worded symbol (no_colon own is_name heads))
    (takeFlagSymbols_append own symbol unflagged) (takeName_append own is_name ends)
    list_taken list_read angles_taken angles_read rfl

/-- A part that no parentheses enclose is read as one of the ungrouped forms. -/
lemma read_of_part (own : cc.OwnSymbols) (part : Part p text) (free : ¬ Enclosed text) :
    read cc false text = readUngrouped cc text := by
  unfold read
  rw [part.trim_eq own, if_neg (by simpa using part.ne_nil)]
  exact readTrimmed_of_balanced cc false part.outer.balanced free

/-- The canonical text of a generic is neither a group nor an array. -/
lemma render_generic_free (own : cc.OwnSymbols) (worded : ∀ c ∈ word, isWordFlag c = true)
    (symbol : ∀ c ∈ symbols, cc .flagSymbol c = true) (is_name : cc.Name name)
    (proper : parameters.Proper cc) (parts : ∀ arg ∈ args, Part (· ≠ ',') arg) :
    ¬ Enclosed (generic (word ++ symbols) name args parameters).render ∧
      ¬ Bracketed cc (generic (word ++ symbols) name args parameters).render := by
  have front_ne : renderFlags (word ++ symbols) ++ name ≠ [] := by simp [is_name.ne_nil]
  have not_mem : ∀ c ∈ Classifier.punctuation, c ≠ ':' →
      c ∉ renderFlags (word ++ symbols) ++ name := by
    intro c punct ne mem
    rcases front_chars own worded symbol is_name c mem with eq | ⟨cls, _, accepts⟩
    · exact ne eq
    · exact own.not_punctuation accepts punct
  rw [render_generic]
  constructor
  · apply not_enclosed_of_head?
    rw [List.head?_append_of_ne_nil _ front_ne]
    exact fun head => not_mem '(' (by decide) (by decide) (List.mem_of_mem_head? head)
  · -- a generic ends with its name or with one of the lists, never with a square bracket
    rintro ⟨element, inside, _, _, _, eq⟩
    have last := congrArg List.getLast? eq
    rw [getLast?_brackets, List.getLast?_append] at last
    rcases Option.or_eq_some_iff.mp last with last | ⟨_, last⟩
    · rcases getLast?_lists (wraps_renderParameters own proper) (wraps_renderArgs parts) last with
        eq | eq <;> cases eq
    · exact not_mem ']' (by decide) (by decide) (List.mem_of_mem_getLast? last)

/-- The size of an array is read back. -/
lemma arrayOutcome_render (own : cc.OwnSymbols) {element : Text} {size : Option Text}
    (part : Part p element) (fits : ∀ digits, size = some digits → Decimal.Fits digits) :
    arrayOutcome cc element (size.getD []) = .ok (.array element size) := by
  unfold arrayOutcome
  rw [part.trim_eq own, own.trim_eq]
  cases size with
  | none => rfl
  | some digits =>
    have fit := fits digits rfl
    have numeral := fit.1
    unfold Decimal.Fits at fit
    simp only [Decimal.isNumeral, Bool.and_eq_true, List.all_eq_true, Bool.not_eq_true',
      List.isEmpty_eq_false_iff] at numeral
    have trimmed : Text.Trimmed Text.isBlank digits := by
      apply Text.trimmed_of_not_blank
      intro c mem
      apply isBlank_of_isWordFlag
      simp [isWordFlag, Char.isAlphanum, numeral.2 c mem]
    rw [Option.getD_some, trimmed.trim_eq, if_neg numeral.1, if_pos fit]

/-- The canonical text of a canonical descriptor is read back. -/
theorem read_render (own : cc.OwnSymbols) (h : Canonical cc d) :
    read cc false d.render = .ok d := by
  have part := part_render own h
  have allowed : Outer cc.Allowed d.render := part.outer.mono fun c shows => shows.1
  have no_bar (ne : d.kind ≠ .union) : Outer (· ≠ '|') d.render :=
    part.outer.mono fun c shows eq => ne (shows.2.1 eq)
  have no_amp (ne : d.kind ≠ .union) (ne' : d.kind ≠ .intersection) : Outer (· ≠ '&') d.render :=
    part.outer.mono fun c shows eq => (shows.2.2 eq).elim ne ne'
  cases h with
  | generic worded symbol is_name first proper parts =>
    obtain ⟨not_enclosed, not_bracketed⟩ :=
      render_generic_free own worded symbol is_name proper parts
    rw [read_of_part own part not_enclosed,
      readUngrouped_of_generic allowed (no_bar (by simp [kind]))
        (no_amp (by simp [kind]) (by simp [kind])) not_bracketed]
    exact readGeneric_render own worded symbol is_name first proper parts
  | @array element size element_part fits =>
    -- the last brackets are those of the size, whatever brackets the element has
    have not_enclosed : ¬ Enclosed (array element size).render := by
      apply not_enclosed_of_getLast?
      rw [render_array, getLast?_brackets]
      simp
    rw [read_of_part own part not_enclosed]
    have ne : cc.trim element ≠ [] := by
      rw [element_part.trim_eq own]
      exact element_part.ne_nil
    rw [render_array] at *
    rw [readUngrouped_of_brackets element_part.outer.balanced (balanced_size fits) ne allowed
      (no_bar (by simp [kind])) (no_amp (by simp [kind]) (by simp [kind]))]
    exact arrayOutcome_render own element_part fits
  | @group inner inner_part =>
    have trims := part.trim_eq own
    have grouped : (group inner).render = '(' :: (inner ++ [')']) := rfl
    unfold read
    rw [trims, if_neg (by simpa using part.ne_nil), grouped,
      readTrimmed_of_enclosed inner_part.outer.balanced, inner_part.trim_eq own,
      if_neg inner_part.ne_nil]
  | @union operands several parts =>
    -- the operands have no bar of their own, so they are the segments of the text
    have ne : operands ≠ [] := List.ne_nil_of_length_pos (by omega)
    have segments : Segments '|' (union operands).render operands :=
      Part.segments ne parts fun c shown => shown.2
    rw [read_of_part own part (segments.not_enclosed rfl several),
      readUngrouped_of_union allowed segments several, operands_of_parts own parts]
    rfl
  | @intersection operands several parts =>
    have ne : operands ≠ [] := List.ne_nil_of_length_pos (by omega)
    have segments : Segments '&' (intersection operands).render operands :=
      Part.segments ne parts fun c shown => shown.2.2
    rw [read_of_part own part (segments.not_enclosed rfl several),
      readUngrouped_of_intersection allowed (no_bar (by simp [kind])) segments several,
      operands_of_parts own parts]
    rfl

/-- Whatever is read, its canonical text is read as the same descriptor, and enclosing parentheses
need not be removed from it. -/
theorem parse_render_of_parse (own : cc.OwnSymbols) {degroup : Bool} {input : Text}
    (h : parse cc degroup input = .ok d) : parse cc false d.render = .ok d := by
  have canonical := canonical_of_read own (parse_eq_ok_iff.mp h)
  exact parse_eq_ok_iff.mpr (read_render own canonical)

/-- Parentheses, whitespace and needless quotation marks are not shown again. -/
theorem parse_render_of_parse_spaced :
    Classifier.standard.OwnSymbols ∧
      parse .standard true "( x : ? \\A.B ( \"a\" , k : \"b c\" ) < A | B , C > )".toList =
        .ok (.generic "x?".toList "\\A.B".toList ["A | B".toList, "C".toList]
          ⟨[.positional "a".toList, .named "k".toList "b c".toList]⟩) ∧
      parse .standard false "x:?\\A.B(a, k:\"b c\")<A | B,C>".toList =
        .ok (.generic "x?".toList "\\A.B".toList ["A | B".toList, "C".toList]
          ⟨[.positional "a".toList, .named "k".toList "b c".toList]⟩) := by
  have spaced : parse .standard true
      "( x : ? \\A.B ( \"a\" , k : \"b c\" ) < A | B , C > )".toList =
        .ok (.generic "x?".toList "\\A.B".toList ["A | B".toList, "C".toList]
          ⟨[.positional "a".toList, .named "k".toList "b c".toList]⟩) := by
    decide +kernel
  exact ⟨Classifier.standard_ownSymbols, spaced,
    parse_render_of_parse Classifier.standard_ownSymbols spaced⟩

end Descriptor
end TypeShape
