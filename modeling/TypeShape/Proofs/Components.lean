import TypeShape.Proofs.WrittenParameters

/-!
# The components of a generic

The flag word, the flag symbols and the name that stand at the beginning of a text are taken off it
one after the other. Each step gives a component of its grammar, and each component is found again
where the text goes on with something that cannot belong to it.
-/

namespace TypeShape

/-- Identifiers with single separators between them. -/
inductive Classifier.Path (cc : Classifier) : Text → Prop where
  | single {segment : Text} : cc.Identifier segment → Path cc segment
  | cons {segment path : Text} {separator : Char} :
    cc.Identifier segment →
    cc .namespaceSeparator separator = true →
    Path cc path →
    Path cc (segment ++ separator :: path)

/-- A path, perhaps with a root separator before it. -/
inductive Classifier.Name (cc : Classifier) : Text → Prop where
  | relative {path : Text} : cc.Path path → Name cc path
  | absolute {root : Char} {path : Text} :
    cc .rootSeparator root = true →
    cc.Path path →
    Name cc (root :: path)

/-- A text that cannot belong to a name before it. -/
def Classifier.Ends (cc : Classifier) (text : Text) : Prop :=
  ∀ c, text.head? = some c → cc .nameChar c = false ∧ cc .namespaceSeparator c = false

/-- A text that does not begin with a flag symbol or with whitespace. -/
def Classifier.Unflagged (cc : Classifier) (text : Text) : Prop :=
  ∀ c, text.head? = some c → cc .whitespace c = false ∧ cc .flagSymbol c = false

variable {cc : Classifier} {text name rest : Text}

namespace Text

variable {p : Char → Bool} {front : Text}

/-- The front of a text is what is taken, if it ends where the test fails. -/
lemma takeWhile_append_eq (all : ∀ c ∈ front, p c = true)
    (stops : ∀ c, rest.head? = some c → p c = false) : (front ++ rest).takeWhile p = front := by
  rw [List.takeWhile_append_of_pos all]
  cases rest with
  | nil => exact List.append_nil front
  | cons c rest => simp [stops c rfl]

/-- The front of a text is what is dropped, if it ends where the test fails. -/
lemma dropWhile_append_eq (all : ∀ c ∈ front, p c = true)
    (stops : ∀ c, rest.head? = some c → p c = false) : (front ++ rest).dropWhile p = rest := by
  rw [List.dropWhile_append_of_pos all]
  exact dropWhile_eq_self stops

end Text

namespace Classifier

/-- A path begins with the first character of an identifier. -/
lemma Path.exists_cons (h : cc.Path text) :
    ∃ first rest, text = first :: rest ∧ cc .nameStart first = true := by
  cases h with
  | single identifier =>
    obtain ⟨first, rest, rfl, start, _⟩ := identifier
    exact ⟨first, rest, rfl, start⟩
  | cons identifier _ _ =>
    obtain ⟨first, rest, rfl, start, _⟩ := identifier
    exact ⟨first, _, rfl, start⟩

/-- The characters of a path are those of identifiers and separators. -/
lemma Path.chars (own : cc.OwnSymbols) (h : cc.Path text) :
    ∀ c ∈ text, cc .nameChar c = true ∨ cc .namespaceSeparator c = true := by
  induction h with
  | single identifier =>
    exact fun c mem => .inl (Parameters.identifier_chars own identifier c mem)
  | cons identifier separates _ ih =>
    intro c mem
    rcases List.mem_append.mp mem with mem | mem
    · exact .inl (Parameters.identifier_chars own identifier c mem)
    · rcases List.mem_cons.mp mem with rfl | mem
      · exact .inr separates
      · exact ih c mem

/-- The characters of a name are those of identifiers and separators. -/
lemma Name.chars (own : cc.OwnSymbols) (h : cc.Name text) :
    ∀ c ∈ text, cc .nameChar c = true ∨ cc .namespaceSeparator c = true := by
  cases h with
  | relative path => exact path.chars own
  | absolute root path =>
    intro c mem
    rcases List.mem_cons.mp mem with rfl | mem
    · exact .inr (own.separator_of_root root)
    · exact path.chars own c mem

/-- A name is not empty. -/
lemma Name.ne_nil (h : cc.Name text) : text ≠ [] := by
  cases h with
  | relative path =>
    obtain ⟨first, rest, rfl, _⟩ := path.exists_cons
    simp
  | absolute _ _ => simp

/-- Names have no whitespace. -/
lemma Name.not_blank (own : cc.OwnSymbols) (h : cc.Name text) :
    ∀ c ∈ text, Text.isBlank c = false := by
  intro c mem
  rcases h.chars own c mem with accepts | accepts
  · exact own.not_blank accepts (by simp)
  · exact own.not_blank accepts (by simp)

/-- A standard name does not begin with a flag symbol. -/
lemma not_symbol_of_name (is_name : standard.Name text) :
    ∀ c, text.head? = some c → standard .flagSymbol c = false := by
  intro c head
  have own := standard_ownSymbols
  by_contra symbol
  rw [Bool.not_eq_false] at symbol
  rcases is_name.chars own c (List.mem_of_mem_head? head) with accepts | separates
  · rw [own.nameChar_eq, own.symbol_not_wordFlag symbol] at accepts
    cases accepts
  · have none : ∀ c ∈ standardSymbols, standard .namespaceSeparator c = false :=
      Text.forall_of_all (by decide)
    rw [none c (List.contains_iff_mem.mp symbol)] at separates
    cases separates

end Classifier

namespace Descriptor

/-- Segments that are taken are a path, and after it there is something that does not belong to it. -/
lemma path_of_takeSegments (h : takeSegments cc text = .ok (name, rest)) :
    cc.Path name ∧ cc.Ends rest := by
  have identifier {first : Char} {chars : Text} (start : cc .nameStart first = true) :
      cc.Identifier (first :: chars.takeWhile (cc .nameChar)) :=
    ⟨first, _, rfl, start, fun c mem => List.mem_takeWhile_imp mem⟩
  fun_induction takeSegments cc text generalizing name rest with
  | case1 => cases h
  | case2 first chars start after =>
    cases h
    exact ⟨.single (identifier start), fun c head => by cases head⟩
  | case3 first chars start separator more after separates begins _ ih =>
    obtain ⟨⟨path, rest'⟩, taken, eq⟩ := Fallible.map_eq_ok_iff.mp h
    cases eq
    obtain ⟨is_path, ends⟩ := ih taken
    exact ⟨.cons (identifier start) separates is_path, ends⟩
  | case4 => cases h
  | case5 first chars start separator more after no_separator =>
    cases h
    refine ⟨.single (identifier start), fun c head => ?_⟩
    cases head
    have stops := List.head?_dropWhile_not (cc .nameChar) chars
    rw [after] at stops
    exact ⟨by simpa using stops, by simpa using no_separator⟩
  | case6 => cases h

/-- A name that is taken is one, and after it there is something that does not belong to it. -/
lemma name_of_takeName (h : takeName cc text = .ok (name, rest)) : cc.Name name ∧ cc.Ends rest := by
  rcases takeName_cases h with taken | ⟨root, more, path, rfl, rfl, separates, taken⟩
  · obtain ⟨is_path, ends⟩ := path_of_takeSegments taken
    exact ⟨.relative is_path, ends⟩
  · obtain ⟨is_path, ends⟩ := path_of_takeSegments taken
    exact ⟨.absolute separates is_path, ends⟩

/-- The first segment, and what comes of the character after it. -/
lemma takeSegments_cons (cc : Classifier) (first : Char) (chars : Text) :
    takeSegments cc (first :: chars) =
      if cc .nameStart first then
        match chars.dropWhile (cc .nameChar) with
        | [] => .ok (first :: chars.takeWhile (cc .nameChar), [])
        | separator :: more =>
          if cc .namespaceSeparator separator then
            if more.head?.any (cc .nameStart) then
              (takeSegments cc more).map fun (name, rest) =>
                (first :: chars.takeWhile (cc .nameChar) ++ separator :: name, rest)
            else .error .missingName
          else .ok (first :: chars.takeWhile (cc .nameChar), separator :: more)
      else .error (.unexpected first) := by
  rw [takeSegments]
  refine if_congr Iff.rfl ?_ rfl
  split
  · next after => rw [after]
  · next after => simp only [after]

/-- A path is taken where the text goes on with something else. -/
lemma takeSegments_append (own : cc.OwnSymbols) (h : cc.Path name) (ends : cc.Ends rest) :
    takeSegments cc (name ++ rest) = .ok (name, rest) := by
  induction h with
  | single identifier =>
    obtain ⟨first, chars, rfl, start, all⟩ := identifier
    have stops : ∀ c, rest.head? = some c → cc .nameChar c = false := fun c head => (ends c head).1
    rw [List.cons_append, takeSegments_cons, if_pos start, Text.takeWhile_append_eq all stops,
      Text.dropWhile_append_eq all stops]
    cases rest with
    | nil => rfl
    | cons separator more =>
      -- what follows the path is no separator, so the name ends here
      exact if_neg (by simp [(ends separator rfl).2])
  | @cons segment path separator identifier separates path_ok ih =>
    obtain ⟨first, chars, rfl, start, all⟩ := identifier
    obtain ⟨next_first, next_rest, path_eq, next_start⟩ := path_ok.exists_cons
    have stops : ∀ c, (separator :: (path ++ rest)).head? = some c → cc .nameChar c = false := by
      rintro c ⟨⟩
      rw [own.nameChar_eq]
      exact own.not_word_of_separator separates
    -- another segment begins after the separator, so the name goes on
    have begins : (path ++ rest).head?.any (cc .nameStart) = true := by
      simp [path_eq, next_start]
    rw [List.append_assoc, List.cons_append, List.cons_append, takeSegments_cons, if_pos start,
      Text.takeWhile_append_eq all stops, Text.dropWhile_append_eq all stops]
    simp only [separates, begins, ih, if_true]
    rfl

/-- A name is taken where the text goes on with something else. -/
lemma takeName_append (own : cc.OwnSymbols) (h : cc.Name name) (ends : cc.Ends rest) :
    takeName cc (name ++ rest) = .ok (name, rest) := by
  cases h with
  | relative path =>
    obtain ⟨first, more, rfl, start⟩ := path.exists_cons
    have no_root : cc .rootSeparator first = false := by
      by_contra root
      rw [Bool.not_eq_false] at root
      have not_word := own.not_word_of_separator (own.separator_of_root root)
      rw [← own.nameChar_eq, own.nameChar_of_nameStart start] at not_word
      cases not_word
    have taken := takeSegments_append own path ends
    unfold takeName
    rw [List.cons_append] at taken ⊢
    simp only [no_root, Bool.false_eq_true, if_false, taken]
  | absolute root path =>
    unfold takeName
    simp only [List.cons_append, root, if_true, takeSegments_append own path ends]
    rfl

/-- A flag word is made of its characters. -/
lemma flagWord_of_takeFlagWord : ∀ c ∈ (takeFlagWord cc text).1, cc .flagWord c = true := by
  unfold takeFlagWord
  split
  · next taken _ =>
    rw [← taken]
    exact fun c mem => List.mem_takeWhile_imp mem
  · nofun

/-- A flag word is taken from before a colon. -/
lemma takeFlagWord_append (own : cc.OwnSymbols) {word gap : Text} (ne : word ≠ [])
    (all : ∀ c ∈ word, cc .flagWord c = true) (blank : Text.Blank (cc .whitespace) gap) :
    takeFlagWord cc (word ++ (gap ++ ':' :: rest)) = (word, rest) := by
  have colon {cls : CharClass} : ∀ c, (':' :: rest).head? = some c → cc cls c = false := by
    rintro _ ⟨⟩
    exact own.eq_false (by decide)
  have stops := own.rejects_head blank (show CharClass.flagWord ≠ .whitespace by decide) colon
  obtain ⟨c, more, rfl⟩ := List.exists_cons_of_ne_nil ne
  unfold takeFlagWord Classifier.skip
  rw [Text.takeWhile_append_eq all stops, Text.dropWhile_append_eq all stops,
    Text.dropWhile_append_eq blank colon]
  rfl

/-- No flag word is taken if no colon follows the characters of one. -/
lemma takeFlagWord_eq (h : (cc.skip (text.dropWhile (cc .flagWord))).head? ≠ some ':') :
    takeFlagWord cc text = ([], text) := by
  unfold takeFlagWord
  split
  · next colon =>
    rw [colon] at h
    exact absurd rfl h
  · rfl

/-- Only flag symbols are taken as flag symbols. -/
lemma flagSymbol_of_takeFlagSymbols :
    ∀ c ∈ (takeFlagSymbols cc text).1, cc .flagSymbol c = true := by
  fun_induction takeFlagSymbols cc text with
  | case1 =>
    intro c mem
    cases mem
  | case2 _ _ _ ih => exact ih
  | case3 c rest _ symbol ih =>
    intro other mem
    rcases List.mem_cons.mp mem with rfl | mem
    · exact symbol
    · exact ih other mem
  | case4 =>
    intro c mem
    cases mem

/-- All flag symbols are taken. -/
lemma unflagged_of_takeFlagSymbols : cc.Unflagged (takeFlagSymbols cc text).2 := by
  fun_induction takeFlagSymbols cc text with
  | case1 =>
    intro c head
    cases head
  | case2 _ _ _ ih => exact ih
  | case3 _ _ _ _ ih => exact ih
  | case4 c rest blank symbol =>
    intro other head
    cases head
    exact ⟨by simpa using blank, by simpa using symbol⟩

/-- Flag symbols are taken where the text goes on with something else. -/
lemma takeFlagSymbols_append (own : cc.OwnSymbols) {symbols : Text}
    (all : ∀ c ∈ symbols, cc .flagSymbol c = true) (unflagged : cc.Unflagged rest) :
    takeFlagSymbols cc (symbols ++ rest) = (symbols, rest) := by
  induction symbols with
  | nil =>
    cases rest with
    | nil => rfl
    | cons c rest =>
      obtain ⟨not_blank, not_symbol⟩ := unflagged c rfl
      simp [takeFlagSymbols, not_blank, not_symbol]
  | cons c symbols ih =>
    have symbol := all c (by simp)
    have not_blank : cc .whitespace c = false := by
      rw [own.whitespace_eq]
      exact own.symbol_not_blank c symbol
    rw [List.cons_append, takeFlagSymbols, ih fun other mem => all other (by simp [mem])]
    simp [not_blank, symbol]

/-- Components that are taken one after the other, with nothing after them, are a generic. -/
lemma readGeneric_of_components {word symbols afterWord afterSymbols afterName afterList
    afterAngles : Text} {list angles : Option Text} {args : List Text} {parameters : Parameters}
    (worded : takeFlagWord cc text = (word, afterWord))
    (flagged : takeFlagSymbols cc afterWord = (symbols, afterSymbols))
    (named : takeName cc afterSymbols = .ok (name, afterName))
    (listed : Scan.takePair .paren (cc.skip afterName) = .ok (list, afterList))
    (parameters_eq : (list.map (Parameters.read cc)).getD (.ok .empty) = .ok parameters)
    (angled : Scan.takePair .angle (cc.skip afterList) = .ok (angles, afterAngles))
    (args_eq : (angles.map (readArgs cc)).getD (.ok []) = .ok args)
    (done : cc.skip afterAngles = []) :
    readGeneric cc text = .ok (.generic (word ++ symbols) name args parameters) := by
  unfold readGeneric
  simp only [worded, flagged, named, listed, parameters_eq, angled, args_eq, done, bind,
    Except.bind, List.isEmpty_nil, if_true]

end Descriptor
end TypeShape
