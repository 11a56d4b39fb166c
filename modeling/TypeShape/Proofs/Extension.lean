import TypeShape.Proofs.DelimiterFree

/-!
# More characters

A classifier that `Extends` another agrees with it on every character that the other allows outside of
delimiters, so it can only give a meaning to further ones. What the other reads it reads in the same
way (`parse_of_extends`), although the further characters may stand inside of delimiters: what is
there is read by three classes only (`Classifier.core`), which have to be the same, and the reader
does not ask the other four for a character that an opening delimiter comes before.
-/

namespace TypeShape

namespace Classifier

/-- A classifier that differs from another in characters only which that one does not allow outside of
delimiters, and not at all in what forms identifiers and what is whitespace. -/
structure Extends (cc base : Classifier) : Prop where
  nameStart : ∀ c, cc .nameStart c = base .nameStart c
  nameChar : ∀ c, cc .nameChar c = base .nameChar c
  whitespace : ∀ c, cc .whitespace c = base .whitespace c
  agrees : ∀ cls c, Descriptor.isTopLevelChar base c = true → cc cls c = base cls c

/-- The classes that form identifiers and whitespace, and nothing else. -/
def core (cc : Classifier) : Classifier
  | .nameStart => cc .nameStart
  | .nameChar => cc .nameChar
  | .whitespace => cc .whitespace
  | _ => fun _ => false

end Classifier

variable {cc base : Classifier} {p : Char → Prop} {text : Text} {c : Char}

namespace Outer

/-- Tests that agree on the outer characters take the same from a text, if they take no delimiters. -/
lemma span_congr {f g : Char → Bool} (h : Outer p text) (agree : ∀ c, p c → f c = g c)
    (plain : ∀ c, g c = true → Role.of c = .plain) :
    text.takeWhile f = text.takeWhile g ∧ text.dropWhile f = text.dropWhile g := by
  induction text with
  | nil => exact ⟨rfl, rfl⟩
  | cons c rest ih =>
    have same := agree c h.head
    cases taken : g c with
    | false =>
      rw [taken] at same
      simp [same, taken]
    | true =>
      obtain ⟨take_eq, drop_eq⟩ := ih (h.tail (plain c taken))
      rw [taken] at same
      simp [same, taken, take_eq, drop_eq]

end Outer

namespace Parameters

/-- Parameters are read with three classes only. -/
lemma readItems_core (cc : Classifier) : readItems cc = readItems cc.core := by
  funext parameters items
  induction items generalizing parameters with
  | nil => rfl
  | cons item items ih =>
    have item_eq : readItem cc (cc.trim item) = readItem cc.core (cc.core.trim item) := rfl
    have trim_eq : cc.trim item = cc.core.trim item := rfl
    rw [readItems, readItems, item_eq, trim_eq]
    simp only [ih]

/-- So is a list of parameters. -/
lemma read_core (cc : Classifier) : read cc = read cc.core := by
  funext text
  have trim_eq : cc.trim text = cc.core.trim text := rfl
  rw [read, read, trim_eq, readItems_core cc]

end Parameters

namespace Classifier.Extends

/-- A classifier and what it extends have the same three classes. -/
lemma core_eq (ext : cc.Extends base) : cc.core = base.core := by
  funext cls c
  cases cls with
  | nameStart => exact ext.nameStart c
  | nameChar => exact ext.nameChar c
  | whitespace => exact ext.whitespace c
  | _ => rfl

/-- The two agree on all characters that the smaller one allows outside of delimiters. -/
lemma agrees_of_allowed (ext : cc.Extends base) (allowed : base.Allowed c) (cls : CharClass) :
    cc cls c = base cls c :=
  ext.agrees cls c (Descriptor.isTopLevelChar_iff.mpr allowed)

/-- What the smaller one allows, the larger one allows too. -/
lemma allowed (ext : cc.Extends base) (h : base.Allowed c) : cc.Allowed c := by
  have same := ext.agrees_of_allowed h
  rcases h with punct | ⟨cls, accepts⟩
  · exact .inl punct
  · exact .inr ⟨cls, (same cls).trans accepts⟩

/-- What depends on the core only is the same for both. -/
lemma congr_core {α : Type} (ext : cc.Extends base) (f : Classifier → α)
    (h : ∀ cc, f cc = f cc.core) : f cc = f base := by
  rw [h cc, h base, ext.core_eq]

/-- The two trim alike, because they have the same whitespace. -/
lemma trim_eq (ext : cc.Extends base) : cc.trim = base.trim :=
  ext.congr_core trim fun _ => rfl

/-- They skip alike. -/
lemma skip_eq (ext : cc.Extends base) : cc.skip = base.skip :=
  ext.congr_core skip fun _ => rfl

/-- They take the same texts for blank operands. -/
lemma operands_eq (ext : cc.Extends base) : Descriptor.operands cc = Descriptor.operands base :=
  ext.congr_core Descriptor.operands fun _ => rfl

/-- They read generic arguments alike, which are split at commas and trimmed. -/
lemma readArgs_eq (ext : cc.Extends base) : Descriptor.readArgs cc = Descriptor.readArgs base :=
  ext.congr_core Descriptor.readArgs fun _ => rfl

/-- They come to the same outcome for an array, once it is cut. -/
lemma arrayOutcome_eq (ext : cc.Extends base) :
    Descriptor.arrayOutcome cc = Descriptor.arrayOutcome base :=
  ext.congr_core Descriptor.arrayOutcome fun _ => rfl

/-- They read lists of parameters alike, whatever characters stand in them. -/
lemma readParameters_eq (ext : cc.Extends base) : Parameters.read cc = Parameters.read base :=
  ext.congr_core Parameters.read Parameters.read_core

end Classifier.Extends

namespace Descriptor

variable (ext : cc.Extends base) (free : base.DelimiterFree)
include ext free

/-- They take the same flag word from a text of allowed characters. -/
lemma takeFlagWord_eq_of_extends (outer : Outer base.Allowed text) :
    takeFlagWord cc text = takeFlagWord base text := by
  obtain ⟨take_eq, drop_eq⟩ := outer.span_congr
    (fun c allowed => ext.agrees_of_allowed allowed .flagWord) fun _ => free.plain
  rw [takeFlagWord, takeFlagWord, take_eq, drop_eq, ext.skip_eq]

/-- They take the same flag symbols from a text of allowed characters. -/
lemma takeFlagSymbols_eq_of_extends (outer : Outer base.Allowed text) :
    takeFlagSymbols cc text = takeFlagSymbols base text := by
  fun_induction takeFlagSymbols base text with
  | case1 => rfl
  | case2 c rest blank ih =>
    rw [takeFlagSymbols, ext.whitespace, if_pos blank, ih (outer.tail (free.plain blank))]
  | case3 c rest blank symbol ih =>
    have same := ext.agrees_of_allowed outer.head .flagSymbol
    rw [takeFlagSymbols, ext.whitespace, if_neg blank, same, if_pos symbol,
      ih (outer.tail (free.plain symbol))]
  | case4 c rest blank symbol =>
    have same := ext.agrees_of_allowed outer.head .flagSymbol
    rw [takeFlagSymbols, ext.whitespace, if_neg blank, same, if_neg symbol]

/-- They take the same segments of a name from a text of allowed characters. -/
lemma takeSegments_eq_of_extends (outer : Outer base.Allowed text) :
    takeSegments cc text = takeSegments base text := by
  have starts_eq : cc .nameStart = base .nameStart := funext ext.nameStart
  have chars_eq : cc .nameChar = base .nameChar := funext ext.nameChar
  have later {first c : Char} {chars more : Text} (outer : Outer base.Allowed (first :: chars))
      (start : base .nameStart first = true)
      (after : chars.dropWhile (base .nameChar) = c :: more) : Outer base.Allowed (c :: more) := by
    rw [← after]
    exact (free.peels_dropWhile .nameChar chars).outer (outer.tail (free.plain start))
  fun_induction takeSegments base text with
  | case1 => rw [takeSegments]
  | case2 first chars start after =>
    rw [takeSegments_cons, starts_eq, chars_eq, if_pos start, after]
  | case3 first chars start separator more after separates begins _ ih =>
    have outer_after := later outer start after
    have same := ext.agrees_of_allowed outer_after.head .namespaceSeparator
    rw [takeSegments_cons, starts_eq, chars_eq, if_pos start, after]
    simp only [same, separates, begins, ih (outer_after.tail (free.plain separates)), if_true]
  | case4 first chars start separator more after separates ends =>
    have same := ext.agrees_of_allowed (later outer start after).head .namespaceSeparator
    rw [takeSegments_cons, starts_eq, chars_eq, if_pos start, after]
    simp [same, separates, ends]
  | case5 first chars start separator more after ends =>
    have same := ext.agrees_of_allowed (later outer start after).head .namespaceSeparator
    rw [takeSegments_cons, starts_eq, chars_eq, if_pos start, after]
    simp [same, ends]
  | case6 first chars no_start => rw [takeSegments_cons, starts_eq, if_neg no_start]

/-- They take the same name from a text of allowed characters. -/
lemma takeName_eq_of_extends (outer : Outer base.Allowed text) :
    takeName cc text = takeName base text := by
  cases text with
  | nil => rfl
  | cons c rest =>
    have same := ext.agrees_of_allowed outer.head .rootSeparator
    rw [takeName, takeName, same, takeSegments_eq_of_extends ext free outer]
    by_cases root : base .rootSeparator c = true
    · rw [if_pos root, if_pos root,
        takeSegments_eq_of_extends ext free (outer.tail (free.plain root))]
    · rw [if_neg root, if_neg root]

/-- The components before the parentheses are the same, and what is read in the lists as well. -/
lemma readGeneric_eq_of_extends (outer : Outer base.Allowed text) :
    readGeneric cc text = readGeneric base text := by
  have outer_word := (peels_takeFlagWord free text).outer outer
  have outer_symbols := (peels_takeFlagSymbols free (takeFlagWord base text).2).outer outer_word
  unfold readGeneric
  rw [takeFlagWord_eq_of_extends ext free outer]
  simp only [takeFlagSymbols_eq_of_extends ext free outer_word,
    takeName_eq_of_extends ext free outer_symbols, ext.skip_eq, ext.readParameters_eq,
    ext.readArgs_eq]

/-- What the smaller one reads without a group, the larger one reads in the same way: the outer
characters are allowed, and what stands in delimiters is read alike. -/
lemma readUngrouped_of_extends {d : Descriptor} (h : readUngrouped base text = .ok d) :
    readUngrouped cc text = .ok d := by
  obtain ⟨outer, ungrouped⟩ := ungrouped_of_readUngrouped h
  have allowed : Outer cc.Allowed text := outer.mono fun _ => ext.allowed
  cases ungrouped with
  | union bars several operands_ok =>
    rw [readUngrouped_of_union allowed bars several, ext.operands_eq, operands_ok]
    rfl
  | intersection no_bar amps several operands_ok =>
    rw [readUngrouped_of_intersection allowed no_bar amps several, ext.operands_eq, operands_ok]
    rfl
  | array no_bar no_amp before within ne eq outcome =>
    subst eq
    rw [← ext.trim_eq] at ne
    rw [readUngrouped_of_brackets before within ne allowed no_bar no_amp, ext.arrayOutcome_eq,
      outcome]
  | generic no_bar no_amp no_brackets generic =>
    have still_none : ¬ Bracketed cc text := by
      unfold Bracketed
      rwa [ext.trim_eq]
    rw [readUngrouped_of_generic allowed no_bar no_amp still_none,
      readGeneric_eq_of_extends ext free outer, generic]

/-- What the smaller one reads from a trimmed text, the larger one reads in the same way, after as
many groups. -/
lemma readTrimmed_of_extends {degroup : Bool} {d : Descriptor}
    (h : readTrimmed base degroup text = .ok d) : readTrimmed cc degroup text = .ok d := by
  fun_induction readTrimmed base degroup text with
  | case1 => cases h
  | case2 text enclosing =>
    rw [readTrimmed_eq, enclosing]
    exact readUngrouped_of_extends ext free h
  | case3 => cases h
  | case4 text inner enclosing not_blank unwraps _ ih =>
    have ne : base.trim inner ≠ [] := by simpa using not_blank
    rw [readTrimmed_eq, enclosing, ext.trim_eq]
    simpa [ne, unwraps] using ih h
  | case5 text inner enclosing not_blank keeps =>
    have ne : base.trim inner ≠ [] := by simpa using not_blank
    rw [readTrimmed_eq, enclosing, ext.trim_eq]
    simpa [ne, keeps] using h

/-- What is read stays what it is when the classifier is extended. -/
theorem parse_of_extends {degroup : Bool} {d : Descriptor} (h : parse base degroup text = .ok d) :
    parse cc degroup text = .ok d := by
  rw [parse_eq_ok_iff] at h ⊢
  unfold read at h ⊢
  rw [ext.trim_eq]
  split at h
  · cases h
  · next not_blank =>
    rw [if_neg not_blank]
    exact readTrimmed_of_extends ext free h

omit ext free

/-- Whatever characters a classifier adds to the standard one, what the standard one reads is read in
the same way. -/
theorem parse_eq_of_extends_standard {degroup : Bool} {d : Descriptor}
    (ext : cc.Extends .standard) (h : parse .standard degroup text = .ok d) :
    parse cc degroup text = .ok d :=
  parse_of_extends ext Classifier.standard_ownSymbols.delimiterFree h

/-- Separators and flags that are added are nothing but text inside of the delimiters. -/
theorem parse_eq_of_extends_standard_inside :
    let cc : Classifier := fun cls c => Classifier.standard cls c ||
      c == '/' && [.namespaceSeparator, .rootSeparator].contains cls ||
      c == ';' && [.flagWord, .flagSymbol].contains cls
    let text := "( f(/a;b) < ;/x | y;> )".toList
    let d := generic [] ['f'] [";/x | y;".toList] ⟨[.positional "/a;b".toList]⟩
    cc.Extends .standard ∧ parse .standard true text = .ok d ∧ parse cc true text = .ok d := by
  intro cc text d
  have ext : cc.Extends .standard := by
    have foreign : isTopLevelChar .standard '/' = false ∧ isTopLevelChar .standard ';' = false := by
      decide
    refine ⟨fun c => by simp [cc], fun c => by simp [cc], fun c => by simp [cc], ?_⟩
    intro cls c top
    have no_slash : (c == '/') = false := by
      rw [beq_eq_false_iff_ne]
      rintro rfl
      rw [foreign.1] at top
      cases top
    have no_semicolon : (c == ';') = false := by
      rw [beq_eq_false_iff_ne]
      rintro rfl
      rw [foreign.2] at top
      cases top
    simp only [cc, no_slash, no_semicolon, Bool.false_and, Bool.or_false]
  have parsed : parse .standard true text = .ok d := by
    decide +kernel
  exact ⟨ext, parsed, parse_eq_of_extends_standard ext parsed⟩

end Descriptor
end TypeShape
