import TypeShape.Proofs.Classification
import TypeShape.Proofs.Joins
import TypeShape.Proofs.RoundTrip

/-!
# The grammar of generics

The reader of a generic takes as much of the text as it can for each component, and goes back once,
where a flag word turns out to be the beginning of the name. `Grammar.Generic` has neither: a text is a
generic if it can be written as such a sequence of components in some way. That the reader finds such a
way if there is one (`taken_iff_generic`) also means that there is only one.
-/

namespace TypeShape

namespace Grammar

/-- A flag word up to its colon, and the word; or neither. -/
inductive FlagWord (cc : Classifier) : Text → Text → Prop where
  | absent : FlagWord cc [] []
  | present {word gap : Text} :
    word ≠ [] →
    (∀ c ∈ word, cc .flagWord c = true) →
    Text.Blank (cc .whitespace) gap →
    FlagWord cc (word ++ (gap ++ [':'])) word

/-- Flag symbols with whitespace before them, and without. -/
inductive FlagSymbols (cc : Classifier) : Text → Text → Prop where
  | nil : FlagSymbols cc [] []
  | cons {gap text symbols : Text} {symbol : Char} :
    Text.Blank (cc .whitespace) gap →
    cc .flagSymbol symbol = true →
    FlagSymbols cc text symbols →
    FlagSymbols cc (gap ++ symbol :: text) (symbol :: symbols)

/-- A pair of delimiters, and what it encloses; or neither. -/
inductive Pair (d : Delimiter) : Text → Option Text → Prop where
  | absent : Pair d [] none
  | present {inside : Text} :
    Balanced inside →
    Pair d (d.opener :: (inside ++ [d.closer])) (some inside)

/-- What a generic is made of. The word is empty if there is none. -/
structure Components where
  word : Text
  symbols : Text
  name : Text
  list : Option Text
  angles : Option Text

/-- A generic, and its components. -/
inductive Generic (cc : Classifier) : Text → Components → Prop where
  | intro {flags signs gap gap' gap'' parens brackets word symbols name : Text}
      {list angles : Option Text} :
    FlagWord cc flags word →
    FlagSymbols cc signs symbols →
    Text.Blank (cc .whitespace) gap →
    cc.Name name →
    Text.Blank (cc .whitespace) gap' →
    Pair .paren parens list →
    Text.Blank (cc .whitespace) gap'' →
    Pair .angle brackets angles →
    Generic cc
      (flags ++ (signs ++ (gap ++ (name ++ (gap' ++ (parens ++ (gap'' ++ brackets)))))))
      ⟨word, symbols, name, list, angles⟩

/-- What stands between angle brackets, and the arguments. -/
inductive Arguments (cc : Classifier) (text : Text) : List Text → Prop where
  | blank : Text.Blank (cc .whitespace) text → Arguments cc text []
  | separated {segments : List Text} :
    Segments ',' text segments →
    (∀ segment ∈ segments, cc.trim segment ≠ []) →
    Arguments cc text (segments.map cc.trim)

/-- What a text means if it is given, and the default if it is not. -/
inductive Given {α : Type} (means : Text → α → Prop) (default : α) : Option Text → α → Prop where
  | absent : Given means default none default
  | present {text : Text} {value : α} : means text value → Given means default (some text) value

/-- The descriptor of some components. -/
inductive Gives (cc : Classifier) : Components → Descriptor → Prop where
  | intro {word symbols name : Text} {list angles : Option Text} {args : List Text}
      {parameters : Parameters} :
    Given (fun inside parameters => Parameters.read cc inside = .ok parameters) .empty list
      parameters →
    Given (Arguments cc) [] angles args →
    Gives cc ⟨word, symbols, name, list, angles⟩ (.generic (word ++ symbols) name args parameters)

section

variable {cc : Classifier} {front rest symbols : Text} {c : Char} {d : Delimiter}
  {inside : Option Text}

/-- No punctuation stands among flag symbols. -/
lemma FlagSymbols.outer (own : cc.OwnSymbols) (h : FlagSymbols cc front symbols)
    (punct : c ∈ Classifier.punctuation) : Outer (· ≠ c) front := by
  induction h with
  | nil => exact .nil
  | @cons gap front symbols symbol blank is_symbol _ ih =>
    have sign : Outer (· ≠ c) [symbol] :=
      own.free_of_classes punct (List.forall_mem_singleton.mpr ⟨_, is_symbol⟩)
    exact (own.free_of_blank punct blank).append (sign.append ih)

namespace Pair

/-- A pair that is there begins with its opening delimiter. -/
lemma head? (h : Pair d front inside) (head : front.head? = some c) : c = d.opener := by
  cases h with
  | absent => cases head
  | present _ => exact (Option.some.inj head).symm

/-- No class accepts the delimiter that a pair begins with. -/
lemma rejects (own : cc.OwnSymbols) {cls : CharClass} (h : Pair d front inside)
    (after : ∀ c, rest.head? = some c → cc cls c = false) :
    ∀ c, (front ++ rest).head? = some c → cc cls c = false := by
  intro c head
  cases h with
  | absent => exact after c head
  | present _ =>
    cases head
    exact own.eq_false (by cases d <;> decide)

/-- A character that is no delimiter stands in a pair, if at all, between the delimiters. -/
lemma outer (h : Pair d front inside) (plain : Role.of c = .plain) : Outer (· ≠ c) front := by
  cases h with
  | absent => exact .nil
  | present balanced => exact d.outer_ne plain balanced

/-- A pair that makes up the whole text is taken from it. -/
lemma takePair_eq (h : Pair d front inside) : Scan.takePair d front = .ok (inside, []) := by
  cases h with
  | absent => exact Scan.takePair_eq_none_iff.mpr ⟨nofun, rfl⟩
  | present balanced => exact Scan.takePair_eq_some_iff.mpr ⟨balanced, rfl⟩

end Pair
end

end Grammar

namespace Descriptor

open Grammar

variable {cc : Classifier} {text rest gap front word symbols name : Text} {inside : Option Text}
  {components components' : Components} {d : Descriptor}

/-- Arguments are read exactly if they are written by the grammar. -/
lemma readArgs_eq_ok_iff (own : cc.OwnSymbols) {args : List Text} :
    readArgs cc text = .ok args ↔ Arguments cc text args := by
  constructor
  · intro h
    unfold readArgs at h
    split at h
    · next blank =>
      cases h
      exact .blank (Text.trim_eq_nil_iff.mp (List.isEmpty_iff.mp blank))
    · obtain ⟨segments, split_eq, operands_ok⟩ := Fallible.bind_eq_ok_iff.mp h
      rw [eq_map_trim_of_operands operands_ok]
      exact .separated ((Scan.splitTop_eq_ok_iff_segments rfl).mp split_eq)
        (ne_nil_of_operands operands_ok)
  · intro h
    cases h with
    | blank blank => exact if_pos (List.isEmpty_iff.mpr (Text.trim_eq_nil_iff.mpr blank))
    | separated segments given => exact readArgs_of_segments own segments given

/-- A component that may be left out is read exactly if it is given, or left out for its default. -/
lemma given_iff {α : Type} {read : Text → Except Reason α} {means : Text → α → Prop}
    {default value : α} (reads : ∀ text value, read text = .ok value ↔ means text value) :
    (inside.map read).getD (.ok default) = .ok value ↔ Given means default inside value := by
  constructor
  · intro h
    cases inside with
    | none =>
      cases h
      exact .absent
    | some text => exact .present ((reads text value).mp h)
  · intro h
    cases h with
    | absent => rfl
    | present means => exact (reads _ value).mpr means

/-- The components that the steps of the reader take from a text. -/
inductive Taken (cc : Classifier) (text : Text) : Components → Prop where
  | intro {word symbols name afterWord afterSymbols afterName afterList afterAngles : Text}
      {list angles : Option Text} :
    takeFlagWord cc text = (word, afterWord) →
    takeFlagSymbols cc afterWord = (symbols, afterSymbols) →
    takeName cc afterSymbols = .ok (name, afterName) →
    Scan.takePair .paren (cc.skip afterName) = .ok (list, afterList) →
    Scan.takePair .angle (cc.skip afterList) = .ok (angles, afterAngles) →
    cc.skip afterAngles = [] →
    Taken cc text ⟨word, symbols, name, list, angles⟩

/-- The reader finds one way to take a text apart at most. -/
lemma Taken.unique (h : Taken cc text components) (h' : Taken cc text components') :
    components = components' := by
  cases h with
  | intro worded flagged named listed angled _ =>
    cases h' with
    | intro worded' flagged' named' listed' angled' _ =>
      cases worded.symm.trans worded'
      cases flagged.symm.trans flagged'
      cases named.symm.trans named'
      cases listed.symm.trans listed'
      cases angled.symm.trans angled'
      rfl

/-- A generic is read exactly if the components that are taken from its text give a descriptor. -/
lemma readGeneric_eq_ok_iff (own : cc.OwnSymbols) :
    readGeneric cc text = .ok d ↔ ∃ components, Taken cc text components ∧ Gives cc components d := by
  have list_iff {list : Option Text} {parameters : Parameters} :
      (list.map (Parameters.read cc)).getD (.ok .empty) = .ok parameters ↔
        Given (fun inside parameters => Parameters.read cc inside = .ok parameters) .empty list
          parameters := given_iff fun _ _ => Iff.rfl
  have angles_iff {angles : Option Text} {args : List Text} :
      (angles.map (readArgs cc)).getD (.ok []) = .ok args ↔ Given (Arguments cc) [] angles args :=
    given_iff fun _ _ => readArgs_eq_ok_iff own
  constructor
  · intro h
    obtain ⟨name, afterName, list, afterList, parameters, angles, afterAngles, args, named, listed,
      parameters_eq, angled, args_eq, done, rfl⟩ := exists_of_readGeneric h
    exact ⟨_, .intro rfl rfl named listed angled done,
      .intro (list_iff.mp parameters_eq) (angles_iff.mp args_eq)⟩
  · rintro ⟨components, taken, gives⟩
    cases gives with
    | intro parameters_ok args_ok =>
      cases taken with
      | intro worded flagged named listed angled done =>
        exact readGeneric_of_components worded flagged named listed (list_iff.mpr parameters_ok)
          angled (angles_iff.mpr args_ok) done

/-! ### What is taken is of the grammar -/

/-- What is taken for a flag word is one, or none. -/
lemma exists_of_takeFlagWord (h : takeFlagWord cc text = (word, rest)) :
    ∃ front, text = front ++ rest ∧ FlagWord cc front word := by
  unfold takeFlagWord at h
  split at h
  · next c more rest' taken colon =>
    cases h
    have all : ∀ d ∈ c :: more, cc .flagWord d = true := by
      rw [← taken]
      exact fun d mem => List.mem_takeWhile_imp mem
    have after := cc.takeWhile_append_skip (text.dropWhile (cc .flagWord))
    rw [colon] at after
    refine ⟨_, ?_, .present (by simp) all (Text.blank_takeWhile _ (text.dropWhile (cc .flagWord)))⟩
    calc text = text.takeWhile (cc .flagWord) ++ text.dropWhile (cc .flagWord) :=
          List.takeWhile_append_dropWhile.symm
      _ = c :: more ++ (_ ++ ':' :: rest) := by rw [taken, after]
      _ = _ := by simp
  · cases h
    exact ⟨[], rfl, .absent⟩

/-- Whitespace at the beginning is that of the first flag symbol, or after all if there is none. -/
lemma exists_flagSymbols_cons {c : Char} (c_blank : cc .whitespace c = true)
    (signs : FlagSymbols cc front symbols) (gap_blank : Text.Blank (cc .whitespace) gap) :
    ∃ front' gap', c :: (front ++ (gap ++ rest)) = front' ++ (gap' ++ rest) ∧
      FlagSymbols cc front' symbols ∧ Text.Blank (cc .whitespace) gap' := by
  cases signs with
  | nil => exact ⟨[], c :: gap, rfl, .nil, gap_blank.cons c_blank⟩
  | cons before symbol signs =>
    exact ⟨_, gap, rfl, .cons (before.cons c_blank) symbol signs, gap_blank⟩

/-- What is taken for flag symbols is made of some, and of the whitespace after them. -/
lemma exists_of_takeFlagSymbols (cc : Classifier) (text : Text) :
    ∃ front gap, text = front ++ (gap ++ (takeFlagSymbols cc text).2) ∧
      FlagSymbols cc front (takeFlagSymbols cc text).1 ∧ Text.Blank (cc .whitespace) gap := by
  fun_induction takeFlagSymbols cc text with
  | case1 => exact ⟨[], [], rfl, .nil, Text.blank_nil⟩
  | case2 c rest blank ih =>
    obtain ⟨front, gap, eq, signs, gap_blank⟩ := ih
    obtain ⟨front', gap', eq', signs', gap_blank'⟩ := exists_flagSymbols_cons blank signs gap_blank
    exact ⟨front', gap', (congrArg (c :: ·) eq).trans eq', signs', gap_blank'⟩
  | case3 c rest _ symbol ih =>
    obtain ⟨front, gap, eq, signs, gap_blank⟩ := ih
    exact ⟨c :: front, gap, congrArg (c :: ·) eq, .cons Text.blank_nil symbol signs, gap_blank⟩
  | case4 c rest _ _ => exact ⟨[], [], rfl, .nil, Text.blank_nil⟩

/-- What is taken for a pair is one, or none. -/
lemma exists_of_takePair {delimiter : Delimiter}
    (h : Scan.takePair delimiter text = .ok (inside, rest)) :
    ∃ front, text = front ++ rest ∧ Pair delimiter front inside := by
  cases inside with
  | none =>
    obtain ⟨_, rfl⟩ := Scan.takePair_eq_none_iff.mp h
    exact ⟨[], rfl, .absent⟩
  | some inside =>
    obtain ⟨balanced, rfl⟩ := Scan.takePair_eq_some_iff.mp h
    exact ⟨_, by simp, .present balanced⟩

/-- Whitespace after the last component would be at the end of the text. -/
lemma generic_of_taken (trimmed : Text.Trimmed (cc .whitespace) text)
    (h : Taken cc text components) : Generic cc text components := by
  cases h with
  | @intro _ _ _ afterWord afterSymbols afterName afterList afterAngles _ _ worded flagged named
      listed angled done =>
    obtain ⟨flags, rfl, flag_word⟩ := exists_of_takeFlagWord worded
    obtain ⟨signs, gap, eq, flag_symbols, blank⟩ := exists_of_takeFlagSymbols cc afterWord
    rw [flagged] at eq flag_symbols
    subst eq
    obtain ⟨is_name, _⟩ := name_of_takeName named
    have name_eq := append_of_takeName named
    obtain ⟨parens, list_eq, parens_pair⟩ := exists_of_takePair listed
    obtain ⟨brackets, angles_eq, brackets_pair⟩ := exists_of_takePair angled
    -- every step leaves the rest as it is, so the text is put together again from the last one on
    have gap_eq := cc.takeWhile_append_skip afterName
    have gap_eq' := cc.takeWhile_append_skip afterList
    rw [list_eq, ← gap_eq', angles_eq] at gap_eq
    rw [name_eq, ← gap_eq] at trimmed ⊢
    have nothing : afterAngles = [] := by
      simp only [← List.append_assoc] at trimmed
      exact trimmed.eq_nil_of_blank (List.dropWhile_eq_nil_iff.mp done)
    rw [nothing, List.append_nil]
    exact .intro flag_word flag_symbols blank is_name (Text.blank_takeWhile _ afterName) parens_pair
      (Text.blank_takeWhile _ afterList) brackets_pair

/-! ### What is of the grammar is taken -/

/-- Whitespace before flag symbols is passed over. -/
lemma takeFlagSymbols_of_blank (blank : Text.Blank (cc .whitespace) gap) :
    takeFlagSymbols cc (gap ++ text) = takeFlagSymbols cc text := by
  induction gap with
  | nil => rfl
  | cons c gap ih =>
    obtain ⟨first, others⟩ := List.forall_mem_cons.mp blank
    rw [List.cons_append, takeFlagSymbols, if_pos first, ih others]

/-- Flag symbols are taken to the last one, where nothing that follows is another. -/
lemma takeFlagSymbols_of_flagSymbols (own : cc.OwnSymbols) (signs : FlagSymbols cc front symbols)
    (blank : Text.Blank (cc .whitespace) gap) (unflagged : cc.Unflagged rest) :
    takeFlagSymbols cc (front ++ (gap ++ rest)) = (symbols, rest) := by
  induction signs with
  | nil =>
    have none_left : takeFlagSymbols cc ([] ++ rest) = ([], rest) :=
      takeFlagSymbols_append own nofun unflagged
    rw [List.nil_append, takeFlagSymbols_of_blank blank]
    exact none_left
  | @cons before front symbols symbol before_blank is_symbol _ ih =>
    have not_blank : ¬ cc .whitespace symbol = true := by
      rw [own.whitespace_eq, own.symbol_not_blank symbol is_symbol]
      decide
    rw [List.append_assoc, List.cons_append, takeFlagSymbols_of_blank before_blank, takeFlagSymbols,
      if_neg not_blank, if_pos is_symbol, ih]

/-- The characters of a flag word are no flag word where no colon is outside of delimiters. -/
lemma takeFlagWord_of_outer (own : cc.OwnSymbols) (outer : Outer (· ≠ ':') text) :
    takeFlagWord cc text = ([], text) := by
  apply takeFlagWord_eq
  intro head
  obtain ⟨rest, eq⟩ := List.head?_eq_some_iff.mp head
  have free := own.delimiterFree
  have after := ((free.peels_dropWhile .flagWord text).trans (free.peels_skip _)).outer outer
  rw [eq] at after
  exact after.head rfl

/-- A flag word is taken where it is written, and none is taken where none is, as long as no colon
follows outside of delimiters. -/
lemma takeFlagWord_of_flagWord (own : cc.OwnSymbols) (flag_word : FlagWord cc front word)
    (outer : Outer (· ≠ ':') rest) : takeFlagWord cc (front ++ rest) = (word, rest) := by
  cases flag_word with
  | absent => exact takeFlagWord_of_outer own outer
  | @present _ gap ne all blank =>
    have whole : word ++ (gap ++ [':']) ++ rest = word ++ (gap ++ ':' :: rest) := by simp
    rw [whole]
    exact takeFlagWord_append own ne all blank

section Pairs

variable {gap gap' parens brackets : Text} {list angles : Option Text}
variable (own : cc.OwnSymbols)
variable (blank : Text.Blank (cc .whitespace) gap) (parens_pair : Pair .paren parens list)
variable (blank' : Text.Blank (cc .whitespace) gap') (brackets_pair : Pair .angle brackets angles)

include own blank parens_pair blank' brackets_pair

/-- No class but whitespace accepts what the pairs after a name begin with. -/
lemma rejects_pairs {cls : CharClass} (ne : cls ≠ .whitespace) :
    ∀ c, (gap ++ (parens ++ (gap' ++ brackets))).head? = some c → cc cls c = false := by
  apply own.rejects_head blank ne
  apply parens_pair.rejects own
  apply own.rejects_head blank' ne
  intro c head
  rw [brackets_pair.head? head]
  exact own.eq_false (by decide)

/-- No colon stands outside of delimiters after a name. -/
lemma outer_pairs : Outer (· ≠ ':') (gap ++ (parens ++ (gap' ++ brackets))) :=
  (own.free_of_blank (by decide) blank).append <| (parens_pair.outer rfl).append <|
    (own.free_of_blank (by decide) blank').append (brackets_pair.outer rfl)

/-- The parentheses are taken, and before the angle brackets there is only whitespace. -/
lemma takePair_of_pairs :
    ∃ rest, Scan.takePair .paren (cc.skip (gap ++ (parens ++ (gap' ++ brackets)))) =
        .ok (list, rest) ∧
      cc.skip rest = brackets := by
  have stays : ∀ c, brackets.head? = some c → cc .whitespace c = false := by
    intro c head
    rw [brackets_pair.head? head]
    exact own.eq_false (by decide)
  have skipped : cc.skip (gap' ++ brackets) = brackets := Text.dropWhile_append_eq blank' stays
  cases parens_pair with
  | absent =>
    refine ⟨brackets, ?_, Text.dropWhile_eq_self stays⟩
    have other : brackets.head? ≠ some '(' := fun head => nomatch brackets_pair.head? head
    have gaps : cc.skip (gap ++ (gap' ++ brackets)) = cc.skip (gap' ++ brackets) :=
      List.dropWhile_append_of_pos blank
    rw [List.nil_append, gaps, skipped]
    exact Scan.takePair_eq_none_iff.mpr ⟨other, rfl⟩
  | @present inside balanced =>
    refine ⟨gap' ++ brackets, ?_, skipped⟩
    have opens : cc.skip (gap ++ ('(' :: (inside ++ [')']) ++ (gap' ++ brackets))) =
        '(' :: (inside ++ ')' :: (gap' ++ brackets)) := by
      rw [List.cons_append, List.append_assoc]
      apply Text.dropWhile_append_eq blank
      rintro _ ⟨⟩
      exact own.eq_false (by decide)
    exact Scan.takePair_eq_some_iff.mpr ⟨balanced, opens⟩

end Pairs

/-- The components that the grammar gives are those that the reader takes. -/
lemma taken_of_generic (h : Generic .standard text components) : Taken .standard text components := by
  have own := Classifier.standard_ownSymbols
  cases h with
  | @intro flags signs gap gap' gap'' parens brackets _ symbols name list angles flag_word
      flag_symbols blank is_name blank' parens_pair blank'' brackets_pair =>
    have ends : Classifier.standard.Ends (gap' ++ (parens ++ (gap'' ++ brackets))) := by
      intro c head
      constructor
      · exact rejects_pairs own blank' parens_pair blank'' brackets_pair (by decide) c head
      · exact rejects_pairs own blank' parens_pair blank'' brackets_pair (by decide) c head
    have unflagged : Classifier.standard.Unflagged
        (name ++ (gap' ++ (parens ++ (gap'' ++ brackets)))) := by
      intro c head
      rw [List.head?_append_of_ne_nil _ is_name.ne_nil] at head
      exact ⟨is_name.not_blank own c (List.mem_of_mem_head? head),
        Classifier.not_symbol_of_name is_name c head⟩
    have in_name : Outer (· ≠ ':') name := by
      apply own.free_of_classes (by decide)
      intro c mem
      rcases is_name.chars own c mem with accepts | accepts
      · exact ⟨_, accepts⟩
      · exact ⟨_, accepts⟩
    -- the colon of a flag word would be outside of all delimiters
    have no_colon : Outer (· ≠ ':')
        (signs ++ (gap ++ (name ++ (gap' ++ (parens ++ (gap'' ++ brackets)))))) :=
      (flag_symbols.outer own (by decide)).append <|
        (own.free_of_blank (by decide) blank).append <| in_name.append <|
        outer_pairs own blank' parens_pair blank'' brackets_pair
    obtain ⟨rest, listed, rest_eq⟩ := takePair_of_pairs own blank' parens_pair blank'' brackets_pair
    have angled : Scan.takePair .angle (Classifier.standard.skip rest) = .ok (angles, []) := by
      rw [rest_eq]
      exact brackets_pair.takePair_eq
    exact .intro (takeFlagWord_of_flagWord own flag_word no_colon)
      (takeFlagSymbols_of_flagSymbols own flag_symbols blank unflagged)
      (takeName_append own is_name ends) listed angled rfl

/-- The reader takes a trimmed text apart exactly as the grammar does. -/
lemma taken_iff_generic (trimmed : Text.Trimmed (Classifier.standard .whitespace) text) :
    Taken .standard text components ↔ Generic .standard text components :=
  ⟨generic_of_taken trimmed, taken_of_generic⟩

/-- A text that has none of the other forms is read exactly if it is of the grammar of generics. It is
so in one way only, and its components give what is read. -/
theorem parse_iff_generic (trimmed : Classifier.standard.trim text = text) (ne : text ≠ [])
    (free : ¬ Enclosed text) (allowed : Outer Classifier.standard.Allowed text)
    (no_bar : ¬ HasOuter '|' text) (no_amp : ¬ HasOuter '&' text)
    (no_brackets : ¬ Bracketed .standard text) :
    (∀ d, parse .standard false text = .ok d ↔
      ∃ components, Generic .standard text components ∧ Gives .standard components d) ∧
    ∀ components components', Generic .standard text components →
      Generic .standard text components' → components = components' := by
  have is_trimmed : Text.Trimmed (Classifier.standard .whitespace) text := by
    rw [← trimmed]
    exact Text.trimmed_trim _ text
  constructor
  · intro d
    have read_eq : read .standard false text = readGeneric .standard text := by
      rw [read_of_ne_nil false (trimmed.symm ▸ ne), trimmed,
        readTrimmed_of_balanced .standard false allowed.balanced free]
      exact readUngrouped_of_generic allowed (outer_of_not_hasOuter allowed.balanced no_bar)
        (outer_of_not_hasOuter allowed.balanced no_amp) no_brackets
    rw [parse_eq_ok_iff, read_eq, readGeneric_eq_ok_iff Classifier.standard_ownSymbols]
    simp only [taken_iff_generic is_trimmed]
  · intro components components' h h'
    exact (taken_of_generic h).unique (taken_of_generic h')

/-- All components, with whitespace wherever there may be some. -/
theorem parse_iff_generic_spaced :
    let text := "x : ? ! \\A.B ( k : \"c\" ) < C , D >".toList
    let d := Descriptor.generic "x?!".toList "\\A.B".toList ["C".toList, "D".toList]
      ⟨[.named ['k'] ['c']]⟩
    Classifier.standard.trim text = text ∧ text ≠ [] ∧ ¬ Enclosed text ∧
      Outer Classifier.standard.Allowed text ∧ ¬ HasOuter '|' text ∧ ¬ HasOuter '&' text ∧
      ¬ Bracketed .standard text ∧
      (∃ components, Generic .standard text components ∧ Gives .standard components d) := by
  intro text d
  have trimmed : Classifier.standard.trim text = text := by decide +kernel
  have free : ¬ Enclosed text := not_enclosed_of_head? (by decide +kernel)
  have allowed : Outer Classifier.standard.Allowed text := checkTop_iff.mp (by decide +kernel)
  have without {c : Char} (check : Scan.checkTop (· != c) text = .ok ()) : ¬ HasOuter c text := by
    rw [hasOuter_iff allowed.balanced, not_not]
    exact (Scan.checkTop_eq_ok_iff.mp check).mono fun _ other => by simpa using other
  have no_brackets : ¬ Bracketed .standard text := by
    rintro ⟨element, inside, _, _, _, eq⟩
    have last := getLast?_brackets element inside
    rw [← eq] at last
    revert last
    decide +kernel
  have ne : text ≠ [] := by decide +kernel
  have parsed : parse .standard false text = .ok d := by decide +kernel
  have no_bar : ¬ HasOuter '|' text := without (by decide +kernel)
  have no_amp : ¬ HasOuter '&' text := without (by decide +kernel)
  have whole := parse_iff_generic trimmed ne free allowed no_bar no_amp no_brackets
  exact ⟨trimmed, ne, free, allowed, no_bar, no_amp, no_brackets, (whole.1 d).mp parsed⟩

end Descriptor
end TypeShape
