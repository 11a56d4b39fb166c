import TypeShape.Proofs.Forms
import TypeShape.Proofs.Reasons

/-!
# Classification

The forms of the texts and what is read from each, stated over all texts and all classifiers: the
five forms are told apart by the characters outside of delimiters alone. Main statement:
`parse_classifies`. That no other text is rejected as empty is about the reasons of every step of
reading (`hereditary_ne_empty`).
-/

namespace TypeShape

open Fallible

namespace Scan

/-- A scan is at fault for a delimiter or for a quoted value. -/
lemma fault_eq (stack : List Delimiter) (text : Text) :
    (scanFrom stack text).fault = none ∨ (scanFrom stack text).fault = some .unbalanced ∨
      (scanFrom stack text).fault = some .unterminatedQuote := by
  fun_induction scanFrom stack text with
  | case1 stack => cases stack <;> simp [stop]
  | case2 => exact .inr (.inr rfl)
  | case3 _ _ _ _ _ _ _ _ ih => exact ih
  | case4 _ _ _ _ _ ih => exact ih
  | case5 => exact .inr (.inl rfl)
  | case6 _ _ _ _ _ ih => exact ih
  | case7 => exact .inr (.inl rfl)
  | case8 _ _ _ _ ih => exact ih

/-- No scan is at fault because a text is blank. -/
lemma fault_ne_empty (text : Text) : (of text).fault ≠ some .empty := by
  rw [of_eq_scanFrom]
  rcases fault_eq [] text with eq | eq | eq <;> simp [eq]

/-- What takes a pair from a text does not take it for blank. -/
lemma takePair_failsOnly (d : Delimiter) (text : Text) :
    FailsOnly (· ≠ .empty) (takePair d text) := by
  unfold takePair
  split
  · apply FailsOnly.map
    unfold cutPair
    split
    · exact failsOnly_ok _
    · apply failsOnly_error
      have fault := fault_ne_empty text
      cases found : (of text).fault with
      | none => simp
      | some reason =>
        rw [found] at fault
        simpa using fault
  · exact failsOnly_ok _

end Scan

/-- Nothing is rejected as empty but blank text. -/
lemma hereditary_ne_empty (cc : Classifier) :
    Hereditary cc (fun _ => True) (· ≠ .empty) where
  of_isLocal _ isLocal := isLocal.ne_empty
  fault _ found := by
    rintro rfl
    exact Scan.fault_ne_empty _ found
  takePair d _ := Scan.takePair_failsOnly d _
  quoted _ _ := by decide
  trim := id
  skip := id
  value _ _ := trivial
  piece _ _ _ _ := trivial
  front _ _ := trivial
  inside _ _ := trivial
  after _ _ := trivial

/-- The text has the character outside of all delimiters and quoted values. -/
def HasOuter (c : Char) (text : Text) : Prop :=
  ∃ items, Nested text items ∧ ∃ item ∈ items, item.depth = 0 ∧ item.ch = c

/-- A balanced text has a character outside of delimiters, or all outer ones are others. -/
lemma hasOuter_iff {c : Char} {text : Text} (balanced : Balanced text) :
    HasOuter c text ↔ ¬ Outer (· ≠ c) text := by
  constructor
  · rintro ⟨items, nested, item, mem, depth, rfl⟩ ⟨items', nested', outer⟩
    cases nested.items_unique nested'
    exact outer item mem depth rfl
  · intro no
    obtain ⟨items, nested⟩ := balanced
    by_contra none
    refine no ⟨items, nested, ?_⟩
    rintro item mem depth rfl
    exact none ⟨items, nested, item, mem, depth, rfl⟩

/-- Without the character there are only others outside of delimiters. -/
lemma outer_of_not_hasOuter {c : Char} {text : Text} (balanced : Balanced text)
    (h : ¬ HasOuter c text) : Outer (· ≠ c) text := by
  by_contra some
  exact h ((hasOuter_iff balanced).mpr some)

/-- A text with an outer character is not empty. -/
lemma HasOuter.ne_nil {c : Char} {text : Text} (h : HasOuter c text) : text ≠ [] := by
  rintro rfl
  obtain ⟨items, nested, item, mem, _⟩ := h
  cases nested
  cases mem

/-- What is to be read from an input whose trimmed text is `text`, when enclosing parentheses are
kept. Every text is of one of these forms. -/
structure Classified (cc : Classifier) (input text : Text)
    (outcome : Except Rejection Descriptor) : Prop where
  empty : outcome = .error ⟨input, .empty⟩ ↔ text = []
  group : ∀ inside, Balanced inside → text = '(' :: (inside ++ [')']) →
    outcome =
      if cc.trim inside = [] then .error ⟨input, .emptyOperand⟩ else .ok (.group (cc.trim inside))
  rejected : ¬ Enclosed text → ¬ Outer cc.Allowed text → ∃ reason, outcome = .error ⟨input, reason⟩
  union : ¬ Enclosed text → Outer cc.Allowed text → HasOuter '|' text →
    ∃ segments, Segments '|' text segments ∧ 2 ≤ segments.length ∧
      (∀ others, Segments '|' text others → others = segments) ∧
      outcome =
        if ∃ segment ∈ segments, cc.trim segment = [] then .error ⟨input, .emptyOperand⟩
        else .ok (.union (segments.map cc.trim))
  intersection : ¬ Enclosed text → Outer cc.Allowed text → ¬ HasOuter '|' text →
    HasOuter '&' text →
    ∃ segments, Segments '&' text segments ∧ 2 ≤ segments.length ∧
      (∀ others, Segments '&' text others → others = segments) ∧
      outcome =
        if ∃ segment ∈ segments, cc.trim segment = [] then .error ⟨input, .emptyOperand⟩
        else .ok (.intersection (segments.map cc.trim))
  array : ¬ Enclosed text → Outer cc.Allowed text → ¬ HasOuter '|' text → ¬ HasOuter '&' text →
    ∀ element inside, Balanced element → Balanced inside → cc.trim element ≠ [] →
      text = element ++ '[' :: (inside ++ [']']) →
      outcome =
        if cc.trim inside = [] then .ok (.array (cc.trim element) none)
        else if Decimal.isNumeral (cc.trim inside) = true ∧
            Decimal.value (cc.trim inside) < UInt64.size then
          .ok (.array (cc.trim element) (some (cc.trim inside)))
        else .error ⟨input, .badSize⟩
  generic : text ≠ [] → ¬ Enclosed text → Outer cc.Allowed text → ¬ HasOuter '|' text →
    ¬ HasOuter '&' text → ¬ Bracketed cc text →
    outcome = (Descriptor.readGeneric cc text).mapError (⟨input, ·⟩) ∧
      ∀ d, outcome = .ok d → d.kind = .generic

namespace Descriptor

variable {cc : Classifier} {degroup : Bool} {input text : Text}

/-- The outcome for an input that is not blank is that for its trimmed text. -/
lemma parse_of_readTrimmed {outcome : Except Reason Descriptor} (ne : cc.trim input ≠ [])
    (h : readTrimmed cc degroup (cc.trim input) = outcome) :
    parse cc degroup input = outcome.mapError (⟨input, ·⟩) := by
  have read_eq : read cc degroup input = outcome := by
    rw [read_of_ne_nil degroup ne, h]
  unfold parse
  rw [read_eq]
  cases outcome <;> rfl

/-- Only a text that is balanced and has no other outer characters than allowed ones is read. -/
lemma exists_error_of_not_allowed (degroup : Bool) (free : ¬ Enclosed text)
    (h : ¬ Outer cc.Allowed text) :
    ∃ reason, readTrimmed cc degroup text = .error reason := by
  rw [readTrimmed]
  split
  · exact ⟨_, rfl⟩
  · cases checked : Scan.checkTop (isTopLevelChar cc) text with
    | error reason =>
      refine ⟨reason, ?_⟩
      unfold readUngrouped
      rw [checked]
      rfl
    | ok _ => exact absurd (checkTop_iff.mp checked) h
  · next found => exact absurd ⟨_, enclosed?_eq_some_iff.mp found⟩ free

/-- The segments of a text that has the separator outside of delimiters. -/
lemma exists_segments_of_hasOuter {separator : Char} (plain : Role.of separator = .plain)
    (balanced : Balanced text) (h : HasOuter separator text) :
    ∃ segments, Segments separator text segments ∧ 2 ≤ segments.length ∧
      ∀ others, Segments separator text others → others = segments := by
  obtain ⟨segments, segs⟩ := Scan.exists_segments plain balanced
  refine ⟨segments, segs, ?_, fun others other => Scan.segments_unique plain other segs⟩
  have short := Scan.length_segments_lt_two_iff plain segs
  by_contra few
  exact (hasOuter_iff balanced).mp h (short.mp (by omega))

/-- A text that is read as a generic gives one. -/
lemma kind_of_readGeneric {d : Descriptor} (h : readGeneric cc text = .ok d) :
    d.kind = .generic := by
  obtain ⟨_, _, _, _, _, _, _, _, _, _, _, _, _, _, rfl⟩ := exists_of_readGeneric h
  rfl

/-- The forms of a text are told apart by its characters outside of delimiters: what is read from an
input meets the definition of the forms, whatever the classifier. -/
theorem parse_classifies (cc : Classifier) (input : Text) :
    Classified cc input (cc.trim input) (parse cc false input) where
  empty := by
    constructor
    · intro rejected
      by_contra ne
      have read_eq := (parse_eq_error_iff.mp rejected).2
      unfold read at read_eq
      rw [if_neg (by simpa using ne)] at read_eq
      -- nothing that is read from the text is rejected as empty
      exact (hereditary_ne_empty cc).readTrimmed false trivial _ read_eq rfl
    · intro blank
      exact parse_eq_error_iff.mpr ⟨rfl, by simp [read, blank]⟩
  group inside balanced eq := by
    rw [parse_of_readTrimmed (by simp [eq]) (eq ▸ readTrimmed_of_enclosed balanced)]
    split <;> rfl
  rejected free not_allowed := by
    have ne : cc.trim input ≠ [] := by
      intro nil
      exact not_allowed (nil ▸ Outer.nil)
    obtain ⟨reason, failed⟩ := exists_error_of_not_allowed false free not_allowed
    exact ⟨reason, parse_of_readTrimmed ne failed⟩
  union free allowed bar := by
    obtain ⟨segments, segs, several, unique⟩ :=
      exists_segments_of_hasOuter rfl allowed.balanced bar
    refine ⟨segments, segs, several, unique, ?_⟩
    have read_eq := (readTrimmed_of_balanced cc false allowed.balanced free).trans
      (readUngrouped_of_union allowed segs several)
    rw [parse_of_readTrimmed bar.ne_nil read_eq, operands_eq]
    split <;> rfl
  intersection free allowed no_bar amp := by
    obtain ⟨segments, segs, several, unique⟩ :=
      exists_segments_of_hasOuter rfl allowed.balanced amp
    refine ⟨segments, segs, several, unique, ?_⟩
    have read_eq := (readTrimmed_of_balanced cc false allowed.balanced free).trans
      (readUngrouped_of_intersection allowed (outer_of_not_hasOuter allowed.balanced no_bar) segs
        several)
    rw [parse_of_readTrimmed amp.ne_nil read_eq, operands_eq]
    split <;> rfl
  array free allowed no_bar no_amp element inside before within ne eq := by
    have no_bar := outer_of_not_hasOuter allowed.balanced no_bar
    have no_amp := outer_of_not_hasOuter allowed.balanced no_amp
    have read_eq := readTrimmed_of_balanced cc false allowed.balanced free
    -- the element and the brackets are those of the trimmed text
    rw [eq] at allowed no_bar no_amp
    have outcome := readUngrouped_of_brackets before within ne allowed no_bar no_amp
    rw [← eq] at outcome
    rw [parse_of_readTrimmed (by simp [eq]) (read_eq.trans outcome)]
    unfold arrayOutcome
    split
    · rfl
    · split <;> rfl
  generic ne free allowed no_bar no_amp no_brackets := by
    have read_eq := (readTrimmed_of_balanced cc false allowed.balanced free).trans
      (readUngrouped_of_generic allowed (outer_of_not_hasOuter allowed.balanced no_bar)
        (outer_of_not_hasOuter allowed.balanced no_amp) no_brackets)
    have outcome := parse_of_readTrimmed ne read_eq
    refine ⟨outcome, ?_⟩
    intro d read
    rw [outcome] at read
    cases generic : readGeneric cc (cc.trim input) with
    | error reason =>
      rw [generic] at read
      cases read
    | ok d' =>
      rw [generic] at read
      cases read
      exact kind_of_readGeneric generic

end Descriptor
end TypeShape
