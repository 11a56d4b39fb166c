import TypeShape.Proofs.Classification
import TypeShape.Proofs.DelimiterFree
import TypeShape.Proofs.Preorder

/-!
# Faults of delimiters

A text whose scan is at fault is rejected for that fault, unless a character before it is rejected
first. A text whose scan is not at fault is never rejected for a delimiter or a quotation mark, though
many steps of reading scan again: all that is cut from a balanced text is balanced
(`hereditary_balanced`). Parts are balanced too, so below the root of a tree there are no faults
(`faults_of_scan`).
-/

namespace TypeShape

open Fallible

/-- A balanced text that begins with a mark has the end of the value as well. -/
lemma exists_read_of_balanced {rest : Text} (balanced : Balanced (Quoted.mark :: rest)) :
    ∃ value after, Quoted.read rest = some (value, after) := by
  obtain ⟨items, nested⟩ := balanced
  generalize eq : Quoted.mark :: rest = text at nested
  cases nested with
  | nil => cases eq
  | plain role _ =>
    cases eq
    cases role
  | @quoted written more _ run _ =>
    cases eq
    obtain ⟨value, means⟩ := run.exists_means
    exact ⟨value, more, means.read_append more⟩
  | @pair d _ _ _ _ _ _ =>
    cases d <;> cases eq

namespace Parameters

variable {cc : Classifier} {text : Text}

/-- The text after a key and its colon is balanced if the whole is. -/
lemma balanced_of_splitKey (free : cc.DelimiterFree) {key value : Text} (balanced : Balanced text)
    (h : splitKey cc text = some (key, value)) : Balanced value := by
  unfold splitKey at h
  split at h
  · cases h
  · next first rest =>
    split at h
    · next start =>
      split at h
      · next more colon =>
        cases h
        have chars : Peels (first :: rest) (rest.dropWhile (cc .nameChar)) :=
          .cons (free.plain start) (free.peels_dropWhile .nameChar rest)
        have after := free.balanced_trim (chars.balanced balanced)
        rw [colon] at after
        exact Peels.balanced (.cons rfl .refl) after
      · cases h
    · cases h

end Parameters

namespace Descriptor

variable {cc : Classifier} {degroup : Bool} {text : Text}

/-- What is left of a balanced text after a pair at its beginning is balanced. -/
lemma balanced_of_takePair {d : Delimiter} {inside : Option Text} {after : Text}
    (balanced : Balanced text) (h : Scan.takePair d text = .ok (inside, after)) :
    Balanced after := by
  rw [balanced_iff_outer] at balanced ⊢
  exact Scan.outer_of_takePair balanced h

/-- Balanced texts are handed on, and they are rejected for what stands between their delimiters
only. -/
lemma hereditary_balanced (free : cc.DelimiterFree) : Hereditary cc Balanced Reason.IsLocal where
  of_isLocal _ isLocal := isLocal
  fault balanced found := by
    rw [Scan.fault_eq_none_iff.mpr balanced] at found
    cases found
  takePair d balanced := by
    obtain ⟨pair, taken⟩ := Scan.exists_takePair d balanced
    rw [taken]
    exact failsOnly_ok pair
  quoted balanced ends := by
    obtain ⟨value, after, read_eq⟩ := exists_read_of_balanced balanced
    cases ends.symm.trans read_eq
  trim balanced := free.balanced_trim balanced
  skip balanced := (free.peels_skip _).balanced balanced
  value balanced found := Parameters.balanced_of_splitKey free balanced found
  piece balanced split piece mem :=
    (((Scan.splitTop_eq_ok_iff_segments rfl).mp split).free piece mem).balanced
  front balanced named := (peels_front free named).balanced balanced
  inside _ taken := (Scan.takePair_eq_some_iff.mp taken).1
  after balanced taken := balanced_of_takePair balanced taken

/-- A pair that is not found is missing because the scan of the text is at fault. -/
lemma fault_of_takePair {d : Delimiter} {reason other : Reason}
    (fault : (Scan.of text).fault = some reason) (h : Scan.takePair d text = .error other) :
    other = reason := by
  unfold Scan.takePair at h
  split at h
  · have cut := Fallible.map_eq_error_iff.mp h
    unfold Scan.cutPair at cut
    split at cut
    · cases cut
    · rw [fault] at cut
      exact (Except.error.inj cut).symm
  · cases h

/-- At the top level of a text with a fault, either the fault is found or a character before it. -/
lemma readUngrouped_of_fault {reason : Reason} (fault : (Scan.of text).fault = some reason) :
    readUngrouped cc text = .error reason ∨
      ∃ item ∈ (Scan.of text).items, item.depth = 0 ∧ isTopLevelChar cc item.ch = false ∧
        readUngrouped cc text = .error (.unexpected item.ch) := by
  have checked : Scan.checkTop (isTopLevelChar cc) text = .error reason ∨
      ∃ item ∈ (Scan.of text).items, item.depth = 0 ∧ isTopLevelChar cc item.ch = false ∧
        Scan.checkTop (isTopLevelChar cc) text = .error (.unexpected item.ch) := by
    unfold Scan.checkTop
    split
    · next item found =>
      have rejects := List.find?_some found
      simp only [Bool.and_eq_true, beq_iff_eq, Bool.not_eq_true'] at rejects
      exact .inr ⟨item, List.mem_of_find?_eq_some found, rejects.1, rejects.2, rfl⟩
    -- the check goes through to the fault
    · left
      unfold Scan.complete
      rw [fault]
      rfl
  unfold readUngrouped
  rcases checked with failed | ⟨item, mem, depth, rejects, failed⟩
  · rw [failed]
    exact .inl rfl
  · rw [failed]
    exact .inr ⟨item, mem, depth, rejects, rfl⟩

/-- Enclosing parentheses are not found in a text with a fault, so it is the fault that is reported,
or a character before it. -/
lemma readTrimmed_of_fault (degroup : Bool) {reason : Reason}
    (fault : (Scan.of text).fault = some reason) :
    readTrimmed cc degroup text = .error reason ∨
      ∃ item ∈ (Scan.of text).items, item.depth = 0 ∧ isTopLevelChar cc item.ch = false ∧
        readTrimmed cc degroup text = .error (.unexpected item.ch) := by
  have unbalanced : ¬ Balanced text := by
    rw [← Scan.fault_eq_none_iff, fault]
    exact nofun
  rw [readTrimmed_eq]
  cases enclosing : enclosed? text with
  | error other =>
    left
    rw [fault_of_takePair fault (Fallible.map_eq_error_iff.mp enclosing)]
  | ok found =>
    cases found with
    | none => exact readUngrouped_of_fault fault
    | some inside =>
      have enclosed : Enclosed text := ⟨inside, enclosed?_eq_some_iff.mp enclosing⟩
      exact absurd enclosed.balanced unbalanced

/-- A part is rejected for what stands between its delimiters only. -/
lemma isLocal_of_cut (free : cc.DelimiterFree) (h : Cut cc text) {rejection : Rejection}
    (rejected : parse cc degroup text = .error rejection) : rejection.reason.IsLocal := by
  have trimmed := (parse_eq_error_iff.mp rejected).2
  rw [read_of_ne_nil degroup (h.trim_eq.symm ▸ h.ne_nil), h.trim_eq] at trimmed
  exact (hereditary_balanced free).readTrimmed degroup (h.balanced free) rejection.reason trimmed

/-- Delimiters and quotation marks are reported exactly where the scan of the trimmed text is at
fault. Without a fault there is no such report. With one, nothing else is reported but a character
that may not stand at the top level and that the scan passes before the fault. No part of a
descriptor is blank or at fault, however it is read, so in a tree this can only happen at the root. -/
theorem faults_of_scan (free : cc.DelimiterFree) (degroup : Bool) (input : Text) :
    ((Scan.of (cc.trim input)).fault = none →
      ∀ rejection, parse cc degroup input = .error rejection →
        rejection.reason ≠ .unbalanced ∧ rejection.reason ≠ .unterminatedQuote) ∧
    (∀ reason, (Scan.of (cc.trim input)).fault = some reason →
      parse cc degroup input = .error ⟨input, reason⟩ ∨
      ∃ item ∈ (Scan.of (cc.trim input)).items,
        item.depth = 0 ∧ isTopLevelChar cc item.ch = false ∧
        parse cc degroup input = .error ⟨input, .unexpected item.ch⟩) ∧
    (∀ d, parse cc degroup input = .ok d →
      ∀ part ∈ d.parts, ∀ degroup' rejection, parse cc degroup' part = .error rejection →
        rejection.reason.IsLocal) ∧
    (∀ level rejection, (level, .error rejection) ∈ (Tree.ofText cc degroup input).preorder 0 →
      0 < level → rejection.reason.IsLocal) := by
  refine ⟨?_, ?_, ?_, ?_⟩
  · intro no_fault rejection rejected
    have read_eq := (parse_eq_error_iff.mp rejected).2
    -- a blank text is rejected before it is scanned
    by_cases blank : cc.trim input = []
    · rw [read_of_blank degroup blank] at read_eq
      rw [← Except.error.inj read_eq]
      exact ⟨nofun, nofun⟩
    · rw [read_of_ne_nil degroup blank] at read_eq
      have balanced := Scan.fault_eq_none_iff.mp no_fault
      have isLocal :=
        (hereditary_balanced free).readTrimmed degroup balanced rejection.reason read_eq
      exact ⟨isLocal.ne_unbalanced, isLocal.ne_unterminatedQuote⟩
  · intro reason fault
    have ne : cc.trim input ≠ [] := by
      intro blank
      rw [blank, Scan.fault_eq_none_iff.mpr ⟨_, .nil⟩] at fault
      cases fault
    rcases readTrimmed_of_fault degroup fault with failed | ⟨item, mem, depth, rejects, failed⟩
    · exact .inl (parse_of_readTrimmed ne failed)
    · exact .inr ⟨item, mem, depth, rejects, parse_of_readTrimmed ne failed⟩
  · intro d parsed part mem degroup' rejection rejected
    exact isLocal_of_cut free (cut_of_mem_parts (parse_eq_ok_iff.mp parsed) mem) rejected
  · intro level rejection mem lower
    rcases Tree.exists_part_of_mem_preorder mem with
      ⟨root, _⟩ | ⟨_, source, d, part, _, _, parsed, inParts, eq⟩
    · omega
    · exact isLocal_of_cut free (cut_of_mem_parts (parse_eq_ok_iff.mp parsed) inParts) eq.symm

/-- Delimiters inside a quoted value are no fault, an argument is rejected for its own character, and
a character before a missing quotation mark is reported instead of it. -/
theorem faults_of_scan_quoted :
    Classifier.standard.DelimiterFree ∧
      parse .standard true "(f(\")<\")<a;b>)".toList =
        .ok (.generic [] ['f'] ["a;b".toList] ⟨[.positional ")<".toList]⟩) ∧
      parse .standard false "a;b".toList = .error ⟨"a;b".toList, .unexpected ';'⟩ ∧
      (Reason.unexpected ';').IsLocal ∧
      (Scan.of (Classifier.standard.trim "a;(\"".toList)).fault = some .unterminatedQuote ∧
      (parse .standard true "a;(\"".toList = .error ⟨"a;(\"".toList, .unterminatedQuote⟩ ∨
        ∃ item ∈ (Scan.of (Classifier.standard.trim "a;(\"".toList)).items,
          item.depth = 0 ∧ isTopLevelChar .standard item.ch = false ∧
          parse .standard true "a;(\"".toList =
            .error ⟨"a;(\"".toList, .unexpected item.ch⟩) := by
  have free := Classifier.standard_ownSymbols.delimiterFree
  have found : parse .standard true "(f(\")<\")<a;b>)".toList =
      .ok (.generic [] ['f'] ["a;b".toList] ⟨[.positional ")<".toList]⟩) := by
    decide +kernel
  have rejected : parse .standard false "a;b".toList =
      .error ⟨"a;b".toList, .unexpected ';'⟩ := by
    decide +kernel
  have fault : (Scan.of (Classifier.standard.trim "a;(\"".toList)).fault =
      some .unterminatedQuote := by
    decide +kernel
  have at_part := (faults_of_scan free true "(f(\")<\")<a;b>)".toList).2.2.1 _ found
  have at_fault := (faults_of_scan free true "a;(\"".toList).2.1 _ fault
  exact ⟨free, found, rejected, at_part _ (by simp [parts]) false _ rejected, fault, at_fault⟩

end Descriptor
end TypeShape
