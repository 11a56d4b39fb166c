import TypeShape.Proofs.Precedence
import TypeShape.Proofs.Validity

/-!
# Arguments for a generic

A generic that has no arguments can be given some: where angle brackets follow its text, the reader
takes the same components from the beginning as before, and then the arguments (`parse_with_args`).
Each component of the front ends where the brackets or the whitespace before them begin, because no
class but whitespace accepts the characters there (`Angled.rejects`).
-/

namespace TypeShape

/-- A text that goes on with an angle bracket, perhaps after whitespace. -/
def Classifier.Angled (cc : Classifier) (tail : Text) : Prop :=
  (cc.skip tail).head? = some '<'

variable {cc : Classifier} {text tail rest name : Text} {d : Descriptor}

namespace Text

variable {p : Char → Bool}

/-- What is taken from a text ends with the text, where it goes on with what the test rejects. -/
lemma takeWhile_append_of_stops (stops : ∀ c, tail.head? = some c → p c = false) :
    (text ++ tail).takeWhile p = text.takeWhile p := by
  induction text with
  | nil =>
    cases tail with
    | nil => rfl
    | cons c tail => simp [stops c rfl]
  | cons c text ih =>
    rw [List.cons_append, List.takeWhile_cons, List.takeWhile_cons, ih]

/-- What is left of a text goes on with what comes after it, if the test rejects how that begins. -/
lemma dropWhile_append_of_stops (stops : ∀ c, tail.head? = some c → p c = false) :
    (text ++ tail).dropWhile p = text.dropWhile p ++ tail := by
  induction text with
  | nil => exact dropWhile_eq_self stops
  | cons c text ih =>
    rw [List.cons_append, List.dropWhile_cons, List.dropWhile_cons, ih]
    split <;> rfl

end Text

namespace Classifier

/-- Whitespace is skipped in the second text if the first has nothing else. -/
lemma skip_append_of_nil (h : cc.skip text = []) : cc.skip (text ++ tail) = cc.skip tail :=
  List.dropWhile_append.trans (if_pos (List.isEmpty_iff.mpr h))

/-- Whitespace is skipped in the first text only, if that has something else. -/
lemma skip_append_of_ne_nil (h : cc.skip text ≠ []) :
    cc.skip (text ++ tail) = cc.skip text ++ tail :=
  List.dropWhile_append.trans (if_neg (mt List.isEmpty_iff.mp h))

/-- What follows the whitespace at the beginning of a text is the trimmed text and whitespace. -/
lemma exists_skip_eq (cc : Classifier) (text : Text) :
    ∃ back, Text.Blank (cc .whitespace) back ∧ cc.skip text = cc.trim text ++ back :=
  ⟨(cc.skip text).rtakeWhile (cc .whitespace), fun _ mem => List.mem_rtakeWhile_imp mem,
    List.rdropWhile_append_rtakeWhile.symm⟩

namespace Angled

/-- No class accepts the first character of the tail but whitespace. -/
lemma rejects (own : cc.OwnSymbols) (h : cc.Angled tail) {cls : CharClass} (ne : cls ≠ .whitespace)
    {c : Char} (head : tail.head? = some c) : cc cls c = false := by
  obtain ⟨rest, rfl⟩ := List.head?_eq_some_iff.mp head
  cases blank : cc .whitespace c with
  | true => exact own.rejects_blank blank ne
  | false =>
    have stays : cc.skip (c :: rest) = c :: rest := List.dropWhile_cons_of_neg (by simp [blank])
    rw [Angled, stays] at h
    cases h
    exact own.eq_false (by decide)

end Angled
end Classifier

namespace Descriptor

section Front

variable (own : cc.OwnSymbols) (angled : cc.Angled tail)

include own angled

/-- The flag word of a text is the same with angle brackets after it. -/
lemma takeFlagWord_append_tail :
    takeFlagWord cc (text ++ tail) =
      ((takeFlagWord cc text).1, (takeFlagWord cc text).2 ++ tail) := by
  have stops : ∀ c, tail.head? = some c → cc .flagWord c = false :=
    fun c head => angled.rejects own (by decide) head
  have taken : (text ++ tail).takeWhile (cc .flagWord) = text.takeWhile (cc .flagWord) :=
    Text.takeWhile_append_of_stops stops
  have dropped : (text ++ tail).dropWhile (cc .flagWord) = text.dropWhile (cc .flagWord) ++ tail :=
    Text.dropWhile_append_of_stops stops
  by_cases colon : (cc.skip (text.dropWhile (cc .flagWord))).head? = some ':'
  · obtain ⟨rest, eq⟩ := List.head?_eq_some_iff.mp colon
    have eq_tail : cc.skip ((text ++ tail).dropWhile (cc .flagWord)) = ':' :: (rest ++ tail) := by
      rw [dropped, Classifier.skip_append_of_ne_nil (by simp [eq]), eq]
      rfl
    unfold takeFlagWord
    rw [taken, eq_tail, eq]
    cases text.takeWhile (cc .flagWord) with
    | nil => rfl
    | cons c word => rfl
  · have colon_tail : (cc.skip ((text ++ tail).dropWhile (cc .flagWord))).head? ≠ some ':' := by
      rw [dropped]
      by_cases nothing : cc.skip (text.dropWhile (cc .flagWord)) = []
      · rw [Classifier.skip_append_of_nil nothing, angled]
        decide
      · rw [Classifier.skip_append_of_ne_nil nothing, List.head?_append_of_ne_nil _ nothing]
        exact colon
    rw [takeFlagWord_eq colon, takeFlagWord_eq colon_tail]

omit own angled in
/-- So are the flag symbols, if something is left of the text after them. -/
lemma takeFlagSymbols_append_tail (ne : (takeFlagSymbols cc text).2 ≠ []) :
    takeFlagSymbols cc (text ++ tail) =
      ((takeFlagSymbols cc text).1, (takeFlagSymbols cc text).2 ++ tail) := by
  fun_induction takeFlagSymbols cc text with
  | case1 => exact absurd rfl ne
  | case2 c rest blank ih =>
    rw [List.cons_append, takeFlagSymbols, if_pos blank]
    exact ih ne
  | case3 c rest blank symbol ih =>
    rw [List.cons_append, takeFlagSymbols, if_neg blank, if_pos symbol, ih ne]
  | case4 c rest blank symbol =>
    rw [List.cons_append, takeFlagSymbols, if_neg blank, if_neg symbol]

/-- So is the name. -/
lemma takeName_append_tail (h : takeName cc text = .ok (name, rest)) :
    takeName cc (text ++ tail) = .ok (name, rest ++ tail) := by
  obtain ⟨is_name, ends⟩ := name_of_takeName h
  rw [append_of_takeName h, List.append_assoc]
  apply takeName_append own is_name
  intro c head
  cases rest with
  | nil => exact ⟨angled.rejects own (by decide) head, angled.rejects own (by decide) head⟩
  | cons first rest => exact ends c (by simpa using head)

omit own in
/-- The parameters stay, and after them there is nothing but the angle brackets. -/
lemma takePair_append_tail {inside : Option Text}
    (h : Scan.takePair .paren (cc.skip text) = .ok (inside, rest)) (done : cc.skip rest = []) :
    ∃ rest', Scan.takePair .paren (cc.skip (text ++ tail)) = .ok (inside, rest') ∧
      cc.skip rest' = cc.skip tail := by
  cases inside with
  | none =>
    obtain ⟨_, rfl⟩ := Scan.takePair_eq_none_iff.mp h
    rw [cc.skip_skip] at done
    rw [Classifier.skip_append_of_nil done]
    refine ⟨cc.skip tail, Scan.takePair_eq_none_iff.mpr ⟨?_, rfl⟩, cc.skip_skip tail⟩
    rw [angled]
    decide
  | some list =>
    obtain ⟨balanced, eq⟩ := Scan.takePair_eq_some_iff.mp h
    refine ⟨rest ++ tail, ?_, Classifier.skip_append_of_nil done⟩
    rw [Classifier.skip_append_of_ne_nil (by simp [eq]), eq]
    apply Scan.takePair_eq_some_iff.mpr
    exact ⟨balanced, by simp⟩

end Front

/-- A generic without angle brackets has no arguments, and is read with some if they follow. -/
lemma readGeneric_with_args (own : cc.OwnSymbols) (free : Outer (· ≠ '<') text)
    (h : readGeneric cc text = .ok d) :
    ∃ flags parameters, d = .generic flags d.name [] parameters ∧
      ∀ tail inside args, Balanced inside → readArgs cc inside = .ok args →
        cc.skip tail = '<' :: (inside ++ ['>']) →
        readGeneric cc (text ++ tail) = .ok (.generic flags d.name args parameters) := by
  obtain ⟨name, afterName, list, afterList, parameters, angles, afterAngles, args, named, listed,
    parameters_eq, angled, args_eq, done, rfl⟩ := exists_of_readGeneric h
  have after_name : Outer (· ≠ '<') (cc.skip afterName) :=
    own.outer_skip ((peels_front own.delimiterFree named).outer free)
  have after_list : Outer (· ≠ '<') (cc.skip afterList) :=
    own.outer_skip (Scan.outer_of_takePair after_name listed)
  cases angles with
  | some inside =>
    -- the opening bracket would be outside of the delimiters of the text
    obtain ⟨_, eq⟩ := Scan.takePair_eq_some_iff.mp angled
    rw [eq] at after_list
    exact absurd rfl after_list.head
  | none =>
    obtain ⟨_, rfl⟩ := Scan.takePair_eq_none_iff.mp angled
    rw [cc.skip_skip] at done
    cases args_eq
    refine ⟨_, parameters, rfl, fun tail inside args balanced args_eq tail_eq => ?_⟩
    have follows : cc.Angled tail := by
      rw [Classifier.Angled, tail_eq]
      rfl
    -- a name is taken after the flag symbols, so they do not run into the tail
    have some_left : (takeFlagSymbols cc (takeFlagWord cc text).2).2 ≠ [] := by
      intro nothing
      rw [nothing] at named
      cases named
    obtain ⟨rest, listed', rest_eq⟩ := takePair_append_tail follows listed done
    have angled' : Scan.takePair .angle (cc.skip rest) = .ok (some inside, []) := by
      rw [rest_eq, tail_eq]
      exact Scan.takePair_eq_some_iff.mpr ⟨balanced, rfl⟩
    exact readGeneric_of_components (takeFlagWord_append_tail own follows)
      (takeFlagSymbols_append_tail some_left) (takeName_append_tail own follows named) listed'
      parameters_eq angled' args_eq rfl

/-- A text that is read as a generic has no operators outside of its delimiters. -/
lemma readGeneric_of_parse (parsed : parse cc false text = .ok d) (generic : d.kind = .generic) :
    Outer (· ≠ '|') (cc.trim text) ∧ Outer (· ≠ '&') (cc.trim text) ∧
      readGeneric cc (cc.trim text) = .ok d := by
  rcases enclosed_or_ungrouped (readTrimmed_of_read (parse_eq_ok_iff.mp parsed)) with
    ⟨_, _, _, _, rfl⟩ | ⟨_, ungrouped⟩
  · cases generic
  · cases ungrouped with
    | union _ _ _ => cases generic
    | intersection _ _ _ _ => cases generic
    | array _ _ _ _ _ _ outcome =>
      obtain ⟨size, rfl, _⟩ := exists_of_arrayOutcome outcome
      cases generic
    | generic no_bar no_amp _ read => exact ⟨no_bar, no_amp, read⟩

/-- A text that ends in angle brackets does not end in brackets. -/
lemma not_bracketed_of_angle (text inside : Text) :
    ¬ Bracketed cc (text ++ '<' :: (inside ++ ['>'])) := by
  rintro ⟨element, within, _, _, _, eq⟩
  have last_eq := congrArg List.getLast? eq
  rw [Text.getLast?_append_pair, Text.getLast?_append_pair] at last_eq
  cases last_eq

/-- Arguments in angle brackets after a generic that has none are its arguments. -/
theorem parse_with_args (own : cc.OwnSymbols) (parsed : parse cc false text = .ok d)
    (generic : d.kind = .generic) (free : Outer (· ≠ '<') text) :
    ∃ flags parameters, d = .generic flags d.name [] parameters ∧
      ∀ inside args, Balanced inside → readArgs cc inside = .ok args →
        parse cc false (text ++ '<' :: (inside ++ ['>'])) =
          .ok (.generic flags d.name args parameters) := by
  obtain ⟨no_bar, no_amp, read⟩ := readGeneric_of_parse parsed generic
  obtain ⟨flags, parameters, eq, with_args⟩ := readGeneric_with_args own (own.outer_trim free) read
  obtain ⟨back, back_blank, skip_eq⟩ := cc.exists_skip_eq text
  refine ⟨flags, parameters, eq, fun inside args balanced args_eq => ?_⟩
  -- the whitespace between the text and the brackets is skipped, not trimmed
  have tail_eq : cc.skip (back ++ '<' :: (inside ++ ['>'])) = '<' :: (inside ++ ['>']) := by
    have stays : cc .whitespace '<' = false := own.eq_false (by decide)
    rw [Classifier.skip, List.dropWhile_append_of_pos back_blank]
    exact List.dropWhile_cons_of_neg (by simp [stays])
  have read_whole := with_args _ inside args balanced args_eq tail_eq
  rw [← List.append_assoc, ← skip_eq] at read_whole
  have no_operator {c : Char} (punct : c ∈ Classifier.punctuation) (plain : Role.of c = .plain)
      (free : Outer (· ≠ c) (cc.trim text)) :
      Outer (· ≠ c) (cc.skip text ++ '<' :: (inside ++ ['>'])) := by
    rw [skip_eq]
    exact (free.append (own.free_of_blank punct back_blank)).append
      (Delimiter.angle.outer_ne plain balanced)
  have allowed := allowed_of_parse own parsed
  apply parse_of_pair own .angle (by decide) (trim_ne_nil_of_parse parsed) allowed balanced
  rw [← read_whole]
  apply readUngrouped_of_generic
  · exact (own.outer_skip allowed).append (Delimiter.angle.outer_allowed cc balanced)
  · exact no_operator (by decide) rfl no_bar
  · exact no_operator (by decide) rfl no_amp
  · exact not_bracketed_of_angle _ _

end Descriptor
end TypeShape
