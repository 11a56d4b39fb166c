import TypeShape.Parameters.Written
import TypeShape.Proofs.QuotedValues
import TypeShape.Proofs.Trim
import TypeShape.Scan.Stepwise

/-!
# Skipped values

A scanner steps over a quoted value and the reader of values resolves it, and each of them looks for
the closing mark on its own. They find the same one: what is skipped is read with its escapes
resolved, and the same text follows (`Quoted.read_of_skip`). So a value is rejected for want of a
closing mark exactly where a scanner stops, and otherwise it is judged by the text from which the
scanner goes on (`Quoted.readValue_follows_skip`).
-/

namespace TypeShape

/-- A scanner before a quoted value, inside the given open delimiters. -/
def Scanner.atMark (stack : List Delimiter) (text : Text) : Scanner :=
  { rest := Quoted.mark :: text, stack := stack, failed := false }

namespace Quoted

open Parameters (readValue)

variable {cc : Classifier} {stack : List Delimiter} {text written value after : Text}

/-- The text with each backslash and the character after it replaced by that character. -/
def resolve : Text → Text
  | '\\' :: c :: rest => c :: resolve rest
  | c :: rest => c :: resolve rest
  | [] => []

/-- A value is what stands between its marks, with the escapes resolved. -/
lemma Means.resolve_eq (means : Means written value) : resolve written = value := by
  induction means with
  | nil => rfl
  | plain _ not_escape _ ih =>
    rw [resolve, ih]
    rintro _ _ rfl
    exact absurd rfl not_escape
  | escaped _ ih => rw [escape, resolve, ih]

/-- A text is cut by skipping exactly at the mark that ends the run at its beginning. -/
lemma skip_eq_some_iff :
    skip text = some (written, after) ↔ Run written ∧ text = written ++ mark :: after := by
  constructor
  · exact fun found => ⟨run_of_skip found, eq_of_skip found⟩
  · rintro ⟨run, rfl⟩
    exact run.skip_append after

/-- What is skipped is read with its escapes resolved, and the same text follows. -/
lemma read_of_skip (found : skip text = some (written, after)) :
    read text = some (resolve written, after) := by
  obtain ⟨value, means⟩ := (run_of_skip found).exists_means
  rw [eq_of_skip found, means.read_append, means.resolve_eq]

/-- What is not skipped is not read: the written form of a value is a run up to a mark. -/
lemma read_of_not_skip (missing : skip text = none) : read text = none := by
  cases found : read text with
  | none => rfl
  | some result =>
    obtain ⟨written, means, rfl⟩ := means_of_read found
    rw [means.run.skip_append] at missing
    cases missing

/-- A scanner goes on after the closing mark. -/
lemma next?_of_skip (found : skip text = some (written, after)) :
    (Scanner.atMark stack text).next? =
      some (.ok ⟨mark, written ++ [mark], stack.length⟩,
        { Scanner.atMark stack text with rest := after }) := by
  have role : Role.of mark = .quote := Role.of_eq_quote_iff.mpr rfl
  simp [Scanner.next?, Scanner.atMark, role, found]

/-- A scanner stops exactly where a value has no closing mark. -/
lemma next?_eq_fail_iff :
    (Scanner.atMark stack text).next? =
        some ((Scanner.atMark stack text).fail .unterminatedQuote) ↔
      skip text = none := by
  have role : Role.of mark = .quote := Role.of_eq_quote_iff.mpr rfl
  cases found : skip text with
  | none => simp [Scanner.next?, Scanner.atMark, role, found]
  | some cut => simp [next?_of_skip found, Scanner.fail]

/-- A value that is not skipped has no closing mark for the reader either. -/
lemma readValue_of_not_skip (missing : skip text = none) :
    readValue cc (mark :: text) = .error .unterminatedQuote := by
  simp only [readValue, if_true, read_of_not_skip missing]

/-- A skipped value is taken if nothing but whitespace follows it. -/
lemma readValue_of_blank (found : skip text = some (written, after))
    (blank : Text.Blank (cc .whitespace) after) :
    readValue cc (mark :: text) = .ok (resolve written) := by
  have nothing : cc.trim after = [] := Text.trim_eq_nil_iff.mpr blank
  simp only [readValue, if_true, read_of_skip found, nothing, List.isEmpty_nil]

/-- A skipped value is rejected for anything else that follows it. -/
lemma readValue_of_not_blank (found : skip text = some (written, after))
    (something : ¬ Text.Blank (cc .whitespace) after) :
    readValue cc (mark :: text) = .error .trailingText := by
  have given : cc.trim after ≠ [] := fun eq => something (Text.trim_eq_nil_iff.mp eq)
  simp only [readValue, if_true, read_of_skip found, List.isEmpty_iff, given, if_false]

/-- A quoted value is unterminated exactly if it cannot be skipped. -/
lemma readValue_eq_unterminatedQuote_iff :
    readValue cc (mark :: text) = .error .unterminatedQuote ↔ skip text = none := by
  constructor
  · intro rejected
    cases found : skip text with
    | none => rfl
    | some cut =>
      by_cases blank : Text.Blank (cc .whitespace) cut.2
      · rw [readValue_of_blank found blank] at rejected
        cases rejected
      · rw [readValue_of_not_blank found blank] at rejected
        cases rejected
  · exact readValue_of_not_skip

/-- A value that can be skipped is read exactly if nothing but whitespace follows, and it is what
the skipped text resolves to. -/
lemma readValue_eq_ok_iff (found : skip text = some (written, after)) :
    readValue cc (mark :: text) = .ok value ↔
      Text.Blank (cc .whitespace) after ∧ value = resolve written := by
  by_cases blank : Text.Blank (cc .whitespace) after
  · rw [readValue_of_blank found blank, Except.ok.injEq, eq_comm]
    exact (and_iff_right blank).symm
  · rw [readValue_of_not_blank found blank]
    exact iff_of_false nofun fun taken => blank taken.1

/-- It is rejected for what follows exactly if that is more than whitespace. -/
lemma readValue_eq_trailingText_iff (found : skip text = some (written, after)) :
    readValue cc (mark :: text) = .error .trailingText ↔
      ¬ Text.Blank (cc .whitespace) after := by
  constructor
  · intro rejected blank
    rw [readValue_of_blank found blank] at rejected
    cases rejected
  · exact readValue_of_not_blank found

/-- A scanner and the reader of values agree on the text after an opening mark, whatever it is. If the
text has no closing mark, the scanner stops, and the value is rejected for just that. If it has one,
both find the same: the scanner goes on with the text after it, and so does the reader, which takes
the skipped value with its escapes resolved if that text is blank, and rejects it for that text
otherwise. -/
theorem readValue_follows_skip (cc : Classifier) (stack : List Delimiter) (text : Text) :
    (∀ written after,
      skip text = some (written, after) ↔ Run written ∧ text = written ++ mark :: after) ∧
    ((Scanner.atMark stack text).next? =
        some ((Scanner.atMark stack text).fail .unterminatedQuote) ↔
      skip text = none) ∧
    (readValue cc (mark :: text) = .error .unterminatedQuote ↔ skip text = none) ∧
    (∀ written after, skip text = some (written, after) →
      (Scanner.atMark stack text).next? =
        some (.ok ⟨mark, written ++ [mark], stack.length⟩,
          { Scanner.atMark stack text with rest := after }) ∧
      read text = some (resolve written, after) ∧
      (∀ value, readValue cc (mark :: text) = .ok value ↔
        Text.Blank (cc .whitespace) after ∧ value = resolve written) ∧
      (readValue cc (mark :: text) = .error .trailingText ↔
        ¬ Text.Blank (cc .whitespace) after)) := by
  refine ⟨fun _ _ => skip_eq_some_iff, next?_eq_fail_iff, readValue_eq_unterminatedQuote_iff, ?_⟩
  intro written after found
  exact ⟨next?_of_skip found, read_of_skip found, fun _ => readValue_eq_ok_iff found,
    readValue_eq_trailingText_iff found⟩

/-- A mark closes a value after an even number of backslashes: the mark after three of them belongs to
the value, and the one after two of them ends it. -/
theorem readValue_follows_skip_backslashes :
    skip "\\\\\\\"a\\\\\" ".toList = some ("\\\\\\\"a\\\\".toList, [' ']) ∧
      (Scanner.atMark [.paren] "\\\\\\\"a\\\\\" ".toList).next? =
        some (.ok ⟨'"', "\\\\\\\"a\\\\\"".toList, 1⟩,
          { rest := [' '], stack := [.paren], failed := false }) ∧
      readValue .standard ('"' :: "\\\\\\\"a\\\\\" ".toList) = .ok "\\\"a\\".toList := by
  have skipped : skip "\\\\\\\"a\\\\\" ".toList = some ("\\\\\\\"a\\\\".toList, [' ']) := by
    decide +kernel
  have blank : Text.Blank (Classifier.standard .whitespace) [' '] := .cons rfl Text.blank_nil
  obtain ⟨_, _, _, agrees⟩ :=
    readValue_follows_skip .standard [.paren] "\\\\\\\"a\\\\\" ".toList
  obtain ⟨step, _, taken, _⟩ := agrees _ _ skipped
  exact ⟨skipped, step, (taken _).mpr ⟨blank, rfl⟩⟩

end Quoted
end TypeShape
