import TypeShape.Proofs.Balanced
import TypeShape.Scan.Stepwise

/-!
# What a scanner recognises

A scanner gets to the end of a text exactly if the text is of the grammar of balanced texts, and the
items that it yields on the way are those of the derivation. On any other text it stops at a fault:
the items before it are the beginning of the text, and what is left begins at the fault
(`Scan.stopsAt_of_fault`). The fault is a quoted value without an end, or a delimiter without its
partner, which is told by the delimiters that the text before it leaves open (`Leaves`).
-/

namespace TypeShape

namespace Quoted

/-- A text that begins with a mark after which no run ends with a mark. -/
def Endless (text : Text) : Prop :=
  ∃ rest, text = mark :: rest ∧ ∀ written after, Run written → rest ≠ written ++ mark :: after

/-- What cannot be skipped has no end. -/
lemma endless_of_skip {rest : Text} (h : skip rest = none) : Endless (mark :: rest) := by
  refine ⟨rest, rfl, ?_⟩
  rintro written after run rfl
  rw [run.skip_append] at h
  cases h

/-- A text that begins with another character, or with none, is not a quoted value. -/
lemma not_endless {text : Text} (h : text.head? ≠ some mark) : ¬ Endless text := by
  rintro ⟨rest, rfl, _⟩
  exact h rfl

end Quoted

/-- A text that leaves delimiters open, innermost first, and pairs all its other ones off. -/
inductive Leaves : List Delimiter → Text → Prop where
  | balanced {text : Text} : Balanced text → Leaves [] text
  | opened {d : Delimiter} {stack : List Delimiter} {front inside : Text} :
    Leaves stack front →
    Balanced inside →
    Leaves (d :: stack) (front ++ d.opener :: inside)

namespace Leaves

variable {d : Delimiter} {stack : List Delimiter} {front text : Text}

/-- A balanced text after it leaves the same delimiters open. -/
lemma append (h : Leaves stack front) (after : Balanced text) : Leaves stack (front ++ text) := by
  obtain ⟨items, after⟩ := after
  cases h with
  | balanced before =>
    obtain ⟨others, before⟩ := before
    exact .balanced ⟨_, before.append after⟩
  | opened outside inside =>
    obtain ⟨within, inside⟩ := inside
    rw [List.append_assoc, List.cons_append]
    exact .opened outside ⟨_, inside.append after⟩

/-- An opening delimiter after it is the innermost one. -/
lemma opens (h : Leaves stack front) : Leaves (d :: stack) (front ++ [d.opener]) :=
  .opened h ⟨_, .nil⟩

/-- The partner of the innermost one after it closes that one. -/
lemma closes (h : Leaves (d :: stack) front) : Leaves stack (front ++ [d.closer]) := by
  cases h with
  | opened outside inside =>
    obtain ⟨within, inside⟩ := inside
    rw [List.append_assoc]
    exact outside.append ⟨_, .pair inside .nil⟩

end Leaves

namespace Scan

/-- Why a scan stops at the beginning of a text, inside of open delimiters: at a quoted value without
an end, at the end of the text inside of an open delimiter, or at a closing delimiter that is not the
partner of the innermost open one. -/
inductive StopsAt : List Delimiter → Reason → Text → Prop where
  | endless {stack : List Delimiter} {rest : Text} :
    Quoted.Endless rest → StopsAt stack .unterminatedQuote rest
  | unclosed {d : Delimiter} {stack : List Delimiter} : StopsAt (d :: stack) .unbalanced []
  | unpaired {d : Delimiter} {stack : List Delimiter} {rest : Text} :
    stack.head? ≠ some d → StopsAt stack .unbalanced (d.closer :: rest)

/-- The reason is the quoted value exactly if the text begins with one that has no end. -/
lemma StopsAt.reason_iff {stack : List Delimiter} {reason : Reason} {rest : Text}
    (h : StopsAt stack reason rest) : reason = .unterminatedQuote ↔ Quoted.Endless rest := by
  cases h with
  | endless endless => exact iff_of_true rfl endless
  | unclosed => exact iff_of_false (by decide) (Quoted.not_endless (by simp))
  | @unpaired d =>
    -- a delimiter is no mark
    exact iff_of_false (by decide) (Quoted.not_endless (by cases d <;> simp <;> decide))

/-- The fault of a scan stands where its items end, inside of the delimiters that the text up to there
leaves open. -/
lemma stopsAt_of_fault {stack : List Delimiter} {front text : Text} {reason : Reason}
    (leaves : Leaves stack front) (h : (scanFrom stack text).fault = some reason) :
    ∃ opened rest, text = Item.textOf (scanFrom stack text).items ++ rest ∧
      Leaves opened (front ++ Item.textOf (scanFrom stack text).items) ∧
      StopsAt opened reason rest := by
  -- the text before grows by each item, so the induction is for all of them at once
  fun_induction scanFrom stack text generalizing front with
  | case1 stack =>
    refine ⟨stack, [], rfl, by simpa [stop] using leaves, ?_⟩
    cases stack with
    | nil => cases h
    | cons top below =>
      cases h
      exact .unclosed
  | case2 stack c rest role found =>
    cases h
    rw [Role.of_eq_quote_iff.mp role]
    exact ⟨stack, _, rfl, by simpa [stop] using leaves, .endless (Quoted.endless_of_skip found)⟩
  | case3 stack c rest role written after found _ ih =>
    have quoted : Balanced (c :: (written ++ [Quoted.mark])) := by
      rw [Role.of_eq_quote_iff.mp role]
      exact ⟨_, .quoted (Quoted.run_of_skip found) .nil⟩
    obtain ⟨opened, left, eq, leaves, stops⟩ := ih (leaves.append quoted) h
    refine ⟨opened, left, ?_, by simpa [cons, Item.text] using leaves, stops⟩
    rw [Quoted.eq_of_skip found]
    simp [cons, Item.text, ← eq]
  | case4 stack c rest d role ih =>
    obtain rfl := Role.of_eq_opens_iff.mp role
    obtain ⟨opened, left, eq, leaves, stops⟩ := ih leaves.opens h
    exact ⟨opened, left, by simp [cons, Item.text, ← eq],
      by simpa [cons, Item.text] using leaves, stops⟩
  | case5 c rest d role =>
    cases h
    rw [Role.of_eq_closes_iff.mp role]
    exact ⟨[], _, rfl, by simpa [stop] using leaves, .unpaired (by simp)⟩
  | case6 c rest d below role ih =>
    obtain rfl := Role.of_eq_closes_iff.mp role
    obtain ⟨opened, left, eq, leaves, stops⟩ := ih leaves.closes h
    exact ⟨opened, left, by simp [cons, Item.text, ← eq],
      by simpa [cons, Item.text] using leaves, stops⟩
  | case7 c rest d role top below differ =>
    cases h
    rw [Role.of_eq_closes_iff.mp role]
    exact ⟨top :: below, _, rfl, by simpa [stop] using leaves, .unpaired (by simpa using differ)⟩
  | case8 stack c rest role ih =>
    obtain ⟨opened, left, eq, leaves, stops⟩ := ih (leaves.append ⟨_, .plain role .nil⟩) h
    exact ⟨opened, left, by simp [cons, Item.text, ← eq],
      by simpa [cons, Item.text] using leaves, stops⟩

/-- Only items are found exactly if there is no fault. -/
lemma forall_mem_outcomes_iff {scan : Scan} :
    (∀ found ∈ scan.outcomes, ∃ item, found = .ok item) ↔ scan.fault = none := by
  cases fault : scan.fault with
  | none => simp [outcomes, fault]
  | some reason => simp [outcomes, fault]

end Scan

namespace Scanner

/-- The open delimiters that a closing one finds are its own pair and those around it. -/
lemma depth_of_next? {scanner after : Scanner} {item : Item}
    (h : scanner.next? = some (.ok item, after)) (closes : (Role.of item.ch).isCloser = true) :
    item.depth + 1 = scanner.stack.length := by
  obtain ⟨_, ⟨reason, eq, _⟩ | ⟨other, eq, _, _, depth⟩⟩ := next?_cases h
  · cases eq
  · cases eq
    rwa [closes] at depth

/-- A fault is the last that a scanner yields. -/
lemma next?_of_fault {scanner after : Scanner} {reason : Reason}
    (h : scanner.next? = some (.error reason, after)) : after.next? = none := by
  obtain ⟨_, ⟨_, _, failed⟩ | ⟨item, eq, _⟩⟩ := next?_cases h
  · exact next?_of_failed failed
  · cases eq

/-- A scanner yields only items exactly if the text is balanced, and then they are the items of the
derivation, whichever it is. If the text is not balanced, it yields the items up to the fault and
then the fault, once. A quoted value without an end is reported as such; any other fault is the end
of the text inside of a delimiter that the text before leaves open, or a closing delimiter that is not
the partner of the innermost one of these. No step follows a fault. The depth of a closing delimiter
is one less than the number of open ones, of which there is one at least. -/
theorem recognises_balanced (text : Text) :
    (start text).yields = (Scan.of text).outcomes ∧
    ((∀ found ∈ (start text).yields, ∃ item, found = .ok item) ↔ Balanced text) ∧
    (∀ items, Nested text items → (start text).yields = items.map .ok) ∧
    (¬ Balanced text → ∃ items reason stack rest,
      (start text).yields = items.map .ok ++ [.error reason] ∧
      text = Item.textOf items ++ rest ∧ Leaves stack (Item.textOf items) ∧
      Scan.StopsAt stack reason rest ∧ (reason = .unterminatedQuote ↔ Quoted.Endless rest)) ∧
    (∀ scanner reason after, next? scanner = some (.error reason, after) → next? after = none) ∧
    (∀ scanner item after, next? scanner = some (.ok item, after) →
      (Role.of item.ch).isCloser = true → item.depth + 1 = scanner.stack.length) := by
  rw [yields_start]
  refine ⟨rfl, ?_, ?_, ?_, fun _ _ _ => next?_of_fault, fun _ _ _ => depth_of_next?⟩
  · rw [Scan.forall_mem_outcomes_iff, Scan.fault_eq_none_iff]
  · intro items nested
    rw [nested.scan_eq]
    simp [Scan.outcomes]
  · intro torn
    rw [← Scan.fault_eq_none_iff] at torn
    obtain ⟨reason, fault⟩ := Option.ne_none_iff_exists'.mp torn
    have scanned := fault
    rw [Scan.of_eq_scanFrom] at scanned
    obtain ⟨stack, rest, eq, leaves, stops⟩ :=
      Scan.stopsAt_of_fault (.balanced ⟨_, .nil⟩) scanned
    rw [← Scan.of_eq_scanFrom] at eq leaves
    exact ⟨_, reason, stack, rest, by simp [Scan.outcomes, fault], eq, leaves, stops,
      stops.reason_iff⟩

/-- A delimiter inside a quoted value is stepped over and an escaped mark does not end it, a mark
inside an open pair is the fault of its text, and a closing parenthesis has the depth of its
partner. -/
theorem recognises_balanced_quoted :
    (start "f(\"a|(\\\"b\")".toList).yields =
        [⟨'f', [], 0⟩, ⟨'(', [], 0⟩, ⟨'"', "a|(\\\"b\"".toList, 1⟩, ⟨')', [], 0⟩].map .ok ∧
      (∃ items reason stack rest,
        (start "a(\"".toList).yields = items.map .ok ++ [.error reason] ∧
        "a(\"".toList = Item.textOf items ++ rest ∧ Leaves stack (Item.textOf items) ∧
        Scan.StopsAt stack reason rest ∧
        (reason = .unterminatedQuote ↔ Quoted.Endless rest)) ∧
      next? { rest := [')'], stack := [.paren], failed := false } =
        some (.ok ⟨')', [], 0⟩, { rest := [], stack := [], failed := false }) ∧
      (⟨')', [], 0⟩ : Item).depth + 1 = [Delimiter.paren].length := by
  have skipped : Quoted.skip "a|(\\\"b\"".toList = some ("a|(\\\"b".toList, []) := by
    decide +kernel
  have run := Quoted.run_of_skip skipped
  have nested : Nested "f(\"a|(\\\"b\")".toList
      [⟨'f', [], 0⟩, ⟨'(', [], 0⟩, ⟨'"', "a|(\\\"b\"".toList, 1⟩, ⟨')', [], 0⟩] :=
    .plain rfl (.pair (d := .paren) (.quoted run .nil) .nil)
  have torn : ¬ Balanced "a(\"".toList := by
    rw [← Scan.fault_eq_none_iff]
    decide +kernel
  have step : next? { rest := [')'], stack := [.paren], failed := false } =
      some (.ok ⟨')', [], 0⟩, { rest := [], stack := [], failed := false }) := rfl
  obtain ⟨_, _, yields_items, _, _, _⟩ := recognises_balanced "f(\"a|(\\\"b\")".toList
  obtain ⟨_, _, _, yields_fault, _, depth⟩ := recognises_balanced "a(\"".toList
  exact ⟨yields_items _ nested, yields_fault torn, step, depth _ _ _ step rfl⟩

end Scanner
end TypeShape
