import Mathlib.Tactic.Lemma
import TypeShape.Scan.TopLevel

/-!
# Balanced texts

The texts whose delimiters pair off are those of a grammar: nothing, a plain character before such a
text, a quoted value before such a text, and a pair of delimiters around one such text and before
another. `Nested` is this grammar together with the items of the text, each with the number of pairs
of the derivation around it. The scan finds exactly that: `Scan.complete_eq_ok_iff` says that it has
no fault if and only if the text is of the grammar, and that its items are those of the derivation.

The core lemma is `Nested.scanFrom_append`: a balanced text leaves the open delimiters of a scan as
they are. For the converse, `Closes` says that a text closes some delimiters before it goes on, and
`closes_or_fault` that the scan of a text which does not is at fault before it gets out of them.
-/

namespace TypeShape

/-- What stands between the marks of a quoted value. -/
inductive Quoted.Run : Text → Prop where
  | nil : Run []
  | plain {c : Char} {rest : Text} : c ≠ mark → c ≠ escape → Run rest → Run (c :: rest)
  | escaped {c : Char} {rest : Text} : Run rest → Run (escape :: c :: rest)

/-- The item inside `n` pairs more. -/
def Item.deepen (n : Nat) (item : Item) : Item :=
  { item with depth := item.depth + n }

/-- A text of the grammar of balanced texts, with its items. -/
inductive Nested : Text → List Item → Prop where
  | nil : Nested [] []
  | plain {c : Char} {rest : Text} {items : List Item} :
    Role.of c = .plain →
    Nested rest items →
    Nested (c :: rest) (⟨c, [], 0⟩ :: items)
  | quoted {written rest : Text} {items : List Item} :
    Quoted.Run written →
    Nested rest items →
    Nested (Quoted.mark :: (written ++ Quoted.mark :: rest))
      (⟨Quoted.mark, written ++ [Quoted.mark], 0⟩ :: items)
  | pair {d : Delimiter} {inside rest : Text} {within items : List Item} :
    Nested inside within →
    Nested rest items →
    Nested (d.opener :: (inside ++ d.closer :: rest))
      (⟨d.opener, [], 0⟩ :: (within.map (Item.deepen 1) ++ ⟨d.closer, [], 0⟩ :: items))

/-- A text whose delimiters pair off. -/
def Balanced (text : Text) : Prop :=
  ∃ items, Nested text items

namespace Quoted

/-- A run is skipped up to the mark that follows it. -/
lemma Run.skip_append {written : Text} (run : Run written) (rest : Text) :
    skip (written ++ mark :: rest) = some (written, rest) := by
  induction run with
  | nil =>
    rw [List.nil_append, skip.eq_def]
    rfl
  | plain notMark notEscape _ ih =>
    rw [List.cons_append, skip.eq_def]
    simp only [notEscape, notMark, if_false, ih, Option.map_some]
  | escaped _ ih =>
    rw [List.cons_append, List.cons_append, skip.eq_def]
    simp only [if_true, ih, Option.map_some]

/-- What is skipped is a run. -/
lemma run_of_skip {text written after : Text} (h : skip text = some (written, after)) :
    Run written := by
  fun_induction skip text generalizing written with
  | case1 => cases h
  | case2 => cases h
  | case3 c rest ih =>
    obtain ⟨⟨w, a⟩, skipped, eq⟩ := Option.map_eq_some_iff.mp h
    cases eq
    exact .escaped (ih skipped)
  | case4 =>
    cases h
    exact .nil
  | case5 c rest notEscape notMark ih =>
    obtain ⟨⟨w, a⟩, skipped, eq⟩ := Option.map_eq_some_iff.mp h
    cases eq
    exact .plain notMark notEscape (ih skipped)

end Quoted

namespace Item

@[simp] lemma text_deepen (n : Nat) (item : Item) : (item.deepen n).text = item.text := rfl

@[simp] lemma textOf_map_deepen (n : Nat) (items : List Item) :
    textOf (items.map (deepen n)) = textOf items := by
  induction items with
  | nil => rfl
  | cons item items ih => simp [ih]

@[simp] lemma map_deepen_zero (items : List Item) : items.map (deepen 0) = items :=
  List.map_id items

end Item

namespace Nested

variable {text text' : Text} {items items' : List Item}

/-- The characters of the items are the text. -/
lemma textOf_eq (h : Nested text items) : Item.textOf items = text := by
  induction h with
  | nil => rfl
  | plain _ _ ih => simp [Item.text, ih]
  | quoted _ _ ih => simp [Item.text, ih]
  | pair _ _ ihInside ihRest => simp [Item.text, ihInside, ihRest]

/-- Balanced texts after each other are balanced. -/
lemma append (h : Nested text items) (h' : Nested text' items') :
    Nested (text ++ text') (items ++ items') := by
  induction h with
  | nil => exact h'
  | plain role _ ih => exact .plain role ih
  | quoted run _ ih => simpa using Nested.quoted run ih
  | pair inside _ _ ih => simpa using Nested.pair inside ih

/-- A balanced text inside of delimiters leaves them open. -/
lemma scanFrom_append (h : Nested text items) (stack : List Delimiter) (more : Text) :
    Scan.scanFrom stack (text ++ more) =
      ⟨items.map (Item.deepen stack.length) ++ (Scan.scanFrom stack more).items,
        (Scan.scanFrom stack more).fault⟩ := by
  -- a pair opens one delimiter more, so the induction is for all open delimiters at once
  induction h generalizing stack more with
  | nil => rfl
  | plain role _ ih =>
    rw [List.cons_append, Scan.scanFrom]
    simp [role, ih, Scan.cons, Item.deepen]
  | @quoted written rest items run _ ih =>
    rw [List.cons_append, List.append_assoc, List.cons_append, Scan.scanFrom]
    have skipped := run.skip_append (rest ++ more)
    simp only [Role.of_eq_quote_iff.mpr rfl]
    split
    · next missing =>
      rw [skipped] at missing
      cases missing
    · next found =>
      rw [skipped] at found
      cases found
      simp [ih, Scan.cons, Item.deepen]
  | @pair d inside rest within items _ _ ihInside ihRest =>
    rw [List.cons_append, Scan.scanFrom]
    simp only [Role.of_eq_opens_iff.mpr rfl, List.append_assoc, List.cons_append, ihInside]
    rw [Scan.scanFrom]
    simp [Role.of_eq_closes_iff.mpr rfl, ihRest, Scan.cons, Item.deepen, Function.comp_def,
      Nat.add_comm, Nat.add_left_comm]

/-- The scan of a balanced text gives its items. -/
lemma scan_eq (h : Nested text items) : Scan.of text = ⟨items, none⟩ := by
  have scanned := h.scanFrom_append [] []
  rw [List.append_nil] at scanned
  rw [Scan.of_eq_scanFrom, scanned, Scan.scanFrom]
  simp [Scan.stop]

/-- A text has one list of items only. -/
lemma items_unique (h : Nested text items) (h' : Nested text items') : items = items' := by
  have eq := h.scan_eq.symm.trans h'.scan_eq
  exact congrArg Scan.items eq

end Nested

/-- A text that closes delimiters, innermost first, and the text that goes on after that. -/
inductive Closes : List Delimiter → Text → Text → Prop where
  | nil {after : Text} : Closes [] after after
  | cons {d : Delimiter} {stack : List Delimiter} {inside rest after : Text} :
    Balanced inside →
    Closes stack rest after →
    Closes (d :: stack) (inside ++ d.closer :: rest) after

namespace Closes

/-- A balanced text before one that closes delimiters changes nothing. -/
lemma prepend {d : Delimiter} {stack : List Delimiter} {front text after : Text}
    (balanced : Balanced front)
    (h : Closes (d :: stack) text after) : Closes (d :: stack) (front ++ text) after := by
  cases h with
  | cons inside closes =>
    obtain ⟨items, nested⟩ := balanced
    obtain ⟨within, insideNested⟩ := inside
    rw [← List.append_assoc]
    exact .cons ⟨_, nested.append insideNested⟩ closes

/-- The innermost delimiter is closed at once. -/
lemma closed {d : Delimiter} {stack : List Delimiter} {rest after : Text}
    (h : Closes stack rest after) : Closes (d :: stack) (d.closer :: rest) after :=
  .cons ⟨_, .nil⟩ h

/-- A delimiter before a text that closes it. -/
lemma opened {d e : Delimiter} {stack : List Delimiter} {rest after : Text}
    (h : Closes (d :: e :: stack) rest after) :
    Closes (e :: stack) (d.opener :: rest) after := by
  cases h with
  | cons inside closes =>
    obtain ⟨within, insideNested⟩ := inside
    have front := Nested.pair (d := d) insideNested .nil
    have closed := prepend ⟨_, front⟩ closes
    simpa using closed

end Closes

namespace Scan

/-- A text that does not close the innermost open delimiters is at fault before it gets out of
them. -/
lemma closes_or_fault (upper below : List Delimiter) (text : Text) (ne : upper ≠ []) :
    (∃ after, Closes upper text after) ∨
      (scanFrom (upper ++ below) text).fault ≠ none ∧
        ∀ item ∈ (scanFrom (upper ++ below) text).items, below.length < item.depth := by
  generalize eq : upper ++ below = stack
  have long : below.length < stack.length := by
    have := List.length_pos_iff.mpr ne
    rw [← eq, List.length_append]
    omega
  -- along the scan: `upper` are the delimiters that are still to be closed
  fun_induction scanFrom stack text generalizing upper with
  | case1 stack =>
    have notEmpty : stack.isEmpty = false := by
      cases stack with
      | nil => simp at long
      | cons => rfl
    exact .inr (by simp [stop, notEmpty])
  | case2 => exact .inr (by simp [stop])
  | case3 stack c rest role written after found _ ih =>
    obtain ⟨d, upper', rfl⟩ := List.exists_cons_of_ne_nil ne
    obtain ⟨last, closes⟩ | ⟨fault, depths⟩ := ih _ ne eq long
    · refine .inl ⟨last, ?_⟩
      have front := Nested.quoted (Quoted.run_of_skip found) .nil
      rw [Role.of_eq_quote_iff.mp role, Quoted.eq_of_skip found]
      simpa using Closes.prepend ⟨_, front⟩ closes
    · exact .inr ⟨fault, by simpa [cons] using ⟨long, depths⟩⟩
  | case4 stack c rest d role ih =>
    -- the delimiter that opens here has to be closed before the others
    obtain ⟨last, closes⟩ | ⟨fault, depths⟩ :=
      ih (d :: upper) (by simp) (by simp [eq]) (by simp; omega)
    · obtain ⟨e, upper', rfl⟩ := List.exists_cons_of_ne_nil ne
      rw [Role.of_eq_opens_iff.mp role]
      exact .inl ⟨last, closes.opened⟩
    · exact .inr ⟨fault, by simpa [cons] using ⟨long, depths⟩⟩
  | case5 => simp at long
  | case6 c rest d stack role ih =>
    obtain ⟨e, upper', rfl⟩ := List.exists_cons_of_ne_nil ne
    cases eq
    rw [Role.of_eq_closes_iff.mp role]
    cases upper' with
    | nil => exact .inl ⟨rest, Closes.nil.closed⟩
    | cons f upper'' =>
      have longer : below.length < (f :: upper'' ++ below).length := by
        rw [List.length_append, List.length_cons]
        omega
      obtain ⟨last, closes⟩ | ⟨fault, depths⟩ := ih (f :: upper'') (by simp) rfl longer
      · exact .inl ⟨last, closes.closed⟩
      · refine .inr ⟨fault, ?_⟩
        simp only [cons, List.mem_cons, forall_eq_or_imp]
        exact ⟨longer, depths⟩
  | case7 => exact .inr (by simp [stop])
  | case8 stack c rest role ih =>
    obtain ⟨d, upper', rfl⟩ := List.exists_cons_of_ne_nil ne
    obtain ⟨last, closes⟩ | ⟨fault, depths⟩ := ih _ ne eq long
    · exact .inl ⟨last, closes.prepend ⟨_, .plain role .nil⟩⟩
    · exact .inr ⟨fault, by simpa [cons] using ⟨long, depths⟩⟩

/-- A text whose scan has no fault is balanced. -/
lemma balanced_of_fault_eq_none {text : Text} (h : (scanFrom [] text).fault = none) :
    Balanced text := by
  generalize len : text.length = n
  -- what follows a quoted value or a pair is no tail of the text, only shorter
  induction n using Nat.strongRecOn generalizing text with
  | ind n ih =>
    cases text with
    | nil => exact ⟨_, .nil⟩
    | cons c rest =>
      rw [List.length_cons] at len
      cases role : Role.of c with
      | quote =>
        rw [scanFrom] at h
        simp only [role] at h
        split at h
        · cases h
        · next written after found =>
          have shorter := Quoted.length_after_lt found
          obtain ⟨items, nested⟩ := ih _ (by omega) h rfl
          rw [Role.of_eq_quote_iff.mp role, Quoted.eq_of_skip found]
          exact ⟨_, .quoted (Quoted.run_of_skip found) nested⟩
      | opens d =>
        have scanned : scanFrom [] (c :: rest) = cons ⟨c, [], 0⟩ (scanFrom [d] rest) := by
          rw [scanFrom]
          simp [role]
        obtain ⟨after, closes⟩ | ⟨fault, _⟩ := closes_or_fault [d] [] rest (by simp)
        · cases closes with
          | cons inside closes =>
            cases closes
            obtain ⟨within, inside⟩ := inside
            rw [Role.of_eq_opens_iff.mp role] at h ⊢
            have front := Nested.pair (d := d) inside .nil
            have unfolded := front.scanFrom_append [] after
            simp only [List.cons_append, List.append_assoc, List.nil_append] at unfolded
            rw [unfolded] at h
            obtain ⟨items, nested⟩ := ih after.length (by rw [← len]; simp; omega) h rfl
            exact ⟨_, .pair inside nested⟩
        · rw [scanned] at h
          exact absurd h fault
      | closes d =>
        rw [scanFrom] at h
        simp [role, stop] at h
      | plain =>
        rw [scanFrom] at h
        simp only [role] at h
        obtain ⟨items, nested⟩ := ih rest.length (by omega) h rfl
        exact ⟨_, .plain role nested⟩

/-- A scan has no fault exactly if the text is balanced. -/
lemma fault_eq_none_iff {text : Text} : (of text).fault = none ↔ Balanced text := by
  constructor
  · intro h
    rw [of_eq_scanFrom] at h
    exact balanced_of_fault_eq_none h
  · rintro ⟨items, nested⟩
    rw [nested.scan_eq]

/-- A scan is complete exactly if the text is balanced, and gives its items. -/
lemma complete_eq_ok_iff {text : Text} {items : List Item} :
    (of text).complete = .ok items ↔ Nested text items := by
  constructor
  · intro h
    have no_fault : (of text).fault = none := by
      unfold complete at h
      split at h
      · assumption
      · cases h
    obtain ⟨items', nested⟩ := fault_eq_none_iff.mp no_fault
    rw [nested.scan_eq] at h
    cases h
    exact nested
  · intro nested
    rw [nested.scan_eq]
    rfl

end Scan
end TypeShape
