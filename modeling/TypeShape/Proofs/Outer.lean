import TypeShape.Proofs.Balanced
import TypeShape.Proofs.Trim

/-!
# Characters outside of all delimiters

`Outer p text` says that a text is balanced and that `p` holds of each of its characters that no
delimiter pair and no quoted value encloses; a quoted value counts as its opening mark. Such texts
can be put together (`Outer.append`, `Outer.pair`) and taken apart again where a balanced text ends
(`Outer.of_append`) or where blank characters are cut off (`Outer.trim`).
-/

namespace TypeShape

/-- A balanced text whose characters outside of all delimiters satisfy `p`. -/
def Outer (p : Char → Prop) (text : Text) : Prop :=
  ∃ items, Nested text items ∧ ∀ item ∈ items, item.depth = 0 → p item.ch

variable {p q : Char → Prop} {text text' : Text}

namespace Nested

/-- Plain characters are balanced. -/
lemma of_plain (plain : ∀ c ∈ text, Role.of c = .plain) :
    Nested text (text.map (⟨·, [], 0⟩)) := by
  induction text with
  | nil => exact .nil
  | cons c rest ih =>
    exact .plain (plain c (by simp)) (ih fun d mem => plain d (by simp [mem]))

/-- Where the beginning of a balanced text is balanced, so is the rest. -/
lemma of_append {items items' : List Item} (h : Nested (text ++ text') items)
    (front : Nested text items') : ∃ rest, Nested text' rest ∧ items = items' ++ rest := by
  have scanned := front.scanFrom_append [] text'
  rw [← Scan.of_eq_scanFrom, h.scan_eq, Scan.mk.injEq] at scanned
  obtain ⟨rest, nested⟩ := Scan.balanced_of_fault_eq_none scanned.2.symm
  exact ⟨rest, nested, h.items_unique (front.append nested)⟩

/-- A character that is not in the second part of a text is in the first. -/
lemma eq_append_of_not_mem {front rest : Text} {c : Char}
    (eq : text ++ text' = front ++ c :: rest) (h : c ∉ text') :
    ∃ k, text = front ++ c :: k ∧ rest = k ++ text' := by
  obtain ⟨k, rfl, later⟩ | ⟨k, rfl, later⟩ := List.append_eq_append_iff.mp eq
  · exact absurd (by simp [later]) h
  · cases k with
    | nil =>
      rw [List.nil_append] at later
      exact absurd (by simp [← later]) h
    | cons d k =>
      cases later
      exact ⟨k, rfl, rfl⟩

/-- Plain characters can be cut off the end of a balanced text. -/
lemma of_append_plain {items : List Item} (h : Nested (text ++ text') items)
    (plain : ∀ c ∈ text', Role.of c = .plain) :
    ∃ front, Nested text front ∧ front <+: items := by
  generalize eq : text ++ text' = whole at h
  induction h generalizing text with
  | nil =>
    obtain ⟨rfl, rfl⟩ := List.append_eq_nil_iff.mp eq
    exact ⟨[], .nil, List.prefix_rfl⟩
  | plain role _ ih =>
    cases text with
    | nil => exact ⟨[], .nil, List.nil_prefix⟩
    | cons c rest =>
      cases eq
      obtain ⟨front, nested, first⟩ := ih rfl
      exact ⟨_, .plain role nested, List.prefix_cons_inj _ |>.mpr first⟩
  | @quoted written rest items run _ ih =>
    -- the plain end has no mark, so the quoted value ends before it
    have mark_not_mem : Quoted.mark ∉ text' := fun mem => nomatch plain _ mem
    rw [← List.cons_append] at eq
    obtain ⟨k, rfl, later⟩ := eq_append_of_not_mem eq mark_not_mem
    obtain ⟨front, nested, first⟩ := ih later.symm
    exact ⟨_, .quoted run nested, List.prefix_cons_inj _ |>.mpr first⟩
  | @pair d inside rest within items insideNested _ _ ih =>
    -- and no delimiter, so the pair ends before it as well
    have closer_not_mem : d.closer ∉ text' := by
      intro mem
      have role := plain _ mem
      rw [Role.of_eq_closes_iff.mpr rfl] at role
      cases role
    rw [← List.cons_append] at eq
    obtain ⟨k, rfl, later⟩ := eq_append_of_not_mem eq closer_not_mem
    obtain ⟨front, nested, first⟩ := ih later.symm
    refine ⟨_, .pair insideNested nested, ?_⟩
    simpa using first

end Nested

/-- Every balanced text is one without a condition on its outer characters. -/
lemma balanced_iff_outer : Balanced text ↔ Outer (fun _ => True) text := by
  simp [Balanced, Outer]

namespace Outer

/-- A text with a condition on its outer characters is balanced. -/
lemma balanced (h : Outer p text) : Balanced text := by
  obtain ⟨items, nested, _⟩ := h
  exact ⟨items, nested⟩

/-- A weaker condition holds as well. -/
lemma mono (h : Outer p text) (imp : ∀ c, p c → q c) : Outer q text := by
  obtain ⟨items, nested, outer⟩ := h
  exact ⟨items, nested, fun item mem depth => imp _ (outer item mem depth)⟩

/-- Two conditions on the outer characters are one. -/
lemma and (h : Outer p text) (h' : Outer q text) : Outer (fun c => p c ∧ q c) text := by
  obtain ⟨items, nested, outer⟩ := h
  obtain ⟨items', nested', outer'⟩ := h'
  cases nested.items_unique nested'
  exact ⟨items, nested, fun item mem depth => ⟨outer item mem depth, outer' item mem depth⟩⟩

/-- The empty text has no outer characters. -/
lemma nil : Outer p [] :=
  ⟨[], .nil, by simp⟩

/-- Texts after each other have the outer characters of both. -/
lemma append (h : Outer p text) (h' : Outer p text') : Outer p (text ++ text') := by
  obtain ⟨items, nested, outer⟩ := h
  obtain ⟨items', nested', outer'⟩ := h'
  refine ⟨_, nested.append nested', ?_⟩
  intro item mem
  rcases List.mem_append.mp mem with mem | mem
  · exact outer item mem
  · exact outer' item mem

/-- Plain characters that satisfy the condition. -/
lemma of_plain (plain : ∀ c ∈ text, Role.of c = .plain ∧ p c) : Outer p text := by
  refine ⟨_, Nested.of_plain fun c mem => (plain c mem).1, ?_⟩
  intro item mem _
  obtain ⟨c, inText, rfl⟩ := List.mem_map.mp mem
  exact (plain c inText).2

/-- A quoted value is outside with its marks only. -/
lemma quoted {written : Text} (run : Quoted.Run written) (mark : p Quoted.mark) :
    Outer p (Quoted.mark :: (written ++ [Quoted.mark])) :=
  ⟨_, .quoted run .nil, by simpa using mark⟩

/-- A pair of delimiters is outside with the delimiters only. -/
lemma pair {d : Delimiter} {inside : Text} (balanced : Balanced inside) (opener : p d.opener)
    (closer : p d.closer) : Outer p (d.opener :: (inside ++ [d.closer])) := by
  obtain ⟨within, nested⟩ := balanced
  refine ⟨_, .pair nested .nil, ?_⟩
  simp only [List.mem_cons, List.mem_append, List.mem_map, List.not_mem_nil, or_false]
  rintro item (rfl | ⟨inner, _, rfl⟩ | rfl) depth
  · exact opener
  · simp [Item.deepen] at depth
  · exact closer

/-- A text can be taken apart where a balanced text ends. -/
lemma of_append (h : Outer p (text ++ text')) (front : Balanced text) :
    Outer p text ∧ Outer p text' := by
  obtain ⟨items, nested, outer⟩ := h
  obtain ⟨items', nested'⟩ := front
  obtain ⟨rest, nestedRest, rfl⟩ := nested.of_append nested'
  constructor
  · exact ⟨items', nested', fun item mem => outer item (List.mem_append_left rest mem)⟩
  · exact ⟨rest, nestedRest, fun item mem => outer item (List.mem_append_right items' mem)⟩

/-- The first character of a text is outside of its delimiters. -/
lemma head {c : Char} (h : Outer p (c :: text)) : p c := by
  obtain ⟨items, nested, outer⟩ := h
  cases nested with
  | plain _ _ => exact outer _ List.mem_cons_self rfl
  | quoted _ _ => exact outer _ List.mem_cons_self rfl
  | pair _ _ => exact outer _ List.mem_cons_self rfl

/-- Without its first character, which is plain, a text has no other outer characters than with it.
-/
lemma tail {c : Char} (h : Outer p (c :: text)) (plain : Role.of c = .plain) : Outer p text := by
  have front : Balanced [c] := ⟨_, .plain plain .nil⟩
  rw [← List.singleton_append] at h
  exact (h.of_append front).2

/-- A text stays balanced without its blank ends, if blank characters have no part in nesting. -/
lemma trim {blank : Char → Bool} (h : Outer p text)
    (plain : ∀ c, blank c = true → Role.of c = .plain) : Outer p (Text.trim blank text) := by
  obtain ⟨front, back, eq, front_blank, back_blank⟩ := Text.exists_eq_append_trim blank text
  rw [eq, List.append_assoc] at h
  have front_plain := Nested.of_plain fun c mem => plain c (front_blank c mem)
  obtain ⟨items, nested, outer⟩ := (h.of_append ⟨_, front_plain⟩).2
  obtain ⟨items', nested', first⟩ := nested.of_append_plain fun c mem => plain c (back_blank c mem)
  exact ⟨items', nested', fun item mem => outer item (first.subset mem)⟩

end Outer
end TypeShape
