import Mathlib.Data.List.DropRight
import Mathlib.Tactic.Lemma
import TypeShape.CharClass

/-!
# Trimming

A text is `Trimmed` if neither of its ends is blank. Trimming gives the trimmed text between two
blank ones (`exists_eq_append_trim`), and whatever text is put between blank ones is found again if
it was trimmed (`trim_append`).
-/

namespace TypeShape.Text

variable {blank : Char → Bool} {text : Text}

/-- Neither end of the text is blank. -/
structure Trimmed (blank : Char → Bool) (text : Text) : Prop where
  head : ∀ c, text.head? = some c → blank c = false
  last : ∀ c, text.getLast? = some c → blank c = false

/-- Every character of the text is blank. -/
def Blank (blank : Char → Bool) (text : Text) : Prop :=
  ∀ c ∈ text, blank c = true

/-- The empty text is blank. -/
lemma blank_nil : Blank blank [] := by
  intro c mem
  cases mem

/-- A blank character before a blank text leaves it blank. -/
lemma Blank.cons {c : Char} (first : blank c = true) (h : Blank blank text) :
    Blank blank (c :: text) :=
  List.forall_mem_cons.mpr ⟨first, h⟩

/-- What a test takes from a text is blank for that test. -/
lemma blank_takeWhile (blank : Char → Bool) (text : Text) : Blank blank (text.takeWhile blank) :=
  fun _ mem => List.mem_takeWhile_imp mem

/-- Nothing is dropped from a text that does not begin with what is dropped. -/
lemma dropWhile_eq_self (h : ∀ c, text.head? = some c → blank c = false) :
    text.dropWhile blank = text := by
  cases text with
  | nil => rfl
  | cons c rest => exact List.dropWhile_cons_of_neg (by simp [h c rfl])

/-- Nothing is dropped from a text that does not end with what is dropped. -/
lemma trimEnd_eq_self (h : ∀ c, text.getLast? = some c → blank c = false) :
    trimEnd blank text = text := by
  unfold trimEnd
  rw [dropWhile_eq_self (by simpa using h), List.reverse_reverse]

/-- A trimmed text stays as it is. -/
lemma Trimmed.trim_eq (h : Trimmed blank text) : trim blank text = text := by
  unfold trim
  rw [dropWhile_eq_self h.head, trimEnd_eq_self h.last]

/-- A text is its trimmed part between blank ones. -/
lemma exists_eq_append_trim (blank : Char → Bool) (text : Text) :
    ∃ front back, text = front ++ trim blank text ++ back ∧ Blank blank front ∧
      Blank blank back := by
  refine ⟨text.takeWhile blank, (text.dropWhile blank).rtakeWhile blank, ?_, ?_, ?_⟩
  · have back := List.rdropWhile_append_rtakeWhile (p := blank) (l := text.dropWhile blank)
    rw [List.append_assoc]
    exact (congrArg (_ ++ ·) back).trans List.takeWhile_append_dropWhile |>.symm
  · intro c mem
    exact List.mem_takeWhile_imp mem
  · intro c mem
    exact List.mem_rtakeWhile_imp mem

/-- Trimming adds no characters. -/
lemma mem_of_mem_trim {c : Char} (mem : c ∈ trim blank text) : c ∈ text := by
  obtain ⟨front, back, eq, _⟩ := exists_eq_append_trim blank text
  rw [eq]
  simp [mem]

/-- A text of characters that are not blank is trimmed. -/
lemma trimmed_of_not_blank (h : ∀ c ∈ text, blank c = false) : Trimmed blank text where
  head c first := h c (List.mem_of_mem_head? first)
  last c final := h c (List.mem_of_mem_getLast? final)

/-- What trimming gives is trimmed. -/
lemma trimmed_trim (blank : Char → Bool) (text : Text) : Trimmed blank (trim blank text) where
  head c first := by
    obtain ⟨back, eq⟩ := List.rdropWhile_prefix blank (l := text.dropWhile blank)
    have front := List.head?_dropWhile_not blank text
    change (List.rdropWhile blank (text.dropWhile blank)).head? = some c at first
    rw [← eq, List.head?_append, first] at front
    simpa using front
  last c final := by
    have ends := List.head?_dropWhile_not blank (text.dropWhile blank).reverse
    simp only [trim, trimEnd, List.getLast?_reverse] at final
    rw [final] at ends
    simpa using ends

/-- A trimmed text between blank ones is found again. -/
lemma trim_append {front back : Text} (trimmed : Trimmed blank text)
    (front_blank : Blank blank front) (back_blank : Blank blank back) :
    trim blank (front ++ text ++ back) = text := by
  unfold trim
  rw [List.append_assoc, List.dropWhile_append_of_pos front_blank]
  cases text with
  | nil =>
    have dropped : ([] ++ back).dropWhile blank = [] := by
      exact List.dropWhile_eq_nil_iff.mpr back_blank
    rw [dropped]
    rfl
  | cons c rest =>
    rw [dropWhile_eq_self (by simpa using trimmed.head)]
    unfold trimEnd
    rw [List.reverse_append,
      List.dropWhile_append_of_pos fun c mem => back_blank c (List.mem_reverse.mp mem)]
    exact trimEnd_eq_self trimmed.last

/-- The trimmed text is empty exactly if the text is blank. -/
lemma trim_eq_nil_iff : trim blank text = [] ↔ Blank blank text := by
  constructor
  · intro h
    obtain ⟨front, back, eq, front_blank, back_blank⟩ := exists_eq_append_trim blank text
    rw [h, List.append_nil] at eq
    rw [eq]
    intro c mem
    rcases List.mem_append.mp mem with mem | mem
    · exact front_blank c mem
    · exact back_blank c mem
  · intro h
    have trimmed : Trimmed blank [] := ⟨nofun, nofun⟩
    have nothing := trim_append trimmed h blank_nil
    simpa using nothing

namespace Trimmed

variable {text' : Text}

/-- A trimmed text has no blank ending. -/
lemma eq_nil_of_blank (h : Trimmed blank (text ++ text')) (ending : Blank blank text') :
    text' = [] := by
  by_contra ne
  have final := h.last (text'.getLast ne) (by
    rw [List.getLast?_append_of_ne_nil _ ne, List.getLast?_eq_getLast_of_ne_nil ne])
  rw [ending _ (List.getLast_mem ne)] at final
  cases final

/-- Trimmed texts after each other are trimmed. -/
lemma append (h : Trimmed blank text) (h' : Trimmed blank text') :
    Trimmed blank (text ++ text') where
  head c first := by
    cases text with
    | nil => exact h'.head c first
    | cons d rest => exact h.head c first
  last c final := by
    rw [List.getLast?_append] at final
    rcases Option.or_eq_some_iff.mp final with final | ⟨_, final⟩
    · exact h'.last c final
    · exact h.last c final

/-- Whatever stands between texts that are trimmed and not empty, the whole is trimmed. -/
lemma around (h : Trimmed blank text) (ne : text ≠ []) (h' : Trimmed blank text') (ne' : text' ≠ [])
    (middle : Text) : Trimmed blank (text ++ middle ++ text') where
  head c first := by
    apply h.head c
    obtain ⟨d, rest, rfl⟩ := List.exists_cons_of_ne_nil ne
    simpa using first
  last c final := by
    apply h'.last c
    rw [List.getLast?_append_of_ne_nil _ ne'] at final
    exact final

/-- Whatever stands between two characters that are not blank, the whole is trimmed. -/
lemma wrap {opener closer : Char} (inside : Text) (h : blank opener = false)
    (h' : blank closer = false) : Trimmed blank (opener :: (inside ++ [closer])) where
  head := by
    rintro _ ⟨⟩
    exact h
  last c final := by
    rw [← List.cons_append, List.getLast?_concat] at final
    cases final
    exact h'

end Trimmed
end TypeShape.Text

namespace TypeShape.Classifier

/-- Trimming a trimmed text changes nothing. -/
lemma trim_trim (cc : Classifier) (text : Text) : cc.trim (cc.trim text) = cc.trim text :=
  (Text.trimmed_trim (cc .whitespace) text).trim_eq

/-- A text is the whitespace at its beginning and what skipping leaves. -/
lemma takeWhile_append_skip (cc : Classifier) (text : Text) :
    text.takeWhile (cc .whitespace) ++ cc.skip text = text :=
  List.takeWhile_append_dropWhile

/-- Skipping twice is skipping once. -/
lemma skip_skip (cc : Classifier) (text : Text) : cc.skip (cc.skip text) = cc.skip text := by
  apply Text.dropWhile_eq_self
  intro c head
  have stays := List.head?_dropWhile_not (cc .whitespace) text
  rw [skip] at head
  simpa [head] using stays

/-- An ending of a trimmed text has whitespace at its beginning only. -/
lemma trim_ending (cc : Classifier) {front text : Text}
    (trimmed : Text.Trimmed (cc .whitespace) (front ++ text)) : cc.trim text = cc.skip text := by
  apply Text.trimEnd_eq_self
  intro c final
  apply trimmed.last c
  obtain ⟨gap, eq⟩ := List.dropWhile_suffix (l := text) (cc .whitespace)
  rw [← eq, List.getLast?_append, List.getLast?_append, final]
  rfl

end TypeShape.Classifier
