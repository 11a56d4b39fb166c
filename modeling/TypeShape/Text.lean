/-!
# Text

Texts are lists of characters, so that every statement about a cut is an equation between appends.
This module holds the two operations that all readers share: trimming, and cutting a list at the
elements that satisfy a test.
-/

namespace TypeShape

/-- A text, as the list of its characters. -/
abbrev Text := List Char

namespace Text

/-- The text without its longest ending of characters that `blank` accepts. -/
def trimEnd (blank : Char → Bool) (text : Text) : Text :=
  (text.reverse.dropWhile blank).reverse

/-- The text without the characters that `blank` accepts at its two ends. -/
def trim (blank : Char → Bool) (text : Text) : Text :=
  trimEnd blank (text.dropWhile blank)

/-- Dropping characters from the front makes no text longer. -/
theorem length_dropWhile_le (p : Char → Bool) (text : Text) :
    (text.dropWhile p).length ≤ text.length :=
  (List.dropWhile_sublist p).length_le

/-- Trimming makes no text longer. -/
theorem length_trim_le (blank : Char → Bool) (text : Text) :
    (trim blank text).length ≤ text.length := by
  have front := length_dropWhile_le blank text
  have back := length_dropWhile_le blank (text.dropWhile blank).reverse
  simp only [List.length_reverse] at back
  simp only [trim, trimEnd, List.length_reverse]
  omega

/-- Dropping characters up to one that stays leaves less than the text after that one. -/
theorem length_lt_of_dropWhile_eq_cons {p : Char → Bool} {text rest : Text} {c : Char}
    (h : text.dropWhile p = c :: rest) : rest.length < text.length := by
  have bound := length_dropWhile_le p text
  rw [h] at bound
  exact bound

/-- A text is no longer than all texts of a list that holds it are together. -/
theorem length_le_length_flatten_of_mem {text : Text} {texts : List Text} (mem : text ∈ texts) :
    text.length ≤ texts.flatten.length := by
  induction texts with
  | nil => cases mem
  | cons first texts ih =>
    simp only [List.flatten_cons, List.length_append]
    rcases List.mem_cons.mp mem with rfl | mem
    · omega
    · have := ih mem
      omega

/-- Puts `separator` between the given texts. -/
def join (separator : Text) : List Text → Text
  | [] => []
  | [text] => text
  | text :: texts => text ++ separator ++ join separator texts

end Text
end TypeShape
