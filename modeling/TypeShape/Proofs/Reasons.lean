import Mathlib.Tactic.Lemma
import TypeShape.Descriptor.Reader

/-!
# Reasons of the reader

Which reasons the steps of reading can fail for. What a step is given was cut from a text that was
read before it, so the reasons are found along the way in which the steps are put together: a
property of texts is `Hereditary` if the cuts hand it on and the scans of a text that has it fail for
allowed reasons only. Then so does everything that is read from such a text
(`Hereditary.readTrimmed`).
-/

namespace TypeShape

namespace Fallible

variable {ε α β : Type} {allowed : ε → Prop}

/-- The computation fails for allowed reasons only. -/
def FailsOnly (allowed : ε → Prop) (x : Except ε α) : Prop :=
  ∀ reason, x = .error reason → allowed reason

/-- A success has no reason. -/
lemma failsOnly_ok (a : α) : FailsOnly allowed (.ok a : Except ε α) := by
  intro reason failed
  cases failed

/-- A failure has the one reason that it gives. -/
lemma failsOnly_error {reason : ε} (h : allowed reason) :
    FailsOnly allowed (.error reason : Except ε α) := by
  intro other failed
  cases failed
  exact h

/-- What fails for allowed reasons only fails for no others, if more are allowed. -/
lemma FailsOnly.mono {x : Except ε α} {others : ε → Prop} (h : FailsOnly allowed x)
    (imp : ∀ reason, allowed reason → others reason) : FailsOnly others x :=
  fun reason failed => imp reason (h reason failed)

/-- A function of the result changes no reason. -/
lemma FailsOnly.map {f : α → β} {x : Except ε α} (h : FailsOnly allowed x) :
    FailsOnly allowed (x.map f) :=
  fun reason eq => h reason (map_eq_error_iff.mp eq)

/-- A step after another fails for allowed reasons only if both steps do, the second one for each
result of the first. -/
lemma FailsOnly.bind {f : α → Except ε β} {x : Except ε α} (h : FailsOnly allowed x)
    (h' : ∀ a, x = .ok a → FailsOnly allowed (f a)) : FailsOnly allowed (x >>= f) := by
  intro reason eq
  rcases bind_eq_error_iff.mp eq with failed | ⟨a, succeeded, failed⟩
  · exact h reason failed
  · exact h' a succeeded reason failed

/-- A component that is left out does not fail. -/
lemma failsOnly_optional {f : α → Except ε β} (default : β) {x : Option α}
    (h : ∀ a, x = some a → FailsOnly allowed (f a)) :
    FailsOnly allowed ((x.map f).getD (.ok default)) := by
  cases x with
  | none => exact failsOnly_ok default
  | some a => exact h a rfl

end Fallible

open Fallible

/-- A reason that neither a blank text nor a scan gives: it lies in the text between delimiters. -/
structure Reason.IsLocal (reason : Reason) : Prop where
  ne_empty : reason ≠ .empty
  ne_unbalanced : reason ≠ .unbalanced
  ne_unterminatedQuote : reason ≠ .unterminatedQuote

/-- The reason is none of the three that do not lie between delimiters. -/
lemma Reason.isLocal_iff {reason : Reason} :
    reason.IsLocal ↔ reason ≠ .empty ∧ reason ≠ .unbalanced ∧ reason ≠ .unterminatedQuote :=
  ⟨fun h => ⟨h.ne_empty, h.ne_unbalanced, h.ne_unterminatedQuote⟩, fun h => ⟨h.1, h.2.1, h.2.2⟩⟩

instance (reason : Reason) : Decidable reason.IsLocal :=
  decidable_of_iff _ Reason.isLocal_iff.symm

/-- A character that may not stand where it does lies between delimiters. -/
lemma Reason.isLocal_unexpected (c : Char) : (unexpected c).IsLocal := by
  constructor <;> intro eq <;> cases eq

namespace Descriptor

/-- Names are rejected for what stands in their place. -/
lemma takeSegments_isLocal (cc : Classifier) (text : Text) :
    FailsOnly Reason.IsLocal (takeSegments cc text) := by
  fun_induction takeSegments cc text with
  | case1 => exact failsOnly_error (by decide)
  | case2 => exact failsOnly_ok _
  | case3 _ _ _ _ _ _ _ _ _ ih => exact ih.map
  | case4 => exact failsOnly_error (by decide)
  | case5 => exact failsOnly_ok _
  | case6 => exact failsOnly_error (Reason.isLocal_unexpected _)

/-- A name is rejected for what stands in its place, with a separator before it or not. -/
lemma takeName_isLocal (cc : Classifier) (text : Text) :
    FailsOnly Reason.IsLocal (takeName cc text) := by
  unfold takeName
  split
  · exact failsOnly_error (by decide)
  · split
    · exact (takeSegments_isLocal cc _).map
    · exact takeSegments_isLocal cc _

/-- Operands are rejected only because one of them is blank, which lies between delimiters. -/
lemma operands_isLocal (cc : Classifier) (texts : List Text) :
    FailsOnly Reason.IsLocal (operands cc texts) := by
  unfold operands
  split
  · exact failsOnly_error (by decide)
  · exact failsOnly_ok _

end Descriptor

/-- A property of texts that is handed on to all that reading cuts from a text, and that keeps scans
from failing for reasons that are not allowed. -/
structure Hereditary (cc : Classifier) (holds : Text → Prop) (allowed : Reason → Prop) : Prop where
  of_isLocal : ∀ reason, reason.IsLocal → allowed reason
  fault : ∀ {text reason}, holds text → (Scan.of text).fault = some reason → allowed reason
  takePair : ∀ {text} d, holds text → FailsOnly allowed (Scan.takePair d text)
  quoted : ∀ {rest}, holds (Quoted.mark :: rest) → Quoted.read rest = none →
    allowed .unterminatedQuote
  trim : ∀ {text}, holds text → holds (cc.trim text)
  skip : ∀ {text}, holds text → holds (cc.skip text)
  value : ∀ {text key value}, holds text → Parameters.splitKey cc text = some (key, value) →
    holds value
  piece : ∀ {text pieces}, holds text → Scan.splitTop ',' text = .ok pieces →
    ∀ piece ∈ pieces, holds piece
  front : ∀ {text name rest}, holds text →
    Descriptor.takeName cc
      (Descriptor.takeFlagSymbols cc (Descriptor.takeFlagWord cc text).2).2 = .ok (name, rest) →
    holds rest
  inside : ∀ {text d inside after}, holds text →
    Scan.takePair d text = .ok (some inside, after) → holds inside
  after : ∀ {text d inside after}, holds text → Scan.takePair d text = .ok (inside, after) →
    holds after

namespace Hereditary

variable {cc : Classifier} {holds : Text → Prop} {allowed : Reason → Prop} {text : Text}
  (h : Hereditary cc holds allowed)

include h

/-- A scan to the end fails for its fault only. -/
lemma complete (given : holds text) : FailsOnly allowed (Scan.of text).complete := by
  unfold Scan.complete
  split
  · exact failsOnly_ok _
  · next found => exact failsOnly_error (h.fault given found)

/-- A check of the outer characters fails for one of them, or as the scan does. -/
lemma checkTop (test : Char → Bool) (given : holds text) :
    FailsOnly allowed (Scan.checkTop test text) := by
  unfold Scan.checkTop
  split
  · exact failsOnly_error (h.of_isLocal _ (Reason.isLocal_unexpected _))
  · exact (h.complete given).map

/-- A text is split unless its scan is at fault. -/
lemma splitTop (separator : Char) (given : holds text) :
    FailsOnly allowed (Scan.splitTop separator text) :=
  (h.complete given).map

/-- The last brackets are cut off unless the scan is at fault. -/
lemma cutLastBrackets (given : holds text) : FailsOnly allowed (Scan.cutLastBrackets text) := by
  unfold Scan.cutLastBrackets
  split
  · exact (h.complete given).map
  · exact failsOnly_ok none

/-- Operands are rejected for local reasons, whatever they are cut from. -/
lemma operands (texts : List Text) : FailsOnly allowed (Descriptor.operands cc texts) :=
  (Descriptor.operands_isLocal cc texts).mono h.of_isLocal

/-- A value is quoted and torn, or rejected for what it is made of. -/
lemma readValue (given : holds text) : FailsOnly allowed (Parameters.readValue cc text) := by
  unfold Parameters.readValue
  split
  · exact failsOnly_ok []
  · split
    · next is_mark =>
      cases is_mark
      split
      · next ends => exact failsOnly_error (h.quoted given ends)
      · split
        · exact failsOnly_ok _
        · exact failsOnly_error (h.of_isLocal _ (by decide))
    · exact failsOnly_ok _

/-- A parameter is rejected for a key without a value, or as its value is. -/
lemma readItem (given : holds text) : FailsOnly allowed (Parameters.readItem cc text) := by
  unfold Parameters.readItem
  split
  · next found =>
    split
    · exact failsOnly_error (h.of_isLocal _ (by decide))
    · exact (h.readValue (h.trim (h.value given found))).map
  · exact (h.readValue given).map

/-- Parameters are rejected as the first one is that is rejected, for a blank in their place, or for a
key that comes again. -/
lemma readItems (parameters : Parameters) {items : List Text}
    (given : ∀ item ∈ items, holds item) :
    FailsOnly allowed (Parameters.readItems cc parameters items) := by
  fun_induction Parameters.readItems cc parameters items with
  | case1 parameters => exact failsOnly_ok parameters
  | case2 => exact failsOnly_error (h.of_isLocal _ (by decide))
  | case3 parameters item items _ reason failed =>
    have item_given := h.trim (given item List.mem_cons_self)
    exact failsOnly_error (h.readItem item_given reason failed)
  | case4 => exact failsOnly_error (h.of_isLocal _ (by decide))
  | case5 _ item _ _ _ _ _ _ ih =>
    exact ih fun other mem => given other (List.mem_cons_of_mem item mem)

/-- A list of parameters is split, and then each piece of it is read. -/
lemma readParameters (given : holds text) : FailsOnly allowed (Parameters.read cc text) := by
  unfold Parameters.read
  split
  · exact failsOnly_ok _
  · split
    · next reason failed => exact failsOnly_error (h.splitTop ',' given reason failed)
    · next items split => exact h.readItems Parameters.empty (h.piece given split)

/-- Generic arguments are split, and then checked for blanks. -/
lemma readArgs (given : holds text) : FailsOnly allowed (Descriptor.readArgs cc text) := by
  unfold Descriptor.readArgs
  split
  · exact failsOnly_ok []
  · exact (h.splitTop ',' given).bind fun pieces _ => h.operands pieces

/-- A generic is read component by component, each from what is left by those before it, and what
stands in pairs of delimiters is read after that. -/
lemma readGeneric (given : holds text) : FailsOnly allowed (Descriptor.readGeneric cc text) := by
  unfold Descriptor.readGeneric
  apply ((Descriptor.takeName_isLocal cc _).mono h.of_isLocal).bind
  rintro ⟨name, afterName⟩ named
  -- each list is inside of a pair, and what comes next is after that pair
  have before_list := h.skip (h.front given named)
  apply (h.takePair .paren before_list).bind
  rintro ⟨list, afterList⟩ listed
  have read_list : ∀ text, list = some text → FailsOnly allowed (Parameters.read cc text) := by
    rintro text rfl
    exact h.readParameters (h.inside before_list listed)
  apply (failsOnly_optional Parameters.empty read_list).bind
  intro parameters _
  have before_angles := h.skip (h.after before_list listed)
  apply (h.takePair .angle before_angles).bind
  rintro ⟨angles, afterAngles⟩ angled
  have read_angles : ∀ text, angles = some text →
      FailsOnly allowed (Descriptor.readArgs cc text) := by
    rintro text rfl
    exact h.readArgs (h.inside before_angles angled)
  apply (failsOnly_optional [] read_angles).bind
  intro args _
  split
  · exact failsOnly_ok _
  · exact failsOnly_error (h.of_isLocal _ (by decide))

/-- The operands of a union or an intersection are split, and then checked for blanks. -/
lemma readOperands (separator : Char) (given : holds text) :
    FailsOnly allowed (Descriptor.readOperands cc separator text) := by
  unfold Descriptor.readOperands
  apply (h.splitTop separator given).bind
  intro pieces _
  split
  · exact failsOnly_ok none
  · exact (h.operands pieces).map

/-- An array is cut off at its last brackets, and what is wrong with its element or its size is
local. -/
lemma readArray (given : holds text) : FailsOnly allowed (Descriptor.readArray cc text) := by
  unfold Descriptor.readArray
  apply (h.cutLastBrackets given).bind
  intro cut _
  repeat' split
  all_goals first
    | exact failsOnly_ok _
    | exact failsOnly_error (h.of_isLocal _ (by decide))

/-- Whatever the form is, its reader fails for allowed reasons only. -/
lemma readUngrouped (given : holds text) :
    FailsOnly allowed (Descriptor.readUngrouped cc text) := by
  unfold Descriptor.readUngrouped
  apply (h.checkTop _ given).bind
  intro _ _
  apply (h.readOperands '|' given).bind
  rintro (_ | alternatives) _
  · apply (h.readOperands '&' given).bind
    rintro (_ | types) _
    · apply (h.readArray given).bind
      rintro (_ | found) _
      · exact h.readGeneric given
      · exact failsOnly_ok found
    · exact failsOnly_ok _
  · exact failsOnly_ok _

/-- What enclosing parentheses enclose was cut from the text, so it inherits the property. -/
lemma enclosed (given : holds text) {inner : Text}
    (enclosing : Descriptor.enclosed? text = .ok (some inner)) : holds inner := by
  obtain ⟨⟨inside, after⟩, taken, eq⟩ := map_eq_ok_iff.mp enclosing
  dsimp only at eq
  split at eq
  · cases eq
    exact h.inside given taken
  · cases eq

/-- Whatever is read from a text with the property fails for allowed reasons only. -/
lemma readTrimmed (degroup : Bool) (given : holds text) :
    FailsOnly allowed (Descriptor.readTrimmed cc degroup text) := by
  fun_induction Descriptor.readTrimmed cc degroup text with
  | case1 text reason failed =>
    exact failsOnly_error ((h.takePair .paren given).map reason failed)
  | case2 => exact h.readUngrouped given
  | case3 => exact failsOnly_error (h.of_isLocal _ (by decide))
  | case4 text inner enclosing _ _ _ ih => exact ih (h.trim (h.enclosed given enclosing))
  | case5 => exact failsOnly_ok _

end Hereditary
end TypeShape
