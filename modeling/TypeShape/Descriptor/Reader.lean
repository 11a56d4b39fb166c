import TypeShape.Descriptor.Generic

/-!
# Reading one level

Which form a text has is decided in order of precedence: a group that encloses all of it, a union,
an intersection, an array, and else a generic. A group that encloses all of the text is a descriptor
of its own, or is unwrapped first if the reader asks for that (*degrouping*).
-/

namespace TypeShape.Descriptor

/-- Whether a character may stand at the top level. Commas and quotation marks have a meaning only
inside delimiters. -/
def isTopLevelChar (cc : Classifier) (c : Char) : Bool :=
  ['(', ')', '<', '>', '[', ']', ':', '|', '&'].contains c || CharClass.all.any fun cls => cc cls c

/-- The text inside the pair of parentheses that encloses all of a text, if there is one. -/
def enclosed? (text : Text) : Except Reason (Option Text) :=
  (Scan.takePair .paren text).map fun (inside, after) => if after.isEmpty then inside else none

/-- Reads the operands that a separator joins at the top level. There are none without it. -/
def readOperands (cc : Classifier) (separator : Char) (text : Text) :
    Except Reason (Option (List Text)) := do
  let pieces ← Scan.splitTop separator text
  if pieces.length < 2 then .ok none else (operands cc pieces).map some

/-- Reads an element type and the last pair of square brackets. Brackets with nothing before them
are no array. -/
def readArray (cc : Classifier) (text : Text) : Except Reason (Option Descriptor) := do
  match ← Scan.cutLastBrackets text with
  | none => .ok none
  | some (element, inside) =>
    if (cc.trim element).isEmpty then .ok none
    else if (cc.trim inside).isEmpty then .ok (some (.array (cc.trim element) none))
    else if (Decimal.read? (cc.trim inside)).isSome then
      .ok (some (.array (cc.trim element) (some (cc.trim inside))))
    else .error .badSize

/-- Reads a text that no pair of parentheses encloses. -/
def readUngrouped (cc : Classifier) (text : Text) : Except Reason Descriptor := do
  Scan.checkTop (isTopLevelChar cc) text
  match ← readOperands cc '|' text with
  | some alternatives => .ok (.union alternatives)
  | none =>
    match ← readOperands cc '&' text with
    | some types => .ok (.intersection types)
    | none =>
      match ← readArray cc text with
      | some found => .ok found
      | none => readGeneric cc text

/-- The text inside enclosing parentheses is shorter. -/
theorem length_lt_of_enclosed {text inner : Text} (h : enclosed? text = .ok (some inner)) :
    inner.length + 2 = text.length := by
  unfold enclosed? at h
  obtain ⟨⟨inside, after⟩, taken, eq⟩ := Fallible.map_eq_ok_iff.mp h
  cases after with
  | nil =>
    simp only [List.isEmpty_nil, if_true] at eq
    subst eq
    obtain ⟨closer, rfl⟩ := Scan.eq_of_takePair taken
    simp
  | cons c after => simp at eq

/-- Reads a text that is not blank and has no whitespace at its ends. -/
def readTrimmed (cc : Classifier) (degroup : Bool) (text : Text) : Except Reason Descriptor :=
  match enclosing : enclosed? text with
  | .error reason => .error reason
  | .ok none => readUngrouped cc text
  | .ok (some inner) =>
    if (cc.trim inner).isEmpty then .error .emptyOperand
    else if degroup then
      have : (cc.trim inner).length < text.length := by
        have := length_lt_of_enclosed enclosing
        have := Text.length_trim_le (cc .whitespace) inner
        unfold Classifier.trim
        omega
      readTrimmed cc degroup (cc.trim inner)
    else .ok (.group (cc.trim inner))
termination_by text.length

/-- Reads one level of a text, and gives the bare reason if it is not a descriptor. -/
def read (cc : Classifier) (degroup : Bool) (text : Text) : Except Reason Descriptor :=
  if (cc.trim text).isEmpty then .error .empty else readTrimmed cc degroup (cc.trim text)

/-- Reads one level of a text. A rejection carries the exact text. -/
def parse (cc : Classifier) (degroup : Bool) (text : Text) : Except Rejection Descriptor :=
  match read cc degroup text with
  | .ok d => .ok d
  | .error reason => .error ⟨text, reason⟩

/-- A text is read if it is a descriptor at all. -/
theorem parse_eq_ok_iff {cc : Classifier} {degroup : Bool} {text : Text} {d : Descriptor} :
    parse cc degroup text = .ok d ↔ read cc degroup text = .ok d := by
  unfold parse
  cases read cc degroup text <;> simp

/-- A text is rejected with the exact text and the reason why it is not a descriptor. -/
theorem parse_eq_error_iff {cc : Classifier} {degroup : Bool} {text : Text}
    {rejection : Rejection} :
    parse cc degroup text = .error rejection ↔
      rejection.input = text ∧ read cc degroup text = .error rejection.reason := by
  unfold parse
  cases read cc degroup text with
  | ok d => simp
  | error reason =>
    simp only [Except.error.injEq]
    constructor
    · rintro rfl
      exact ⟨rfl, rfl⟩
    · rintro ⟨rfl, rfl⟩
      rfl

end TypeShape.Descriptor
