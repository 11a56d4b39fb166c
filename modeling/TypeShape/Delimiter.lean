import TypeShape.Text.Quoted

/-!
# Delimiters

The three pairs of delimiters that nest, and what each character means for nesting.
-/

namespace TypeShape

/-- A pair of delimiters. -/
inductive Delimiter where
  /-- Parentheses. -/
  | paren
  /-- Angle brackets. -/
  | angle
  /-- Square brackets. -/
  | bracket
  deriving DecidableEq

namespace Delimiter

/-- The character that opens the pair. -/
def opener : Delimiter → Char
  | .paren => '('
  | .angle => '<'
  | .bracket => '['

/-- The character that closes the pair. -/
def closer : Delimiter → Char
  | .paren => ')'
  | .angle => '>'
  | .bracket => ']'

end Delimiter

/-- What a character means for nesting, outside of quoted values. -/
inductive Role where
  /-- Opens a quoted value. -/
  | quote
  /-- Opens a pair of delimiters. -/
  | opens (d : Delimiter)
  /-- Closes a pair of delimiters. -/
  | closes (d : Delimiter)
  /-- Has no part in nesting. -/
  | plain
  deriving DecidableEq

namespace Role

/-- The role of a character. -/
def of (c : Char) : Role :=
  if c = Quoted.mark then .quote
  else if c = '(' then .opens .paren
  else if c = '<' then .opens .angle
  else if c = '[' then .opens .bracket
  else if c = ')' then .closes .paren
  else if c = '>' then .closes .angle
  else if c = ']' then .closes .bracket
  else .plain

/-- Whether the role is that of a closing delimiter. -/
def isCloser : Role → Bool
  | .closes _ => true
  | _ => false

/-- A character opens a pair exactly if it is the opener of that pair. -/
theorem of_eq_opens_iff {c : Char} {d : Delimiter} : of c = .opens d ↔ c = d.opener := by
  constructor
  · intro h
    unfold of at h
    repeat' split at h
    all_goals simp_all [Delimiter.opener]
    all_goals subst h; rfl
  · rintro rfl
    cases d <;> rfl

/-- A character closes a pair exactly if it is the closer of that pair. -/
theorem of_eq_closes_iff {c : Char} {d : Delimiter} : of c = .closes d ↔ c = d.closer := by
  constructor
  · intro h
    unfold of at h
    repeat' split at h
    all_goals simp_all [Delimiter.closer]
    all_goals subst h; rfl
  · rintro rfl
    cases d <;> rfl

/-- A character opens a quoted value exactly if it is the quotation mark. -/
theorem of_eq_quote_iff {c : Char} : of c = .quote ↔ c = Quoted.mark := by
  constructor
  · intro h
    unfold of at h
    repeat' split at h
    all_goals simp_all
  · rintro rfl
    rfl

end Role
end TypeShape
