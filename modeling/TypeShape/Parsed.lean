import TypeShape.Reason

/-!
# How rejections reach a caller

A caller says for each text what is to become of a rejection: it ends the call, it counts as nothing,
or it is handed over as a value.
-/

namespace TypeShape

/-- What becomes of a rejection. -/
inductive OnReject where
  /-- It ends the call. -/
  | fail
  /-- It counts as nothing. -/
  | absent
  /-- It is handed over as a value. -/
  | value
  deriving DecidableEq

/-- What a call gives when it does not end in a rejection. -/
inductive Parsed (α : Type) where
  /-- What was read. -/
  | descriptor (d : α)
  /-- The text was rejected, and the rejection counts as nothing. -/
  | absent
  /-- The text was rejected, and this is why. -/
  | invalid (rejection : Rejection)

namespace Parsed

variable {α β : Type}

/-- What was read, if anything was. -/
def descriptor? : Parsed α → Option α
  | descriptor d => some d
  | _ => none

/-- The rejection, if it was handed over. -/
def invalid? : Parsed α → Option Rejection
  | invalid rejection => some rejection
  | _ => none

/-- Whether a rejection counted as nothing. -/
def isAbsent : Parsed α → Bool
  | absent => true
  | _ => false

end Parsed

/-- Surfaces the outcome of reading a text in the way the caller wants. -/
def OnReject.apply {α : Type} (onReject : OnReject) :
    Except Rejection α → Except Rejection (Parsed α)
  | .ok d => .ok (.descriptor d)
  | .error rejection =>
    match onReject with
    | .fail => .error rejection
    | .absent => .ok .absent
    | .value => .ok (.invalid rejection)

end TypeShape
