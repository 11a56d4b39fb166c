import TypeShape.Reason

/-!
# Events of a memo

What a memo reports about its work. Every event is about a key: a text together with the way it is
read.
-/

namespace TypeShape

/-- A text, and whether enclosing parentheses are unwrapped when it is read. -/
structure Key where
  /-- The exact text. -/
  input : Text
  /-- Whether enclosing parentheses are unwrapped. -/
  degroup : Bool
  deriving DecidableEq

/-- How much an event matters. -/
inductive Level where
  /-- The ordinary course of work. -/
  | trace
  /-- Something a caller may want to look into. -/
  | debug
  deriving DecidableEq

/-- Something a memo does. -/
inductive Event where
  /-- A key is answered from the memo. -/
  | hit (key : Key)
  /-- A key is not held, so its text is read. -/
  | miss (key : Key)
  /-- The text of a key is no descriptor. -/
  | rejected (key : Key) (reason : Reason)
  /-- A key is stored. -/
  | cached (key : Key)
  /-- A key is dropped to make room. -/
  | evicted (key : Key)
  deriving DecidableEq

namespace Event

/-- The key that an event is about. -/
def key : Event → Key
  | hit key | miss key | rejected key _ | cached key | evicted key => key

/-- The reason that an event gives. -/
def reason? : Event → Option Reason
  | rejected _ reason => some reason
  | _ => none

/-- The level of an event: only rejections are more than the ordinary course. -/
def level : Event → Level
  | rejected _ _ => .debug
  | _ => .trace

/-- The wording of an event. -/
def message : Event → Text
  | hit _ => "descriptor cache hit".toList
  | miss _ => "descriptor cache miss".toList
  | rejected _ _ => "rejected descriptor".toList
  | cached _ => "cached descriptor".toList
  | evicted _ => "evicted descriptor".toList

end Event
end TypeShape
