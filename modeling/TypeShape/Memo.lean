import Std.Data.HashMap
import TypeShape.Descriptor.Reader
import TypeShape.Memo.Event

/-!
# Memos

A memo holds descriptors that were read before, so that a text is read once for each way of reading
it. It has a map from texts for each of the two ways. Rejections are not held. A memo may have a
capacity; then the keys that were stored first are dropped first. What a memo hands out are
instances: two answers are the same instance if and only if they have the same serial number.
-/

namespace TypeShape

/-- Texts are hashed as strings. -/
instance : Hashable Text where
  hash text := hash (String.ofList text)

/-- A descriptor that a memo has handed out, told apart from equal ones by its number. -/
structure Instance where
  /-- How many instances the memo had made before. -/
  serial : Nat
  /-- The descriptor. -/
  descriptor : Descriptor
  deriving DecidableEq

/-- Descriptors held by key. -/
structure Memo where
  /-- How many keys are held at most; without a capacity there is no bound. -/
  capacity : Option Nat
  /-- The instances that are held for texts with enclosing parentheses kept. -/
  plain : Std.HashMap Text Instance
  /-- The instances that are held for texts with enclosing parentheses unwrapped. -/
  degrouped : Std.HashMap Text Instance
  /-- The keys that are held, oldest first. Without a capacity no order is kept. -/
  arrivals : List Key
  /-- How many instances were made. -/
  issued : Nat

/-- What a memo is after a request, with its answer and the events on the way. -/
structure Served (α : Type) where
  /-- The memo after the request. -/
  memo : Memo
  /-- The answer. -/
  answer : α
  /-- The events, in order. -/
  events : List Event

namespace Memo

/-- A memo that holds nothing. -/
def new (capacity : Option Nat) : Memo :=
  { capacity := capacity, plain := ∅, degrouped := ∅, arrivals := [], issued := 0 }

/-- The instances that are held for one way of reading. -/
def entries (memo : Memo) (degroup : Bool) : Std.HashMap Text Instance :=
  if degroup then memo.degrouped else memo.plain

/-- Changes the instances that are held for one way of reading. -/
def update (memo : Memo) (degroup : Bool)
    (change : Std.HashMap Text Instance → Std.HashMap Text Instance) : Memo :=
  if degroup then { memo with degrouped := change memo.degrouped }
  else { memo with plain := change memo.plain }

/-- The number of keys that are held. -/
def size (memo : Memo) : Nat :=
  memo.plain.size + memo.degrouped.size

/-- Whether nothing is held. -/
def isEmpty (memo : Memo) : Bool :=
  memo.size == 0

/-- The instance that is held for a key. -/
def find? (memo : Memo) (key : Key) : Option Instance :=
  (memo.entries key.degroup)[key.input]?

/-- Holds nothing any more. The numbering of instances goes on. -/
def clear (memo : Memo) : Memo :=
  { memo with plain := ∅, degrouped := ∅, arrivals := [] }

/-- The next instance. -/
def next (memo : Memo) (d : Descriptor) : Instance :=
  ⟨memo.issued, d⟩

/-- Drops the oldest keys until fewer than `capacity` of the given ones are left. -/
def evict (capacity : Nat) (memo : Memo) : List Key → Served Unit
  | [] => ⟨{ memo with arrivals := [] }, (), []⟩
  | oldest :: arrivals =>
    if capacity ≤ (oldest :: arrivals).length then
      let rest := evict capacity (memo.update oldest.degroup (·.erase oldest.input)) arrivals
      ⟨rest.memo, (), .evicted oldest :: rest.events⟩
    else ⟨{ memo with arrivals := oldest :: arrivals }, (), []⟩

/-- Stores a descriptor for a key that is not held, and keeps the order if the memo is bounded. -/
def store (memo : Memo) (key : Key) (d : Descriptor) : Memo :=
  { memo.update key.degroup (·.insert key.input (memo.next d)) with
    arrivals := if memo.capacity.isSome then memo.arrivals ++ [key] else memo.arrivals
    issued := memo.issued + 1 }

/-- Stores a descriptor for a key, unless the memo holds one for it already, and answers with the
one that is held. A memo of capacity zero holds nothing and answers with a new instance. -/
def insert (memo : Memo) (key : Key) (d : Descriptor) : Served Instance :=
  match memo.capacity with
  | some 0 => ⟨{ memo with issued := memo.issued + 1 }, memo.next d, []⟩
  | none =>
    match memo.find? key with
    | some held => ⟨memo, held, []⟩
    | none => ⟨memo.store key d, memo.next d, [.cached key]⟩
  | some capacity =>
    match memo.find? key with
    | some held => ⟨memo, held, []⟩
    | none =>
      let room := evict capacity memo memo.arrivals
      ⟨room.memo.store key d, room.memo.next d, room.events ++ [.cached key]⟩

/-- Answers with the instance that is held for a key, and else reads its text and stores what comes
of it. -/
def parse (cc : Classifier) (memo : Memo) (key : Key) : Served (Except Rejection Instance) :=
  match memo.find? key with
  | some held => ⟨memo, .ok held, [.hit key]⟩
  | none =>
    match Descriptor.parse cc key.degroup key.input with
    | .ok d =>
      let stored := memo.insert key d
      ⟨stored.memo, .ok stored.answer, .miss key :: stored.events⟩
    | .error rejection => ⟨memo, .error rejection, [.miss key, .rejected key rejection.reason]⟩

end Memo
end TypeShape
