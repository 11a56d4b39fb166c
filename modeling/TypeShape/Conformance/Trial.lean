import TypeShape.Expectation
import TypeShape.Memo

/-!
# Trials

A trial puts checks to a reader, with or without a memo, one after the other. Each check has one text
read and says what should come of it. A trial ends at the first check that is not met, and reports the
readings up to there.
-/

namespace TypeShape.Conformance

/-- What comes of a reading. -/
abbrev Outcome := Except Rejection Descriptor

/-- A reader of descriptors. -/
inductive Subject where
  /-- A reader without a memo. -/
  | plain (cc : Classifier)
  /-- A reader that keeps what it has read in a memo. -/
  | remembering (cc : Classifier) (memo : Memo)

namespace Subject

/-- A reader with a memo that holds nothing. -/
def withMemo (capacity : Option Nat) (cc : Classifier) : Subject :=
  remembering cc (.new capacity)

/-- The memo, if there is one. -/
def memo? : Subject → Option Memo
  | plain _ => none
  | remembering _ memo => some memo

/-- Reads the text of a key, and gives the reader afterwards, the outcome, and the events of the memo
on the way. -/
def parse : Subject → Key → Subject × Outcome × List Event
  | plain cc, key => (plain cc, Descriptor.parse cc key.degroup key.input, [])
  | remembering cc memo, key =>
    let served := memo.parse cc key
    (remembering cc served.memo, served.answer.map Instance.descriptor, served.events)

end Subject

/-- What should come of a reading. -/
inductive Demand where
  /-- A descriptor with this expectation. -/
  | gives (want : Expectation)
  /-- A rejection of the exact text, for this reason. -/
  | rejected (reason : Reason)
  /-- Some descriptor. -/
  | accepted
  /-- A descriptor that is equal to the one of the reading before. -/
  | unchanged
  /-- A descriptor with parameters on which all ways to look at them agree. -/
  | consistent

/-- Whether an outcome is what should come of a text, after what came of the text before. -/
def Demand.isMetBy (demand : Demand) (text : Text) (previous : Option Descriptor) :
    Outcome → Bool
  | .ok d =>
    match demand with
    | gives want => Expectation.ofDescriptor d == want
    | rejected _ => false
    | accepted => true
    | unchanged => previous == some d
    | consistent => d.parameters.isConsistent
  | .error rejection =>
    match demand with
    | rejected reason => rejection == ⟨text, reason⟩
    | _ => false

/-- A text to read, and what should come of it. -/
structure Check where
  /-- The text, and the way to read it. -/
  key : Key
  /-- What should come of it. -/
  demand : Demand

/-- What is reported of checks. -/
structure Report where
  /-- The keys that were read, each with its outcome, in order. -/
  readings : List (Key × Outcome)
  /-- All events, in order. -/
  events : List Event
  /-- Whether every check was met. -/
  passed : Bool

namespace Report

/-- The report of no checks. -/
def empty : Report :=
  ⟨[], [], true⟩

/-- The report of checks and then of others, which are not made if the first ones failed. -/
def andThen (first second : Report) : Report :=
  if first.passed then
    ⟨first.readings ++ second.readings, first.events ++ second.events, second.passed⟩
  else first

/-- No checks before others change nothing. -/
@[simp] theorem empty_andThen (report : Report) : empty.andThen report = report :=
  rfl

/-- Nothing is read after a check that is not met. -/
theorem andThen_of_not_passed {first : Report} (failed : first.passed = false) (second : Report) :
    first.andThen second = first := by
  simp [andThen, failed]

/-- The messages of the events, each with the number of times that it was reported. -/
def messageCounts (report : Report) : List (Text × Nat) :=
  let messages := report.events.map Event.message
  messages.eraseDups.map fun message => (message, messages.count message)

end Report

/-- Puts checks to a reader, up to the first that is not met, and gives the reader afterwards and the
report. The descriptor is that of the reading before, if there was one. -/
def trialFrom (previous : Option Descriptor) (subject : Subject) : List Check → Subject × Report
  | [] => (subject, .empty)
  | check :: checks =>
    let (subject, outcome, events) := subject.parse check.key
    let passed := check.demand.isMetBy check.key.input previous outcome
    let first : Report := ⟨[(check.key, outcome)], events, passed⟩
    if passed then
      let (subject, rest) := trialFrom outcome.toOption subject checks
      (subject, first.andThen rest)
    else (subject, first)

/-- Puts checks to a reader, before which nothing was read. -/
def trial (subject : Subject) (checks : List Check) : Subject × Report :=
  trialFrom none subject checks

end TypeShape.Conformance
