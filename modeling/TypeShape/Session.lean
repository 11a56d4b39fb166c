import TypeShape.Memo.Request
import TypeShape.Parsed

/-!
# Sessions

A session is a list of commands to a reader with a memo. There is one memo that everybody shares,
which has no bound and reads with the standard classifier; a session works on it or on a memo of its
own. Answers tell instances apart: an answer that hands out the same instance as an earlier one names
the first command that did.
-/

namespace TypeShape

/-- Which memo an instance comes from. -/
inductive Place where
  /-- The memo of the session. -/
  | own
  /-- The memo that everybody shares. -/
  | shared
  deriving DecidableEq

/-- A command of a session. -/
inductive Command where
  /-- Answer a key from the memo of the session. -/
  | parse (key : Key)
  /-- Look a key up in the memo of the session. -/
  | get (key : Key)
  /-- Read the text of `source` with the standard classifier and without a memo, and store what comes
  of it for `key` in the memo of the session. -/
  | insert (key source : Key)
  /-- Empty the memo of the session. -/
  | clear
  /-- Do nothing. -/
  | state
  /-- Ask whether the classifier of the session takes a character for a flag symbol. -/
  | isFlagSymbol (c : Char)
  /-- Answer a key from the shared memo. -/
  | entry (key : Key)
  /-- Answer a key from the shared memo, and surface a rejection as the caller wants. -/
  | entryWith (key : Key) (onReject : OnReject)

/-- A descriptor in an answer. -/
structure Shown where
  /-- The descriptor. -/
  descriptor : Descriptor
  /-- The number of the first command that handed out the same instance, if an earlier one did. -/
  sameAs : Option Nat

/-- The answer to a command. -/
inductive Reply where
  /-- There is nothing to answer. -/
  | nothing
  /-- The answer to a question. -/
  | truth (b : Bool)
  /-- A descriptor, or a rejection. -/
  | outcome (result : Except Rejection Shown)
  /-- A descriptor or a rejection, surfaced as the caller wants. -/
  | surfaced (result : Except Rejection (Parsed Shown))

/-- What is recorded of a command. -/
structure Record where
  /-- The answer. -/
  reply : Reply
  /-- The number of keys in the memo of the session afterwards. -/
  size : Nat
  /-- Whether the memo of the session holds nothing afterwards. -/
  isEmpty : Bool
  /-- The events of all memos, in order. -/
  events : List Event

/-- The state of a session. -/
structure Session where
  /-- The classifier that the memo of the session reads with. -/
  classifier : Classifier
  /-- The memo that the session works on. -/
  place : Place
  /-- The memo of its own. -/
  own : Memo
  /-- The memo that everybody shares. -/
  shared : Memo
  /-- The instances that were handed out, each with the number of the first command that did. -/
  seen : List ((Place × Nat) × Nat)
  /-- The number of commands so far. -/
  count : Nat

namespace Session

/-- A session with a memo of its own. -/
def withOwn (cc : Classifier) (capacity : Option Nat) : Session :=
  { classifier := cc, place := .own, own := .new capacity, shared := .new none, seen := [],
    count := 0 }

/-- A session on the shared memo. -/
def onShared : Session :=
  { classifier := .standard, place := .shared, own := .new none, shared := .new none, seen := [],
    count := 0 }

/-- The memo at a place. -/
def memoAt (session : Session) : Place → Memo
  | .own => session.own
  | .shared => session.shared

/-- The memo that the session works on. -/
def memo (session : Session) : Memo :=
  session.memoAt session.place

/-- Puts a memo in its place. -/
def putMemo (session : Session) (memo : Memo) : Place → Session
  | .own => { session with own := memo }
  | .shared => { session with shared := memo }

/-- The classifier that the memo at a place reads with. -/
def classifierAt (session : Session) : Place → Classifier
  | .own => session.classifier
  | .shared => .standard

/-- Shows an instance, and takes note of it if it is new to the session. -/
def showInstance (session : Session) (place : Place) (found : Instance) : Session × Shown :=
  match session.seen.lookup (place, found.serial) with
  | some first => (session, ⟨found.descriptor, some first⟩)
  | none =>
    ({ session with seen := ((place, found.serial), session.count) :: session.seen },
      ⟨found.descriptor, none⟩)

/-- Shows the outcome of a request. -/
def showOutcome (session : Session) (place : Place) :
    Except Rejection Instance → Session × Except Rejection Shown
  | .error rejection => (session, .error rejection)
  | .ok found =>
    let (session, shown) := session.showInstance place found
    (session, .ok shown)

/-- Serves a request at a place, and answers with what is handed out. -/
def request (session : Session) (place : Place) (request : Request) :
    Session × Option (Except Rejection Shown) × List Event :=
  let served := (session.memoAt place).serve (session.classifierAt place) request
  let session := session.putMemo served.memo place
  match served.answer with
  | none => (session, none, served.events)
  | some outcome =>
    let (session, shown) := session.showOutcome place outcome
    (session, some shown, served.events)

/-- The reply to a request that may have nothing to answer. -/
def replyOf : Option (Except Rejection Shown) → Reply
  | none => .nothing
  | some outcome => .outcome outcome

/-- Serves a request at a place, and replies. -/
def reply (session : Session) (place : Place) (request : Request) :
    Session × Reply × List Event :=
  let (session, answer, events) := session.request place request
  (session, replyOf answer, events)

/-- Carries out a command. -/
def perform (session : Session) : Command → Session × Reply × List Event
  | .parse key => session.reply session.place (.parse key)
  | .get key => session.reply session.place (.get key)
  | .insert key source =>
    match Descriptor.parse .standard source.degroup source.input with
    | .error rejection => (session, .outcome (.error rejection), [])
    | .ok d => session.reply session.place (.insert key d)
  | .clear => session.reply session.place .clear
  | .state => (session, .nothing, [])
  | .isFlagSymbol c =>
    (session, .truth (session.classifierAt session.place .flagSymbol c), [])
  | .entry key => session.reply .shared (.parse key)
  | .entryWith key onReject =>
    match session.request .shared (.parse key) with
    | (session, some outcome, events) => (session, .surfaced (onReject.apply outcome), events)
    | (session, none, events) => (session, .nothing, events)

/-- Carries out a command and records it. -/
def step (session : Session) (command : Command) : Session × Record :=
  let (session, reply, events) := session.perform command
  ({ session with count := session.count + 1 },
    ⟨reply, session.memo.size, session.memo.isEmpty, events⟩)

/-- Carries out commands one after the other. -/
def run (session : Session) : List Command → List Record
  | [] => []
  | command :: commands =>
    let (session, record) := session.step command
    record :: run session commands

end Session
end TypeShape
