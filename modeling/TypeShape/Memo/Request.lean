import TypeShape.Memo

/-!
# Requests to a memo

Everything that can be asked of a memo, as a type, so that a history is a list of requests and a
statement about histories is one about lists.
-/

namespace TypeShape

/-- A request to a memo. -/
inductive Request where
  /-- Answer a key, reading its text if it is not held. -/
  | parse (key : Key)
  /-- Look a key up. -/
  | get (key : Key)
  /-- Store a descriptor for a key, unless the key is held. -/
  | insert (key : Key) (d : Descriptor)
  /-- Hold nothing any more. -/
  | clear

namespace Memo

/-- Serves a request. There is an answer if an instance is handed out or a text is rejected. -/
def serve (cc : Classifier) (memo : Memo) :
    Request → Served (Option (Except Rejection Instance))
  | .parse key =>
    let served := memo.parse cc key
    ⟨served.memo, some served.answer, served.events⟩
  | .get key => ⟨memo, (memo.find? key).map .ok, []⟩
  | .insert key d =>
    let served := memo.insert key d
    ⟨served.memo, some (.ok served.answer), served.events⟩
  | .clear => ⟨memo.clear, none, []⟩

/-- Serves requests one after the other, and gives what came of each. -/
def serveAll (cc : Classifier) (memo : Memo) :
    List Request → List (Served (Option (Except Rejection Instance)))
  | [] => []
  | request :: requests =>
    let served := memo.serve cc request
    served :: serveAll cc served.memo requests

/-- The memo after a list of requests. -/
def run (cc : Classifier) (memo : Memo) (requests : List Request) : Memo :=
  requests.foldl (fun memo request => (memo.serve cc request).memo) memo

end Memo
end TypeShape
