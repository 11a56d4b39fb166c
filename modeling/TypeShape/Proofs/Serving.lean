import TypeShape.Proofs.Arrivals

/-!
# What a request does

All that serving a request can do to a memo, whatever its capacity: `Insertion` for storing a key and
`Serving` for requests, with the answer and the events of each case. A consistent memo does nothing
else (`Consistent.insertion`, `Consistent.serving`). What holds of every run can then be shown by
cases, without a look at the maps and the order of arrivals.
-/

namespace TypeShape

/-- The key that a request is about, if it is about one. -/
def Request.key? : Request → Option Key
  | .parse key | .get key | .insert key _ => some key
  | .clear => none

namespace Memo

/-- A key that was not held is stored under the next instance, and at most one other key goes. -/
structure Grown (memo : Memo) (key : Key) (d : Descriptor) (dropped : Option Key) (after : Memo) :
    Prop where
  absent : memo.find? key = none
  dropped_held : ∀ oldest, dropped = some oldest → memo.find? oldest ≠ none
  full : ∀ oldest, dropped = some oldest → memo.capacity = some memo.size
  find?_eq : ∀ other, after.find? other =
    if key = other then some (memo.next d)
    else if dropped = some other then none else memo.find? other
  size_eq : after.size + dropped.toList.length = memo.size + 1
  issued_eq : after.issued = memo.issued + 1

/-- What storing a key can do. -/
inductive Insertion (memo : Memo) (key : Key) (d : Descriptor) : Served Instance → Prop where
  | held {held : Instance} :
    memo.find? key = some held →
    Insertion memo key d ⟨memo, held, []⟩
  | disabled :
    memo.capacity = some 0 →
    (∀ other, memo.find? other = none) →
    Insertion memo key d ⟨{ memo with issued := memo.issued + 1 }, memo.next d, []⟩
  | stored {dropped : Option Key} {after : Memo} :
    Grown memo key d dropped after →
    Insertion memo key d ⟨after, memo.next d, dropped.toList.map .evicted ++ [.cached key]⟩

/-- What serving a request can do. -/
inductive Serving (cc : Classifier) (memo : Memo) :
    Request → Served (Option (Except Rejection Instance)) → Prop where
  | hit {key : Key} {held : Instance} :
    memo.find? key = some held →
    Serving cc memo (.parse key) ⟨memo, some (.ok held), [.hit key]⟩
  | rejected {key : Key} {rejection : Rejection} :
    memo.find? key = none →
    Descriptor.parse cc key.degroup key.input = .error rejection →
    Serving cc memo (.parse key)
      ⟨memo, some (.error rejection), [.miss key, .rejected key rejection.reason]⟩
  | parsed {key : Key} {d : Descriptor} {stored : Served Instance} :
    memo.find? key = none →
    Descriptor.parse cc key.degroup key.input = .ok d →
    Insertion memo key d stored →
    Serving cc memo (.parse key)
      ⟨stored.memo, some (.ok stored.answer), .miss key :: stored.events⟩
  | get {key : Key} :
    Serving cc memo (.get key) ⟨memo, (memo.find? key).map .ok, []⟩
  | insert {key : Key} {d : Descriptor} {stored : Served Instance} :
    Insertion memo key d stored →
    Serving cc memo (.insert key d) ⟨stored.memo, some (.ok stored.answer), stored.events⟩
  | clear :
    Serving cc memo .clear ⟨memo.clear, none, []⟩

variable {cc : Classifier} {memo : Memo} {key : Key} {d : Descriptor}

@[simp] lemma issued_store : (memo.store key d).issued = memo.issued + 1 := rfl

@[simp] lemma issued_forget {oldest : Key} {arrivals : List Key} :
    (memo.forget oldest arrivals).issued = memo.issued :=
  issued_update memo _ _

/-- Where there is room, nothing goes. -/
lemma grown_store (absent : memo.find? key = none) : Grown memo key d none (memo.store key d) where
  absent := absent
  dropped_held := nofun
  full := nofun
  find?_eq other := find?_store memo key other d
  size_eq := size_store absent
  issued_eq := issued_store

/-- Where there is none, the oldest key goes. -/
lemma grown_forget {oldest : Key} {arrivals : List Key} (ordered : memo.Ordered)
    (order : memo.arrivals = oldest :: arrivals) (absent : memo.find? key = none)
    (full : memo.capacity = some memo.size) :
    Grown memo key d (some oldest) ((memo.forget oldest arrivals).store key d) where
  absent := absent
  dropped_held := by
    rintro _ ⟨⟩
    rw [← ordered.mem_iff_find?, order]
    exact List.mem_cons_self
  full _ _ := full
  find?_eq other := by
    simp only [find?_store, find?_forget, next_forget, Option.some.injEq]
  size_eq := by
    rw [size_store (find?_forget_eq_none absent)]
    exact congrArg (· + 1) (ordered.size_forget order)
  issued_eq := by simp

/-- Without a capacity nothing goes. -/
lemma Grown.dropped_eq_none {dropped : Option Key} {after : Memo}
    (grown : Grown memo key d dropped after) (unbounded : memo.capacity = none) : dropped = none := by
  cases dropped with
  | none => rfl
  | some oldest =>
    have full := grown.full oldest rfl
    rw [unbounded] at full
    cases full

/-- A memo of capacity zero holds nothing. -/
lemma Consistent.find?_eq_none (h : memo.Consistent) (disabled : memo.capacity = some 0) (key : Key) :
    memo.find? key = none := by
  obtain ⟨plain, degrouped, _⟩ := h.disabled disabled
  obtain ⟨input, degroup⟩ := key
  cases degroup with
  | false => exact Std.HashMap.getElem?_of_isEmpty plain
  | true => exact Std.HashMap.getElem?_of_isEmpty degrouped

/-- Storing a key in a memo of any capacity. -/
lemma Consistent.insertion (h : memo.Consistent) (key : Key) (d : Descriptor) :
    Insertion memo key d (memo.insert key d) := by
  cases limit : memo.capacity with
  | none =>
    -- there is always room
    unfold Memo.insert
    rw [limit]
    cases found : memo.find? key with
    | some held => exact .held found
    | none => exact .stored (grown_store found)
  | some capacity =>
    rcases Nat.eq_zero_or_pos capacity with rfl | positive
    · rw [insert_of_disabled limit]
      exact .disabled limit (h.find?_eq_none limit)
    · have bounded := h.bounded capacity limit positive
      have inserted := bounded.inserted positive key d
      generalize memo.insert key d = served at inserted ⊢
      cases inserted with
      | held found => exact .held found
      | room absent _ => exact .stored (grown_store absent)
      | full absent full order =>
        have limit_eq : memo.capacity = some memo.size := by rw [limit, full]
        exact .stored (grown_forget bounded.toOrdered order absent limit_eq)

/-- Serving a request with a memo of any capacity. -/
lemma Consistent.serving (h : memo.Consistent) (cc : Classifier) (request : Request) :
    Serving cc memo request (memo.serve cc request) := by
  cases request with
  | get => exact .get
  | clear => exact .clear
  | insert key d => exact .insert (h.insertion key d)
  | parse key =>
    show Serving cc memo (.parse key)
      ⟨(memo.parse cc key).memo, some (memo.parse cc key).answer, (memo.parse cc key).events⟩
    unfold Memo.parse
    cases found : memo.find? key with
    | some held => exact .hit found
    | none =>
      cases read : Descriptor.parse cc key.degroup key.input with
      | error rejection => exact .rejected found read
      | ok d => exact .parsed found read (h.insertion key d)

end Memo
end TypeShape
