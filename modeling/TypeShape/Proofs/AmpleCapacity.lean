import TypeShape.Proofs.EventLog
import TypeShape.Proofs.FirstInFirstOut

/-!
# A capacity that is never reached

A memo with room for every key that is stored between two clears behaves like one without a capacity.
The two differ in the order of arrivals only, which a memo without a capacity does not keep:
`unbound` takes it away, and with it every request does the same (`serve_unbound`) as long as the memo
without a capacity does not outgrow the other. How far it grows can be told from the keys that its
events store (`size_le_card_cachedKeys`).
-/

namespace TypeShape

namespace Event

/-- The keys that events store. -/
def cachedKeys (events : List Event) : Finset Key :=
  ((events.filter isCached).map key).toFinset

variable {events : List Event} {key : Key}

/-- The keys that events store are those with an event of storing them. -/
lemma mem_cachedKeys_iff : key ∈ cachedKeys events ↔ .cached key ∈ events := by
  simp only [cachedKeys, List.mem_toFinset, List.mem_map, List.mem_filter]
  constructor
  · rintro ⟨event, ⟨mem, stores⟩, rfl⟩
    cases event with
    | cached key => exact mem
    | _ => cases stores
  · intro mem
    exact ⟨.cached key, ⟨mem, rfl⟩, rfl⟩

/-- Keys that are left were stored. -/
lemma replayed_subset_cachedKeys (events : List Event) : replayed events ⊆ cachedKeys events := by
  induction events using List.reverseRecOn with
  | nil => exact Finset.Subset.refl ∅
  | append_singleton past event ih =>
    have stays : ∀ key ∈ replayed past, .cached key ∈ past ++ [event] := fun key mem =>
      List.mem_append_left [event] (mem_cachedKeys_iff.mp (ih mem))
    intro other mem
    rw [replayed_snoc] at mem
    rw [mem_cachedKeys_iff]
    cases event with
    | cached key =>
      rcases Finset.mem_insert.mp mem with rfl | mem
      · simp
      · exact stays other mem
    | evicted key => exact stays other (Finset.mem_of_mem_erase mem)
    | hit _ => exact stays other mem
    | miss _ => exact stays other mem
    | rejected _ _ => exact stays other mem

end Event

open Event

/-- What a caller can tell of a request that was served: the answer with its instance, the number of
keys that are held then, and the events. -/
def Served.seen {α : Type} (served : Served α) : α × Nat × List Event :=
  (served.answer, served.memo.size, served.events)

namespace Memo

/-- The memo without its capacity and without the order of arrivals. -/
def unbound (memo : Memo) : Memo :=
  { memo with capacity := none, arrivals := [] }

end Memo

/-- The same answer and events, of a memo without a capacity. -/
def Served.unbound {α : Type} (served : Served α) : Served α :=
  { served with memo := served.memo.unbound }

namespace Memo

variable {cc : Classifier} {memo : Memo} {capacity : Nat} {key : Key} {d : Descriptor}
  {request : Request}

/-- What is found does not depend on the capacity. -/
@[simp] lemma find?_unbound (memo : Memo) (key : Key) : memo.unbound.find? key = memo.find? key := rfl

/-- Nor does the number of keys. -/
@[simp] lemma size_unbound (memo : Memo) : memo.unbound.size = memo.size := rfl

/-- Nor does what a caller can tell. -/
@[simp] lemma seen_unbound {α : Type} (served : Served α) : served.unbound.seen = served.seen := rfl

/-- Storing a key does the same without a capacity, the order apart. -/
lemma store_unbound (memo : Memo) (key : Key) (d : Descriptor) :
    memo.unbound.store key d = (memo.store key d).unbound := by
  obtain ⟨input, degroup⟩ := key
  cases degroup <;> rfl

/-- Without a capacity there is always room. -/
lemma insert_unbound_of_absent (absent : memo.find? key = none) :
    memo.unbound.insert key d = ⟨memo.unbound.store key d, memo.next d, [.cached key]⟩ := by
  have absent_too : memo.unbound.find? key = none := absent
  unfold Memo.insert
  simp only [absent_too]
  rfl

section

variable (h : memo.Bounded capacity) (positive : 0 < capacity)
include h positive

/-- A bounded memo stores a key as an unbounded one does, if that one does not outgrow it. -/
lemma insert_unbound (fits : (memo.unbound.insert key d).memo.size ≤ capacity) :
    memo.unbound.insert key d = (memo.insert key d).unbound := by
  have inserted := h.inserted positive key d
  generalize memo.insert key d = served at inserted ⊢
  cases inserted with
  | held found =>
    have never_disabled : memo.unbound.capacity ≠ some 0 := fun disabled => by cases disabled
    exact insert_of_held never_disabled found
  | room absent _ =>
    rw [insert_unbound_of_absent absent, store_unbound]
    rfl
  | full absent full _ =>
    rw [insert_unbound_of_absent absent, store_unbound, size_unbound, size_store absent] at fits
    omega

/-- A bounded memo answers a key as an unbounded one does, if that one does not outgrow it. -/
lemma parse_unbound (fits : (memo.unbound.parse cc key).memo.size ≤ capacity) :
    memo.unbound.parse cc key = (memo.parse cc key).unbound := by
  cases found : memo.find? key with
  | some held =>
    rw [parse_of_held found, parse_of_held ((find?_unbound memo key).trans found)]
    rfl
  | none =>
    cases read : Descriptor.parse cc key.degroup key.input with
    | error rejection =>
      rw [parse_of_rejected found read, parse_of_rejected ((find?_unbound memo key).trans found) read]
      rfl
    | ok d =>
      have absent : memo.unbound.find? key = none := found
      rw [parse_of_none absent read] at fits ⊢
      rw [parse_of_none found read, insert_unbound h positive fits]
      rfl

/-- A bounded memo serves a request as an unbounded one does, if that one does not outgrow it. -/
lemma serve_unbound (fits : (memo.unbound.serve cc request).memo.size ≤ capacity) :
    memo.unbound.serve cc request = (memo.serve cc request).unbound := by
  cases request with
  | get key => rfl
  | clear => rfl
  | insert key d =>
    rw [serve, serve, insert_unbound h positive fits]
    rfl
  | parse key =>
    rw [serve, serve, parse_unbound h positive fits]
    rfl

/-- So do all requests of a run, one after the other. -/
lemma serveAll_unbound {requests : List Request}
    (fits : ∀ n, (memo.unbound.run cc (requests.take n)).size ≤ capacity) :
    serveAll cc memo.unbound requests = (serveAll cc memo requests).map Served.unbound := by
  induction requests generalizing memo with
  | nil => rfl
  | cons request requests ih =>
    have served := serve_unbound h positive (fits 1)
    have bounded := h.serve positive cc request
    have later : ∀ n, ((memo.serve cc request).memo.unbound.run cc (requests.take n)).size ≤
        capacity := by
      intro n
      have fits_next := fits (n + 1)
      rw [List.take_succ_cons, run, List.foldl_cons, served] at fits_next
      exact fits_next
    rw [serveAll, serveAll, List.map_cons, served]
    exact congrArg _ (ih bounded later)

end

/-- What a memo without a capacity holds was stored since the last clear. -/
lemma size_le_card_cachedKeys (cc : Classifier) (requests : List Request) :
    ((new none).run cc requests).size ≤ (cachedKeys ((new none).log cc [] requests)).card := by
  have empty := Consistent.empty none 0
  have record : Record ((new none).run cc requests) ((new none).log cc [] requests) :=
    (record_clear (new none)).run empty cc requests
  rw [record.size_eq]
  exact Finset.card_le_card (replayed_subset_cachedKeys _)

/-- Storing a key drops no other without a capacity. -/
lemma Insertion.not_evicted {served : Served Instance} (h : Insertion memo key d served)
    (unbounded : memo.capacity = none) (other : Key) : .evicted other ∉ served.events := by
  cases h with
  | held _ => simp
  | disabled _ _ => simp
  | stored grown =>
    cases grown.dropped_eq_none unbounded
    simp

/-- Nothing goes without a capacity. -/
lemma Serving.not_evicted {served : Served (Option (Except Rejection Instance))}
    (h : Serving cc memo request served) (unbounded : memo.capacity = none) (other : Key) :
    .evicted other ∉ served.events := by
  cases h with
  | hit _ => simp
  | rejected _ _ => simp
  | parsed _ _ insertion => simpa using insertion.not_evicted unbounded other
  | get => simp
  | insert insertion => exact insertion.not_evicted unbounded other
  | clear => simp

/-- Nothing goes in a whole run without a capacity. -/
lemma not_evicted_of_mem_serveAll (consistent : memo.Consistent) (unbounded : memo.capacity = none)
    {requests : List Request} {served : Served (Option (Except Rejection Instance))}
    (mem : served ∈ serveAll cc memo requests) (other : Key) : .evicted other ∉ served.events := by
  induction requests generalizing memo with
  | nil => cases mem
  | cons request requests ih =>
    rcases List.mem_cons.mp mem with rfl | mem
    · exact (consistent.serving cc request).not_evicted unbounded other
    · exact ih (consistent.serve cc request) ((capacity_serve cc memo request).trans unbounded) mem

/-- Only the key that is to be stored is. -/
lemma Insertion.eq_of_cached {served : Served Instance} (h : Insertion memo key d served)
    {other : Key} (mem : .cached other ∈ served.events) : other = key := by
  cases h with
  | held _ => simp at mem
  | disabled _ _ => simp at mem
  | stored _ => simpa using mem

/-- Only what a request has a descriptor for is stored. -/
lemma Serving.offers {served : Served (Option (Except Rejection Instance))}
    (h : Serving cc memo request served) (mem : .cached key ∈ served.events) :
    ∃ d, request.offer? cc = some (key, d) := by
  cases h with
  | hit _ => simp at mem
  | rejected _ _ => simp at mem
  | @parsed asked d _ _ read insertion =>
    cases insertion.eq_of_cached ((List.mem_cons.mp mem).resolve_left nofun)
    exact ⟨d, by simp only [Request.offer?, read]⟩
  | get => simp at mem
  | @insert asked d _ insertion =>
    cases insertion.eq_of_cached mem
    exact ⟨d, rfl⟩
  | clear => simp at mem

/-- What is stored in a run can be bounded without a memo, by what its requests have descriptors for. -/
lemma cachedKeys_log_subset {keys : Finset Key} {requests : List Request} {past : List Event}
    (consistent : memo.Consistent)
    (offers : ∀ request ∈ requests, ∀ entry ∈ request.offer? cc, entry.1 ∈ keys)
    (within : cachedKeys past ⊆ keys) : cachedKeys (memo.log cc past requests) ⊆ keys := by
  induction requests generalizing memo past with
  | nil => exact within
  | cons request requests ih =>
    have serving := consistent.serving cc request
    refine ih (consistent.serve cc request)
      (fun other mem => offers other (List.mem_cons_of_mem request mem)) ?_
    intro key mem
    rw [mem_cachedKeys_iff] at mem
    have past_or_now : .cached key ∈ past ∨ .cached key ∈ (memo.serve cc request).events := by
      cases request with
      | clear => cases mem
      | _ => exact List.mem_append.mp mem
    rcases past_or_now with before | now
    · exact within (mem_cachedKeys_iff.mpr before)
    · obtain ⟨d, offered⟩ := serving.offers now
      exact offers request List.mem_cons_self (key, d) offered

/-- A memo whose capacity is never exceeded by the keys that a memo without one stores between two
clears cannot be told from that one: request by request the answers are the same, with the same
instances, as many keys are held, and the events are the same, and no key is ever dropped. -/
theorem serveAll_ample {capacity : Nat} (positive : 0 < capacity) (cc : Classifier)
    (requests : List Request)
    (ample : ∀ n, (cachedKeys ((new none).log cc [] (requests.take n))).card ≤ capacity) :
    (serveAll cc (new (some capacity)) requests).map Served.seen =
      (serveAll cc (new none) requests).map Served.seen ∧
    ∀ served ∈ serveAll cc (new (some capacity)) requests, ∀ key, .evicted key ∉ served.events := by
  have same : serveAll cc (new none) requests =
      (serveAll cc (new (some capacity)) requests).map Served.unbound := by
    apply serveAll_unbound (Bounded.empty capacity 0) positive
    intro n
    exact (size_le_card_cachedKeys cc (requests.take n)).trans (ample n)
  constructor
  · rw [same, List.map_map]
    rfl
  · intro served mem key
    have mem_unbounded : served.unbound ∈ serveAll cc (new none) requests := by
      rw [same]
      exact List.mem_map_of_mem mem
    exact not_evicted_of_mem_serveAll (Consistent.empty none 0) rfl mem_unbounded key

/-- Both readings of a text fill the capacity, before a clear and after it. An instance is handed out
again as long as its key is held, and at the end both keys are. -/
theorem serveAll_ample_two :
    let kept : Key := ⟨"(a)".toList, false⟩
    let unwrapped : Key := ⟨"(a)".toList, true⟩
    let refused : Key := ⟨[';'], false⟩
    let requests : List Request := [.parse kept, .parse unwrapped, .parse refused,
      .get kept, .clear, .insert unwrapped (.group ['b']), .parse kept, .parse unwrapped]
    let memo := (new (some 2)).run .standard requests
    (∀ n, (cachedKeys ((new none).log .standard [] (requests.take n))).card ≤ 2) ∧
      (serveAll .standard (new (some 2)) requests).map Served.seen =
        (serveAll .standard (new none) requests).map Served.seen ∧
      (serveAll .standard (new (some 2)) requests).map Served.seen =
        [(some (.ok ⟨0, .group ['a']⟩), 1, [.miss kept, .cached kept]),
          (some (.ok ⟨1, .generic [] ['a'] [] .empty⟩), 2, [.miss unwrapped, .cached unwrapped]),
          (some (.error ⟨[';'], .unexpected ';'⟩), 2,
            [.miss refused, .rejected refused (.unexpected ';')]),
          (some (.ok ⟨0, .group ['a']⟩), 2, []),
          (none, 0, []),
          (some (.ok ⟨2, .group ['b']⟩), 1, [.cached unwrapped]),
          (some (.ok ⟨3, .group ['a']⟩), 2, [.miss kept, .cached kept]),
          (some (.ok ⟨2, .group ['b']⟩), 2, [.hit unwrapped])] ∧
      memo.arrivals = [unwrapped, kept] ∧ memo.find? kept = some ⟨3, .group ['a']⟩ ∧
      memo.find? unwrapped = some ⟨2, .group ['b']⟩ := by
  intro kept unwrapped refused requests memo
  have offers : ∀ request ∈ requests, ∀ entry ∈ request.offer? .standard,
      entry.1 ∈ ({kept, unwrapped} : Finset Key) := by
    decide +kernel
  have ample : ∀ n, (cachedKeys ((new none).log .standard [] (requests.take n))).card ≤ 2 := by
    intro n
    have subset : cachedKeys ((new none).log .standard [] (requests.take n)) ⊆ {kept, unwrapped} := by
      apply cachedKeys_log_subset (Consistent.empty none 0) _ (Finset.empty_subset _)
      exact fun request mem => offers request (List.mem_of_mem_take mem)
    exact (Finset.card_le_card subset).trans Finset.card_le_two
  refine ⟨ample, (serveAll_ample (by decide) .standard requests ample).1, ?_⟩
  have differ : unwrapped ≠ kept := by decide
  have kept_read : Descriptor.parse .standard kept.degroup kept.input = .ok (.group ['a']) := by
    decide +kernel
  have unwrapped_read : Descriptor.parse .standard unwrapped.degroup unwrapped.input =
      .ok (.generic [] ['a'] [] .empty) := by
    decide +kernel
  have refused_read : Descriptor.parse .standard refused.degroup refused.input =
      .error ⟨[';'], .unexpected ';'⟩ := by
    decide +kernel
  -- the memo after each request that stores a key
  let first := (new (some 2)).store kept (.group ['a'])
  let second := first.store unwrapped (.generic [] ['a'] [] .empty)
  let third := second.clear.store unwrapped (.group ['b'])
  let last := third.store kept (.group ['a'])
  -- which keys are held at each time
  have new_kept := find?_new (some 2) kept
  have first_unwrapped : first.find? unwrapped = none := by
    rw [find?_store, if_neg differ.symm, find?_new]
  have second_refused : second.find? refused = none := by
    rw [find?_store, if_neg (by decide), find?_store, if_neg (by decide), find?_new]
  have second_kept : second.find? kept = some ⟨0, .group ['a']⟩ := by
    rw [find?_store, if_neg differ, find?_store, if_pos rfl]
    rfl
  have clear_unwrapped := find?_clear second unwrapped
  have third_kept : third.find? kept = none := by
    rw [find?_store, if_neg differ, find?_clear]
  have last_kept : last.find? kept = some ⟨3, .group ['a']⟩ := by
    rw [find?_store, if_pos rfl]
    rfl
  have last_unwrapped : last.find? unwrapped = some ⟨2, .group ['b']⟩ := by
    rw [find?_store, if_neg differ.symm, find?_store, if_pos rfl]
    rfl
  have first_size : first.size = 1 := size_store new_kept
  have second_size : second.size = 2 := by rw [size_store first_unwrapped, first_size]
  have third_size : third.size = 1 := size_store clear_unwrapped
  have last_size : last.size = 2 := by rw [size_store third_kept, third_size]
  -- what is answered at each time
  have first_eq : (new (some 2)).parse .standard kept =
      ⟨first, .ok ⟨0, .group ['a']⟩, [.miss kept, .cached kept]⟩ := by
    rw [parse_of_none new_kept kept_read, insert_of_room rfl new_kept (by decide)]
    rfl
  have second_eq : first.parse .standard unwrapped =
      ⟨second, .ok ⟨1, .generic [] ['a'] [] .empty⟩, [.miss unwrapped, .cached unwrapped]⟩ := by
    rw [parse_of_none first_unwrapped unwrapped_read,
      insert_of_room rfl first_unwrapped (Nat.lt_succ_self 1)]
    rfl
  have third_eq : second.clear.insert unwrapped (.group ['b']) =
      ⟨third, ⟨2, .group ['b']⟩, [.cached unwrapped]⟩ :=
    insert_of_room rfl clear_unwrapped (by decide)
  have last_eq : third.parse .standard kept =
      ⟨last, .ok ⟨3, .group ['a']⟩, [.miss kept, .cached kept]⟩ := by
    rw [parse_of_none third_kept kept_read, insert_of_room rfl third_kept (Nat.lt_succ_self 1)]
    rfl
  have served_refused := parse_of_rejected second_refused refused_read
  have served_last : last.parse .standard unwrapped =
      ⟨last, .ok ⟨2, .group ['b']⟩, [.hit unwrapped]⟩ :=
    parse_of_held last_unwrapped
  have memo_eq : memo = last := by
    simp only [memo, requests, run, List.foldl, serve, first_eq, second_eq, third_eq, last_eq,
      served_refused, served_last]
  refine ⟨?_, by rw [memo_eq]; rfl, by rw [memo_eq, last_kept], by rw [memo_eq, last_unwrapped]⟩
  simp only [requests, serveAll, serve, Served.seen, List.map, Option.map, first_eq, second_eq,
    third_eq, last_eq, served_refused, served_last, second_kept, first_size, second_size, third_size,
    last_size]
  rfl

end Memo
end TypeShape
