import TypeShape.Proofs.PushedParameters

/-!
# The first parameter of each key is kept

Pushing keeps what is given by position and the first value of each key, in the order of the offers.
`firsts` says this of a list of offers without pushing: an offer stays unless its key is given before
it. No key is lost that way, so an offer that comes after others is refused exactly if it repeats the
key of one of them, kept or not (`offer_firsts`), and a list of offers gives `firsts` of all that was
offered (`pushAll_firsts`). What is seen of the parameters by key, by kind and by place can then
be told from the offers (`pushAll_keeps_first`).
-/

namespace TypeShape

/-- Whether the parameter has a key that one of the earlier ones has. -/
def Parameter.isRepeated (earlier : List Parameter) (parameter : Parameter) : Bool :=
  parameter.key?.any (Parameters.keys ⟨earlier⟩).contains

namespace Parameters

/-- The offers that have no key or one that no offer before them has. -/
def firsts (offers : List Parameter) : List Parameter :=
  (offers.zipIdx.filter fun (offer, index) => !offer.isRepeated (offers.take index)).map Prod.fst

/-- Values without keys and with keys, and a list that has both, each in their order. -/
inductive Interleaved : List Text → List (Text × Text) → List Parameter → Prop where
  | nil : Interleaved [] [] []
  | positional {value : Text} {values : List Text} {pairs : List (Text × Text)}
      {list : List Parameter} :
    Interleaved values pairs list →
    Interleaved (value :: values) pairs (.positional value :: list)
  | named {key value : Text} {values : List Text} {pairs : List (Text × Text)}
      {list : List Parameter} :
    Interleaved values pairs list →
    Interleaved values ((key, value) :: pairs) (.named key value :: list)

variable {parameters : Parameters} {offers earlier : List Parameter} {offer : Parameter}
  {key value : Text}

/-- The keys are those of the parameters that have one. -/
lemma mem_keys_iff : key ∈ parameters.keys ↔ ∃ value, .named key value ∈ parameters.toList := by
  simp only [keys, List.mem_filterMap]
  constructor
  · rintro ⟨parameter, mem, key_eq⟩
    cases parameter with
    | positional value => cases key_eq
    | named other value =>
      cases key_eq
      exact ⟨value, mem⟩
  · rintro ⟨value, mem⟩
    exact ⟨_, mem, rfl⟩

/-- A value is found for a key exactly if some parameter has the key. -/
lemma isSome_get? (parameters : Parameters) (key : Text) :
    (parameters.get? key).isSome = parameters.keys.contains key := by
  rw [Bool.eq_iff_iff, Option.isSome_iff_ne_none, List.contains_iff_mem, ne_eq, get?_eq_none_iff,
    not_not]

/-- So none is found exactly if no parameter has the key. -/
lemma get?_eq_none_iff_not_mem :
    parameters.get? key = none ↔ ∀ value, .named key value ∉ parameters.toList := by
  rw [get?_eq_none_iff, mem_keys_iff, not_exists]

/-- What is found in two lists is found in the first, or else in the second. -/
lemma get?_append (front back : List Parameter) (key : Text) :
    get? ⟨front ++ back⟩ key = (get? ⟨front⟩ key).or (get? ⟨back⟩ key) :=
  List.findSome?_append

/-- The value of a key is that of the first parameter with this key. -/
lemma get?_eq_some_iff :
    parameters.get? key = some value ↔
      ∃ before after, parameters.toList = before ++ .named key value :: after ∧
        ∀ other, .named key other ∉ before := by
  constructor
  · intro h
    unfold get? at h
    obtain ⟨before, parameter, after, eq, found, absent⟩ := List.findSome?_eq_some_iff.mp h
    have not_before : get? ⟨before⟩ key = none := List.findSome?_eq_none_iff.mpr absent
    cases parameter with
    | positional value => cases found
    | named other value' =>
      obtain ⟨rfl, ⟨⟩⟩ := Option.ite_none_right_eq_some.mp found
      exact ⟨before, after, eq, get?_eq_none_iff_not_mem.mp not_before⟩
  · rintro ⟨before, after, eq, absent⟩
    have not_before : get? ⟨before⟩ key = none := get?_eq_none_iff_not_mem.mpr absent
    have here : get? ⟨.named key value :: after⟩ key = some value := by simp [get?]
    have whole := get?_append before (.named key value :: after) key
    rw [← eq, not_before, here] at whole
    exact whole

/-- An offer that repeats a key does not change what is found. -/
lemma get?_concat_of_isRepeated (repeated : offer.isRepeated earlier = true) (key : Text) :
    get? ⟨earlier ++ [offer]⟩ key = get? ⟨earlier⟩ key := by
  rw [get?_append]
  cases offer with
  | positional value => exact Option.or_none
  | named other value =>
    have found : (get? ⟨earlier⟩ other).isSome = true := by
      rw [isSome_get?]
      exact repeated
    by_cases eq : other = key
    · subst eq
      obtain ⟨first, found_eq⟩ := Option.isSome_iff_exists.mp found
      rw [found_eq]
      rfl
    · have absent : get? ⟨[.named other value]⟩ key = none := by
        simp [get?, eq]
      rw [absent, Option.or_none]

/-- An offer that comes last is kept unless it repeats a key. -/
lemma firsts_concat (offers : List Parameter) (offer : Parameter) :
    firsts (offers ++ [offer]) =
      if offer.isRepeated offers then firsts offers else firsts offers ++ [offer] := by
  have before : offers.zipIdx.filter
        (fun (other, index) => !other.isRepeated ((offers ++ [offer]).take index)) =
      offers.zipIdx.filter (fun (other, index) => !other.isRepeated (offers.take index)) := by
    apply List.filter_congr
    rintro ⟨other, index⟩ mem
    have inside : index < offers.length := by simpa using List.snd_lt_of_mem_zipIdx mem
    simp only [List.take_append_of_le_length (Nat.le_of_lt inside)]
  unfold firsts
  rw [List.zipIdx_append, List.filter_append, before, List.map_append]
  cases repeated : offer.isRepeated offers <;> simp [repeated]

/-- Nothing is lost of what is found by key. -/
lemma get?_firsts (offers : List Parameter) (key : Text) :
    get? ⟨firsts offers⟩ key = get? ⟨offers⟩ key := by
  induction offers using List.reverseRecOn with
  | nil => rfl
  | append_singleton offers offer ih =>
    rw [firsts_concat]
    split
    · next repeated => rw [get?_concat_of_isRepeated repeated, ih]
    · rw [get?_append, get?_append, ih]

/-- An offer repeats a key of the ones that were taken exactly if it repeats one of all earlier
offers. -/
lemma isRepeated_firsts (earlier : List Parameter) (offer : Parameter) :
    offer.isRepeated (firsts earlier) = offer.isRepeated earlier := by
  have same : (keys ⟨firsts earlier⟩).contains = (keys ⟨earlier⟩).contains := by
    funext key
    rw [← isSome_get?, ← isSome_get?, get?_firsts]
  unfold Parameter.isRepeated
  rw [same]

/-- An offer is refused and handed back exactly if it repeats a key, and then nothing is added. -/
lemma offer_eq (parameters : Parameters) (offer : Parameter) :
    parameters.offer offer =
      if offer.isRepeated parameters.toList then (.error offer, parameters)
      else (.ok (), ⟨parameters.toList ++ [offer]⟩) := by
  have refused : (offer.key?.bind parameters.get?).isSome = offer.isRepeated parameters.toList := by
    cases offer with
    | positional value => rfl
    | named key value => exact isSome_get? parameters key
  unfold Parameters.offer
  rw [refused]

/-- One offer more is taken into account, and refused if it repeats a key of the earlier ones. -/
lemma offer_firsts (earlier : List Parameter) (offer : Parameter) :
    Parameters.offer ⟨firsts earlier⟩ offer =
      if offer.isRepeated earlier then (.error offer, ⟨firsts earlier⟩)
      else (.ok (), ⟨firsts earlier ++ [offer]⟩) := by
  rw [offer_eq, isRepeated_firsts]

/-- What the parameters are after an offer can be told from the offers. -/
lemma snd_offer_firsts (earlier : List Parameter) (offer : Parameter) :
    (Parameters.offer ⟨firsts earlier⟩ offer).2 = ⟨firsts (earlier ++ [offer])⟩ := by
  rw [offer_firsts, firsts_concat]
  split <;> rfl

/-- And so it can after all offers of a list. -/
lemma pushAll_firsts (earlier offers : List Parameter) :
    pushAll ⟨firsts earlier⟩ offers = ⟨firsts (earlier ++ offers)⟩ := by
  induction offers generalizing earlier with
  | nil => rw [List.append_nil, pushAll]
  | cons offer offers ih =>
    have next := ih (earlier ++ [offer])
    rw [List.append_assoc, List.singleton_append] at next
    rw [pushAll, snd_offer_firsts, next]

/-- A single parameter repeats nothing. -/
lemma firsts_toList (start : Option Parameter) : firsts start.toList = start.toList := by
  cases start with
  | none => rfl
  | some parameter => cases parameter <;> rfl

/-- A single parameter, or none, has no key twice. -/
lemma nodup_keys_toList (start : Option Parameter) : (keys ⟨start.toList⟩).Nodup := by
  cases start with
  | none => exact List.nodup_nil
  | some parameter =>
    cases parameter with
    | positional value => exact List.nodup_nil
    | named key value => exact List.pairwise_singleton _ key

/-- Parameters are their values without keys and with keys, interleaved. -/
lemma interleaved (parameters : Parameters) :
    Interleaved parameters.positional parameters.named parameters.toList := by
  obtain ⟨list⟩ := parameters
  induction list with
  | nil => exact .nil
  | cons parameter list ih =>
    cases parameter with
    | positional value => exact .positional ih
    | named key value => exact .named ih

/-- Interleaved lists are as long as both together. -/
lemma Interleaved.length_eq {values : List Text} {pairs : List (Text × Text)} {list : List Parameter}
    (h : Interleaved values pairs list) : values.length + pairs.length = list.length := by
  induction h with
  | nil => rfl
  | positional _ ih =>
    simp only [List.length_cons]
    omega
  | named _ ih =>
    simp only [List.length_cons]
    omega

/-- Where no key is given twice, each value is found by its key. -/
lemma get?_of_mem (distinct : parameters.keys.Nodup) (mem : .named key value ∈ parameters.toList) :
    parameters.get? key = some value := by
  obtain ⟨before, after, eq⟩ := List.mem_iff_append.mp mem
  refine get?_eq_some_iff.mpr ⟨before, after, eq, fun other earlier => ?_⟩
  have here : key ∈ keys ⟨.named key value :: after⟩ :=
    mem_keys_iff.mpr ⟨value, List.mem_cons_self⟩
  have keys_eq : parameters.keys = keys ⟨before⟩ ++ keys ⟨.named key value :: after⟩ := by
    rw [← keys_append, ← eq]
  rw [keys_eq, List.nodup_append] at distinct
  exact distinct.2.2 key (mem_keys_iff.mpr ⟨other, earlier⟩) key here rfl

/-- Where no key is given twice, all ways to look at parameters agree. -/
lemma isConsistent_of_nodup (distinct : parameters.keys.Nodup) : parameters.isConsistent = true := by
  unfold isConsistent
  rw [Bool.and_eq_true, List.all_eq_true, beq_iff_eq]
  refine ⟨?_, (interleaved parameters).length_eq⟩
  rintro ⟨parameter, index⟩ mem
  have place : parameters.getIndex? index = some parameter := List.mem_zipIdx_iff_getElem?.mp mem
  cases parameter with
  | positional value => simp [place]
  | named key value =>
    have found := get?_of_mem distinct (List.mem_of_getElem? place)
    simp [place, found]

/-- Whatever is offered, after no parameter or a single one, the first parameter of each key is kept,
with all that have no key, in the order of the offers. An offer is refused exactly if it repeats a key
that was offered before; then it is handed back and the parameters stay as they are. No key is given
twice, and the value of a key is the one that was offered first. The values by position and by key are
those of the parameters in their order, and all ways to look at the parameters agree. -/
theorem pushAll_keeps_first (start : Option Parameter) (offers : List Parameter) :
    let begun : Parameters := start.elim empty singleton
    let offered := start.toList ++ offers
    let parameters := begun.pushAll offers
    parameters.toList = firsts offered ∧
    (∀ offer,
      parameters.offer offer =
        (if offer.isRepeated offered then (.error offer, parameters)
          else (.ok (), ⟨parameters.toList ++ [offer]⟩)) ∧
      parameters.push offer =
        (if offer.isRepeated offered then .error offer
          else .ok ⟨parameters.toList ++ [offer]⟩) ∧
      begun.pushAll (offers ++ [offer]) = (parameters.offer offer).2) ∧
    (∀ value,
      parameters.offer (.positional value) =
          (.ok (), ⟨parameters.toList ++ [.positional value]⟩) ∧
        parameters.push (.positional value) = .ok ⟨parameters.toList ++ [.positional value]⟩) ∧
    parameters.keys.Nodup ∧
    (∀ key value, parameters.get? key = some value ↔
      ∃ before after, offered = before ++ .named key value :: after ∧
        ∀ other, .named key other ∉ before) ∧
    (∀ key, parameters.get? key = none ↔ ∀ value, .named key value ∉ offered) ∧
    Interleaved parameters.positional parameters.named parameters.toList ∧
    parameters.isConsistent = true := by
  intro begun offered parameters
  have begun_eq : begun = ⟨start.toList⟩ := by cases start <;> rfl
  -- it is as if the parameter at the start had been offered first
  have pushed (more : List Parameter) :
      begun.pushAll more = ⟨firsts (start.toList ++ more)⟩ := by
    have told := pushAll_firsts start.toList more
    rwa [firsts_toList, ← begun_eq] at told
  have parameters_eq : parameters = ⟨firsts offered⟩ := pushed offers
  have distinct : parameters.keys.Nodup := by
    apply nodup_keys_pushAll
    rw [begun_eq]
    exact nodup_keys_toList start
  refine ⟨congrArg toList parameters_eq, ?_, fun value => ⟨offer_positional parameters value, rfl⟩,
    distinct, ?_, ?_, interleaved parameters, isConsistent_of_nodup distinct⟩
  · intro offer
    have answered : parameters.offer offer =
        if offer.isRepeated offered then (.error offer, parameters)
        else (.ok (), ⟨parameters.toList ++ [offer]⟩) := by
      rw [parameters_eq, offer_firsts]
    refine ⟨answered, ?_, ?_⟩
    · rw [push, answered]
      cases offer.isRepeated offered <;> rfl
    · rw [pushed, parameters_eq, snd_offer_firsts, List.append_assoc]
  · intro key value
    rw [parameters_eq, get?_firsts, get?_eq_some_iff]
  · intro key
    rw [parameters_eq, get?_firsts, get?_eq_none_iff_not_mem]

end Parameters
end TypeShape
