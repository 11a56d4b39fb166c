import TypeShape.Proofs.WrittenParameters

/-!
# Pushed parameters

Parameters come about by pushing one after the other, where a parameter that is refused changes
nothing. Whatever is pushed, no key is given twice, so such parameters survive being written and read
(`read_write_pushAll`).
-/

namespace TypeShape.Parameters

/-- Offers parameters one after the other, and goes on with what the parameters are after each, whether
it was added or refused. -/
def pushAll (parameters : Parameters) : List Parameter → Parameters
  | [] => parameters
  | offer :: offers => pushAll (parameters.offer offer).2 offers

variable {parameters : Parameters} {offers : List Parameter}

/-- An offer keeps the keys apart, whether it is added or refused. -/
lemma nodup_keys_offer (distinct : parameters.keys.Nodup) (offer : Parameter) :
    (parameters.offer offer).2.keys.Nodup := by
  unfold Parameters.offer
  split
  · exact distinct
  · next free =>
    refine nodup_keys_concat_iff.mpr ⟨distinct, fun key key_eq mem => free ?_⟩
    exact isSome_bind_get?_iff.mpr ⟨key, key_eq, mem⟩

/-- So do all offers of a list. -/
lemma nodup_keys_pushAll (distinct : parameters.keys.Nodup) :
    (parameters.pushAll offers).keys.Nodup := by
  induction offers generalizing parameters with
  | nil => exact distinct
  | cons offer offers ih => exact ih (nodup_keys_offer distinct offer)

/-- Parameters with identifiers as keys are read back from their written form, whatever their values,
and that form pairs its delimiters off. -/
theorem read_write_pushAll
    (identifiers : ∀ key ∈ (empty.pushAll offers).keys, Classifier.standard.Identifier key) :
    read .standard (empty.pushAll offers).write = .ok (empty.pushAll offers) ∧
      (Scan.of (empty.pushAll offers).write).fault = none := by
  have proper : (empty.pushAll offers).Proper .standard :=
    { distinct := nodup_keys_pushAll List.nodup_nil
      proper := fun parameter mem key key_eq =>
        identifiers key (List.mem_filterMap.mpr ⟨parameter, mem, key_eq⟩) }
  have own := Classifier.standard_ownSymbols
  exact ⟨read_write own proper, Scan.fault_eq_none_iff.mpr (balanced_write own proper)⟩

/-- Values that look like keys, lists and quoted text, with a key that is refused the second time. -/
theorem read_write_pushAll_nested :
    let offers : List Parameter := [.positional [], .named ['k', '1'] " \"a\\,".toList,
      .named ['k', '1'] ['b'], .positional "k:([".toList]
    let parameters : Parameters :=
      ⟨[.positional [], .named ['k', '1'] " \"a\\,".toList, .positional "k:([".toList]⟩
    (∀ key ∈ parameters.keys, Classifier.standard.Identifier key) ∧
      empty.pushAll offers = parameters ∧
      read .standard "\"\", k1:\" \\\"a\\\\,\", \"k:([\"".toList = .ok parameters ∧
      (Scan.of "\"\", k1:\" \\\"a\\\\,\", \"k:([\"".toList).fault = none := by
  intro offers parameters
  have pushed : empty.pushAll offers = parameters := by decide
  have written : (empty.pushAll offers).write =
      "\"\", k1:\" \\\"a\\\\,\", \"k:([\"".toList := by decide +kernel
  have identifiers : ∀ key ∈ parameters.keys, Classifier.standard.Identifier key := by
    intro key mem
    have eq : ['k', '1'] = key := by simpa [keys, parameters, Parameter.key?] using mem
    rw [← eq]
    exact ⟨'k', ['1'], rfl, rfl, Text.forall_of_all (by decide)⟩
  obtain ⟨read_back, balanced⟩ := read_write_pushAll (pushed ▸ identifiers)
  rw [written] at read_back balanced
  exact ⟨identifiers, pushed, pushed ▸ read_back, balanced⟩

end TypeShape.Parameters
