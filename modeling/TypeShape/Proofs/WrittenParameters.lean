import TypeShape.Proofs.OwnSymbols
import TypeShape.Proofs.QuotedValues

/-!
# Written parameters are read back

Parameters whose keys are identifiers, each given once, are found again in their written form,
whatever their values (`read_write`). Their written form is balanced, and what is read from any text
has such keys (`proper_of_read`).
-/

namespace TypeShape

/-- A segment of a name, or a parameter key. -/
def Classifier.Identifier (cc : Classifier) (text : Text) : Prop :=
  ∃ first rest, text = first :: rest ∧ cc .nameStart first = true ∧
    ∀ c ∈ rest, cc .nameChar c = true

/-- The key of a parameter, if it has one, is an identifier. -/
def Parameter.Proper (cc : Classifier) (parameter : Parameter) : Prop :=
  ∀ key, parameter.key? = some key → cc.Identifier key

namespace Parameters

/-- The keys of the named parameters, in order. -/
def keys (parameters : Parameters) : List Text :=
  parameters.toList.filterMap Parameter.key?

/-- Every key is an identifier and is given once. -/
structure Proper (cc : Classifier) (parameters : Parameters) : Prop where
  distinct : parameters.keys.Nodup
  proper : ∀ parameter ∈ parameters.toList, parameter.Proper cc

variable {cc : Classifier}

/-- A key that is not given has no value. -/
lemma get?_eq_none_iff {parameters : Parameters} {key : Text} :
    parameters.get? key = none ↔ key ∉ parameters.keys := by
  unfold get? keys
  rw [List.findSome?_eq_none_iff]
  simp only [List.mem_filterMap, not_exists, not_and]
  refine forall₂_congr fun parameter _ => ?_
  cases parameter with
  | positional value => simp [Parameter.key?]
  | named other value => simp [Parameter.key?]

/-- A parameter is refused exactly if its key is given already. -/
lemma isSome_bind_get?_iff {parameters : Parameters} {parameter : Parameter} :
    (parameter.key?.bind parameters.get?).isSome = true ↔
      ∃ key, parameter.key? = some key ∧ key ∈ parameters.keys := by
  rw [Option.isSome_iff_ne_none, ne_eq, Option.bind_eq_none_iff]
  simp only [get?_eq_none_iff, not_forall, not_not, exists_prop]

/-- A parameter is added unless its key is given already. -/
lemma push_eq_ok_iff {parameters parameters' : Parameters} {parameter : Parameter} :
    parameters.push parameter = .ok parameters' ↔
      (∀ key, parameter.key? = some key → key ∉ parameters.keys) ∧
        parameters' = ⟨parameters.toList ++ [parameter]⟩ := by
  unfold push offer
  by_cases taken : (parameter.key?.bind parameters.get?).isSome = true
  · obtain ⟨key, key_eq, mem⟩ := isSome_bind_get?_iff.mp taken
    rw [if_pos taken]
    exact iff_of_false nofun fun ⟨fresh, _⟩ => fresh key key_eq mem
  · have fresh : ∀ key, parameter.key? = some key → key ∉ parameters.keys :=
      fun key key_eq mem => taken (isSome_bind_get?_iff.mpr ⟨key, key_eq, mem⟩)
    rw [if_neg taken, and_iff_right fresh, Except.ok.injEq, eq_comm]

/-- The keys of two lists are those of the first and then those of the second. -/
lemma keys_append (front back : List Parameter) :
    keys ⟨front ++ back⟩ = keys ⟨front⟩ ++ keys ⟨back⟩ :=
  List.filterMap_append

/-- Keys stay apart exactly if the key of a parameter that is added is not given before it. -/
lemma nodup_keys_concat_iff {parameters : Parameters} {parameter : Parameter} :
    (keys ⟨parameters.toList ++ [parameter]⟩).Nodup ↔
      parameters.keys.Nodup ∧ ∀ key, parameter.key? = some key → key ∉ parameters.keys := by
  have last : keys ⟨[parameter]⟩ = parameter.key?.toList := by
    cases key_eq : parameter.key? <;> simp [keys, key_eq]
  rw [keys_append, last]
  cases parameter.key? with
  | none => simp
  | some key =>
    have apart : (parameters.keys ++ [key]).Nodup ↔ parameters.keys.Nodup ∧ key ∉ parameters.keys := by
      rw [List.perm_append_comm.nodup_iff, List.singleton_append, List.nodup_cons, and_comm]
    simpa using apart

/-- The characters of a bare value. -/
lemma mem_of_isBare {value : Text} {c : Char} (bare : isBare value = true) (mem : c ∈ value) :
    33 ≤ c.toNat ∧ c.toNat ≤ 126 ∧ c ∉ Classifier.punctuation := by
  simp only [isBare, Bool.and_eq_true, List.all_eq_true, Bool.or_eq_true] at bare
  rcases bare.2 c mem with alphanum | other
  · have range := toNat_of_isAlphanum alphanum
    refine ⟨by omega, by omega, ?_⟩
    intro punct
    have none : ∀ c ∈ Classifier.punctuation, c.isAlphanum = false :=
      Text.forall_of_all (by decide)
    rw [none c punct] at alphanum
    cases alphanum
  · have all : ∀ c ∈ ['_', '.', '-', '+'],
        33 ≤ c.toNat ∧ c.toNat ≤ 126 ∧ c ∉ Classifier.punctuation :=
      Text.forall_of_all (by decide)
    exact all c (List.contains_iff_mem.mp other)

/-- A bare value has no punctuation. -/
lemma not_mem_of_isBare {value : Text} {c : Char} (bare : isBare value = true)
    (punct : c ∈ Classifier.punctuation) : c ∉ value :=
  fun mem => (mem_of_isBare bare mem).2.2 punct

/-- A written value has no comma outside of quotation marks. -/
lemma outer_writeValue (value : Text) : Outer (· ≠ ',') (writeValue value) := by
  unfold writeValue
  split
  · next bare =>
    apply Outer.of_plain
    intro c mem
    have no_punct := (mem_of_isBare bare mem).2.2
    refine ⟨Classifier.plain_of_not_punctuation no_punct, ?_⟩
    rintro rfl
    exact no_punct (by decide)
  · exact .quoted (Quoted.means_escaped value).run (by decide)

/-- Every value is written with some character. -/
lemma writeValue_ne_nil (value : Text) : writeValue value ≠ [] := by
  unfold writeValue
  split
  · next bare =>
    rintro rfl
    cases bare
  · exact List.cons_ne_nil _ _

/-- A written value is trimmed. -/
lemma trimmed_writeValue (value : Text) : Text.Trimmed Text.isBlank (writeValue value) := by
  unfold writeValue
  split
  · next bare =>
    apply Text.trimmed_of_not_blank
    intro c mem
    obtain ⟨low, high, _⟩ := mem_of_isBare bare mem
    exact Text.isBlank_eq_false low high
  · exact .wrap _ rfl rfl

/-- A written value is read as the value. -/
lemma readValue_writeValue (cc : Classifier) (value : Text) :
    readValue cc (writeValue value) = .ok value := by
  unfold writeValue
  split
  · next bare =>
    cases value with
    | nil => cases bare
    | cons c rest =>
      have ne : c ≠ Quoted.mark := by
        rintro rfl
        have absent : Quoted.mark ∉ Quoted.mark :: rest := not_mem_of_isBare bare (by decide)
        exact absent (by simp)
      unfold readValue
      simp only [ne, if_false]
  · have found := (Quoted.means_escaped value).read_append []
    unfold readValue Quoted.write
    simp only [List.cons_append, if_true, found]
    rfl

/-- A written value does not begin with a key. -/
lemma splitKey_writeValue (own : cc.OwnSymbols) (value : Text) :
    splitKey cc (writeValue value) = none := by
  unfold writeValue
  split
  · next bare =>
    cases value with
    | nil => cases bare
    | cons first rest =>
      unfold splitKey
      simp only
      split
      · split
        · next colon =>
          -- a colon after the first identifier would be a character of the bare value
          have inTrim : ':' ∈ cc.trim (rest.dropWhile (cc .nameChar)) := by simp [colon]
          have mem := (List.dropWhile_sublist _).subset (Text.mem_of_mem_trim inTrim)
          have absent : ':' ∉ first :: rest := not_mem_of_isBare bare (by decide)
          exact absurd (List.mem_cons_of_mem first mem) absent
        · rfl
      · rfl
  · unfold splitKey Quoted.write
    simp only [List.cons_append]
    have not_start : cc .nameStart Quoted.mark = false := own.eq_false (by decide)
    simp [not_start]

/-- An identifier, a colon and a value are taken apart again. -/
lemma splitKey_append (own : cc.OwnSymbols) {key : Text} (identifier : cc.Identifier key)
    (value : Text) :
    splitKey cc (key ++ ':' :: writeValue value) = some (key, writeValue value) := by
  obtain ⟨first, rest, rfl, start, chars⟩ := identifier
  have not_char : cc .nameChar ':' = false := own.eq_false (by decide)
  have stays : cc.trim (':' :: writeValue value) = ':' :: writeValue value := by
    rw [own.trim_eq]
    apply Text.Trimmed.trim_eq
    constructor
    · rintro c ⟨⟩
      rfl
    · intro c final
      apply (trimmed_writeValue value).last c
      rw [← List.singleton_append,
        List.getLast?_append_of_ne_nil _ (writeValue_ne_nil value)] at final
      exact final
  unfold splitKey
  simp only [List.cons_append, start, if_true]
  rw [List.dropWhile_append_of_pos chars, List.dropWhile_cons_of_neg (by simp [not_char]),
    List.takeWhile_append_of_pos chars, List.takeWhile_cons_of_neg (by simp [not_char]), stays,
    List.append_nil]
  rfl

/-- A written parameter is read as the parameter. -/
lemma readItem_writeItem (own : cc.OwnSymbols) {parameter : Parameter}
    (proper : parameter.Proper cc) :
    readItem cc (writeItem parameter) = .ok parameter := by
  cases parameter with
  | positional value =>
    unfold readItem writeItem
    rw [splitKey_writeValue own, readValue_writeValue]
    rfl
  | named key value =>
    have stays : cc.trim (writeValue value) = writeValue value := by
      rw [own.trim_eq]
      exact (trimmed_writeValue value).trim_eq
    unfold readItem writeItem
    rw [splitKey_append own (proper key rfl)]
    simp only [stays, List.isEmpty_iff, writeValue_ne_nil, if_false, readValue_writeValue]
    rfl

/-- An identifier is made of characters of words. -/
lemma identifier_chars (own : cc.OwnSymbols) {key : Text} (identifier : cc.Identifier key) :
    ∀ c ∈ key, cc .nameChar c = true := by
  obtain ⟨first, rest, rfl, start, chars⟩ := identifier
  intro c mem
  rcases List.mem_cons.mp mem with rfl | mem
  · exact own.nameChar_of_nameStart start
  · exact chars c mem

/-- A written parameter has no comma outside of quotation marks. -/
lemma outer_writeItem (own : cc.OwnSymbols) {parameter : Parameter}
    (proper : parameter.Proper cc) :
    Outer (· ≠ ',') (writeItem parameter) := by
  cases parameter with
  | positional value => exact outer_writeValue value
  | named key value =>
    have front : Outer (· ≠ ',') (key ++ [':']) := by
      apply Outer.of_plain
      intro c mem
      rcases List.mem_append.mp mem with mem | mem
      · have accepts := identifier_chars own (proper key rfl) c mem
        refine ⟨own.plain accepts, ?_⟩
        rintro rfl
        exact own.not_punctuation accepts (by decide)
      · rw [List.mem_singleton.mp mem]
        decide
    have whole := front.append (outer_writeValue value)
    rw [List.append_assoc] at whole
    exact whole

/-- A written parameter is trimmed. -/
lemma trimmed_writeItem (own : cc.OwnSymbols) {parameter : Parameter}
    (proper : parameter.Proper cc) :
    Text.Trimmed Text.isBlank (writeItem parameter) ∧ writeItem parameter ≠ [] := by
  cases parameter with
  | positional value => exact ⟨trimmed_writeValue value, writeValue_ne_nil value⟩
  | named key value =>
    have identifier := proper key rfl
    have ne : key ≠ [] := by
      obtain ⟨first, rest, rfl, _⟩ := identifier
      simp
    have trimmed_key : Text.Trimmed Text.isBlank key := by
      apply Text.trimmed_of_not_blank
      intro c mem
      exact own.not_blank (identifier_chars own identifier c mem) (by simp)
    have whole := trimmed_key.around ne (trimmed_writeValue value) (writeValue_ne_nil value) [':']
    rw [List.append_assoc] at whole
    refine ⟨whole, ?_⟩
    unfold writeItem
    simp

/-- Parameters whose keys are not given yet are all added. -/
lemma readItems_writeItem (own : cc.OwnSymbols) (parameters : Parameters) {more : List Parameter}
    {items : List Text} (trims : items.map cc.trim = more.map writeItem)
    (distinct : (⟨parameters.toList ++ more⟩ : Parameters).keys.Nodup)
    (proper : ∀ parameter ∈ more, parameter.Proper cc) :
    readItems cc parameters items = .ok ⟨parameters.toList ++ more⟩ := by
  induction more generalizing parameters items with
  | nil =>
    cases List.map_eq_nil_iff.mp trims
    simp [readItems]
  | cons parameter more ih =>
    obtain ⟨item, items, rfl, trim_eq, trims⟩ := List.map_eq_cons_iff.mp trims
    have is_proper := proper parameter (by simp)
    have whole : parameters.toList ++ parameter :: more =
        parameters.toList ++ [parameter] ++ more := by simp
    have front : (keys ⟨parameters.toList ++ [parameter]⟩).Nodup := by
      rw [whole, keys_append] at distinct
      exact (List.nodup_append.mp distinct).1
    have fresh : parameters.push parameter = .ok ⟨parameters.toList ++ [parameter]⟩ :=
      push_eq_ok_iff.mpr ⟨(nodup_keys_concat_iff.mp front).2, rfl⟩
    have rest := ih ⟨parameters.toList ++ [parameter]⟩ trims (by simpa using distinct)
      fun other mem => proper other (by simp [mem])
    unfold readItems
    rw [trim_eq, readItem_writeItem own is_proper]
    simp only [List.isEmpty_iff, (trimmed_writeItem own is_proper).2, if_false, fresh, rest]
    simp

/-- The commas between written parameters are the only ones outside of quotation marks. -/
lemma segments_write (own : cc.OwnSymbols) {first : Parameter} {rest : List Parameter}
    (proper : ∀ parameter ∈ first :: rest, parameter.Proper cc) :
    Segments ',' (write ⟨first :: rest⟩)
      (writeItem first :: rest.map fun parameter => ' ' :: writeItem parameter) := by
  have free := outer_writeItem own (proper first (by simp))
  induction rest generalizing first with
  | nil => exact .singleton free
  | cons second rest ih =>
    have others := ih (fun other mem => proper other (by simp [mem]))
      (outer_writeItem own (proper second (by simp)))
    -- the blank after a comma belongs to the next segment
    have blank : Outer (· ≠ ',') [' '] := .of_plain (Text.forall_of_all (by decide))
    have whole := Segments.cons free (others.prepend blank)
    simpa [write, Text.join_cons] using whole

/-- Written parameters are read back. -/
theorem read_write (own : cc.OwnSymbols) {parameters : Parameters} (proper : parameters.Proper cc) :
    read cc parameters.write = .ok parameters := by
  obtain ⟨items⟩ := parameters
  cases items with
  | nil => rfl
  | cons first rest =>
    have segments := segments_write own proper.proper
    have split := (Scan.splitTop_eq_ok_iff_segments rfl).mpr segments
    -- the first parameter is not written with whitespace alone
    have not_blank : cc.trim (write ⟨first :: rest⟩) ≠ [] := by
      obtain ⟨trimmed, ne⟩ := trimmed_writeItem own (proper.proper first (by simp))
      obtain ⟨c, more, eq⟩ := List.exists_cons_of_ne_nil ne
      intro blank
      rw [own.trim_eq] at blank
      have mem : c ∈ write ⟨first :: rest⟩ := by
        rw [← segments.join_eq, eq]
        cases rest <;> simp [Text.join]
      have is_blank := Text.trim_eq_nil_iff.mp blank c mem
      rw [trimmed.head c (by rw [eq]; rfl)] at is_blank
      cases is_blank
    -- and the blank after each comma is trimmed off
    have trims : (writeItem first :: rest.map fun parameter => ' ' :: writeItem parameter).map
        cc.trim = (first :: rest).map writeItem := by
      rw [List.map_cons, List.map_cons, List.map_map, own.trim_eq,
        (trimmed_writeItem own (proper.proper first (by simp))).1.trim_eq]
      refine congrArg _ (List.map_congr_left fun other mem => ?_)
      have trimmed := (trimmed_writeItem own (proper.proper other (by simp [mem]))).1
      have blank : Text.Blank Text.isBlank [' '] := by
        rintro c (_ | ⟨_, ⟨⟩⟩)
        rfl
      have found := Text.trim_append trimmed blank (show Text.Blank Text.isBlank [] from nofun)
      simpa using found
    unfold read
    rw [if_neg (by simpa using not_blank), split]
    exact readItems_writeItem own empty trims proper.distinct proper.proper

/-- Written parameters are balanced. -/
lemma balanced_write (own : cc.OwnSymbols) {parameters : Parameters}
    (proper : parameters.Proper cc) : Balanced parameters.write := by
  obtain ⟨items⟩ := parameters
  cases items with
  | nil => exact ⟨_, .nil⟩
  | cons first rest =>
    have segments := segments_write own proper.proper
    have split := (Scan.splitTop_eq_ok_iff_segments rfl).mpr segments
    obtain ⟨found, scanned, _⟩ := Scan.splitTop_eq_ok_iff.mp split
    exact ⟨found, Scan.complete_eq_ok_iff.mp scanned⟩

/-- What is read as a key is an identifier. -/
lemma identifier_of_splitKey {item key value : Text} (h : splitKey cc item = some (key, value)) :
    cc.Identifier key := by
  unfold splitKey at h
  split at h
  · cases h
  · next first rest =>
    split at h
    · next start =>
      split at h
      · cases h
        exact ⟨first, _, rfl, start, fun c mem => List.mem_takeWhile_imp mem⟩
      · cases h
    · cases h

/-- A parameter that is read has an identifier as key, if it has one. -/
lemma proper_of_readItem {item : Text} {parameter : Parameter}
    (h : readItem cc item = .ok parameter) : parameter.Proper cc := by
  unfold readItem at h
  split at h
  · next key value split_eq =>
    split at h
    · cases h
    · obtain ⟨found, _, rfl⟩ := Fallible.map_eq_ok_iff.mp h
      rintro _ ⟨⟩
      exact identifier_of_splitKey split_eq
  · obtain ⟨found, _, rfl⟩ := Fallible.map_eq_ok_iff.mp h
    rintro _ ⟨⟩

/-- One more parameter that is not refused keeps the keys apart. -/
lemma Proper.push {parameters parameters' : Parameters} {parameter : Parameter}
    (h : parameters.Proper cc) (proper : parameter.Proper cc)
    (pushed : parameters.push parameter = .ok parameters') : parameters'.Proper cc := by
  obtain ⟨fresh, rfl⟩ := push_eq_ok_iff.mp pushed
  refine ⟨nodup_keys_concat_iff.mpr ⟨h.distinct, fresh⟩, ?_⟩
  intro other mem
  rcases List.mem_append.mp mem with mem | mem
  · exact h.proper other mem
  · rw [List.mem_singleton.mp mem]
    exact proper

/-- Reading more items keeps the keys apart. -/
lemma Proper.readItems {parameters parameters' : Parameters} {items : List Text}
    (h : parameters.Proper cc) (eq : readItems cc parameters items = .ok parameters') :
    parameters'.Proper cc := by
  induction items generalizing parameters with
  | nil =>
    cases eq
    exact h
  | cons item items ih =>
    unfold Parameters.readItems at eq
    split at eq
    · cases eq
    · split at eq
      · cases eq
      · next read_eq =>
        split at eq
        · cases eq
        · next pushed => exact ih (h.push (proper_of_readItem read_eq) pushed) eq

/-- The empty list of parameters is proper. -/
lemma proper_empty : empty.Proper cc :=
  ⟨List.nodup_nil, nofun⟩

/-- Parameters that are read have identifiers as keys, each once. -/
theorem proper_of_read {text : Text} {parameters : Parameters}
    (h : read cc text = .ok parameters) : parameters.Proper cc := by
  unfold read at h
  split at h
  · cases h
    exact proper_empty
  · split at h
    · cases h
    · exact proper_empty.readItems h

/-- The same where the parentheses may be missing. -/
lemma proper_of_list {list : Option Text} {parameters : Parameters}
    (h : (list.map (read cc)).getD (.ok .empty) = .ok parameters) : parameters.Proper cc := by
  cases list with
  | none =>
    cases h
    exact proper_empty
  | some inside => exact proper_of_read h

end Parameters
end TypeShape
