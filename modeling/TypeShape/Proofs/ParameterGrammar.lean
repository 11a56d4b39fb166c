import Mathlib.Data.List.Forall2
import TypeShape.Proofs.Joins

/-!
# The grammar of parameter lists

What may stand between the parentheses of a generic, said without its reader. A value is quoted or bare
(`Grammar.Value`), an entry is a value, perhaps with a key and a colon before it (`Grammar.Entry`), and
a list is blank, or entries with commas between them and no key twice (`Grammar.Entries`). For each
step of reading one lemma says that it accepts what the grammar allows and nothing else; together they
are `read_iff_entries`.
-/

namespace TypeShape

namespace Grammar

/-- A value as it is written, and the value itself. -/
inductive Value : Text → Text → Prop where
  | bare {text : Text} :
    text.head? ≠ some Quoted.mark →
    Value text text
  | quoted {written value : Text} :
    Quoted.Means written value →
    Value (Quoted.mark :: (written ++ [Quoted.mark])) value

/-- An entry that begins with a key: an identifier, perhaps whitespace, and a colon before the rest. -/
structure Keyed (cc : Classifier) (entry key rest : Text) : Prop where
  identifier : cc.Identifier key
  colon : ∃ gap, Text.Blank (cc .whitespace) gap ∧ entry = key ++ (gap ++ ':' :: rest)

/-- An entry of a parameter list, and the parameter. -/
inductive Entry (cc : Classifier) : Text → Parameter → Prop where
  | named {entry key rest value : Text} :
    Keyed cc entry key rest →
    cc.trim rest ≠ [] →
    Value (cc.trim rest) value →
    Entry cc entry (.named key value)
  | positional {entry value : Text} :
    (∀ key rest, ¬ Keyed cc entry key rest) →
    Value entry value →
    Entry cc entry (.positional value)

/-- A parameter list, and the parameters. -/
inductive Entries (cc : Classifier) (text : Text) : Parameters → Prop where
  | blank : Text.Blank (cc .whitespace) text → Entries cc text .empty
  | separated {pieces : List Text} {parameters : Parameters} :
    Segments ',' text pieces →
    (∀ piece ∈ pieces, cc.trim piece ≠ []) →
    List.Forall₂ (Entry cc) (pieces.map cc.trim) parameters.toList →
    parameters.keys.Nodup →
    Entries cc text parameters

end Grammar

namespace Parameters

open Grammar

variable {cc : Classifier} {text value entry key rest : Text}

/-- A value that is written by the grammar is read. -/
lemma readValue_of_value (means : Value text value) : readValue cc text = .ok value := by
  cases means with
  | bare not_mark =>
    cases text with
    | nil => rfl
    | cons c rest => exact if_neg fun eq => not_mark (congrArg some eq)
  | quoted means =>
    have found := means.read_append []
    simp only [readValue, if_true, found]
    rfl

/-- What follows a quoted value is nothing, because the whole is trimmed. -/
lemma value_of_readValue (trimmed : Text.Trimmed (cc .whitespace) text)
    (h : readValue cc text = .ok value) : Value text value := by
  cases text with
  | nil =>
    cases h
    exact .bare nofun
  | cons c rest =>
    simp only [readValue] at h
    split at h
    · next quoted =>
      subst quoted
      split at h
      · cases h
      · next value' after found =>
        split at h
        · next blank =>
          cases h
          obtain ⟨written, means, rfl⟩ := Quoted.means_of_read found
          have whole : Quoted.mark :: (written ++ Quoted.mark :: after) =
              Quoted.mark :: (written ++ [Quoted.mark]) ++ after := by simp
          rw [whole] at trimmed ⊢
          rw [trimmed.eq_nil_of_blank (Text.trim_eq_nil_iff.mp (List.isEmpty_iff.mp blank)),
            List.append_nil]
          exact .quoted means
        · cases h
    · next not_quoted =>
      cases h
      exact .bare fun head => not_quoted (Option.some.inj head)

/-- A key that is split off is one with a colon after it. -/
lemma keyed_of_splitKey (trimmed : Text.Trimmed (cc .whitespace) entry)
    (h : splitKey cc entry = some (key, rest)) : Keyed cc entry key rest := by
  have identifier := identifier_of_splitKey h
  cases entry with
  | nil => cases h
  | cons first chars =>
    simp only [splitKey] at h
    split at h
    · split at h
      · next colon =>
        cases h
        have whole : first :: chars = first :: chars.takeWhile (cc .nameChar) ++
            chars.dropWhile (cc .nameChar) := by
          rw [List.cons_append, List.takeWhile_append_dropWhile]
        rw [whole] at trimmed
        rw [cc.trim_ending trimmed] at colon
        refine ⟨identifier, _, Text.blank_takeWhile _ (chars.dropWhile (cc .nameChar)), ?_⟩
        rw [← colon, cc.takeWhile_append_skip]
        exact whole
      · cases h
    · cases h

/-- The key is all of the identifier, since neither whitespace nor a colon can belong to one. -/
lemma splitKey_of_keyed (own : cc.OwnSymbols) (trimmed : Text.Trimmed (cc .whitespace) entry)
    (keyed : Keyed cc entry key rest) : splitKey cc entry = some (key, rest) := by
  obtain ⟨⟨first, chars, rfl, start, all⟩, gap, blank, rfl⟩ := keyed
  have colon {cls : CharClass} : ∀ c, (':' :: rest).head? = some c → cc cls c = false := by
    rintro _ ⟨⟩
    exact own.eq_false (by decide)
  have stops := own.rejects_head blank (show CharClass.nameChar ≠ .whitespace by decide) colon
  have trim_eq : cc.trim (gap ++ ':' :: rest) = ':' :: rest := by
    rw [cc.trim_ending trimmed]
    exact Text.dropWhile_append_eq blank colon
  have dropped : (chars ++ (gap ++ ':' :: rest)).dropWhile (cc .nameChar) = gap ++ ':' :: rest :=
    Text.dropWhile_append_eq all stops
  have taken : (chars ++ (gap ++ ':' :: rest)).takeWhile (cc .nameChar) = chars :=
    Text.takeWhile_append_eq all stops
  simp only [splitKey, List.cons_append, start, if_true, dropped, taken, trim_eq]

/-- No key is split off exactly if none is written. -/
lemma splitKey_eq_none_iff (own : cc.OwnSymbols) (trimmed : Text.Trimmed (cc .whitespace) entry) :
    splitKey cc entry = none ↔ ∀ key rest, ¬ Keyed cc entry key rest := by
  constructor
  · intro none_found key rest keyed
    rw [splitKey_of_keyed own trimmed keyed] at none_found
    cases none_found
  · intro unkeyed
    cases found : splitKey cc entry with
    | none => rfl
    | some split => exact absurd (keyed_of_splitKey trimmed found) (unkeyed _ _)

/-- A trimmed entry is read exactly as the parameter that it is. -/
lemma readItem_eq_ok_iff (own : cc.OwnSymbols) {parameter : Parameter}
    (trimmed : Text.Trimmed (cc .whitespace) entry) :
    readItem cc entry = .ok parameter ↔ Entry cc entry parameter := by
  constructor
  · intro h
    cases found : splitKey cc entry with
    | none =>
      simp only [readItem, found] at h
      obtain ⟨value, read_value, rfl⟩ := Fallible.map_eq_ok_iff.mp h
      exact .positional ((splitKey_eq_none_iff own trimmed).mp found)
        (value_of_readValue trimmed read_value)
    | some split =>
      simp only [readItem, found] at h
      split at h
      · cases h
      · next given =>
        obtain ⟨value, read_value, rfl⟩ := Fallible.map_eq_ok_iff.mp h
        exact .named (keyed_of_splitKey trimmed found) (by simpa using given)
          (value_of_readValue (Text.trimmed_trim _ _) read_value)
  · intro h
    cases h with
    | named keyed given means =>
      simp only [readItem, splitKey_of_keyed own trimmed keyed, List.isEmpty_iff, given, if_false,
        readValue_of_value means]
      rfl
    | positional unkeyed means =>
      simp only [readItem, (splitKey_eq_none_iff own trimmed).mpr unkeyed, readValue_of_value means]
      rfl

/-- One more item is read if it is not blank, is a parameter, and does not repeat a key. -/
lemma readItems_cons_eq_ok_iff {parameters all : Parameters} {item : Text} {items : List Text} :
    readItems cc parameters (item :: items) = .ok all ↔
      cc.trim item ≠ [] ∧ ∃ parameter, readItem cc (cc.trim item) = .ok parameter ∧
        (∀ key, parameter.key? = some key → key ∉ parameters.keys) ∧
        readItems cc ⟨parameters.toList ++ [parameter]⟩ items = .ok all := by
  constructor
  · intro h
    simp only [readItems] at h
    split at h
    · cases h
    · next given =>
      split at h
      · cases h
      · next parameter read_item =>
        split at h
        · cases h
        · next pushed =>
          obtain ⟨fresh, rfl⟩ := push_eq_ok_iff.mp pushed
          exact ⟨by simpa using given, parameter, read_item, fresh, h⟩
  · rintro ⟨given, parameter, read_item, fresh, h⟩
    have pushed := push_eq_ok_iff.mpr ⟨fresh, rfl⟩
    simp only [readItems, List.isEmpty_iff, given, if_false, read_item, pushed, h]

/-- What is read after some parameters is entries, and repeats no key of theirs. -/
lemma readItems_eq_ok_iff (own : cc.OwnSymbols) {parameters all : Parameters} {pieces : List Text}
    (distinct : parameters.keys.Nodup) :
    readItems cc parameters pieces = .ok all ↔
      (∀ piece ∈ pieces, cc.trim piece ≠ []) ∧ all.keys.Nodup ∧
        ∃ more, all = ⟨parameters.toList ++ more⟩ ∧
          List.Forall₂ (Entry cc) (pieces.map cc.trim) more := by
  induction pieces generalizing parameters with
  | nil =>
    simp only [readItems, Except.ok.injEq, List.map_nil, List.forall₂_nil_left_iff,
      exists_eq_right, List.append_nil]
    constructor
    · rintro rfl
      exact ⟨List.forall_mem_nil _, distinct, rfl⟩
    · rintro ⟨_, _, rfl⟩
      rfl
  | cons piece pieces ih =>
    rw [readItems_cons_eq_ok_iff, List.map_cons, List.forall_mem_cons]
    constructor
    · rintro ⟨given, parameter, read_item, fresh, read_others⟩
      have apart := nodup_keys_concat_iff.mpr ⟨distinct, fresh⟩
      obtain ⟨others, nodup, more, rfl, entries⟩ := (ih apart).mp read_others
      have first := (readItem_eq_ok_iff own (Text.trimmed_trim _ piece)).mp read_item
      exact ⟨⟨given, others⟩, nodup, parameter :: more, by simp, .cons first entries⟩
    · rintro ⟨⟨given, others⟩, nodup, more, rfl, entries⟩
      cases entries with
      | @cons _ parameter _ more first entries =>
        have whole : parameters.toList ++ parameter :: more =
            parameters.toList ++ [parameter] ++ more := by simp
        -- the keys up to this one are apart because all of them are
        have apart : (keys ⟨parameters.toList ++ [parameter]⟩).Nodup := by
          rw [whole, keys_append] at nodup
          exact (List.nodup_append.mp nodup).1
        have read_others := (ih apart).mpr ⟨others, whole ▸ nodup, more, by rw [whole], entries⟩
        have read_item := (readItem_eq_ok_iff own (Text.trimmed_trim _ piece)).mpr first
        exact ⟨given, parameter, read_item, (nodup_keys_concat_iff.mp apart).2, read_others⟩

/-- A blank list is not one of entries, not even of a blank one. -/
lemma entries_of_blank (own : cc.OwnSymbols) {parameters : Parameters}
    (blank : Text.Blank (cc .whitespace) text) (h : Entries cc text parameters) :
    parameters = .empty := by
  cases h with
  | blank _ => rfl
  | separated pieces given _ _ =>
    have not_blank := pieces.trim_ne_nil own rfl (by decide) given
    exact absurd (Text.trim_eq_nil_iff.mpr blank) not_blank

/-- A list is read exactly as the parameters that it is. -/
lemma read_eq_ok_iff (own : cc.OwnSymbols) {parameters : Parameters} :
    read cc text = .ok parameters ↔ Entries cc text parameters := by
  have distinct : empty.keys.Nodup := List.nodup_nil
  by_cases blank : cc.trim text = []
  · have is_blank := Text.trim_eq_nil_iff.mp blank
    have read_eq : read cc text = .ok .empty := if_pos (List.isEmpty_iff.mpr blank)
    rw [read_eq]
    constructor
    · intro h
      cases h
      exact .blank is_blank
    · intro h
      rw [entries_of_blank own is_blank h]
  · have not_blank : (cc.trim text).isEmpty = false := by simpa using blank
    constructor
    · intro h
      simp only [read, not_blank, Bool.false_eq_true, if_false] at h
      split at h
      · cases h
      · next pieces split_eq =>
        obtain ⟨given, nodup, _, rfl, entries⟩ :=
          (readItems_eq_ok_iff own distinct).mp h
        exact .separated ((Scan.splitTop_eq_ok_iff_segments rfl).mp split_eq) given entries nodup
    · intro h
      cases h with
      | blank is_blank => exact absurd (Text.trim_eq_nil_iff.mpr is_blank) blank
      | separated pieces given entries nodup =>
        have split_eq := (Scan.splitTop_eq_ok_iff_segments rfl).mpr pieces
        simp only [read, not_blank, Bool.false_eq_true, if_false, split_eq]
        exact (readItems_eq_ok_iff own distinct).mpr ⟨given, nodup, _, rfl, entries⟩

/-- The text between the parentheses of a generic is read as some parameters exactly if it is a list
of just these, and every other text is rejected. -/
theorem read_iff_entries (text : Text) :
    (∀ parameters, read .standard text = .ok parameters ↔ Entries .standard text parameters) ∧
    ((¬ ∃ parameters, Entries .standard text parameters) →
      ∃ reason, read .standard text = .error reason) := by
  have accepts (parameters : Parameters) :
      read .standard text = .ok parameters ↔ Entries .standard text parameters :=
    read_eq_ok_iff Classifier.standard_ownSymbols
  refine ⟨accepts, fun no_list => ?_⟩
  cases outcome : read .standard text with
  | error reason => exact ⟨reason, rfl⟩
  | ok parameters => exact absurd ⟨parameters, (accepts parameters).mp outcome⟩ no_list

end Parameters
end TypeShape
