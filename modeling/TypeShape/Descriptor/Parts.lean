import TypeShape.Descriptor.Reader

/-!
# Parts are shorter

Every part of a descriptor is shorter than the text it was read from, so reading the parts again,
and their parts, comes to an end. Main statement: `length_lt_of_mem_parts`.
-/

namespace TypeShape.Descriptor

/-- What is left after whitespace is an ending of the text. -/
theorem skip_suffix (cc : Classifier) (text : Text) : cc.skip text <:+ text :=
  List.dropWhile_suffix (cc .whitespace)

/-- What is left after a flag word is an ending of the text. -/
theorem takeFlagWord_suffix (cc : Classifier) (text : Text) : (takeFlagWord cc text).2 <:+ text := by
  have dropped : text.dropWhile (cc .flagWord) <:+ text := List.dropWhile_suffix (cc .flagWord)
  have skipped := skip_suffix cc (text.dropWhile (cc .flagWord))
  unfold takeFlagWord
  split
  · next colon =>
    rw [colon] at skipped
    exact ((List.suffix_cons ':' _).trans skipped).trans dropped
  · exact List.suffix_rfl

/-- What is left after flag symbols is an ending of the text. -/
theorem takeFlagSymbols_suffix (cc : Classifier) (text : Text) :
    (takeFlagSymbols cc text).2 <:+ text := by
  fun_induction takeFlagSymbols cc text with
  | case1 => exact List.suffix_rfl
  | case2 c rest _ ih => exact ih.trans (List.suffix_cons c rest)
  | case3 c rest _ _ ih => exact ih.trans (List.suffix_cons c rest)
  | case4 => exact List.suffix_rfl

/-- Taking segments loses nothing of the text. -/
theorem append_of_takeSegments {cc : Classifier} {text name rest : Text}
    (h : takeSegments cc text = .ok (name, rest)) :
    text = name ++ rest := by
  fun_induction takeSegments cc text generalizing name rest with
  | case1 => cases h
  | case2 first chars _ after =>
    cases h
    have whole := List.takeWhile_append_dropWhile (p := cc .nameChar) (l := chars)
    rw [after] at whole
    rw [List.cons_append, whole]
  | case3 first chars _ separator more after _ _ _ ih =>
    obtain ⟨⟨path, rest'⟩, taken, eq⟩ := Fallible.map_eq_ok_iff.mp h
    cases eq
    have whole := List.takeWhile_append_dropWhile (p := cc .nameChar) (l := chars)
    rw [after, ih taken] at whole
    simpa using whole.symm
  | case4 => cases h
  | case5 first chars _ separator more after _ =>
    cases h
    have whole := List.takeWhile_append_dropWhile (p := cc .nameChar) (l := chars)
    rw [after] at whole
    rw [List.cons_append, whole]
  | case6 => cases h

/-- A name is the segments at the beginning of the text, or of what follows a root separator. -/
theorem takeName_cases {cc : Classifier} {text name rest : Text}
    (h : takeName cc text = .ok (name, rest)) :
    takeSegments cc text = .ok (name, rest) ∨
      ∃ root more path, text = root :: more ∧ name = root :: path ∧
        cc .rootSeparator root = true ∧ takeSegments cc more = .ok (path, rest) := by
  unfold takeName at h
  split at h
  · cases h
  · next root more =>
    split at h
    · next separates =>
      obtain ⟨⟨path, rest'⟩, taken, eq⟩ := Fallible.map_eq_ok_iff.mp h
      cases eq
      exact .inr ⟨root, more, path, rfl, rfl, separates, taken⟩
    · exact .inl h

/-- Taking a name loses nothing of the text. -/
theorem append_of_takeName {cc : Classifier} {text name rest : Text}
    (h : takeName cc text = .ok (name, rest)) : text = name ++ rest := by
  rcases takeName_cases h with taken | ⟨root, more, path, rfl, rfl, _, taken⟩
  · exact append_of_takeSegments taken
  · rw [append_of_takeSegments taken, List.cons_append]

/-- Operands are the given texts, trimmed. -/
theorem eq_map_trim_of_operands {cc : Classifier} {texts results : List Text}
    (h : operands cc texts = .ok results) : results = texts.map cc.trim := by
  unfold operands at h
  split at h
  · simp at h
  · exact (Except.ok.inj h).symm

/-- A generic argument is not longer than the text between the angle brackets. -/
theorem length_le_of_mem_readArgs {cc : Classifier} {text arg : Text} {args : List Text}
    (h : readArgs cc text = .ok args) (mem : arg ∈ args) : arg.length ≤ text.length := by
  unfold readArgs at h
  split at h
  · rw [← Except.ok.inj h] at mem
    simp at mem
  · obtain ⟨pieces, split, trimmed⟩ := Fallible.bind_eq_ok_iff.mp h
    rw [eq_map_trim_of_operands trimmed] at mem
    obtain ⟨piece, piece_mem, rfl⟩ := List.mem_map.mp mem
    have bound := Scan.length_of_mem_splitTop split piece_mem
    have shorter := Text.length_trim_le (cc .whitespace) piece
    have some_piece : 0 < pieces.length := List.length_pos_of_mem piece_mem
    unfold Classifier.trim
    omega

/-- A generic that is read is made of the components that the steps take one after the other. -/
theorem exists_of_readGeneric {cc : Classifier} {text : Text} {d : Descriptor}
    (h : readGeneric cc text = .ok d) :
    ∃ name afterName list afterList parameters angles afterAngles args,
      takeName cc (takeFlagSymbols cc (takeFlagWord cc text).2).2 = .ok (name, afterName) ∧
      Scan.takePair .paren (cc.skip afterName) = .ok (list, afterList) ∧
      (list.map (Parameters.read cc)).getD (.ok .empty) = .ok parameters ∧
      Scan.takePair .angle (cc.skip afterList) = .ok (angles, afterAngles) ∧
      (angles.map (readArgs cc)).getD (.ok []) = .ok args ∧
      cc.skip afterAngles = [] ∧
      d = .generic
        ((takeFlagWord cc text).1 ++ (takeFlagSymbols cc (takeFlagWord cc text).2).1)
        name args parameters := by
  unfold readGeneric at h
  obtain ⟨⟨name, afterName⟩, named, h⟩ := Fallible.bind_eq_ok_iff.mp h
  obtain ⟨⟨list, afterList⟩, listed, h⟩ := Fallible.bind_eq_ok_iff.mp h
  obtain ⟨parameters, parameters_eq, h⟩ := Fallible.bind_eq_ok_iff.mp h
  obtain ⟨⟨angles, afterAngles⟩, angled, h⟩ := Fallible.bind_eq_ok_iff.mp h
  obtain ⟨args, args_eq, h⟩ := Fallible.bind_eq_ok_iff.mp h
  refine ⟨name, afterName, list, afterList, parameters, angles, afterAngles, args, named, listed,
    parameters_eq, angled, args_eq, ?_⟩
  split at h
  · next done => exact ⟨List.isEmpty_iff.mp done, (Except.ok.inj h).symm⟩
  · simp at h

/-- The arguments of a generic stand in angle brackets after its name, unless there are none. -/
theorem exists_angles_of_readGeneric {cc : Classifier} {text : Text} {d : Descriptor}
    (h : readGeneric cc text = .ok d) :
    d.parts = [] ∨ ∃ front inside closer back,
      text = front ++ '<' :: (inside ++ closer :: back) ∧ readArgs cc inside = .ok d.parts := by
  obtain ⟨name, afterName, list, afterList, parameters, angles, afterAngles, args, named, listed,
    _, angled, args_eq, _, rfl⟩ := exists_of_readGeneric h
  cases angles with
  | none => exact .inl (Except.ok.inj args_eq).symm
  | some inside =>
    right
    obtain ⟨closer, angles_eq⟩ :
        ∃ closer, cc.skip afterList = '<' :: (inside ++ closer :: afterAngles) :=
      Scan.eq_of_takePair angled
    obtain ⟨flags, flags_eq⟩ :=
      (takeFlagSymbols_suffix cc (takeFlagWord cc text).2).trans (takeFlagWord_suffix cc text)
    have list_suffix := (Scan.suffix_of_takePair listed).trans (skip_suffix cc afterName)
    obtain ⟨between, between_eq⟩ := (skip_suffix cc afterList).trans list_suffix
    rw [append_of_takeName named, ← between_eq, angles_eq] at flags_eq
    exact ⟨flags ++ name ++ between, inside, closer, afterAngles, by simpa using flags_eq.symm, args_eq⟩

/-- A part of a generic is shorter than the text it was read from. -/
theorem length_lt_of_readGeneric {cc : Classifier} {text part : Text} {d : Descriptor}
    (h : readGeneric cc text = .ok d) (mem : part ∈ d.parts) : part.length < text.length := by
  rcases exists_angles_of_readGeneric h with none | ⟨front, inside, closer, back, rfl, args_eq⟩
  · rw [none] at mem
    cases mem
  · have arg_le := length_le_of_mem_readArgs args_eq mem
    simp only [List.length_cons, List.length_append]
    omega

/-- An operand is shorter than the text that it and the other operands are joined in. -/
theorem length_lt_of_readOperands {cc : Classifier} {separator : Char} {text operand : Text}
    {results : List Text} (h : readOperands cc separator text = .ok (some results))
    (mem : operand ∈ results) : operand.length < text.length := by
  unfold readOperands at h
  obtain ⟨pieces, split, h⟩ := Fallible.bind_eq_ok_iff.mp h
  split at h
  · simp at h
  · next several =>
    obtain ⟨results', trimmed, eq⟩ := Fallible.map_eq_ok_iff.mp h
    simp only [Option.some.injEq] at eq
    subst eq
    rw [eq_map_trim_of_operands trimmed] at mem
    obtain ⟨piece, piece_mem, rfl⟩ := List.mem_map.mp mem
    have bound := Scan.length_of_mem_splitTop split piece_mem
    have shorter := Text.length_trim_le (cc .whitespace) piece
    unfold Classifier.trim
    omega

/-- An array that is read has the trimmed text before its brackets as element. -/
theorem length_lt_of_readArray {cc : Classifier} {text part : Text} {d : Descriptor}
    (h : readArray cc text = .ok (some d)) (mem : part ∈ d.parts) : part.length < text.length := by
  unfold readArray at h
  obtain ⟨cut, cut_eq, h⟩ := Fallible.bind_eq_ok_iff.mp h
  split at h
  · simp at h
  · next element inside =>
    have text_eq := Scan.eq_of_cutLastBrackets cut_eq
    have shorter := Text.length_trim_le (cc .whitespace) element
    have part_eq : part = cc.trim element := by
      repeat' split at h
      all_goals simp only [Except.ok.injEq, Option.some.injEq, reduceCtorEq] at h
      all_goals rw [← h] at mem
      all_goals simpa [parts, names] using mem
    rw [part_eq, text_eq]
    simp only [Classifier.trim, List.length_append, List.length_cons]
    omega

/-- A part is shorter than the ungrouped text it was read from. -/
theorem length_lt_of_readUngrouped {cc : Classifier} {text part : Text} {d : Descriptor}
    (h : readUngrouped cc text = .ok d) (mem : part ∈ d.parts) : part.length < text.length := by
  unfold readUngrouped at h
  obtain ⟨_, _, h⟩ := Fallible.bind_eq_ok_iff.mp h
  obtain ⟨alternatives, alternatives_eq, h⟩ := Fallible.bind_eq_ok_iff.mp h
  cases alternatives with
  | some alternatives =>
    simp only [Except.ok.injEq] at h
    subst h
    exact length_lt_of_readOperands alternatives_eq mem
  | none =>
    obtain ⟨types, types_eq, h⟩ := Fallible.bind_eq_ok_iff.mp h
    cases types with
    | some types =>
      simp only [Except.ok.injEq] at h
      subst h
      exact length_lt_of_readOperands types_eq mem
    | none =>
      obtain ⟨found, found_eq, h⟩ := Fallible.bind_eq_ok_iff.mp h
      cases found with
      | some found =>
        simp only [Except.ok.injEq] at h
        subst h
        exact length_lt_of_readArray found_eq mem
      | none => exact length_lt_of_readGeneric h mem

/-- A part is shorter than the trimmed text it was read from. -/
theorem length_lt_of_readTrimmed {cc : Classifier} {degroup : Bool} {text part : Text}
    {d : Descriptor} (h : readTrimmed cc degroup text = .ok d) (mem : part ∈ d.parts) :
    part.length < text.length := by
  fun_induction readTrimmed cc degroup text with
  | case1 => simp at h
  | case2 text _ => exact length_lt_of_readUngrouped h mem
  | case3 => simp at h
  | case4 text inner enclosing _ _ shorter ih => exact Nat.lt_trans (ih h) shorter
  | case5 text inner enclosing _ _ =>
    have bound := length_lt_of_enclosed enclosing
    have shorter := Text.length_trim_le (cc .whitespace) inner
    simp only [Except.ok.injEq] at h
    subst h
    simp only [parts, names, List.mem_singleton] at mem
    subst mem
    unfold Classifier.trim
    omega

/-- A part is shorter than the text it was read from. -/
theorem length_lt_of_mem_parts {cc : Classifier} {degroup : Bool} {text part : Text}
    {d : Descriptor} (h : parse cc degroup text = .ok d) (mem : part ∈ d.parts) :
    part.length < text.length := by
  have read_eq := parse_eq_ok_iff.mp h
  unfold read at read_eq
  split at read_eq
  · simp at read_eq
  · have shorter := Text.length_trim_le (cc .whitespace) text
    exact Nat.lt_of_lt_of_le (length_lt_of_readTrimmed read_eq mem) shorter

end TypeShape.Descriptor
