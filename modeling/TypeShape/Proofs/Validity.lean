import TypeShape.Proofs.Classification
import TypeShape.Proofs.Joins
import TypeShape.Proofs.Preorder
import TypeShape.Proofs.RoundTrip

/-!
# Validity

A text is `Valid` if it is read, and its parts are, down to the last (`valid_iff`). At its loosest
operator a text comes apart into operands (`Splits`), and it is valid exactly if they are
(`Splits.valid_iff`). So for texts that are put together without parentheses it is enough to know which
operands there are then: those at the seam are new ones, the others stay (`Valid.amp`,
`Valid.brackets`).
-/

namespace TypeShape

/-- A text that is read with all its parts, and the parts of these. -/
inductive Valid (cc : Classifier) : Text → Prop where
  | of_parts {text : Text} {d : Descriptor} :
    Descriptor.parse cc false text = .ok d →
    (∀ part ∈ d.parts, Valid cc part) →
    Valid cc text

/-- A text and its operands at its loosest operator, perhaps only one, with the form that has such
operands. -/
inductive Splits (text : Text) (segments : List Text) : (List Text → Descriptor) → Prop where
  | bars :
    Segments '|' text segments →
    Splits text segments .union
  | amps :
    Outer (· ≠ '|') text →
    Segments '&' text segments →
    Splits text segments .intersection

variable {cc : Classifier} {text text' whole : Text} {segments : List Text}
  {make : List Text → Descriptor} {d : Descriptor}

namespace Descriptor

/-- Texts that are the same once they are trimmed are read as the same descriptor. -/
lemma parse_of_trim_eq (eq : cc.trim text = cc.trim text') (h : parse cc false text = .ok d) :
    parse cc false text' = .ok d := by
  rw [parse_eq_ok_iff, read_of_trim_eq eq] at h
  exact parse_eq_ok_iff.mpr h

/-- A text that is read is not blank. -/
lemma trim_ne_nil_of_parse (h : parse cc false text = .ok d) : cc.trim text ≠ [] := by
  intro blank
  have rejected := read_of_blank false blank
  rw [parse_eq_ok_iff.mp h] at rejected
  cases rejected

/-- A text that is read has only allowed characters outside of its delimiters. -/
lemma allowed_of_parse (own : cc.OwnSymbols) (h : parse cc false text = .ok d) :
    Outer cc.Allowed text := by
  have trimmed : Outer cc.Allowed (cc.trim text) := by
    rcases enclosed_or_ungrouped (readTrimmed_of_read (parse_eq_ok_iff.mp h)) with
      ⟨inside, balanced, eq, _⟩ | ⟨allowed, _⟩
    · rw [eq]
      exact Delimiter.paren.outer_allowed cc balanced
    · exact allowed
  obtain ⟨front, back, front_blank, back_blank, eq⟩ := cc.padded_trim text
  rw [eq]
  exact ((own.allowed_of_blank front_blank).append trimmed).append (own.allowed_of_blank back_blank)

/-- A pair of delimiters at the end of a text, other than parentheses, does not enclose it. -/
lemma read_of_pair (own : cc.OwnSymbols) (degroup : Bool) (pair : Delimiter) {inside : Text}
    (ne_paren : pair ≠ .paren) (ne : cc.trim text ≠ []) (allowed : Outer cc.Allowed text)
    (balanced : Balanced inside) :
    read cc degroup (text ++ pair.opener :: (inside ++ [pair.closer])) =
      readUngrouped cc (cc.skip text ++ pair.opener :: (inside ++ [pair.closer])) := by
  have whole := ((own.outer_skip allowed).append (pair.outer_allowed cc balanced)).balanced
  have free : ¬ Enclosed (cc.skip text ++ pair.opener :: (inside ++ [pair.closer])) := by
    apply not_enclosed_of_getLast?
    rw [Text.getLast?_append_pair]
    cases pair with
    | paren => exact absurd rfl ne_paren
    | angle => decide
    | bracket => decide
  have trim_eq := own.trim_pair pair ne inside
  rw [read_of_ne_nil degroup (by simp [trim_eq]), trim_eq]
  exact readTrimmed_of_balanced cc degroup whole free

/-- A text with a pair of delimiters after it is read as what stands there once the text before is
trimmed on the left. -/
lemma parse_of_pair (own : cc.OwnSymbols) (pair : Delimiter) {inside : Text}
    (ne_paren : pair ≠ .paren) (ne : cc.trim text ≠ []) (allowed : Outer cc.Allowed text)
    (balanced : Balanced inside)
    (h : readUngrouped cc (cc.skip text ++ pair.opener :: (inside ++ [pair.closer])) = .ok d) :
    parse cc false (text ++ pair.opener :: (inside ++ [pair.closer])) = .ok d :=
  parse_eq_ok_iff.mpr ((read_of_pair own false pair ne_paren ne allowed balanced).trans h)

end Descriptor

namespace Valid

/-- A valid text is read, and all parts of its descriptor are valid. -/
lemma exists_parse (h : Valid cc text) :
    ∃ d, Descriptor.parse cc false text = .ok d ∧ ∀ part ∈ d.parts, Valid cc part := by
  cases h with
  | of_parts parsed parts => exact ⟨_, parsed, parts⟩

/-- Texts that are the same once they are trimmed are valid or not together. -/
lemma of_trim_eq (h : Valid cc text) (eq : cc.trim text = cc.trim text') : Valid cc text' := by
  obtain ⟨d, parsed, parts⟩ := h.exists_parse
  exact .of_parts (Descriptor.parse_of_trim_eq eq parsed) parts

/-- Whitespace around a valid text leaves it valid. -/
lemma padded (h : Valid cc text) (padded : cc.Padded text whole) : Valid cc whole :=
  h.of_trim_eq padded.trim_eq.symm

/-- A valid text is valid once it is trimmed. -/
lemma trim (h : Valid cc text) : Valid cc (cc.trim text) :=
  h.of_trim_eq (cc.trim_trim text).symm

/-- A text is valid if it is once it is trimmed. -/
lemma of_trim (h : Valid cc (cc.trim text)) : Valid cc text :=
  h.of_trim_eq (cc.trim_trim text)

/-- A valid text is not blank. -/
lemma trim_ne_nil (h : Valid cc text) : cc.trim text ≠ [] := by
  obtain ⟨d, parsed, _⟩ := h.exists_parse
  exact Descriptor.trim_ne_nil_of_parse parsed

/-- Outside of delimiters a valid text has allowed characters only. -/
lemma allowed (own : cc.OwnSymbols) (h : Valid cc text) : Outer cc.Allowed text := by
  obtain ⟨d, parsed, _⟩ := h.exists_parse
  exact Descriptor.allowed_of_parse own parsed

/-- A text is valid if it is read once it is trimmed, and all parts of its descriptor are valid. -/
lemma of_readTrimmed (ne : cc.trim text ≠ [])
    (h : Descriptor.readTrimmed cc false (cc.trim text) = .ok d)
    (parts : ∀ part ∈ d.parts, Valid cc part) : Valid cc text :=
  .of_parts (Descriptor.parse_of_readTrimmed ne h) parts

end Valid

/-- A text is valid exactly if no text is rejected on the walk over its tree. -/
theorem valid_iff {depth : Nat} :
    Valid cc text ↔ ∀ level rejection,
      (level, .error rejection) ∉ Tree.preorder depth (Tree.ofText cc false text) := by
  constructor
  · intro h
    induction h generalizing depth with
    | of_parts parsed _ ih =>
      intro level rejection mem
      rcases Tree.mem_preorder_ofText.mp mem with ⟨_, root⟩ | ⟨d, parsed', part, inParts, below⟩
      · rw [parsed] at root
        cases root
      · cases parsed.symm.trans parsed'
        exact ih part inParts level rejection below
  · intro h
    generalize len : text.length = n
    -- parts are shorter than their text, though they are not its tails
    induction n using Nat.strongRecOn generalizing text depth with
    | ind n ih =>
      cases parsed : Descriptor.parse cc false text with
      | error rejection =>
        apply absurd _ (h depth rejection)
        exact Tree.mem_preorder_ofText.mpr (.inl ⟨rfl, parsed.symm⟩)
      | ok d =>
        apply Valid.of_parts parsed
        intro part inParts
        have shorter := Descriptor.length_lt_of_mem_parts parsed inParts
        have below : ∀ level rejection,
            (level, .error rejection) ∉ Tree.preorder (depth + 1) (Tree.ofText cc false part) := by
          intro level rejection mem
          apply h level rejection
          exact Tree.mem_preorder_ofText.mpr (.inr ⟨d, parsed, part, inParts, mem⟩)
        exact ih part.length (by omega) below rfl

section Operators

variable {c : Char} (operator : c ∈ ['|', '&'])

include operator

/-- An operator is no delimiter. -/
lemma plain_of_operator : Role.of c = .plain := by
  rcases List.mem_pair.mp operator with rfl | rfl
  · rfl
  · rfl

/-- An operator is punctuation. -/
lemma punctuation_of_operator : c ∈ Classifier.punctuation := by
  rcases List.mem_pair.mp operator with rfl | rfl
  · decide
  · decide

/-- An operator is allowed outside of delimiters, whatever the classifier. -/
lemma allowed_of_operator : cc.Allowed c := by
  rcases List.mem_pair.mp operator with rfl | rfl
  · exact .inl (by decide)
  · exact .inl (by decide)

end Operators

namespace Splits

/-- The parts of a union or an intersection are its operands. -/
lemma parts_eq (h : Splits text segments make) (operands : List Text) :
    (make operands).parts = operands := by
  cases h with
  | bars _ => rfl
  | amps _ _ => rfl

/-- The operands are the texts between one of the operators. -/
lemma exists_segments (h : Splits text segments make) :
    ∃ operator ∈ ['|', '&'], Segments operator text segments := by
  cases h with
  | bars bars => exact ⟨'|', by simp, bars⟩
  | amps _ amps => exact ⟨'&', by simp, amps⟩

/-- There is a last segment. -/
lemma exists_concat (h : Splits text segments make) : ∃ init last, segments = init ++ [last] := by
  obtain ⟨_, _, segs⟩ := h.exists_segments
  exact segs.exists_concat

/-- A text without the separator is its only segment. -/
lemma eq_singleton (h : Splits text segments make) (short : segments.length < 2) :
    segments = [text] := by
  obtain ⟨_, _, segs⟩ := h.exists_segments
  exact segs.eq_singleton short

/-- A text that falls apart in several segments is not enclosed in one pair of parentheses. -/
lemma not_enclosed (h : Splits text segments make) (several : 2 ≤ segments.length) :
    ¬ Enclosed text := by
  obtain ⟨_, operator, segs⟩ := h.exists_segments
  exact segs.not_enclosed (plain_of_operator operator) several

/-- A text with a separator is not blank. -/
lemma trim_ne_nil (own : cc.OwnSymbols) (h : Splits text segments make)
    (several : 2 ≤ segments.length) : cc.trim text ≠ [] := by
  obtain ⟨_, operator, segs⟩ := h.exists_segments
  intro eq
  have free := own.free_of_blank (punctuation_of_operator operator) (Text.trim_eq_nil_iff.mp eq)
  have short := (Scan.length_segments_lt_two_iff (plain_of_operator operator) segs).mpr free
  omega

/-- If all segments have allowed characters only, so has the text. -/
lemma allowed (h : Splits text segments make)
    (all : ∀ segment ∈ segments, Outer cc.Allowed segment) : Outer cc.Allowed text := by
  obtain ⟨_, operator, segs⟩ := h.exists_segments
  rw [← segs.join_eq]
  exact .join (plain_of_operator operator) (allowed_of_operator operator) all

/-- The operands of the trimmed text. -/
lemma trim (own : cc.OwnSymbols) (h : Splits text segments make)
    (balanced : Balanced (cc.trim text)) :
    ∃ segments', Splits (cc.trim text) segments' make ∧
      segments'.map cc.trim = segments.map cc.trim := by
  cases h with
  | bars bars =>
    obtain ⟨segments', trimmed, same⟩ := bars.trim own rfl (by decide) balanced
    exact ⟨segments', .bars trimmed, same⟩
  | amps no_bar amps =>
    obtain ⟨segments', trimmed, same⟩ := amps.trim own rfl (by decide) balanced
    exact ⟨segments', .amps (own.outer_trim no_bar) trimmed, same⟩

/-- A text with several operands is read as its form. -/
lemma readTrimmed_eq (own : cc.OwnSymbols) (h : Splits text segments make)
    (several : 2 ≤ segments.length) (allowed : Outer cc.Allowed text) :
    Descriptor.readTrimmed cc false (cc.trim text) =
      (Descriptor.operands cc segments).map make := by
  have trimmed_allowed : Outer cc.Allowed (cc.trim text) := own.outer_trim allowed
  obtain ⟨segments', trimmed, same⟩ := h.trim own trimmed_allowed.balanced
  have length_eq : segments'.length = segments.length := by
    simpa using congrArg List.length same
  rw [← length_eq] at several
  -- operands are trimmed anyway, so those of the trimmed text are the same
  have operands_eq : Descriptor.operands cc segments' = Descriptor.operands cc segments := by
    rw [Descriptor.operands, Descriptor.operands, same]
  rw [Descriptor.readTrimmed_of_balanced cc false trimmed_allowed.balanced
    (trimmed.not_enclosed several), ← operands_eq]
  cases trimmed with
  | bars bars => exact Descriptor.readUngrouped_of_union trimmed_allowed bars several
  | amps no_bar amps =>
    exact Descriptor.readUngrouped_of_intersection trimmed_allowed no_bar amps several

/-- A text without operators belongs to the last operand of the text before it. -/
lemma append {init : List Text} {last suffix : Text} (h : Splits text (init ++ [last]) make)
    (no_bar : Outer (· ≠ '|') suffix) (no_amp : Outer (· ≠ '&') suffix) :
    Splits (text ++ suffix) (init ++ [last ++ suffix]) make := by
  cases h with
  | bars bars => exact .bars (bars.glue (.singleton no_bar))
  | amps free amps => exact .amps (free.append no_bar) (amps.glue (.singleton no_amp))

/-- A text is valid exactly if its operands are. -/
lemma valid_iff (own : cc.OwnSymbols) (h : Splits text segments make) :
    Valid cc text ↔ ∀ segment ∈ segments, Valid cc segment := by
  by_cases several : 2 ≤ segments.length
  · constructor
    · intro valid segment mem
      obtain ⟨d, parsed, parts⟩ := valid.exists_parse
      have read_eq := Descriptor.readTrimmed_of_read (Descriptor.parse_eq_ok_iff.mp parsed)
      rw [h.readTrimmed_eq own several (valid.allowed own)] at read_eq
      obtain ⟨results, operands_ok, rfl⟩ := Fallible.map_eq_ok_iff.mp read_eq
      rw [h.parts_eq, Descriptor.eq_map_trim_of_operands operands_ok] at parts
      exact (parts _ (List.mem_map_of_mem mem)).of_trim
    · intro all
      have allowed := h.allowed fun segment mem => (all segment mem).allowed own
      have operands_ok : Descriptor.operands cc segments = .ok (segments.map cc.trim) := by
        rw [Descriptor.operands_eq, if_neg]
        rintro ⟨segment, mem, blank⟩
        exact (all segment mem).trim_ne_nil blank
      have read_eq := h.readTrimmed_eq own several allowed
      rw [operands_ok] at read_eq
      apply Valid.of_readTrimmed (h.trim_ne_nil own several) read_eq
      rw [h.parts_eq]
      intro part mem
      obtain ⟨segment, inSegments, rfl⟩ := List.mem_map.mp mem
      exact (all segment inSegments).trim
  · rw [h.eq_singleton (by omega)]
    simp

/-- A suffix without operators is taken by the last operand. -/
lemma valid_append (own : cc.OwnSymbols) {suffix : Text} (h : Splits text segments make)
    (no_bar : Outer (· ≠ '|') suffix) (no_amp : Outer (· ≠ '&') suffix) (valid : Valid cc text)
    (takes : ∀ segment ∈ segments, Valid cc segment → Valid cc (segment ++ suffix)) :
    Valid cc (text ++ suffix) := by
  have all := (h.valid_iff own).mp valid
  obtain ⟨init, last, rfl⟩ := h.exists_concat
  rw [(h.append no_bar no_amp).valid_iff own]
  intro segment mem
  rcases List.mem_append.mp mem with mem | mem
  · exact all segment (by simp [mem])
  · cases List.mem_singleton.mp mem
    exact takes last (by simp) (all last (by simp))

end Splits

/-- An ampersand is no bar. -/
lemma outer_amp : Outer (· ≠ '|') ['&'] :=
  .of_plain (Text.forall_of_all (by decide))

namespace Valid

variable {a b : Text} {separator : Char} {texts : List Text}

/-- A valid text falls apart at its bars in valid texts. -/
lemma exists_bars (own : cc.OwnSymbols) (h : Valid cc text) :
    ∃ segments, Segments '|' text segments ∧ ∀ segment ∈ segments, Valid cc segment := by
  obtain ⟨segments, bars⟩ : ∃ segments, Segments '|' text segments :=
    Scan.exists_segments rfl (h.allowed own).balanced
  exact ⟨segments, bars, ((Splits.bars bars).valid_iff own).mp h⟩

/-- A valid text without bars falls apart at its ampersands in valid texts. -/
lemma exists_amps (own : cc.OwnSymbols) (h : Valid cc text) (no_bar : Outer (· ≠ '|') text) :
    ∃ segments, Segments '&' text segments ∧ ∀ segment ∈ segments, Valid cc segment := by
  obtain ⟨segments, amps⟩ : ∃ segments, Segments '&' text segments :=
    Scan.exists_segments rfl no_bar.balanced
  exact ⟨segments, amps, ((Splits.amps no_bar amps).valid_iff own).mp h⟩

/-- Two valid texts with a bar between them are valid. -/
lemma bar (own : cc.OwnSymbols) (h : Valid cc a) (h' : Valid cc b) : Valid cc (a ++ '|' :: b) := by
  obtain ⟨segments, bars, all⟩ := h.exists_bars own
  obtain ⟨segments', bars', all'⟩ := h'.exists_bars own
  rw [(Splits.bars (bars.concat bars')).valid_iff own]
  exact List.forall_mem_append.mpr ⟨all, all'⟩

/-- Two valid texts without bars are valid with an ampersand between them. -/
lemma amp_of_outer (own : cc.OwnSymbols) (h : Valid cc a) (h' : Valid cc b)
    (no_bar : Outer (· ≠ '|') a) (no_bar' : Outer (· ≠ '|') b) : Valid cc (a ++ '&' :: b) := by
  obtain ⟨segments, amps, all⟩ := h.exists_amps own no_bar
  obtain ⟨segments', amps', all'⟩ := h'.exists_amps own no_bar'
  have whole : Outer (· ≠ '|') (a ++ '&' :: b) := no_bar.append (outer_amp.append no_bar')
  rw [(Splits.amps whole (amps.concat amps')).valid_iff own]
  exact List.forall_mem_append.mpr ⟨all, all'⟩

/-- Types of valid texts are valid: the last alternative of one and the first of the other become an
intersection, and the other alternatives stay as they are. -/
lemma amp (own : cc.OwnSymbols) (h : Valid cc a) (h' : Valid cc b) : Valid cc (a ++ '&' :: b) := by
  obtain ⟨segments, bars, all⟩ := h.exists_bars own
  obtain ⟨segments', bars', all'⟩ := h'.exists_bars own
  obtain ⟨init, last, rfl⟩ := bars.exists_concat
  obtain ⟨first, rest, rfl⟩ := List.exists_cons_of_ne_nil bars'.ne_nil
  have seam : Segments '|' (a ++ '&' :: b) (init ++ (last ++ '&' :: first) :: rest) :=
    bars.glue (bars'.prepend outer_amp)
  -- of all alternatives only the one at the seam is new
  have joined : Valid cc (last ++ '&' :: first) :=
    (all last (by simp)).amp_of_outer own (all' first (by simp)) (bars.free last (by simp))
      (bars'.free first (by simp))
  rw [(Splits.bars seam).valid_iff own]
  intro segment mem
  rcases List.mem_append.mp mem with before | mem
  · exact all segment (by simp [before])
  · rcases List.mem_cons.mp mem with rfl | after
    · exact joined
    · exact all' segment (by simp [after])

/-- If two valid texts may be joined by a separator, so may any number of them. -/
lemma join (two : ∀ {a b}, Valid cc a → Valid cc b → Valid cc (a ++ separator :: b))
    (ne : texts ≠ []) (all : ∀ text ∈ texts, Valid cc text) :
    Valid cc (Text.join [separator] texts) := by
  induction texts with
  | nil => exact absurd rfl ne
  | cons first rest ih =>
    have in_first := all first (by simp)
    by_cases last : rest = []
    · subst last
      exact in_first
    · have in_rest := ih last fun text mem => all text (by simp [mem])
      rw [Text.join_cons _ _ last, List.append_assoc]
      exact two in_first in_rest

/-- A valid text in parentheses is valid. -/
lemma group (own : cc.OwnSymbols) (h : Valid cc text) : Valid cc ('(' :: (text ++ [')'])) := by
  have trimmed : cc.trim ('(' :: (text ++ [')'])) = '(' :: (text ++ [')']) :=
    (Text.Trimmed.wrap text (own.eq_false (by decide)) (own.eq_false (by decide))).trim_eq
  have read_eq : Descriptor.readTrimmed cc false ('(' :: (text ++ [')'])) = _ :=
    Descriptor.readTrimmed_of_enclosed (h.allowed own).balanced
  rw [if_neg h.trim_ne_nil, ← trimmed] at read_eq
  refine .of_readTrimmed (by simp [trimmed]) read_eq ?_
  intro part mem
  cases List.mem_singleton.mp mem
  exact h.trim

/-- Brackets after a valid text without operators make a valid array. -/
lemma brackets_of_outer (own : cc.OwnSymbols) {inside : Text} {size : Option Text} (h : Valid cc text)
    (no_bar : Outer (· ≠ '|') text) (no_amp : Outer (· ≠ '&') text) (balanced : Balanced inside)
    (outcome : ∀ element, Descriptor.arrayOutcome cc element inside =
      .ok (.array (cc.trim element) size)) :
    Valid cc (text ++ '[' :: (inside ++ [']'])) := by
  have element_eq := cc.trim_skip text
  have element_ne : cc.trim (cc.skip text) ≠ [] := by
    rw [element_eq]
    exact h.trim_ne_nil
  have element_allowed := own.outer_skip (h.allowed own)
  have ungrouped := Descriptor.readUngrouped_of_brackets element_allowed.balanced balanced element_ne
    (element_allowed.append (Delimiter.bracket.outer_allowed cc balanced))
    ((own.outer_skip no_bar).append (Delimiter.bracket.outer_ne rfl balanced))
    ((own.outer_skip no_amp).append (Delimiter.bracket.outer_ne rfl balanced))
  rw [outcome, element_eq] at ungrouped
  apply Valid.of_parts (Descriptor.parse_of_pair own .bracket (by decide) h.trim_ne_nil
    (h.allowed own) balanced ungrouped)
  intro part mem
  cases List.mem_singleton.mp mem
  exact h.trim

/-- Brackets after a valid text are valid: they belong to its last operand. -/
lemma brackets (own : cc.OwnSymbols) {inside : Text} {size : Option Text} (h : Valid cc text)
    (balanced : Balanced inside)
    (outcome : ∀ element, Descriptor.arrayOutcome cc element inside =
      .ok (.array (cc.trim element) size)) :
    Valid cc (text ++ '[' :: (inside ++ [']'])) := by
  have no_bar : Outer (· ≠ '|') ('[' :: (inside ++ [']'])) := Delimiter.bracket.outer_ne rfl balanced
  have no_amp : Outer (· ≠ '&') ('[' :: (inside ++ [']'])) := Delimiter.bracket.outer_ne rfl balanced
  -- first to the last alternative, and in that to its last type
  obtain ⟨segments, bars, _⟩ := h.exists_bars own
  apply (Splits.bars bars).valid_append own no_bar no_amp h
  intro alternative inText valid
  have free := bars.free alternative inText
  obtain ⟨segments', amps, _⟩ := valid.exists_amps own free
  apply (Splits.amps free amps).valid_append own no_bar no_amp valid
  intro operand inAlternative valid'
  exact valid'.brackets_of_outer own (amps.outer rfl free operand inAlternative)
    (amps.free operand inAlternative) balanced outcome

end Valid
end TypeShape
