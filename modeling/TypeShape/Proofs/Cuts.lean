import TypeShape.Proofs.Outer

/-!
# Cuts of balanced texts

What the cuts of `Scan` give, said with balanced texts alone. A split at a plain separator gives the
`Segments` of the text, and a text has no other segments (`splitTop_eq_ok_iff_segments`). The
partner of an opening delimiter is the closing one after a balanced text (`cutPair_eq_ok_iff`), and
the last brackets are those with balanced texts before and inside them
(`cutLastBrackets_eq_some_iff`).
-/

namespace TypeShape

/-- The texts between all occurrences of a separator outside of delimiters. -/
structure Segments (separator : Char) (text : Text) (segments : List Text) : Prop where
  ne_nil : segments ≠ []
  join_eq : Text.join [separator] segments = text
  free : ∀ segment ∈ segments, Outer (· ≠ separator) segment

namespace Text

/-- The separator follows each text but the last. -/
lemma join_cons (separator text : Text) {texts : List Text} (ne : texts ≠ []) :
    join separator (text :: texts) = text ++ separator ++ join separator texts := by
  obtain ⟨other, texts, rfl⟩ := List.exists_cons_of_ne_nil ne
  rfl

/-- A text ends as what follows one of its characters does. -/
lemma getLast?_cons_append_cons (c d : Char) (front rest : Text) :
    (c :: (front ++ d :: rest)).getLast? = (d :: rest).getLast? := by
  rw [← List.cons_append, List.getLast?_append_of_ne_nil _ (by simp)]

/-- A text with a pair of characters at its end. -/
lemma getLast?_append_pair (before inside : Text) (c d : Char) :
    (before ++ c :: (inside ++ [d])).getLast? = some d := by
  rw [← List.cons_append, ← List.append_assoc, List.getLast?_concat]

end Text

namespace Delimiter

/-- A character that is no delimiter is not one that opens a pair. -/
lemma opener_ne_of_plain (d : Delimiter) {c : Char} (plain : Role.of c = .plain) :
    d.opener ≠ c := by
  rintro rfl
  rw [Role.of_eq_opens_iff.mpr rfl] at plain
  cases plain

/-- Nor is it one that closes a pair. -/
lemma closer_ne_of_plain (d : Delimiter) {c : Char} (plain : Role.of c = .plain) :
    d.closer ≠ c := by
  rintro rfl
  rw [Role.of_eq_closes_iff.mpr rfl] at plain
  cases plain

end Delimiter

namespace Segments

variable {separator : Char} {text segment : Text} {segments : List Text}

/-- A text without the separator is its only segment. -/
lemma singleton (free : Outer (· ≠ separator) text) : Segments separator text [text] where
  ne_nil := by simp
  join_eq := rfl
  free := by simpa using free

/-- One more segment, with a separator after it. -/
lemma cons (free : Outer (· ≠ separator) segment) (h : Segments separator text segments) :
    Segments separator (segment ++ separator :: text) (segment :: segments) where
  ne_nil := by simp
  join_eq := by
    rw [Text.join_cons _ _ h.ne_nil, h.join_eq]
    simp
  free := by simpa using ⟨free, h.free⟩

/-- Without its first segment and the separator, a text has the other segments. -/
lemma tail (h : Segments separator text (segment :: segments)) (ne : segments ≠ []) :
    Segments separator (Text.join [separator] segments) segments where
  ne_nil := ne
  join_eq := rfl
  free := fun other mem => h.free other (by simp [mem])

/-- A text without the separator becomes the beginning of the first segment. -/
lemma prepend {front : Text} (free : Outer (· ≠ separator) front)
    (h : Segments separator text segments) :
    Segments separator (front ++ text) (segments.modifyHead (front ++ ·)) := by
  obtain ⟨first, rest, rfl⟩ := List.exists_cons_of_ne_nil h.ne_nil
  have joined : Outer (· ≠ separator) (front ++ first) := free.append (h.free first (by simp))
  rw [← h.join_eq, List.modifyHead_cons]
  cases rest with
  | nil => exact singleton joined
  | cons second rest =>
    have more := cons joined (h.tail (by simp))
    simpa [Text.join_cons] using more

/-- What holds outside of the delimiters of a text holds there in its segments. -/
lemma outer {p : Char → Prop} (plain : Role.of separator = .plain)
    (h : Segments separator text segments) (outer : Outer p text) :
    ∀ segment ∈ segments, Outer p segment := by
  induction segments generalizing text with
  | nil => nofun
  | cons first rest ih =>
    have joined := h.join_eq
    by_cases last : rest = []
    · subst last
      have eq : first = text := joined
      rw [eq]
      simpa using outer
    · rw [Text.join_cons _ _ last, List.append_assoc] at joined
      rw [← joined] at outer
      obtain ⟨in_first, others⟩ := outer.of_append (h.free first (by simp)).balanced
      have mark : Balanced [separator] := ⟨_, .plain plain .nil⟩
      have in_rest := ih (h.tail last) (others.of_append mark).2
      intro segment mem
      rcases List.mem_cons.mp mem with rfl | mem
      · exact in_first
      · exact in_rest segment mem

end Segments

/-- What holds outside of the delimiters of all texts, and of a separator, holds there in the joined
text. -/
lemma Outer.join {p : Char → Prop} {separator : Char} {texts : List Text}
    (plain : Role.of separator = .plain) (mark : p separator) (all : ∀ text ∈ texts, Outer p text) :
    Outer p (Text.join [separator] texts) := by
  induction texts with
  | nil => exact .nil
  | cons first rest ih =>
    have in_first := all first (by simp)
    by_cases last : rest = []
    · subst last
      exact in_first
    · have in_rest := ih fun text mem => all text (by simp [mem])
      have single : Outer p [separator] := .of_plain (by simp [plain, mark])
      rw [Text.join_cons _ _ last]
      exact (in_first.append single).append in_rest

namespace Scan

variable {separator : Char} {text : Text}

/-- Items that are not the separator at the top level belong to the first piece. -/
lemma pieces_append {front : List Item} (items : List Item)
    (free : ∀ item ∈ front, item.isTop separator = false) :
    pieces separator (front ++ items) =
      (pieces separator items).modifyHead (Item.textOf front ++ ·) := by
  induction front with
  | nil =>
    obtain ⟨piece, rest, eq⟩ := List.exists_cons_of_ne_nil (pieces_ne_nil separator items)
    simp [eq]
  | cons item front ih =>
    have tail_eq := ih fun other mem => free other (by simp [mem])
    obtain ⟨piece, rest, eq⟩ := List.exists_cons_of_ne_nil (pieces_ne_nil separator items)
    rw [List.cons_append, pieces, free item (by simp), tail_eq, eq]
    simp

/-- Items of a text without the separator are not the separator at the top level. -/
lemma isTop_eq_false {items : List Item}
    (outer : ∀ item ∈ items, item.depth = 0 → item.ch ≠ separator) :
    ∀ item ∈ items, item.isTop separator = false := by
  intro item mem
  by_cases depth : item.depth = 0
  · simp [Item.isTop, outer item mem depth]
  · simp [Item.isTop, depth]

/-- The pieces of a balanced text are its segments. -/
lemma segments_pieces {items : List Item} (nested : Nested text items)
    (plain : Role.of separator = .plain) : Segments separator text (pieces separator items) := by
  induction nested with
  | nil => exact .singleton .nil
  | @plain c rest items role _ ih =>
    by_cases eq : c = separator
    · subst eq
      have more := Segments.cons .nil ih
      simpa [pieces, Item.isTop] using more
    · have single : Outer (· ≠ separator) [c] := .of_plain (by simp [role, eq])
      have more := ih.prepend single
      simpa [pieces, Item.isTop, eq, Item.text] using more
  | @quoted written rest items run _ ih =>
    have ne : Quoted.mark ≠ separator := by
      rintro rfl
      cases plain
    have more := ih.prepend (.quoted run ne)
    simpa [pieces, Item.isTop, ne, Item.text] using more
  | @pair d inside rest within items insideNested _ _ ih =>
    have opener_ne := Delimiter.opener_ne_of_plain d plain
    have closer_ne := Delimiter.closer_ne_of_plain d plain
    -- no separator inside of a pair is at the top level, so the pair belongs to the first piece
    have more := ih.prepend (.pair ⟨_, insideNested⟩ opener_ne closer_ne)
    have free : ∀ item ∈ ⟨d.opener, [], 0⟩ :: (within.map (Item.deepen 1) ++ [⟨d.closer, [], 0⟩]),
        item.isTop separator = false := by
      simp only [List.mem_cons, List.mem_append, List.mem_map, List.not_mem_nil, or_false]
      rintro item (rfl | ⟨inner, _, rfl⟩ | rfl)
      · simp [Item.isTop, opener_ne]
      · simp [Item.isTop, Item.deepen]
      · simp [Item.isTop, closer_ne]
    have eq := pieces_append items free
    simp only [List.cons_append, List.append_assoc, List.nil_append] at eq more
    rw [eq]
    simpa [Item.text, insideNested.textOf_eq] using more

/-- The segments of a text are the pieces of its items. -/
lemma exists_nested_of_segments {segments : List Text} (plain : Role.of separator = .plain)
    (h : Segments separator text segments) :
    ∃ items, Nested text items ∧ pieces separator items = segments := by
  induction segments generalizing text with
  | nil => exact absurd rfl h.ne_nil
  | cons segment segments ih =>
    obtain ⟨items, nested, outer⟩ := h.free segment (by simp)
    have free := isTop_eq_false outer
    by_cases last : segments = []
    · subst last
      have eq : segment = text := h.join_eq
      refine ⟨items, eq ▸ nested, ?_⟩
      have pieces_eq := pieces_append [] free
      simpa [pieces, nested.textOf_eq] using pieces_eq
    · obtain ⟨items', nested', pieces_eq'⟩ := ih (h.tail last)
      refine ⟨items ++ ⟨separator, [], 0⟩ :: items', ?_, ?_⟩
      · have whole := nested.append (.plain plain nested')
        rw [← h.join_eq, Text.join_cons _ _ last]
        simpa using whole
      · rw [pieces_append _ free, pieces, if_pos (by simp [Item.isTop]), pieces_eq']
        simp [nested.textOf_eq]

/-- A split at a plain separator succeeds on balanced texts and gives the segments. -/
lemma splitTop_eq_ok_iff_segments {segments : List Text} (plain : Role.of separator = .plain) :
    splitTop separator text = .ok segments ↔ Segments separator text segments := by
  rw [splitTop_eq_ok_iff]
  constructor
  · rintro ⟨items, scanned, rfl⟩
    exact segments_pieces (complete_eq_ok_iff.mp scanned) plain
  · intro h
    obtain ⟨items, nested, eq⟩ := exists_nested_of_segments plain h
    exact ⟨items, complete_eq_ok_iff.mpr nested, eq⟩

/-- A balanced text has segments. -/
lemma exists_segments (plain : Role.of separator = .plain) (balanced : Balanced text) :
    ∃ segments, Segments separator text segments := by
  obtain ⟨items, nested⟩ := balanced
  exact ⟨_, segments_pieces nested plain⟩

/-- A text has no two lists of segments. -/
lemma segments_unique {segments segments' : List Text} (plain : Role.of separator = .plain)
    (h : Segments separator text segments) (h' : Segments separator text segments') :
    segments = segments' := by
  have eq := (splitTop_eq_ok_iff_segments plain).mpr h
  rw [(splitTop_eq_ok_iff_segments plain).mpr h'] at eq
  exact (Except.ok.inj eq).symm

/-- There is one segment only exactly if the separator is nowhere outside of delimiters. -/
lemma length_segments_lt_two_iff {segments : List Text} (plain : Role.of separator = .plain)
    (h : Segments separator text segments) :
    segments.length < 2 ↔ Outer (· ≠ separator) text := by
  constructor
  · intro short
    match segments, h, short with
    | [], h, _ => exact absurd rfl h.ne_nil
    | [segment], h, _ =>
      rw [← h.join_eq]
      exact h.free segment (by simp)
  · intro free
    rw [segments_unique plain h (.singleton free)]
    simp

/-- The check passes exactly if the text is balanced and its outer characters are allowed. -/
lemma checkTop_eq_ok_iff {allowed : Char → Bool} :
    checkTop allowed text = .ok () ↔ Outer (allowed · = true) text := by
  unfold checkTop
  constructor
  · intro h
    split at h
    · cases h
    · next none_found =>
      obtain ⟨items, scanned, _⟩ := Fallible.map_eq_ok_iff.mp h
      have nested := complete_eq_ok_iff.mp scanned
      rw [nested.scan_eq] at none_found
      refine ⟨items, nested, ?_⟩
      intro item mem depth
      have passes := List.find?_eq_none.mp none_found item mem
      simpa [depth] using passes
  · rintro ⟨items, nested, outer⟩
    rw [nested.scan_eq]
    have none_found : items.find? (fun item => item.depth == 0 && !allowed item.ch) = none := by
      apply List.find?_eq_none.mpr
      intro item mem
      by_cases depth : item.depth = 0
      · simp [outer item mem depth]
      · simp [depth]
    simp only [none_found]
    rfl

/-- The cut is at the first item that passes the test. -/
lemma cutAt_append {test : Item → Bool} {before after : List Item} {item : Item}
    (fails : ∀ other ∈ before, test other = false) (passes : test item = true) :
    cutAt test (before ++ item :: after) = some (before, after) := by
  induction before with
  | nil => simp [cutAt, passes]
  | cons first before ih =>
    have rest := ih fun other mem => fails other (by simp [mem])
    simp [cutAt, fails first (by simp), rest]

/-- There is no cut if no item passes the test. -/
lemma cutAt_eq_none {test : Item → Bool} {items : List Item}
    (fails : ∀ other ∈ items, test other = false) : cutAt test items = none := by
  induction items with
  | nil => rfl
  | cons first items ih =>
    have rest := ih fun other mem => fails other (by simp [mem])
    simp [cutAt, fails first (by simp), rest]

/-- An item inside of a pair is not at the top level. -/
lemma isTopCloser_deepen (item : Item) : (item.deepen 1).isTopCloser = false := by
  simp [Item.isTopCloser, Item.deepen]

/-- The scan of a text that begins with an opening delimiter. -/
lemma of_opener_cons (d : Delimiter) (rest : Text) :
    of (d.opener :: rest) = cons ⟨d.opener, [], 0⟩ (scanFrom [d] rest) := by
  rw [of_eq_scanFrom, scanFrom]
  simp [Role.of_eq_opens_iff.mpr rfl]

/-- The partner of an opening delimiter stands after a balanced text. -/
lemma cutPair_of_balanced {d : Delimiter} {inside : Text} (after : Text)
    (balanced : Balanced inside) :
    cutPair (d.opener :: (inside ++ d.closer :: after)) = .ok (inside, after) := by
  obtain ⟨items, nested⟩ := balanced
  have scanned : (scanFrom [d] (inside ++ d.closer :: after)).items =
      items.map (Item.deepen 1) ++ ⟨d.closer, [], 0⟩ :: (scanFrom [] after).items := by
    rw [nested.scanFrom_append, scanFrom]
    simp [Role.of_eq_closes_iff.mpr rfl, cons]
  have cut : cutAt Item.isTopCloser (scanFrom [d] (inside ++ d.closer :: after)).items =
      some (items.map (Item.deepen 1), (scanFrom [] after).items) := by
    rw [scanned]
    apply cutAt_append
    · intro other mem
      obtain ⟨inner, _, rfl⟩ := List.mem_map.mp mem
      exact isTopCloser_deepen inner
    · simp [Item.isTopCloser, Role.of_eq_closes_iff.mpr rfl, Role.isCloser]
  unfold cutPair
  rw [of_opener_cons]
  simp only [cons, List.tail_cons, cut, Item.textOf_map_deepen, nested.textOf_eq]
  simp [List.drop_append]

/-- An opening delimiter has its partner after a balanced text, or the scan finds no partner and is
at fault. -/
lemma closed_or_fault (d : Delimiter) (rest : Text) :
    (∃ inside after, Balanced inside ∧ rest = inside ++ d.closer :: after) ∨
      cutAt Item.isTopCloser (of (d.opener :: rest)).items.tail = none ∧
        (of (d.opener :: rest)).fault ≠ none := by
  rw [of_opener_cons]
  obtain ⟨last, closes⟩ | ⟨fault, depths⟩ := closes_or_fault [d] [] rest (by simp)
  · cases closes with
    | cons balanced _ => exact .inl ⟨_, _, balanced, rfl⟩
  · -- the delimiter is never closed, so no item of the scan gets back to the top level
    refine .inr ⟨cutAt_eq_none ?_, fault⟩
    intro other mem
    have deep := depths other mem
    simp only [List.length_nil] at deep
    simp [Item.isTopCloser, Nat.ne_of_gt deep]

/-- A cut at the partner of an opening delimiter has a balanced text inside. -/
lemma cutPair_eq_ok_iff {d : Delimiter} {rest inside after : Text} :
    cutPair (d.opener :: rest) = .ok (inside, after) ↔
      Balanced inside ∧ rest = inside ++ d.closer :: after := by
  constructor
  · intro h
    obtain ⟨inside', after', balanced, rfl⟩ | ⟨no_cut, _⟩ := closed_or_fault d rest
    · rw [cutPair_of_balanced _ balanced] at h
      cases h
      exact ⟨balanced, rfl⟩
    · unfold cutPair at h
      rw [no_cut] at h
      cases h
  · rintro ⟨balanced, rfl⟩
    exact cutPair_of_balanced after balanced

/-- A pair is taken exactly if the text begins with it. -/
lemma takePair_eq_some_iff {d : Delimiter} {inside after : Text} :
    takePair d text = .ok (some inside, after) ↔
      Balanced inside ∧ text = d.opener :: (inside ++ d.closer :: after) := by
  constructor
  · intro h
    unfold takePair at h
    split at h
    · next starts =>
      obtain ⟨⟨inside', after'⟩, cut, eq⟩ := Fallible.map_eq_ok_iff.mp h
      cases eq
      obtain ⟨rest, rfl⟩ := List.head?_eq_some_iff.mp starts
      obtain ⟨balanced, rfl⟩ := cutPair_eq_ok_iff.mp cut
      exact ⟨balanced, rfl⟩
    · cases h
  · rintro ⟨balanced, rfl⟩
    unfold takePair
    rw [List.head?_cons, if_pos rfl, cutPair_of_balanced after balanced]
    rfl

/-- No pair is taken exactly if the text does not begin with the opening delimiter. -/
lemma takePair_eq_none_iff {d : Delimiter} {after : Text} :
    takePair d text = .ok (none, after) ↔ text.head? ≠ some d.opener ∧ after = text := by
  unfold takePair
  constructor
  · intro h
    split at h
    · obtain ⟨pair, _, eq⟩ := Fallible.map_eq_ok_iff.mp h
      cases eq
    · next starts =>
      cases h
      exact ⟨starts, rfl⟩
  · rintro ⟨starts, rfl⟩
    rw [if_neg starts]

/-- A pair that is taken leaves the outer characters after it. -/
lemma outer_of_takePair {p : Char → Prop} {d : Delimiter} {inside : Option Text} {after : Text}
    (outer : Outer p text) (h : takePair d text = .ok (inside, after)) : Outer p after := by
  cases inside with
  | none =>
    obtain ⟨_, rfl⟩ := takePair_eq_none_iff.mp h
    exact outer
  | some list =>
    obtain ⟨balanced, rfl⟩ := takePair_eq_some_iff.mp h
    have pair : Outer (fun _ => True) (d.opener :: (list ++ [d.closer])) :=
      .pair balanced trivial trivial
    have eq : d.opener :: (list ++ d.closer :: after) =
        d.opener :: (list ++ [d.closer]) ++ after := by simp
    rw [eq] at outer
    exact (outer.of_append pair.balanced).2

/-- A balanced text gives a pair if it begins with the opening delimiter. -/
lemma exists_takePair (d : Delimiter) (balanced : Balanced text) :
    ∃ pair, takePair d text = .ok pair := by
  by_cases starts : text.head? = some d.opener
  · obtain ⟨items, nested⟩ := balanced
    cases nested with
    | nil => cases starts
    | plain role _ =>
      simp only [List.head?_cons, Option.some.injEq] at starts
      exact absurd starts.symm (d.opener_ne_of_plain role)
    | quoted _ _ =>
      simp only [List.head?_cons, Option.some.injEq] at starts
      have role := Role.of_eq_opens_iff.mpr starts
      cases role
    | @pair e inside rest within items insideNested _ =>
      simp only [List.head?_cons, Option.some.injEq] at starts
      have role := Role.of_eq_opens_iff.mpr starts
      rw [Role.of_eq_opens_iff.mpr rfl, Role.opens.injEq] at role
      subst role
      exact ⟨_, takePair_eq_some_iff.mpr ⟨⟨_, insideNested⟩, rfl⟩⟩
  · exact ⟨_, takePair_eq_none_iff.mpr ⟨starts, rfl⟩⟩

/-- A balanced text that ends with a closing square bracket ends with a pair of them. -/
lemma exists_brackets {items : List Item} (nested : Nested text items)
    (ends : text.getLast? = some Delimiter.bracket.closer) :
    ∃ element inside, Balanced element ∧ Balanced inside ∧
      text = element ++ Delimiter.bracket.opener :: (inside ++ [Delimiter.bracket.closer]) := by
  induction nested with
  | nil => cases ends
  | @plain c rest items role nested ih =>
    cases rest with
    | nil =>
      -- the text ends in a plain character
      simp only [List.getLast?_singleton, Option.some.injEq] at ends
      exact absurd ends.symm (Delimiter.closer_ne_of_plain _ role)
    | cons d rest =>
      obtain ⟨element, inside, ⟨_, elementNested⟩, balanced, eq⟩ :=
        ih (by simpa [List.getLast?_cons_cons] using ends)
      exact ⟨c :: element, inside, ⟨_, .plain role elementNested⟩, balanced, by simp [eq]⟩
  | @quoted written rest items run nested ih =>
    cases rest with
    | nil =>
      -- the text ends in a quotation mark
      rw [Text.getLast?_cons_append_cons] at ends
      cases ends
    | cons d rest =>
      obtain ⟨element, inside, ⟨_, elementNested⟩, balanced, eq⟩ := ih (by
        rwa [Text.getLast?_cons_append_cons, List.getLast?_cons_cons] at ends)
      exact ⟨_, inside, ⟨_, .quoted run elementNested⟩, balanced, by simp [eq]⟩
  | @pair d inside rest within items insideNested nested _ ih =>
    cases rest with
    | nil =>
      -- the text ends in this pair, so it is the one with brackets
      rw [Text.getLast?_cons_append_cons] at ends
      simp only [List.getLast?_singleton, Option.some.injEq] at ends
      have role := Role.of_eq_closes_iff.mpr ends
      rw [Role.of_eq_closes_iff.mpr rfl, Role.closes.injEq] at role
      subst role
      exact ⟨[], inside, ⟨_, .nil⟩, ⟨_, insideNested⟩, rfl⟩
    | cons e rest =>
      obtain ⟨element, inside', ⟨_, elementNested⟩, balanced, eq⟩ := ih (by
        rwa [Text.getLast?_cons_append_cons, List.getLast?_cons_cons] at ends)
      exact ⟨d.opener :: (inside ++ d.closer :: element), inside',
        ⟨_, .pair insideNested elementNested⟩,
        balanced, by simp [eq]⟩

/-- Brackets after a balanced text are the last ones. -/
lemma cutLastBrackets_of_balanced {element inside : Text} (before : Balanced element)
    (within : Balanced inside) :
    cutLastBrackets
        (element ++ Delimiter.bracket.opener :: (inside ++ [Delimiter.bracket.closer])) =
      .ok (some (element, inside)) := by
  obtain ⟨items, nested⟩ := before
  obtain ⟨items', nested'⟩ := within
  have whole := nested.append (.pair (d := .bracket) nested' .nil)
  have ends : (element ++ Delimiter.bracket.opener ::
      (inside ++ [Delimiter.bracket.closer])).getLast? = some Delimiter.bracket.closer :=
    Text.getLast?_append_pair ..
  -- no item inside the brackets is outside of all pairs
  have cut : cutAt (Item.isTop Delimiter.bracket.opener)
      ((items'.map (Item.deepen 1)).reverse ++ ⟨Delimiter.bracket.opener, [], 0⟩ :: items.reverse) =
        some ((items'.map (Item.deepen 1)).reverse, items.reverse) := by
    apply cutAt_append
    · intro other mem
      obtain ⟨inner, _, rfl⟩ := List.mem_map.mp (List.mem_reverse.mp mem)
      simp [Item.isTop, Item.deepen]
    · simp [Item.isTop]
  unfold cutLastBrackets
  rw [if_pos ends, whole.scan_eq]
  simp only [complete, Except.map, lastBrackets, List.reverse_append, List.reverse_cons,
    List.append_assoc, List.reverse_nil, List.nil_append, List.cons_append]
  rw [if_pos (by simp [Item.isTop]), cut]
  simp [nested.textOf_eq, nested'.textOf_eq]

/-- The brackets that end a balanced text have balanced texts before and inside them. -/
lemma cutLastBrackets_eq_some_iff {element inside : Text} :
    cutLastBrackets text = .ok (some (element, inside)) ↔
      Balanced element ∧ Balanced inside ∧
        text = element ++ Delimiter.bracket.opener :: (inside ++ [Delimiter.bracket.closer]) := by
  constructor
  · intro h
    have ends : text.getLast? = some Delimiter.bracket.closer := by
      by_contra other
      unfold cutLastBrackets at h
      rw [if_neg other] at h
      cases h
    have scan_ok := h
    unfold cutLastBrackets at scan_ok
    rw [if_pos ends] at scan_ok
    obtain ⟨items, scanned, _⟩ := Fallible.map_eq_ok_iff.mp scan_ok
    obtain ⟨element', inside', before, within, rfl⟩ :=
      exists_brackets (complete_eq_ok_iff.mp scanned) ends
    rw [cutLastBrackets_of_balanced before within] at h
    cases h
    exact ⟨before, within, rfl⟩
  · rintro ⟨before, within, rfl⟩
    exact cutLastBrackets_of_balanced before within

/-- A text that does not end with a closing square bracket has no brackets to cut. -/
lemma cutLastBrackets_eq_none (ends : text.getLast? ≠ some Delimiter.bracket.closer) :
    cutLastBrackets text = .ok none := by
  unfold cutLastBrackets
  rw [if_neg ends]

end Scan
end TypeShape
