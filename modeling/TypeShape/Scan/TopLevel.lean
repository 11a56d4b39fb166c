import TypeShape.Fallible
import TypeShape.Scan

/-!
# Cuts at the top level

The structural questions that reading asks of a text, each answered from its scan: is every
character at the top level allowed, where does a separator split the text, where does the pair that
the text begins with end, and which bracket pair ends the text. A character is at the top level when
no delimiter pair and no quoted value encloses it.
-/

namespace TypeShape.Scan

/-- Passes if the text has no fault and every character at the top level is allowed. The problem
that comes first in the text is the one reported. -/
def checkTop (allowed : Char → Bool) (text : Text) : Except Reason Unit :=
  match (of text).items.find? fun item => item.depth == 0 && !allowed item.ch with
  | some item => .error (.unexpected item.ch)
  | none => (of text).complete.map fun _ => ()

/-- The texts between the occurrences of a separator at the top level of a run of items. -/
def pieces (separator : Char) : List Item → List Text
  | [] => [[]]
  | item :: items =>
    if item.isTop separator then [] :: pieces separator items
    else (pieces separator items).modifyHead (item.text ++ ·)

/-- Splits a text at every occurrence of a separator at the top level. A text without one is a
single piece. -/
def splitTop (separator : Char) (text : Text) : Except Reason (List Text) :=
  (of text).complete.map (pieces separator)

/-- The items before and after the first one that passes a test. -/
def cutAt (test : Item → Bool) : List Item → Option (List Item × List Item)
  | [] => none
  | item :: items =>
    if test item then some ([], items)
    else (cutAt test items).map fun (before, after) => (item :: before, after)

/-- Cuts a text that begins with an opening delimiter at the partner of that delimiter: the text
between them, and the text after. -/
def cutPair (text : Text) : Except Reason (Text × Text) :=
  match cutAt Item.isTopCloser (of text).items.tail with
  | some (inside, _) =>
    .ok (Item.textOf inside, text.drop ((Item.textOf inside).length + 2))
  | none => .error ((of text).fault.getD .unbalanced)

/-- Cuts a pair of the given delimiters from the beginning of a text: the text between them, if the
text begins with such a pair, and the text after. -/
def takePair (d : Delimiter) (text : Text) : Except Reason (Option Text × Text) :=
  if text.head? = some d.opener then
    (cutPair text).map fun (inside, after) => (some inside, after)
  else .ok (none, text)

/-- The text before and the text inside the square brackets that end a run of items. -/
def lastBrackets (items : List Item) : Option (Text × Text) :=
  match items.reverse with
  | [] => none
  | last :: before =>
    if last.isTop Delimiter.bracket.closer then
      (cutAt (Item.isTop Delimiter.bracket.opener) before).map fun (inside, element) =>
        (Item.textOf element.reverse, Item.textOf inside.reverse)
    else none

/-- Cuts a text that ends with square brackets at the top level: the text before them, and the text
inside. -/
def cutLastBrackets (text : Text) : Except Reason (Option (Text × Text)) :=
  if text.getLast? = some Delimiter.bracket.closer then (of text).complete.map lastBrackets
  else .ok none

/-- The first item that passes the test stands between the two parts of a cut. -/
theorem eq_of_cutAt {test : Item → Bool} {items before after : List Item}
    (h : cutAt test items = some (before, after)) :
    ∃ item, test item = true ∧ items = before ++ item :: after ∧
      ∀ other ∈ before, test other = false := by
  induction items generalizing before with
  | nil => simp [cutAt] at h
  | cons first items ih =>
    unfold cutAt at h
    split at h
    · next passes =>
      simp only [Option.some.injEq, Prod.mk.injEq] at h
      obtain ⟨rfl, rfl⟩ := h
      exact ⟨first, passes, rfl, by simp⟩
    · next fails =>
      simp only [Option.map_eq_some_iff, Prod.exists, Prod.mk.injEq] at h
      obtain ⟨before', after', cut, rfl, rfl⟩ := h
      obtain ⟨item, passes, rfl, none_before⟩ := ih cut
      refine ⟨item, passes, rfl, ?_⟩
      intro other mem
      rcases List.mem_cons.mp mem with rfl | mem
      · simpa using fails
      · exact none_before other mem

/-- There is always a piece. -/
theorem pieces_ne_nil (separator : Char) (items : List Item) : pieces separator items ≠ [] := by
  induction items with
  | nil => simp [pieces]
  | cons item items ih =>
    unfold pieces
    split
    · simp
    · simpa using ih

/-- The pieces and the separators between them are together no longer than the text. -/
theorem length_flatten_pieces_le (separator : Char) (items : List Item) :
    (pieces separator items).flatten.length + (pieces separator items).length ≤
      (Item.textOf items).length + 1 := by
  induction items with
  | nil => simp [pieces]
  | cons item items ih =>
    have one_char : 1 ≤ item.text.length := by simp [Item.text]
    unfold pieces
    split
    · simp only [List.flatten_cons, List.nil_append, List.length_cons, Item.textOf_cons,
        List.length_append]
      omega
    · cases eq : pieces separator items with
      | nil => exact absurd eq (pieces_ne_nil separator items)
      | cons piece rest =>
        rw [eq] at ih
        simp only [List.modifyHead_cons, List.flatten_cons, List.length_cons, Item.textOf_cons,
          List.length_append] at ih ⊢
        omega

/-- A split gives the pieces of the items of a scan without fault. -/
theorem splitTop_eq_ok_iff {separator : Char} {text : Text} {segments : List Text} :
    splitTop separator text = .ok segments ↔
      ∃ items, (of text).complete = .ok items ∧ pieces separator items = segments := by
  unfold splitTop
  exact Fallible.map_eq_ok_iff

/-- The pieces of a split and the separators between them are together no longer than the text. -/
theorem length_flatten_splitTop_le {separator : Char} {text : Text} {segments : List Text}
    (h : splitTop separator text = .ok segments) :
    segments.flatten.length + segments.length ≤ text.length + 1 := by
  obtain ⟨items, scanned, rfl⟩ := splitTop_eq_ok_iff.mp h
  rw [eq_textOf_of_complete scanned]
  exact length_flatten_pieces_le separator items

/-- A piece of a split is not longer than the text, and shorter if there are two pieces or more. -/
theorem length_of_mem_splitTop {separator : Char} {text piece : Text} {segments : List Text}
    (h : splitTop separator text = .ok segments) (mem : piece ∈ segments) :
    piece.length + segments.length ≤ text.length + 1 := by
  have bound := length_flatten_splitTop_le h
  have piece_le := Text.length_le_length_flatten_of_mem mem
  omega

/-- A plain item has no body: only quoted values do. -/
theorem body_eq_nil_of_mem_scanFrom {stack : List Delimiter} {text : Text} {item : Item}
    (mem : item ∈ (scanFrom stack text).items) (not_quote : item.ch ≠ Quoted.mark) :
    item.body = [] := by
  fun_induction scanFrom stack text with
  | case1 => simp [stop] at mem
  | case2 => simp [stop] at mem
  | case3 stack c rest role written after found _ ih =>
    rcases List.mem_cons.mp mem with rfl | mem
    · exact absurd (Role.of_eq_quote_iff.mp role) not_quote
    · exact ih mem
  | case4 stack c rest d _ ih =>
    rcases List.mem_cons.mp mem with rfl | mem
    · rfl
    · exact ih mem
  | case5 => simp [stop] at mem
  | case6 c rest d below _ ih =>
    rcases List.mem_cons.mp mem with rfl | mem
    · rfl
    · exact ih mem
  | case7 => simp [stop] at mem
  | case8 stack c rest _ ih =>
    rcases List.mem_cons.mp mem with rfl | mem
    · rfl
    · exact ih mem

/-- A cut at the partner of the first delimiter loses nothing: between that delimiter and its
partner is the text inside, and the rest is the text after. -/
theorem eq_of_cutPair {c : Char} {d : Delimiter} {rest inside after : Text}
    (opens : Role.of c = .opens d) (h : cutPair (c :: rest) = .ok (inside, after)) :
    ∃ closer, rest = inside ++ closer :: after := by
  have first : of (c :: rest) = cons ⟨c, [], 0⟩ (scanFrom [d] rest) := by
    rw [of_eq_scanFrom, scanFrom]
    simp [opens]
  unfold cutPair at h
  rw [first] at h
  simp only [cons, List.tail_cons] at h
  split at h
  · next insideItems afterItems cut =>
    obtain ⟨closer, closes, items_eq, _⟩ := eq_of_cutAt cut
    have not_quote : closer.ch ≠ Quoted.mark := by
      intro eq
      simp [Item.isTopCloser, Role.of_eq_quote_iff.mpr eq, Role.isCloser] at closes
    have no_body : closer.body = [] := by
      have mem : closer ∈ (scanFrom [d] rest).items := by
        rw [items_eq]
        simp
      exact body_eq_nil_of_mem_scanFrom mem not_quote
    obtain ⟨rest', rest_eq, _⟩ := exists_eq_append_scanFrom [d] rest
    rw [items_eq] at rest_eq
    simp only [Except.ok.injEq, Prod.mk.injEq] at h
    obtain ⟨rfl, after_eq⟩ := h
    refine ⟨closer.ch, ?_⟩
    rw [← after_eq]
    conv => lhs; rw [rest_eq]
    rw [rest_eq]
    simp [Item.text, no_body, List.drop_append]
  · simp at h

/-- A pair that is taken from a text is its beginning, and the text after is the rest. -/
theorem eq_of_takePair {d : Delimiter} {text inside after : Text}
    (h : takePair d text = .ok (some inside, after)) :
    ∃ closer, text = d.opener :: (inside ++ closer :: after) := by
  unfold takePair at h
  split at h
  · next starts =>
    cases text with
    | nil => simp at starts
    | cons c rest =>
      simp only [List.head?_cons, Option.some.injEq] at starts
      subst starts
      obtain ⟨⟨inside', after'⟩, cut, eq⟩ := Fallible.map_eq_ok_iff.mp h
      simp only [Prod.mk.injEq, Option.some.injEq] at eq
      obtain ⟨rfl, rfl⟩ := eq
      obtain ⟨closer, rest_eq⟩ := eq_of_cutPair (Role.of_eq_opens_iff.mpr rfl) cut
      exact ⟨closer, by rw [rest_eq]⟩
  · simp at h

/-- What is left after taking a pair is an ending of the text. -/
theorem suffix_of_takePair {d : Delimiter} {text after : Text} {inside : Option Text}
    (h : takePair d text = .ok (inside, after)) : after <:+ text := by
  cases inside with
  | some inside =>
    obtain ⟨closer, rfl⟩ := eq_of_takePair h
    exact ⟨d.opener :: (inside ++ [closer]), by simp⟩
  | none =>
    unfold takePair at h
    split at h
    · obtain ⟨pair, _, eq⟩ := Fallible.map_eq_ok_iff.mp h
      simp at eq
    · simp only [Except.ok.injEq, Prod.mk.injEq] at h
      obtain ⟨_, rfl⟩ := h
      exact List.suffix_rfl

/-- Square brackets that end a run of items are the end of its text. -/
theorem eq_of_lastBrackets {items : List Item} {element inside : Text}
    (plain : ∀ item ∈ items, item.ch ≠ Quoted.mark → item.body = [])
    (h : lastBrackets items = some (element, inside)) :
    Item.textOf items =
      element ++ Delimiter.bracket.opener :: inside ++ [Delimiter.bracket.closer] := by
  unfold lastBrackets at h
  split at h
  · simp at h
  · next last before reversed =>
    split at h
    · next last_closes =>
      simp only [Option.map_eq_some_iff, Prod.exists, Prod.mk.injEq] at h
      obtain ⟨insideItems, elementItems, cut, rfl, rfl⟩ := h
      obtain ⟨opener, opens, before_eq, _⟩ := eq_of_cutAt cut
      simp only [Item.isTop, Bool.and_eq_true, beq_iff_eq] at last_closes opens
      have items_eq : items =
          elementItems.reverse ++ opener :: insideItems.reverse ++ [last] := by
        have := congrArg List.reverse reversed
        simpa [before_eq] using this
      have opener_body : opener.body = [] := by
        apply plain
        · simp [items_eq]
        · rw [opens.2]; decide
      have last_body : last.body = [] := by
        apply plain
        · simp [items_eq]
        · rw [last_closes.2]; decide
      rw [items_eq]
      simp [Item.text, opener_body, last_body, opens.2, last_closes.2]
    · simp at h

/-- A cut at the last square brackets loses nothing. -/
theorem eq_of_cutLastBrackets {text element inside : Text}
    (h : cutLastBrackets text = .ok (some (element, inside))) :
    text = element ++ Delimiter.bracket.opener :: inside ++ [Delimiter.bracket.closer] := by
  unfold cutLastBrackets at h
  split at h
  · obtain ⟨items, scanned, found⟩ := Fallible.map_eq_ok_iff.mp h
    rw [eq_textOf_of_complete scanned]
    apply eq_of_lastBrackets _ found
    intro item mem not_quote
    have items_eq : items = (of text).items := by
      unfold complete at scanned
      split at scanned
      · exact (Except.ok.inj scanned).symm
      · simp at scanned
    rw [items_eq, of_eq_scanFrom] at mem
    exact body_eq_nil_of_mem_scanFrom mem not_quote
  · simp at h

end TypeShape.Scan
