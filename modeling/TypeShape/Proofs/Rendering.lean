import TypeShape.Proofs.Canonical

/-!
# Canonical texts are parts

The canonical text of a canonical descriptor is not blank and has no blank ends, and outside of its
delimiters it has only the operators of its form (`part_render`). So it can in turn be a part of
another descriptor.
-/

namespace TypeShape

/-- A character that can stand outside of the delimiters of a canonical text of the form. -/
def Kind.Shows (kind : Kind) (cc : Classifier) (c : Char) : Prop :=
  cc.Allowed c ∧ (c = '|' → kind = .union) ∧ (c = '&' → kind = .union ∨ kind = .intersection)

variable {cc : Classifier} {p q : Char → Prop} {text : Text} {texts : List Text}

/-- A character of a class can stand there for every form. -/
lemma Classifier.OwnSymbols.shows (own : cc.OwnSymbols) {cls : CharClass} {c : Char} (kind : Kind)
    (h : cc cls c = true) : kind.Shows cc c := by
  have no_punct := own.not_punctuation h
  refine ⟨.inr ⟨cls, h⟩, ?_, ?_⟩
  · rintro rfl
    exact absurd (by decide) no_punct
  · rintro rfl
    exact absurd (by decide) no_punct

/-- Commas cannot stand outside of delimiters. -/
lemma Classifier.OwnSymbols.ne_comma (own : cc.OwnSymbols) {c : Char} (allowed : cc.Allowed c) :
    c ≠ ',' := by
  rintro rfl
  rcases allowed with mem | ⟨cls, accepts⟩
  · revert mem
    decide
  · exact own.not_punctuation accepts (by decide)

/-- Delimiters can stand there for every form. -/
lemma Delimiter.shows (cc : Classifier) (d : Delimiter) (kind : Kind) :
    kind.Shows cc d.opener ∧ kind.Shows cc d.closer := by
  cases d with
  | paren => exact ⟨⟨.inl (by decide), nofun, nofun⟩, ⟨.inl (by decide), nofun, nofun⟩⟩
  | angle => exact ⟨⟨.inl (by decide), nofun, nofun⟩, ⟨.inl (by decide), nofun, nofun⟩⟩
  | bracket => exact ⟨⟨.inl (by decide), nofun, nofun⟩, ⟨.inl (by decide), nofun, nofun⟩⟩

namespace Part

/-- A weaker condition on the outer characters holds as well. -/
lemma mono (h : Part p text) (imp : ∀ c, p c → q c) : Part q text :=
  ⟨h.ne_nil, h.trimmed, h.outer.mono imp⟩

/-- A part is trimmed already. -/
lemma trim_eq (own : cc.OwnSymbols) (h : Part p text) : cc.trim text = text := by
  rw [own.trim_eq]
  exact h.trimmed.trim_eq

/-- Parts with separators between them are a part. -/
lemma join {separator : Char} (plain : Role.of separator = .plain) (mark : p separator)
    (ne : texts ≠ []) (parts : ∀ text ∈ texts, Part p text) :
    Part p (Text.join [separator] texts) := by
  have outer := Outer.join plain mark fun text mem => (parts text mem).outer
  induction texts with
  | nil => exact absurd rfl ne
  | cons first rest ih =>
    have part := parts first (by simp)
    by_cases last : rest = []
    · subst last
      exact part
    · have others : ∀ text ∈ rest, Part p text := fun text mem => parts text (by simp [mem])
      have rest_part := ih last others
        (Outer.join plain mark fun text mem => (others text mem).outer)
      refine ⟨?_, ?_, outer⟩
      · rw [Text.join_cons _ _ last]
        simp [part.ne_nil]
      · rw [Text.join_cons _ _ last]
        exact part.trimmed.around part.ne_nil rest_part.trimmed rest_part.ne_nil _

/-- Parts without the separator are the segments of what they are joined to. -/
lemma segments {separator : Char} (ne : texts ≠ []) (parts : ∀ text ∈ texts, Part p text)
    (free : ∀ c, p c → c ≠ separator) : Segments separator (Text.join [separator] texts) texts where
  ne_nil := ne
  join_eq := rfl
  free text mem := (parts text mem).outer.mono free

end Part

namespace Descriptor

variable {word symbols name : Text} {args : List Text} {parameters : Parameters}

/-- Flag symbols are shown as they are. -/
lemma renderFlags_symbols (own : cc.OwnSymbols) (symbol : ∀ c ∈ symbols, cc .flagSymbol c = true) :
    renderFlags symbols = symbols := by
  have no_word : ([] ++ symbols).takeWhile isWordFlag = [] :=
    Text.takeWhile_append_eq nofun (own.word_ends symbol)
  rw [List.nil_append] at no_word
  unfold renderFlags
  rw [no_word]

/-- A flag word is shown with a colon. -/
lemma renderFlags_append (own : cc.OwnSymbols) (ne : word ≠ [])
    (worded : ∀ c ∈ word, isWordFlag c = true) (symbol : ∀ c ∈ symbols, cc .flagSymbol c = true) :
    renderFlags (word ++ symbols) = word ++ ':' :: symbols := by
  have ends := own.word_ends symbol
  obtain ⟨c, rest, rfl⟩ := List.exists_cons_of_ne_nil ne
  unfold renderFlags
  rw [Text.takeWhile_append_eq worded ends, Text.dropWhile_append_eq worded ends]

/-- What stands before the parameters of a generic: colons and characters of classes. -/
lemma front_chars (own : cc.OwnSymbols) (worded : ∀ c ∈ word, isWordFlag c = true)
    (symbol : ∀ c ∈ symbols, cc .flagSymbol c = true) (is_name : cc.Name name) :
    ∀ c ∈ renderFlags (word ++ symbols) ++ name,
      c = ':' ∨ ∃ cls, cls ≠ .whitespace ∧ cc cls c = true := by
  intro c mem
  rcases List.mem_append.mp mem with mem | mem
  · by_cases ne : word = []
    · rw [ne, List.nil_append, renderFlags_symbols own symbol] at mem
      exact .inr ⟨.flagSymbol, by simp, symbol c mem⟩
    · rw [renderFlags_append own ne worded symbol] at mem
      rcases List.mem_append.mp mem with mem | mem
      · refine .inr ⟨.flagWord, by simp, ?_⟩
        rw [own.flagWord_eq]
        exact worded c mem
      · rcases List.mem_cons.mp mem with rfl | mem
        · exact .inl rfl
        · exact .inr ⟨.flagSymbol, by simp, symbol c mem⟩
  · rcases is_name.chars own c mem with accepts | accepts
    · exact .inr ⟨.nameChar, by simp, accepts⟩
    · exact .inr ⟨.namespaceSeparator, by simp, accepts⟩

/-- What stands before the parameters of a generic has no blank characters. -/
lemma front_part (own : cc.OwnSymbols) (worded : ∀ c ∈ word, isWordFlag c = true)
    (symbol : ∀ c ∈ symbols, cc .flagSymbol c = true) (is_name : cc.Name name) :
    Part (Kind.generic.Shows cc) (renderFlags (word ++ symbols) ++ name) where
  ne_nil := by simp [is_name.ne_nil]
  trimmed := by
    apply Text.trimmed_of_not_blank
    intro c mem
    rcases front_chars own worded symbol is_name c mem with rfl | ⟨cls, ne, accepts⟩
    · rfl
    · exact own.not_blank accepts ne
  outer := by
    apply Outer.of_plain
    intro c mem
    rcases front_chars own worded symbol is_name c mem with rfl | ⟨cls, _, accepts⟩
    · exact ⟨rfl, .inl (by decide), nofun, nofun⟩
    · exact ⟨own.plain accepts, own.shows _ accepts⟩

end Descriptor

/-- Nothing, or a balanced text between the delimiters. -/
def Delimiter.Wraps (d : Delimiter) (text : Text) : Prop :=
  text = [] ∨ ∃ inside, Balanced inside ∧ text = d.opener :: (inside ++ [d.closer])

namespace Delimiter.Wraps

variable {d : Delimiter}

/-- What is wrapped begins with the opening delimiter. -/
lemma head? (h : d.Wraps text) {c : Char} (head : text.head? = some c) : c = d.opener := by
  rcases h with rfl | ⟨inside, _, rfl⟩
  · cases head
  · cases head
    rfl

/-- What is wrapped ends with the closing delimiter. -/
lemma getLast? (h : d.Wraps text) {c : Char} (last : text.getLast? = some c) : c = d.closer := by
  rcases h with rfl | ⟨inside, _, rfl⟩
  · cases last
  · rw [← List.cons_append, List.getLast?_concat] at last
    cases last
    rfl

/-- A wrapped text can stand at the end of a part. -/
lemma part_append {kind : Kind} {front : Text} (h : d.Wraps text)
    (part : Part (kind.Shows cc) front) : Part (kind.Shows cc) (front ++ text) := by
  rcases h with rfl | ⟨inside, balanced, rfl⟩
  · rw [List.append_nil]
    exact part
  · have not_blank : Text.isBlank d.opener = false ∧ Text.isBlank d.closer = false := by
      cases d <;> decide
    exact {
      ne_nil := by simp
      trimmed := part.trimmed.append (.wrap inside not_blank.1 not_blank.2)
      outer := part.outer.append (.pair balanced (d.shows cc kind).1 (d.shows cc kind).2) }

end Delimiter.Wraps

namespace Descriptor

/-- Parameters are shown between parentheses. -/
lemma wraps_renderParameters (own : cc.OwnSymbols) {parameters : Parameters}
    (proper : parameters.Proper cc) : Delimiter.paren.Wraps (renderParameters parameters) := by
  unfold renderParameters
  split
  · exact .inl rfl
  · exact .inr ⟨_, Parameters.balanced_write own proper, rfl⟩

/-- Generic arguments are shown between angle brackets. -/
lemma wraps_renderArgs {args : List Text} (parts : ∀ arg ∈ args, Part (· ≠ ',') arg) :
    Delimiter.angle.Wraps (renderArgs args) := by
  cases args with
  | nil => exact .inl rfl
  | cons first rest =>
    refine .inr ⟨_, balanced_iff_outer.mpr (.join rfl trivial ?_), rfl⟩
    exact fun arg mem => balanced_iff_outer.mp (parts arg mem).outer.balanced

/-- The digits of a size are balanced. -/
lemma balanced_size {size : Option Text}
    (fits : ∀ digits, size = some digits → Decimal.Fits digits) : Balanced (size.getD []) := by
  cases size with
  | none => exact ⟨_, .nil⟩
  | some digits =>
    have numeral := (fits digits rfl).1
    simp only [Decimal.isNumeral, Bool.and_eq_true, List.all_eq_true] at numeral
    refine ⟨_, Nested.of_plain fun c mem => Classifier.plain_of_not_punctuation ?_⟩
    intro punct
    have no_digit : ∀ c ∈ Classifier.punctuation, c.isDigit = false :=
      Text.forall_of_all (by decide)
    have digit := numeral.2 c mem
    rw [no_digit c punct] at digit
    cases digit

/-- A generic is written as its flags, its name, its parameters and its arguments. -/
lemma render_generic (flags name : Text) (args : List Text) (parameters : Parameters) :
    (generic flags name args parameters).render =
      renderFlags flags ++ name ++ (renderParameters parameters ++ renderArgs args) :=
  List.append_assoc _ _ _

/-- An array is written as its element and its size in brackets, which are empty without a size. -/
lemma render_array (element : Text) (size : Option Text) :
    (array element size).render = element ++ '[' :: (size.getD [] ++ [']']) := by
  simp [render]

/-- The canonical text of a canonical descriptor can be a part in turn. -/
theorem part_render (own : cc.OwnSymbols) {d : Descriptor} (h : Canonical cc d) :
    Part (d.kind.Shows cc) d.render := by
  cases h with
  | @generic word symbols name args parameters worded symbol is_name _ proper parts =>
    have front := front_part own worded symbol is_name
    have listed := (wraps_renderParameters own proper).part_append front
    exact (wraps_renderArgs parts).part_append listed
  | @array element size part fits =>
    have shown : Part (Kind.array.Shows cc) element := part.mono fun c ⟨allowed, no_bar, no_amp⟩ =>
      ⟨allowed, fun eq => absurd eq no_bar, fun eq => absurd eq no_amp⟩
    have wraps : Delimiter.bracket.Wraps ('[' :: (size.getD [] ++ [']'])) :=
      .inr ⟨_, balanced_size fits, rfl⟩
    rw [render_array]
    exact wraps.part_append shown
  | @group inner part =>
    exact {
      ne_nil := List.cons_ne_nil _ _
      trimmed := .wrap inner rfl rfl
      outer := .pair part.outer.balanced (Delimiter.paren.shows cc .group).1
        (Delimiter.paren.shows cc .group).2 }
  | @union operands several parts =>
    have ne : operands ≠ [] := by
      rintro rfl
      simp at several
    refine Part.join rfl ⟨.inl (by decide), fun _ => rfl, nofun⟩ ne fun operand mem => ?_
    exact (parts operand mem).mono fun c ⟨allowed, no_bar⟩ =>
      ⟨allowed, fun eq => absurd eq no_bar, fun _ => .inl rfl⟩
  | @intersection operands several parts =>
    have ne : operands ≠ [] := by
      rintro rfl
      simp at several
    refine Part.join rfl ⟨.inl (by decide), nofun, fun _ => .inr rfl⟩ ne fun operand mem => ?_
    exact (parts operand mem).mono fun c ⟨allowed, no_bar, no_amp⟩ =>
      ⟨allowed, fun eq => absurd eq no_bar, fun eq => absurd eq no_amp⟩

end Descriptor
end TypeShape
