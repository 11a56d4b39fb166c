import TypeShape.Proofs.RoundTrip
import TypeShape.Tree

/-!
# Shapes

A `Shape` is a type as a tree from the start, where the reader only ever sees one level of a text.
The text of a shape applies the notation of each form at every level. If no operator would be taken
for one of another level, reading that text and all its parts gives back the shape
(`ofTree?_ofText`).
-/

namespace TypeShape

/-- A type, written out as a tree. -/
inductive Shape where
  | generic (word symbols name : Text) (parameters : Parameters) (args : List Shape)
  | array (element : Shape) (size : Option Text)
  | group (inner : Shape)
  | union (operands : List Shape)
  | intersection (operands : List Shape)

namespace Shape

/-- The form of the root. -/
def kind : Shape → Kind
  | generic .. => .generic
  | array .. => .array
  | group _ => .group
  | union _ => .union
  | intersection _ => .intersection

/-- A shape that the notation can tell apart from all others. -/
inductive WellFormed : Shape → Prop where
  | generic {word symbols name : Text} {parameters : Parameters} {args : List Shape} :
    (∀ c ∈ word, c.isAlphanum = true ∨ c = '_') →
    (∀ c ∈ symbols, c ∈ Classifier.standardSymbols) →
    Classifier.standard.Name name →
    parameters.Proper .standard →
    (∀ arg ∈ args, WellFormed arg) →
    WellFormed (.generic word symbols name parameters args)
  | array {element : Shape} {size : Option Text} :
    WellFormed element →
    element.kind ≠ .union →
    element.kind ≠ .intersection →
    (∀ digits, size = some digits → Decimal.Fits digits) →
    WellFormed (.array element size)
  | group {inner : Shape} :
    WellFormed inner →
    WellFormed (.group inner)
  | union {operands : List Shape} :
    2 ≤ operands.length →
    (∀ operand ∈ operands, WellFormed operand) →
    (∀ operand ∈ operands, operand.kind ≠ .union) →
    WellFormed (.union operands)
  | intersection {operands : List Shape} :
    2 ≤ operands.length →
    (∀ operand ∈ operands, WellFormed operand) →
    (∀ operand ∈ operands, operand.kind ≠ .union ∧ operand.kind ≠ .intersection) →
    WellFormed (.intersection operands)

mutual

/-- The root as a descriptor, with the texts of the other shapes as its parts. -/
def descriptor : Shape → Descriptor
  | generic word symbols name parameters args =>
    .generic (word ++ symbols) name (texts args) parameters
  | array element size => .array element.descriptor.render size
  | group inner => .group inner.descriptor.render
  | union operands => .union (texts operands)
  | intersection operands => .intersection (texts operands)

/-- The texts of several shapes. -/
def texts : List Shape → List Text
  | [] => []
  | shape :: shapes => shape.descriptor.render :: texts shapes

end

/-- The text of a shape, in the notation of each form at every level. -/
def text (shape : Shape) : Text :=
  shape.descriptor.render

mutual

/-- The tree that reading the text should give. -/
def tree : Shape → Tree
  | generic word symbols name parameters args =>
    .node (generic word symbols name parameters args).descriptor (trees args)
  | array element size => .node (array element size).descriptor [element.tree]
  | group inner => .node (group inner).descriptor [inner.tree]
  | union operands => .node (union operands).descriptor (trees operands)
  | intersection operands => .node (intersection operands).descriptor (trees operands)

/-- The trees of several shapes. -/
def trees : List Shape → List Tree
  | [] => []
  | shape :: shapes => shape.tree :: trees shapes

end

/-- The shape with the given descriptor at its root and the given shapes as parts. The flags are
divided where the characters of a flag word end. -/
def assemble? : Descriptor → List Shape → Option Shape
  | .generic flags name _ parameters, args =>
    some (generic (flags.takeWhile Descriptor.isWordFlag) (flags.dropWhile Descriptor.isWordFlag)
      name parameters args)
  | .array _ size, [element] => some (array element size)
  | .group _, [inner] => some (group inner)
  | .union _, operands => some (union operands)
  | .intersection _, operands => some (intersection operands)
  | _, _ => none

mutual

/-- The shape of a tree without rejected texts. -/
def ofTree? : Tree → Option Shape
  | .rejected _ => none
  | .node d children => (ofTrees? children).bind (assemble? d)

/-- The shapes of several trees. -/
def ofTrees? : List Tree → Option (List Shape)
  | [] => some []
  | tree :: trees =>
    (ofTree? tree).bind fun shape => (ofTrees? trees).map fun shapes => shape :: shapes

end

variable {shape : Shape} {shapes : List Shape}

/-- The texts of several shapes are the text of each. -/
lemma texts_eq_map (shapes : List Shape) : texts shapes = shapes.map text := by
  induction shapes with
  | nil => rfl
  | cons shape shapes ih =>
    rw [texts, ih]
    rfl

/-- The trees of several shapes are the tree of each. -/
lemma trees_eq_map (shapes : List Shape) : trees shapes = shapes.map tree := by
  induction shapes with
  | nil => rfl
  | cons shape shapes ih =>
    rw [trees, ih]
    rfl

/-- The descriptor of a shape has the form of the shape. -/
lemma kind_descriptor (shape : Shape) : shape.descriptor.kind = shape.kind := by
  cases shape <;> rfl

/-- The text of a shape can be a part of another one. -/
lemma part_text (canonical : Descriptor.Canonical .standard shape.descriptor) :
    Part (shape.kind.Shows .standard) shape.text := by
  rw [← kind_descriptor]
  exact Descriptor.part_render Classifier.standard_ownSymbols canonical

/-- The texts of shapes can be parts of another one, if it accepts what they show outside of
delimiters. -/
lemma part_of_mem_texts {p : Char → Prop}
    (canonical : ∀ child ∈ shapes, Descriptor.Canonical .standard child.descriptor)
    (imp : ∀ child ∈ shapes, ∀ c, child.kind.Shows .standard c → p c) :
    ∀ text ∈ texts shapes, Part p text := by
  rw [texts_eq_map]
  intro text mem
  obtain ⟨child, inShapes, rfl⟩ := List.mem_map.mp mem
  exact (part_text (canonical child inShapes)).mono (imp child inShapes)

namespace WellFormed

/-- A well-formed shape has a canonical descriptor at its root. -/
lemma canonical (h : WellFormed shape) : Descriptor.Canonical .standard shape.descriptor := by
  induction h with
  | @generic word symbols name parameters args worded symbol is_name proper _ ih =>
    refine .generic ?_ ?_ is_name (Classifier.not_symbol_of_name is_name) proper ?_
    · intro c mem
      simpa [Descriptor.isWordFlag] using worded c mem
    · exact fun c mem => List.contains_iff_mem.mpr (symbol c mem)
    · exact part_of_mem_texts ih fun _ _ c shows => Classifier.standard_ownSymbols.ne_comma shows.1
  | @array element size _ not_union not_intersection fits ih =>
    refine .array ((part_text ih).mono fun c shows => ?_) fits
    exact ⟨shows.1, fun eq => not_union (shows.2.1 eq),
      fun eq => (shows.2.2 eq).elim not_union not_intersection⟩
  | group _ ih => exact .group ((part_text ih).mono fun c _ => trivial)
  | @union operands several _ no_union ih =>
    refine .union (by simpa [texts_eq_map] using several) (part_of_mem_texts ih ?_)
    intro child mem c shows
    exact ⟨shows.1, fun eq => no_union child mem (shows.2.1 eq)⟩
  | @intersection operands several _ no_operator ih =>
    refine .intersection (by simpa [texts_eq_map] using several) (part_of_mem_texts ih ?_)
    intro child mem c shows
    obtain ⟨not_union, not_intersection⟩ := no_operator child mem
    exact ⟨shows.1, fun eq => not_union (shows.2.1 eq),
      fun eq => (shows.2.2 eq).elim not_union not_intersection⟩

/-- The text of a shape is read as the descriptor at its root. -/
lemma parse_text (h : WellFormed shape) :
    Descriptor.parse .standard false shape.text = .ok shape.descriptor :=
  Descriptor.parse_eq_ok_iff.mpr
    (Descriptor.read_render Classifier.standard_ownSymbols h.canonical)

/-- Reading the text of a shape all the way down gives its tree. -/
lemma ofText_text (h : WellFormed shape) : Tree.ofText .standard false shape.text = shape.tree := by
  have children (shapes : List Shape)
      (all : ∀ child ∈ shapes, Tree.ofText .standard false child.text = child.tree) :
      (texts shapes).map (Tree.ofText .standard false) = trees shapes := by
    rw [texts_eq_map, trees_eq_map, List.map_map]
    exact List.map_congr_left all
  induction h with
  | generic worded symbol is_name proper wellFormed ih =>
    rw [Tree.ofText_of_ok (generic worded symbol is_name proper wellFormed).parse_text]
    exact congrArg _ (children _ ih)
  | array wellFormed not_union not_intersection fits ih =>
    rw [Tree.ofText_of_ok (array wellFormed not_union not_intersection fits).parse_text]
    exact congrArg _ (congrArg (fun child => [child]) ih)
  | group wellFormed ih =>
    rw [Tree.ofText_of_ok (group wellFormed).parse_text]
    exact congrArg _ (congrArg (fun child => [child]) ih)
  | union several wellFormed no_union ih =>
    rw [Tree.ofText_of_ok (union several wellFormed no_union).parse_text]
    exact congrArg _ (children _ ih)
  | intersection several wellFormed no_operator ih =>
    rw [Tree.ofText_of_ok (intersection several wellFormed no_operator).parse_text]
    exact congrArg _ (children _ ih)

/-- The trees of shapes that are found again give these shapes. -/
lemma ofTrees?_trees (all : ∀ child ∈ shapes, ofTree? child.tree = some child) :
    ofTrees? (trees shapes) = some shapes := by
  induction shapes with
  | nil => rfl
  | cons shape shapes ih =>
    rw [trees, ofTrees?, all shape (by simp), ih fun child mem => all child (by simp [mem])]
    rfl

/-- The shape is found again in its tree. -/
lemma ofTree?_tree (h : WellFormed shape) : ofTree? shape.tree = some shape := by
  induction h with
  | @generic word symbols name parameters args worded symbol _ _ _ ih =>
    have own := Classifier.standard_ownSymbols
    have in_word : ∀ c ∈ word, Descriptor.isWordFlag c = true := by
      intro c mem
      simpa [Descriptor.isWordFlag] using worded c mem
    -- no flag symbol is a character of a flag word, so the flags divide in one way only
    have ends := own.word_ends fun c mem => List.contains_iff_mem.mpr (symbol c mem)
    rw [tree, ofTree?, ofTrees?_trees ih]
    simp only [Option.bind_some, descriptor, assemble?, Text.takeWhile_append_eq in_word ends,
      Text.dropWhile_append_eq in_word ends]
  | array _ _ _ _ ih =>
    rw [tree, ofTree?, ofTrees?, ih]
    rfl
  | group _ ih =>
    rw [tree, ofTree?, ofTrees?, ih]
    rfl
  | union _ _ _ ih =>
    rw [tree, ofTree?, ofTrees?_trees ih]
    rfl
  | intersection _ _ _ ih =>
    rw [tree, ofTree?, ofTrees?_trees ih]
    rfl

end WellFormed

/-- Reading the text of a well-formed shape all the way down meets no rejection and finds each
descriptor and the whole shape again. -/
theorem ofTree?_ofText (h : WellFormed shape) :
    Tree.ofText .standard false shape.text = shape.tree ∧
      ofTree? (Tree.ofText .standard false shape.text) = some shape := by
  have read := h.ofText_text
  refine ⟨read, ?_⟩
  rw [read]
  exact h.ofTree?_tree

/-- A name on its own. -/
def named (name : Text) : Shape :=
  .generic [] [] name .empty []

/-- A name alone is a well-formed shape. -/
lemma wellFormed_named {name : Text} (is_name : Classifier.standard.Name name) :
    WellFormed (named name) :=
  .generic nofun nofun is_name Parameters.proper_empty nofun

/-- All five forms, with flags, a quoted value and a size. -/
theorem ofTree?_ofText_nested :
    let shape := union
      [.generic ['x'] ['?'] ['A', '.', 'B'] ⟨[.named ['k'] ['v', ' ', '|']]⟩ [named ['C']],
        .array (.group (.intersection [named ['D'], named ['E']])) (some ['1', '2'])]
    WellFormed shape ∧
      shape.text = "x:?A.B(k:\"v |\")<C>|(D&E)[12]".toList ∧
      ofTree? (Tree.ofText .standard false "x:?A.B(k:\"v |\")<C>|(D&E)[12]".toList) =
        some shape := by
  intro shape
  have segment (c : Char) (start : Classifier.standard .nameStart c = true) :
      Classifier.standard.Identifier [c] := ⟨c, [], rfl, start, nofun⟩
  have single (c : Char) (start : Classifier.standard .nameStart c = true) :
      WellFormed (named [c]) :=
    wellFormed_named (.relative (.single (segment c start)))
  have first : WellFormed (.generic ['x'] ['?'] ['A', '.', 'B'] ⟨[.named ['k'] ['v', ' ', '|']]⟩
      [named ['C']]) := by
    refine .generic (Text.forall_of_all (by decide)) (Text.forall_of_all (by decide)) ?_
      ⟨by decide, ?_⟩ ?_
    · exact .relative (.cons (segment 'A' rfl) rfl (.single (segment 'B' rfl)))
    · rintro parameter (_ | ⟨_, ⟨⟩⟩) _ ⟨⟩
      exact segment 'k' rfl
    · rintro arg (_ | ⟨_, ⟨⟩⟩)
      exact single 'C' rfl
  have second : WellFormed (.array (.group (.intersection [named ['D'], named ['E']]))
      (some ['1', '2'])) := by
    refine .array (.group (.intersection (by decide) ?_ ?_)) nofun nofun ?_
    · rintro operand (_ | ⟨_, _ | ⟨_, ⟨⟩⟩⟩)
      · exact single 'D' rfl
      · exact single 'E' rfl
    · rintro operand (_ | ⟨_, _ | ⟨_, ⟨⟩⟩⟩)
      · exact ⟨nofun, nofun⟩
      · exact ⟨nofun, nofun⟩
    · rintro _ ⟨⟩
      exact ⟨by decide, by decide⟩
  have whole : WellFormed shape := by
    refine .union (by decide) ?_ ?_
    · rintro operand (_ | ⟨_, _ | ⟨_, ⟨⟩⟩⟩)
      · exact first
      · exact second
    · rintro operand (_ | ⟨_, _ | ⟨_, ⟨⟩⟩⟩)
      · nofun
      · nofun
  exact ⟨whole, by decide +kernel, (ofTree?_ofText whole).2⟩

end Shape
end TypeShape
