import TypeShape.Outline
import TypeShape.Proofs.FaithfulMemo
import TypeShape.Proofs.Preorder

/-!
# Outlines are walks over trees

The report reads every text through one memo that all of its outlines share, and an outline ends at
the first part that is rejected, however deep. Still it is the report that one gets without a memo, by
walking over the tree of each text on its own (`report_eq`): the memo stays faithful on the way
(`Follows`), and an outline that ended early is the beginning of the walk.
-/

namespace TypeShape.Outline

/-- The lines for the nodes of a tree up to the first rejected text, and its rejection. -/
def walk : List (Nat × Except Rejection Descriptor) → List Text × Option Rejection
  | [] => ([], none)
  | (depth, .ok d) :: nodes => (line depth d :: (walk nodes).1, (walk nodes).2)
  | (_, .error rejection) :: _ => ([], some rejection)

/-- The lines for one text, from a walk over its tree. -/
def walkLines (text : Text) : List Text :=
  let (lines, failure) := walk (Tree.preorder 1 (Tree.ofText .standard true text))
  text :: lines ++ (failure.map fun rejection => ' ' :: ' ' :: rejection.message).toList

/-- The rejection of a text that is rejected. -/
def rejection? {α : Type} : Except Rejection α → Option Rejection
  | .ok _ => none
  | .error rejection => some rejection

/-- The line for a malformed text. -/
def malformedLine (text : Text) : Text :=
  optionalLiteral ((rejection? (Descriptor.parse .standard false text)).map Rejection.message)

variable {depth : Nat} {memo : Memo} {text : Text} {texts : List Text}
  {front back : List (Nat × Except Rejection Descriptor)} {rejection : Rejection}

/-- A walk does not go beyond a rejected text. -/
lemma walk_append_of_some (h : (walk front).2 = some rejection) :
    walk (front ++ back) = walk front := by
  fun_induction walk front with
  | case1 => cases h
  | case2 depth d nodes ih => rw [List.cons_append, walk, ih h]
  | case3 => rfl

/-- A walk without a rejected text goes on. -/
lemma walk_append_of_none (h : (walk front).2 = none) :
    walk (front ++ back) = ((walk front).1 ++ (walk back).1, (walk back).2) := by
  fun_induction walk front with
  | case1 => rfl
  | case2 depth d nodes ih =>
    rw [List.cons_append, walk, ih h]
    rfl
  | case3 => cases h

/-- An outline goes along some nodes, and leaves a faithful memo. -/
structure Follows (outline : Lines) (nodes : List (Nat × Except Rejection Descriptor)) : Prop where
  faithful : outline.memo.Faithful .standard
  walk_eq : walk nodes = (outline.lines, outline.failure)

/-- Outlines one after the other go along the trees one after the other. -/
lemma follows_inOrder {outline : Memo → Text → Lines}
    (each : ∀ text ∈ texts, ∀ memo : Memo, memo.Faithful .standard →
      Follows (outline memo text) (Tree.preorder depth (Tree.ofText .standard true text)))
    (faithful : memo.Faithful .standard) :
    Follows (inOrder outline memo texts)
      (Tree.preorderAll depth (texts.map (Tree.ofText .standard true))) := by
  induction texts generalizing memo with
  | nil => exact ⟨faithful, rfl⟩
  | cons text texts ih =>
    have first := each text (by simp) memo faithful
    have first_failure := congrArg Prod.snd first.walk_eq
    -- whether the walk goes on after the first tree is told by the failure of its outline
    rw [List.map_cons, Tree.preorderAll, inOrder]
    cases failure : (outline memo text).failure with
    | some rejection =>
      rw [failure] at first_failure
      refine ⟨first.faithful, ?_⟩
      rw [walk_append_of_some first_failure, first.walk_eq, failure]
    | none =>
      rw [failure] at first_failure
      have rest := ih (fun other mem => each other (by simp [mem])) first.faithful
      refine ⟨rest.faithful, ?_⟩
      rw [walk_append_of_none first_failure, first.walk_eq, rest.walk_eq]

/-- The outline of a text goes along its tree, if there are levels enough for all its parts. -/
lemma follows_ofText {fuel : Nat} (enough : text.length < fuel) (faithful : memo.Faithful .standard) :
    Follows (ofText fuel depth memo text)
      (Tree.preorder depth (Tree.ofText .standard true text)) := by
  induction fuel generalizing depth memo text with
  | zero => omega
  | succ fuel ih =>
    have kept := faithful.parse ⟨text, true⟩
    have answer_eq := faithful.answer_parse ⟨text, true⟩
    rw [ofText]
    cases answer : (memo.parse .standard ⟨text, true⟩).answer with
    | error rejection =>
      rw [answer] at answer_eq
      rw [Tree.ofText_of_error answer_eq.symm]
      exact ⟨kept, rfl⟩
    | ok found =>
      rw [answer] at answer_eq
      have parsed : Descriptor.parse .standard true text = .ok found.descriptor := answer_eq.symm
      have each : ∀ part ∈ found.descriptor.parts, ∀ memo : Memo, memo.Faithful .standard →
          Follows (ofText fuel (depth + 1) memo part)
            (Tree.preorder (depth + 1) (Tree.ofText .standard true part)) := by
        intro part mem memo faithful
        have shorter := Descriptor.length_lt_of_mem_parts parsed mem
        exact ih (by omega) faithful
      have parts := follows_inOrder each kept
      rw [Tree.ofText_of_ok parsed, Tree.preorder]
      exact ⟨parts.faithful, by rw [walk, parts.walk_eq]⟩

/-- The lines for one text are those of the walk over its tree, and the memo stays faithful. -/
lemma linesFor_eq (faithful : memo.Faithful .standard) (text : Text) :
    (linesFor memo text).1.Faithful .standard ∧ (linesFor memo text).2 = walkLines text := by
  have follows : Follows (ofText (text.length + 1) 1 memo text) _ :=
    follows_ofText (Nat.lt_succ_self _) faithful
  refine ⟨follows.faithful, ?_⟩
  rw [walkLines, follows.walk_eq, linesFor]
  cases (ofText (text.length + 1) 1 memo text).failure <;> rfl

/-- The lines for several texts are those of their walks, though the later ones find the memo
filled. -/
lemma linesForAll_eq (faithful : memo.Faithful .standard) (texts : List Text) :
    (linesForAll memo texts).1.Faithful .standard ∧
      (linesForAll memo texts).2 = texts.flatMap walkLines := by
  induction texts generalizing memo with
  | nil => exact ⟨faithful, rfl⟩
  | cons text texts ih =>
    obtain ⟨kept, first⟩ := linesFor_eq faithful text
    obtain ⟨kept_after, rest⟩ := ih kept
    exact ⟨kept_after, congrArg₂ (· ++ ·) first rest⟩

/-- The lines for the malformed texts do not depend on the memo. -/
lemma malformedLines_eq (faithful : memo.Faithful .standard) :
    malformedLines memo texts = texts.map malformedLine := by
  induction texts generalizing memo with
  | nil => rfl
  | cons text texts ih =>
    have kept := faithful.parse ⟨text, false⟩
    have answer_eq := faithful.answer_parse ⟨text, false⟩
    rw [malformedLines, List.map_cons, ih kept, malformedLine, ← answer_eq]
    cases (memo.parse .standard ⟨text, false⟩).answer <;> rfl

/-- A line is two spaces for each level, what the descriptor is, and what it is made of. -/
lemma line_eq (depth : Nat) (d : Descriptor) :
    line depth d =
      (List.replicate depth [' ', ' ']).flatten ++ d.kind.label ++ ' ' :: describe d := by
  have spaces : (List.replicate depth (List.replicate 2 ' ')).flatten =
      List.replicate (depth * 2) ' ' := List.flatten_replicate_replicate
  rw [line, Nat.mul_comm, ← spaces]
  rfl

/-- The report is a walk over the tree of each text, one text after the other, and the lines for the
malformed texts. What ends the lines for a text is the rejection of the text itself, or that of a part
of the descriptor that the walk over this text has read one level above. The line of a descriptor is
indented by two spaces for each level. -/
theorem report_eq (texts : List Text) :
    report texts =
        (if texts.isEmpty then samples else texts).flatMap walkLines ++ malformed.map malformedLine ∧
      (∀ text level rejection,
        (level, .error rejection) ∈ Tree.preorder 1 (Tree.ofText .standard true text) →
          Descriptor.parse .standard true rejection.input = .error rejection ∧
          (level = 1 ∧ rejection.input = text ∨
            1 < level ∧ ∃ above source d, level = above + 2 ∧
              Tree.Reaches .standard true text above source ∧
              Descriptor.parse .standard true source = .ok d ∧
              (above + 1, .ok d) ∈ Tree.preorder 1 (Tree.ofText .standard true text) ∧
              rejection.input ∈ d.parts)) ∧
      ∀ depth d, line depth d =
        (List.replicate depth [' ', ' ']).flatten ++ d.kind.label ++ ' ' :: describe d := by
  refine ⟨?_, ?_, line_eq⟩
  · obtain ⟨kept, lines_eq⟩ := linesForAll_eq (Memo.Faithful.new .standard none)
      (if texts.isEmpty then samples else texts)
    rw [← lines_eq, ← malformedLines_eq kept]
    rfl
  · intro text level rejection mem
    have input_eq {part : Text}
        (eq : Except.error rejection = Descriptor.parse .standard true part) :
        rejection.input = part := (Descriptor.parse_eq_error_iff.mp eq.symm).1
    rcases Tree.exists_part_of_mem_preorder mem with ⟨level_eq, eq⟩ |
      ⟨above, source, d, part, level_eq, reaches, parsed, inParts, eq⟩
    · rw [input_eq eq]
      exact ⟨eq.symm, .inl ⟨level_eq, rfl⟩⟩
    · have read_above : (above + 1, .ok d) ∈ Tree.preorder 1 (Tree.ofText .standard true text) :=
        Tree.mem_preorder_iff.mpr ⟨above, source, by omega, reaches, parsed.symm⟩
      rw [input_eq eq]
      exact ⟨eq.symm,
        .inr ⟨by omega, above, source, d, by omega, reaches, parsed, read_above, inParts⟩⟩

/-- The third alternative is not shown, because the second is rejected, one level below the union.
The text is shown twice, though the memo holds it the second time. -/
theorem report_eq_repeated :
    report ["a|(b||c)|d".toList, "a|(b||c)|d".toList] =
        ["a|(b||c)|d".toList, "  union of 3".toList, "    generic a".toList,
          "  invalid type descriptor \"(b||c)\": empty operand".toList,
          "a|(b||c)|d".toList, "  union of 3".toList, "    generic a".toList,
          "  invalid type descriptor \"(b||c)\": empty operand".toList,
          "Some(\"invalid type descriptor \\\"\\\": empty input\")".toList,
          "Some(\"invalid type descriptor \\\"int(\\\": unbalanced delimiters\")".toList,
          "Some(\"invalid type descriptor \\\"int||float\\\": empty operand\")".toList,
          "Some(\"invalid type descriptor \\\"int(max:1,max:2)\\\": duplicate parameter key\")"
            |>.toList] ∧
      (2, .error ⟨"(b||c)".toList, .emptyOperand⟩) ∈
        Tree.preorder 1 (Tree.ofText .standard true "a|(b||c)|d".toList) ∧
      Descriptor.parse .standard true "(b||c)".toList =
        .error ⟨"(b||c)".toList, .emptyOperand⟩ ∧
      ∃ above source d, 2 = above + 2 ∧
        Tree.Reaches .standard true "a|(b||c)|d".toList above source ∧
        Descriptor.parse .standard true source = .ok d ∧
        (above + 1, .ok d) ∈ Tree.preorder 1 (Tree.ofText .standard true "a|(b||c)|d".toList) ∧
        "(b||c)".toList ∈ d.parts := by
  obtain ⟨lines_eq, rejections, _⟩ := report_eq ["a|(b||c)|d".toList, "a|(b||c)|d".toList]
  have mem : (2, .error ⟨"(b||c)".toList, .emptyOperand⟩) ∈
      Tree.preorder 1 (Tree.ofText .standard true "a|(b||c)|d".toList) := by
    decide +kernel
  -- the rejected part is not the text itself, which is on level 1
  obtain ⟨rejected, (⟨root, _⟩ | ⟨_, below⟩)⟩ := rejections _ 2 _ mem
  · contradiction
  · exact ⟨lines_eq.trans (by decide +kernel), mem, rejected, below⟩

end TypeShape.Outline
