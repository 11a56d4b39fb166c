import TypeShape.Proofs.DelimiterFree

/-!
# Precedence

The reader looks for a union before an intersection, and for both before an array. That order is
found again when the parts are read: an operand or an element never has a form that was looked for
before that of the whole (`parts_bind_tighter`), though parentheses around it may hide one.
-/

namespace TypeShape

/-- The operator between the parts of a form. -/
def Kind.operator? : Kind → Option Char
  | .union => some '|'
  | .intersection => some '&'
  | .generic | .array | .group => none

/-- The operators that would take the parts of a form apart. -/
def Kind.loose : Kind → List Char
  | .union => ['|']
  | .intersection | .array => ['|', '&']
  | .generic | .group => []

namespace Descriptor

variable {cc : Classifier} {degroup : Bool} {text part : Text} {d : Descriptor} {c : Char}

/-- Operands have no outer characters that the segments do not have. -/
lemma outer_of_operands (free : cc.DelimiterFree) {segments results : List Text}
    (outer : ∀ segment ∈ segments, Outer (· ≠ c) segment)
    (h : operands cc segments = .ok results) : ∀ result ∈ results, Outer (· ≠ c) result := by
  intro result mem
  obtain ⟨segment, inSegments, _, rfl⟩ := exists_of_mem_operands h mem
  exact (outer segment inSegments).trim fun _ blank => free.plain blank

/-- The operators that would take a part apart do not stand outside of its delimiters. -/
lemma Ungrouped.outer_of_loose (free : cc.DelimiterFree) (h : Ungrouped cc text d)
    (loose : c ∈ d.kind.loose) : ∀ part ∈ d.parts, Outer (· ≠ c) part := by
  cases h with
  | union bars _ trimmed =>
    cases List.mem_singleton.mp loose
    exact outer_of_operands free bars.free trimmed
  | intersection no_bar amps _ trimmed =>
    apply outer_of_operands free _ trimmed
    rcases List.mem_pair.mp loose with rfl | rfl
    · exact amps.outer rfl no_bar
    · exact amps.free
  | array no_bar no_amp before _ _ eq outcome =>
    obtain ⟨size, rfl, _⟩ := exists_of_arrayOutcome outcome
    have whole : Outer (· ≠ c) text := by
      rcases List.mem_pair.mp loose with rfl | rfl
      · exact no_bar
      · exact no_amp
    rw [eq] at whole
    intro part mem
    cases List.mem_singleton.mp mem
    exact (whole.of_append before).1.trim fun _ blank => free.plain blank
  | generic _ _ _ generic =>
    obtain ⟨_, _, _, _, _, _, _, _, _, _, _, _, _, _, rfl⟩ := exists_of_readGeneric generic
    cases loose

/-- A union or an intersection has its operator outside of all delimiters. -/
lemma operator_ne_of_outer (free : cc.DelimiterFree) (outer : Outer (· ≠ c) text)
    (h : read cc false text = .ok d) : d.kind.operator? ≠ some c := by
  have trimmed : Outer (· ≠ c) (cc.trim text) := outer.trim fun _ blank => free.plain blank
  intro operator
  rcases enclosed_or_ungrouped (readTrimmed_of_read h) with ⟨_, _, _, _, rfl⟩ | ⟨_, ungrouped⟩
  · cases operator
  · cases ungrouped with
    | union bars several _ =>
      cases operator
      have few := (Scan.length_segments_lt_two_iff rfl bars).mpr trimmed
      omega
    | intersection _ amps several _ =>
      cases operator
      have few := (Scan.length_segments_lt_two_iff rfl amps).mpr trimmed
      omega
    | array _ _ _ _ _ _ outcome =>
      obtain ⟨size, rfl, _⟩ := exists_of_arrayOutcome outcome
      cases operator
    | generic _ _ _ generic =>
      obtain ⟨_, _, _, _, _, _, _, _, _, _, _, _, _, _, rfl⟩ := exists_of_readGeneric generic
      cases operator

/-- A part of a descriptor does not read as a form whose operator would take it apart. -/
lemma operator_of_mem_parts (free : cc.DelimiterFree) (h : read cc degroup text = .ok d)
    (mem : part ∈ d.parts) {d' : Descriptor} (h' : read cc false part = .ok d')
    (loose : c ∈ d.kind.loose) : d'.kind.operator? ≠ some c := by
  obtain ⟨last, _, read_last⟩ := exists_read_of_read h
  apply operator_ne_of_outer free _ h'
  rcases enclosed_or_ungrouped (readTrimmed_of_read read_last) with
    ⟨_, _, _, _, rfl⟩ | ⟨_, ungrouped⟩
  · cases loose
  · exact ungrouped.outer_of_loose free loose part mem

/-- Reading the parts keeps to the precedence of the forms, whatever stands between delimiters or
quotation marks and whatever is trimmed off. An operand of a union is no union, an operand of an
intersection and an element of an array are neither a union nor an intersection. -/
theorem parts_bind_tighter (free : cc.DelimiterFree) (parsed : parse cc degroup text = .ok d)
    (mem : part ∈ d.parts) {d' : Descriptor} (reparsed : parse cc false part = .ok d') :
    (d.kind = .union → d'.kind ≠ .union) ∧
    (d.kind = .intersection → d'.kind ≠ .union ∧ d'.kind ≠ .intersection) ∧
    (d.kind = .array → d'.kind ≠ .union ∧ d'.kind ≠ .intersection) := by
  have tighter {kind : Kind} {c : Char} (loose : c ∈ d.kind.loose)
      (operator : kind.operator? = some c) : d'.kind ≠ kind := by
    rintro rfl
    exact operator_of_mem_parts free (parse_eq_ok_iff.mp parsed) mem (parse_eq_ok_iff.mp reparsed)
      loose operator
  refine ⟨fun union => ?_, fun intersection => ?_, fun array => ?_⟩
  · exact tighter (by simp [union, Kind.loose]) rfl
  · constructor
    · exact tighter (by simp [intersection, Kind.loose]) rfl
    · exact tighter (by simp [intersection, Kind.loose]) rfl
  · constructor
    · exact tighter (by simp [array, Kind.loose]) rfl
    · exact tighter (by simp [array, Kind.loose]) rfl

/-- The alternatives in an element are hidden by their parentheses, those in an argument by its
delimiters. -/
theorem parts_bind_tighter_hidden :
    Classifier.standard.DelimiterFree ∧
      parse .standard true "( (a|b)[2] & c<d|e> )".toList =
        .ok (.intersection ["(a|b)[2]".toList, "c<d|e>".toList]) ∧
      parse .standard false "(a|b)[2]".toList = .ok (.array "(a|b)".toList (some ['2'])) ∧
      (Descriptor.array "(a|b)".toList (some ['2'])).kind ≠ .union ∧
      parse .standard false "(a|b)".toList = .ok (.group "a|b".toList) ∧
      (Descriptor.group "a|b".toList).kind ≠ .union := by
  have free := Classifier.standard_ownSymbols.delimiterFree
  have whole : parse .standard true "( (a|b)[2] & c<d|e> )".toList =
      .ok (.intersection ["(a|b)[2]".toList, "c<d|e>".toList]) := by
    decide +kernel
  have operand : parse .standard false "(a|b)[2]".toList =
      .ok (.array "(a|b)".toList (some ['2'])) := by
    decide +kernel
  have element : parse .standard false "(a|b)".toList = .ok (.group "a|b".toList) := by
    decide +kernel
  have in_whole := (parts_bind_tighter free whole (by simp [parts, names]) operand).2.1 rfl
  have in_operand := (parts_bind_tighter free operand (by simp [parts, names]) element).2.2 rfl
  exact ⟨free, whole, operand, in_whole.1, element, in_operand.1⟩

end Descriptor
end TypeShape
