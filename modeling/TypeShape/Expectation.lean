import TypeShape.Descriptor

/-!
# Expectations

An expectation says what reading a text should give: a form, the names, the flags and the parameters.
It is free of the rules that descriptors keep, so it can also ask for what no text gives. Whatever a
descriptor shows is in its expectation, so two descriptors with the same expectation are equal.
-/

namespace TypeShape

/-- What a descriptor is expected to be. -/
structure Expectation where
  /-- The form. -/
  kind : Kind
  /-- All names, in order. -/
  names : List Text
  /-- The flags. -/
  flags : Text
  /-- The parameters, in order. -/
  parameters : List Parameter
  deriving DecidableEq

namespace Expectation

/-- What is expected of a text that gives the descriptor. -/
def ofDescriptor (d : Descriptor) : Expectation :=
  ⟨d.kind, d.names, d.flags, d.parameters.toList⟩

/-- A generic. The first name is the primary one, and the others are its arguments. -/
def generic (flags : Text) (names : List Text) (parameters : List Parameter) : Expectation :=
  ⟨.generic, names, flags, parameters⟩

/-- A generic that is only a name. -/
def plain (name : Text) : Expectation :=
  generic [] [name] []

/-- An array with the size that is written for it, if one is. -/
def array (element : Text) (size : Option Text) : Expectation :=
  ⟨.array, [element], [], size.toList.map .positional⟩

/-- A group. -/
def group (inner : Text) : Expectation :=
  ⟨.group, [inner], [], []⟩

/-- A union. -/
def union (operands : List Text) : Expectation :=
  ⟨.union, operands, [], []⟩

/-- An intersection. -/
def intersection (operands : List Text) : Expectation :=
  ⟨.intersection, operands, [], []⟩

/-- The expectation with other names. -/
def withNames (want : Expectation) (names : List Text) : Expectation :=
  { want with names := names }

/-- Nothing of a descriptor is missing from its expectation. -/
theorem ofDescriptor_inj {d e : Descriptor} : ofDescriptor d = ofDescriptor e ↔ d = e := by
  refine ⟨fun same => ?_, fun same => same ▸ rfl⟩
  simp only [ofDescriptor, mk.injEq] at same
  obtain ⟨kinds, names, flags, entries⟩ := same
  replace entries : d.parameters = e.parameters := by
    cases h : d.parameters
    cases h' : e.parameters
    simp_all
  cases d <;> cases e <;> simp only [Descriptor.kind, reduceCtorEq] at kinds
  case array.array element size other otherSize =>
    simp only [Descriptor.names, List.cons.injEq, and_true] at names
    subst names
    cases size <;> cases otherSize <;>
      simp_all [Descriptor.parameters, Parameters.empty, Parameters.singleton]
  all_goals simp_all [Descriptor.names, Descriptor.flags, Descriptor.parameters]

end Expectation
end TypeShape
