import TypeShape.Text

/-!
# Quoted values

A value may be written between double quotes, where a backslash takes the next character as it is.
`skip` finds the end of a quoted value and leaves its escapes alone, `read` also resolves them, and
`write` is the form that `read` undoes.
-/

namespace TypeShape.Quoted

/-- The character that opens and closes a quoted value. -/
def mark : Char := '"'

/-- The character that takes the next one as it is. -/
def escape : Char := '\\'

/-- Cuts the text after an opening mark at the mark that closes the value: the value as it is
written, and what follows. There is no such cut if the text ends first. -/
def skip : Text → Option (Text × Text)
  | [] => none
  | c :: rest =>
    if c = escape then
      match rest with
      | [] => none
      | taken :: rest => (skip rest).map fun (written, after) => (c :: taken :: written, after)
    else if c = mark then some ([], rest)
    else (skip rest).map fun (written, after) => (c :: written, after)

/-- Reads the value after an opening mark, with its escapes resolved, and gives what follows the
closing mark. There is no value if the text ends first. -/
def read : Text → Option (Text × Text)
  | [] => none
  | c :: rest =>
    if c = escape then
      match rest with
      | [] => none
      | taken :: rest => (read rest).map fun (value, after) => (taken :: value, after)
    else if c = mark then some ([], rest)
    else (read rest).map fun (value, after) => (c :: value, after)

/-- One character inside the marks. -/
def escaped (c : Char) : Text :=
  if c = mark ∨ c = escape then [escape, c] else [c]

/-- The value between marks. -/
def write (value : Text) : Text :=
  mark :: value.flatMap escaped ++ [mark]

/-- Skipping loses nothing: the written value, the closing mark and the rest are the text. -/
theorem eq_of_skip {text written after : Text} (h : skip text = some (written, after)) :
    text = written ++ mark :: after := by
  fun_induction skip text generalizing written with
  | case1 => simp at h
  | case2 => simp at h
  | case3 taken rest ih =>
    simp only [Option.map_eq_some_iff, Prod.mk.injEq, Prod.exists] at h
    obtain ⟨w, a, hw, rfl, rfl⟩ := h
    simp [ih hw]
  | case4 rest =>
    simp only [Option.some.injEq, Prod.mk.injEq] at h
    obtain ⟨rfl, rfl⟩ := h
    rfl
  | case5 c rest _ _ ih =>
    simp only [Option.map_eq_some_iff, Prod.mk.injEq, Prod.exists] at h
    obtain ⟨w, a, hw, rfl, rfl⟩ := h
    simp [ih hw]

/-- What follows a quoted value is shorter than the text after its opening mark. -/
theorem length_after_lt {text written after : Text} (h : skip text = some (written, after)) :
    after.length < text.length := by
  rw [eq_of_skip h]
  simp only [List.length_append, List.length_cons]
  omega

end TypeShape.Quoted
