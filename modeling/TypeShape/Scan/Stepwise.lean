import TypeShape.Scan

/-!
# Scanning step by step

A `Scanner` stands somewhere in a text and yields one item after the other, or the fault, after
which it yields nothing more. It is the scan with its steps apart: all that a scanner yields from
the beginning of a text is what `Scan.of` collects (`Scanner.yields_start`).
-/

namespace TypeShape

/-- What a scan finds, one after the other: its items, then the fault if there is one. -/
def Scan.outcomes (scan : Scan) : List (Except Reason Item) :=
  scan.items.map .ok ++ scan.fault.toList.map .error

/-- A scan between two of its steps. -/
structure Scanner where
  /-- What is left of the text. -/
  rest : Text
  /-- The delimiters that are open, innermost first. -/
  stack : List Delimiter
  /-- Whether the fault was found. -/
  failed : Bool

namespace Scanner

/-- A scanner at the beginning of a text. -/
def start (text : Text) : Scanner :=
  { rest := text, stack := [], failed := false }

/-- A step that finds the fault. -/
def fail (scanner : Scanner) (reason : Reason) : Except Reason Item × Scanner :=
  (.error reason, { scanner with failed := true })

/-- The next step: the item or the fault that it finds, and the scanner after it. There is no step
after a fault, nor at the end of a text when no delimiter is open. -/
def next? (scanner : Scanner) : Option (Except Reason Item × Scanner) :=
  if scanner.failed then none
  else
    match scanner.rest with
    | [] => if scanner.stack.isEmpty then none else some (scanner.fail .unbalanced)
    | c :: rest =>
      match Role.of c with
      | .quote =>
        match Quoted.skip rest with
        | none => some (scanner.fail .unterminatedQuote)
        | some (written, after) =>
          some (.ok ⟨c, written ++ [Quoted.mark], scanner.stack.length⟩,
            { scanner with rest := after })
      | .opens d =>
        some (.ok ⟨c, [], scanner.stack.length⟩,
          { scanner with rest := rest, stack := d :: scanner.stack })
      | .closes d =>
        match scanner.stack with
        | [] => some (scanner.fail .unbalanced)
        | top :: below =>
          if top = d then
            some (.ok ⟨c, [], scanner.stack.length - 1⟩,
              { scanner with rest := rest, stack := below })
          else some (scanner.fail .unbalanced)
      | .plain => some (.ok ⟨c, [], scanner.stack.length⟩, { scanner with rest := rest })

/-- All that a step can do. A fault is final. An item is cut from the beginning of the text that is
left, and its depth is the number of open delimiters; a closing delimiter is one of the pairs that
are counted, so it has one pair less around it. -/
theorem next?_cases {scanner after : Scanner} {found : Except Reason Item}
    (h : scanner.next? = some (found, after)) :
    scanner.failed = false ∧
      ((∃ reason, found = .error reason ∧ after.failed = true) ∨
        ∃ item, found = .ok item ∧ after.failed = false ∧
          scanner.rest = item.text ++ after.rest ∧
          item.depth + (if (Role.of item.ch).isCloser then 1 else 0) = scanner.stack.length) := by
  obtain ⟨text, stack, failed⟩ := scanner
  cases failed with
  | true => simp [next?] at h
  | false =>
    refine ⟨rfl, ?_⟩
    simp only [next?, Bool.false_eq_true, if_false] at h
    split at h
    · split at h
      · cases h
      · cases h
        exact .inl ⟨_, rfl, rfl⟩
    · next c rest =>
      split at h
      · next role =>
        split at h
        · cases h
          exact .inl ⟨_, rfl, rfl⟩
        · next written after skipped =>
          cases h
          have text_eq := Quoted.eq_of_skip skipped
          exact .inr ⟨_, rfl, rfl, by simp [Item.text, text_eq], by simp [role, Role.isCloser]⟩
      · next d role =>
        cases h
        exact .inr ⟨_, rfl, rfl, rfl, by simp [role, Role.isCloser]⟩
      · next d role =>
        split at h
        · cases h
          exact .inl ⟨_, rfl, rfl⟩
        · next top below =>
          split at h
          · cases h
            -- the pair that is closed is one of those that were open, so there is one to take off
            exact .inr ⟨_, rfl, rfl, rfl, by simp [role, Role.isCloser]⟩
          · cases h
            exact .inl ⟨_, rfl, rfl⟩
      · next role =>
        cases h
        exact .inr ⟨_, rfl, rfl, rfl, by simp [role, Role.isCloser]⟩

/-- A bound for the number of steps that are left. -/
def bound (scanner : Scanner) : Nat :=
  if scanner.failed then 0 else scanner.rest.length + 1

/-- A step brings a scanner closer to its end. -/
theorem bound_lt_of_next? {scanner after : Scanner} {found : Except Reason Item}
    (h : scanner.next? = some (found, after)) : after.bound < scanner.bound := by
  obtain ⟨running, ⟨_, _, failed⟩ | ⟨item, _, goes_on, rest_eq, _⟩⟩ := next?_cases h
  · simp [bound, running, failed]
  · simp only [bound, running, goes_on, rest_eq, Item.text, List.length_append, List.length_cons]
    simp

/-- All that a scanner yields from where it stands. -/
def yields (scanner : Scanner) : List (Except Reason Item) :=
  match step : scanner.next? with
  | none => []
  | some (found, after) =>
    have := bound_lt_of_next? step
    found :: after.yields
termination_by scanner.bound

/-- A scanner that cannot step yields nothing. -/
theorem yields_of_next?_eq_none {scanner : Scanner} (h : scanner.next? = none) :
    scanner.yields = [] := by
  rw [yields]
  split
  · rfl
  · next other => simp [h] at other

/-- A scanner that steps yields what it finds, and then what the scanner after the step yields. -/
theorem yields_of_next?_eq_some {scanner after : Scanner} {found : Except Reason Item}
    (h : scanner.next? = some (found, after)) : scanner.yields = found :: after.yields := by
  rw [yields]
  split
  · next other => simp [h] at other
  · next other =>
    rw [h] at other
    cases other
    rfl

/-- After a fault there is no step. -/
theorem next?_of_failed {scanner : Scanner} (failed : scanner.failed = true) :
    scanner.next? = none := by
  simp [next?, failed]

/-- A step that finds the fault is the last one. -/
theorem yields_of_fail {scanner : Scanner} {reason : Reason}
    (h : scanner.next? = some (scanner.fail reason)) : scanner.yields = [.error reason] := by
  rw [yields_of_next?_eq_some h, yields_of_next?_eq_none (next?_of_failed rfl)]

/-- A step that finds an item, before a scanner that yields what another scan finds. -/
theorem yields_of_item {scanner after : Scanner} {item : Item} {scan : Scan}
    (h : scanner.next? = some (.ok item, after)) (rest : after.yields = scan.outcomes) :
    scanner.yields = (Scan.cons item scan).outcomes := by
  rw [yields_of_next?_eq_some h, rest]
  rfl

/-- A scanner that has not failed yields what the scan finds inside the same open delimiters. -/
theorem yields_eq_outcomes (stack : List Delimiter) (text : Text) :
    yields { rest := text, stack := stack, failed := false } =
      (Scan.scanFrom stack text).outcomes := by
  fun_induction Scan.scanFrom stack text with
  | case1 stack =>
    cases stack with
    | nil => exact yields_of_next?_eq_none (by simp [next?])
    | cons top below => exact yields_of_fail (by simp [next?])
  | case2 stack c rest role found => exact yields_of_fail (by simp [next?, role, found])
  | case3 stack c rest role written after found _ ih =>
    exact yields_of_item (by simp [next?, role, found]) ih
  | case4 stack c rest d role ih => exact yields_of_item (by simp [next?, role]) ih
  | case5 c rest d role => exact yields_of_fail (by simp [next?, role])
  | case6 c rest d below role ih => exact yields_of_item (by simp [next?, role]) ih
  | case7 c rest d role top below differ => exact yields_of_fail (by simp [next?, role, differ])
  | case8 stack c rest role ih => exact yields_of_item (by simp [next?, role]) ih

/-- From the beginning of a text a scanner yields what the scan of the text collects. -/
theorem yields_start (text : Text) : (start text).yields = (Scan.of text).outcomes := by
  rw [Scan.of_eq_scanFrom]
  exact yields_eq_outcomes [] text

end Scanner
end TypeShape
