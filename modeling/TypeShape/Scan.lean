import TypeShape.Delimiter
import TypeShape.Reason

/-!
# Scanning

A scan walks a text and gives its items: the characters outside of quoted values, each with the
number of delimiter pairs around it. A quoted value is one item, so nothing inside it counts. A scan
ends early at the first fault. Main statements: the items of a scan are the beginning of the text
(`exists_eq_append_scanFrom`), and all of it when there is no fault (`eq_textOf_of_complete`).
-/

namespace TypeShape

/-- A character outside of quoted values, or a whole quoted value. -/
structure Item where
  /-- The character; for a quoted value, its opening mark. -/
  ch : Char
  /-- For a quoted value, all that follows its opening mark, up to and with the closing one. -/
  body : Text
  /-- The number of delimiter pairs around the item. A delimiter is not inside its own pair. -/
  depth : Nat
  deriving DecidableEq

namespace Item

/-- The characters of an item. -/
def text (item : Item) : Text :=
  item.ch :: item.body

/-- Whether the item is the given character outside of all delimiters. -/
def isTop (ch : Char) (item : Item) : Bool :=
  item.depth == 0 && item.ch == ch

/-- Whether the item is a closing delimiter of a pair that no other encloses. -/
def isTopCloser (item : Item) : Bool :=
  item.depth == 0 && (Role.of item.ch).isCloser

/-- The characters of a run of items. -/
def textOf (items : List Item) : Text :=
  items.flatMap text

@[simp] theorem textOf_nil : textOf [] = [] := rfl

@[simp] theorem textOf_cons (item : Item) (items : List Item) :
    textOf (item :: items) = item.text ++ textOf items := rfl

@[simp] theorem textOf_append (items items' : List Item) :
    textOf (items ++ items') = textOf items ++ textOf items' :=
  List.flatMap_append

end Item

/-- What a scan finds. -/
structure Scan where
  /-- The items before the fault, or all items if there is none. -/
  items : List Item
  /-- Why the scan ended before the end of the text. -/
  fault : Option Reason

namespace Scan

/-- A scan that ends at once. -/
def stop (fault : Option Reason) : Scan :=
  { items := [], fault := fault }

/-- A scan that begins with one more item. -/
def cons (item : Item) (scan : Scan) : Scan :=
  { scan with items := item :: scan.items }

/-- All items of the text, or the fault. -/
def complete (scan : Scan) : Except Reason (List Item) :=
  match scan.fault with
  | none => .ok scan.items
  | some reason => .error reason

/-- Scans a text inside the given open delimiters, innermost first. -/
def scanFrom (stack : List Delimiter) (text : Text) : Scan :=
  match text with
  | [] => stop (if stack.isEmpty then none else some .unbalanced)
  | c :: rest =>
    match Role.of c with
    | .quote =>
      match found : Quoted.skip rest with
      | none => stop (some .unterminatedQuote)
      | some (written, after) =>
        have := Quoted.length_after_lt found
        cons ⟨c, written ++ [Quoted.mark], stack.length⟩ (scanFrom stack after)
    | .opens d => cons ⟨c, [], stack.length⟩ (scanFrom (d :: stack) rest)
    | .closes d =>
      match stack with
      | [] => stop (some .unbalanced)
      | top :: below =>
        if top = d then cons ⟨c, [], below.length⟩ (scanFrom below rest)
        else stop (some .unbalanced)
    | .plain => cons ⟨c, [], stack.length⟩ (scanFrom stack rest)
termination_by text.length

/-- Scans a text inside the given open delimiters, innermost first, of which there are `depth`. This
is `scanFrom` with the number of delimiters carried along, so that it is not counted again at each
item. -/
def scanAt (depth : Nat) (stack : List Delimiter) (text : Text) : Scan :=
  match text with
  | [] => stop (if stack.isEmpty then none else some .unbalanced)
  | c :: rest =>
    match Role.of c with
    | .quote =>
      match found : Quoted.skip rest with
      | none => stop (some .unterminatedQuote)
      | some (written, after) =>
        have := Quoted.length_after_lt found
        cons ⟨c, written ++ [Quoted.mark], depth⟩ (scanAt depth stack after)
    | .opens d => cons ⟨c, [], depth⟩ (scanAt (depth + 1) (d :: stack) rest)
    | .closes d =>
      match stack with
      | [] => stop (some .unbalanced)
      | top :: below =>
        if top = d then cons ⟨c, [], depth - 1⟩ (scanAt (depth - 1) below rest)
        else stop (some .unbalanced)
    | .plain => cons ⟨c, [], depth⟩ (scanAt depth stack rest)
termination_by text.length

/-- The number that is carried along is the number of open delimiters. -/
theorem scanAt_length (stack : List Delimiter) (text : Text) :
    scanAt stack.length stack text = scanFrom stack text := by
  fun_induction scanFrom stack text with
  | case1 stack => simp [scanAt]
  | case2 stack c rest role found =>
    rw [scanAt]
    simp only [role]
    split
    · rfl
    · next other => simp [found] at other
  | case3 stack c rest role written after found _ ih =>
    rw [scanAt]
    simp only [role]
    split
    · next other => simp [found] at other
    · next written' after' other =>
      simp only [found, Option.some.injEq, Prod.mk.injEq] at other
      obtain ⟨rfl, rfl⟩ := other
      rw [ih]
  | case4 stack c rest d role ih =>
    rw [scanAt]
    simp only [role]
    rw [← ih, List.length_cons]
  | case5 c rest d role =>
    rw [scanAt]
    simp only [role]
  | case6 c rest d below role ih =>
    rw [scanAt]
    simp only [role, ↓reduceIte, List.length_cons, Nat.add_sub_cancel, ih]
  | case7 c rest d role top below differ =>
    rw [scanAt]
    simp only [role, differ, if_false]
  | case8 stack c rest role ih =>
    rw [scanAt]
    simp only [role, ih]

/-- Scans a whole text. -/
def of (text : Text) : Scan :=
  scanAt 0 [] text

/-- A scan of a whole text begins inside no delimiter. -/
theorem of_eq_scanFrom (text : Text) : of text = scanFrom [] text :=
  scanAt_length [] text

/-- The items that a scan gives are the beginning of the text, and all of it if it has no fault. -/
theorem exists_eq_append_scanFrom (stack : List Delimiter) (text : Text) :
    ∃ rest, text = Item.textOf (scanFrom stack text).items ++ rest ∧
      ((scanFrom stack text).fault = none → rest = []) := by
  fun_induction scanFrom stack text with
  | case1 stack => exact ⟨[], rfl, fun _ => rfl⟩
  | case2 stack c rest _ found => exact ⟨c :: rest, rfl, by simp [stop]⟩
  | case3 stack c rest _ written after found _ ih =>
    obtain ⟨rest', eq, done⟩ := ih
    refine ⟨rest', ?_, done⟩
    rw [Quoted.eq_of_skip found]
    simp only [cons, Item.textOf_cons, Item.text, List.cons_append, List.append_assoc,
      List.nil_append, ← eq]
  | case4 stack c rest d _ ih =>
    obtain ⟨rest', eq, done⟩ := ih
    refine ⟨rest', ?_, done⟩
    simp only [cons, Item.textOf_cons, Item.text, List.cons_append, List.nil_append, ← eq]
  | case5 c rest d _ => exact ⟨c :: rest, rfl, by simp [stop]⟩
  | case6 c rest d below _ ih =>
    obtain ⟨rest', eq, done⟩ := ih
    refine ⟨rest', ?_, done⟩
    simp only [cons, Item.textOf_cons, Item.text, List.cons_append, List.nil_append, ← eq]
  | case7 c rest d _ top below _ => exact ⟨c :: rest, rfl, by simp [stop]⟩
  | case8 stack c rest _ ih =>
    obtain ⟨rest', eq, done⟩ := ih
    refine ⟨rest', ?_, done⟩
    simp only [cons, Item.textOf_cons, Item.text, List.cons_append, List.nil_append, ← eq]

/-- A scan without fault gives the whole text. -/
theorem eq_textOf_of_complete {text : Text} {items : List Item}
    (h : (of text).complete = .ok items) : text = Item.textOf items := by
  obtain ⟨rest, eq, done⟩ := exists_eq_append_scanFrom [] text
  rw [of_eq_scanFrom] at h
  unfold complete at h
  split at h
  · next no_fault =>
    rw [done no_fault, List.append_nil] at eq
    simp only [Except.ok.injEq] at h
    rw [← h]
    exact eq
  · simp at h

end Scan
end TypeShape
