import Mathlib.Algebra.GroupWithZero.Nat
import ProcessWatch.Display.Attribute

/-!
# Lines and line breaks

A text has one line more than it has line breaks.

* **`Text.breaks`** — how many line breaks a text has. They add up when texts are put together.
* **`Text.linesOf`** — the lines of a text; `length_linesOf`: there is one more than line breaks.
* **`Text.length_linesOf_lines`**, **`Text.linesOf_lines_iff`** — texts on lines of their own: how
  many lines that gives, and that these are the texts themselves exactly if none of them breaks.
-/

namespace ProcessWatch.Text

/-- How many line breaks a text has. -/
def breaks (text : String) : Nat := text.toList.count '\n'

/-- The lines of a text. What follows the last line break is a line too. -/
def linesOf (text : String) : List String := (text.split '\n').toList.map (·.copy)

/-! ## Line breaks -/

/-- A text without breaks is one in which the newline does not occur. -/
theorem breaks_eq_zero_iff {text : String} : breaks text = 0 ↔ '\n' ∉ text.toList :=
  List.count_eq_zero

@[simp] theorem breaks_append (s t : String) : breaks (s ++ t) = breaks s + breaks t := by
  rw [breaks, String.toList_append, List.count_append, breaks, breaks]

/-- Breaks are counted among the characters. -/
@[simp] theorem breaks_ofList (chars : List Char) :
    breaks (String.ofList chars) = chars.count '\n' := by
  rw [breaks, String.toList_ofList]

/-- The first characters of a row without breaks have none. -/
theorem breaks_take {chars : List Char} (h : '\n' ∉ chars) (count : Nat) :
    breaks (String.ofList (chars.take count)) = 0 := by
  rw [breaks_ofList, List.count_eq_zero]
  exact fun hmem => h (List.mem_of_mem_take hmem)

theorem breaks_drop {chars : List Char} (h : '\n' ∉ chars) (count : Nat) :
    breaks (String.ofList (chars.drop count)) = 0 := by
  rw [breaks_ofList, List.count_eq_zero]
  exact fun hmem => h (List.mem_of_mem_drop hmem)

/-- Between any two texts stands the separator once. -/
theorem breaks_intercalate (separator text : String) (rest : List String) :
    breaks (separator.intercalate (text :: rest))
      = ((text :: rest).map breaks).sum + rest.length * breaks separator := by
  induction rest generalizing text with
  | nil => simp
  | cons next rest ih =>
    rw [String.intercalate_cons_cons, breaks_append, breaks_append, ih, List.length_cons,
      Nat.succ_mul]
    simp only [List.map_cons, List.sum_cons]
    omega

/-- Texts with blanks between them. -/
theorem breaks_words (texts : List String) :
    breaks (" ".intercalate texts) = (texts.map breaks).sum := by
  cases texts with
  | nil => rfl
  | cons text rest =>
    have hblank : breaks " " = 0 := by decide
    rw [breaks_intercalate, hblank, Nat.mul_zero, Nat.add_zero]

/-! ## Lines -/

/-- The lines of a text by its characters. -/
theorem linesOf_eq (text : String) :
    linesOf text = (text.toList.splitOn '\n').map String.ofList := String.toList_split_char

/-- There is one piece more than there are separators. -/
theorem length_splitOn (c : Char) (chars : List Char) :
    (chars.splitOn c).length = chars.count c + 1 := by
  induction chars with
  | nil => rfl
  | cons first rest ih =>
    rw [List.splitOn_cons_eq_if_modifyHead, List.count_cons]
    split
    · rw [List.length_cons, ih]
    · rw [List.length_modifyHead, ih, Nat.add_zero]

/-- A text has one line more than it has breaks. -/
theorem length_linesOf (text : String) : (linesOf text).length = breaks text + 1 := by
  rw [linesOf_eq, List.length_map, length_splitOn, breaks]

/-- Every text on a line of its own, and one line more for every line break in a text. -/
theorem length_linesOf_lines {texts : List String} (h : texts ≠ []) :
    (linesOf (Display.lines texts)).length = texts.length + (texts.map breaks).sum := by
  obtain ⟨text, rest, rfl⟩ := List.exists_cons_of_ne_nil h
  have hbreak : breaks "\n" = 1 := by decide
  rw [length_linesOf, Display.lines, breaks_intercalate, hbreak, List.length_cons]
  omega

/-- The lines are the texts if no text breaks, and only then: otherwise there are more. -/
theorem linesOf_lines_iff {texts : List String} (h : texts ≠ []) :
    linesOf (Display.lines texts) = texts ↔ (texts.map breaks).sum = 0 := by
  constructor
  · intro hlines
    have hlength := length_linesOf_lines h
    rw [hlines] at hlength
    omega
  · -- without a break inside, every text is a line of its own
    intro hsum
    have hnone : ∀ chars ∈ texts.map String.toList, '\n' ∉ chars := by
      intro chars hchars
      obtain ⟨text, htext, rfl⟩ := List.mem_map.1 hchars
      refine breaks_eq_zero_iff.1 ?_
      exact List.sum_eq_zero_iff_forall_eq_nat.1 hsum _ (List.mem_map_of_mem htext)
    have hne : texts.map String.toList ≠ [] := fun hnil => h (List.map_eq_nil_iff.1 hnil)
    have hjoined : (Display.lines texts).toList
        = ['\n'].intercalate (texts.map String.toList) := String.toList_intercalate
    rw [linesOf_eq, hjoined, List.splitOn_intercalate '\n' hnone hne, List.map_map]
    simp

end ProcessWatch.Text
