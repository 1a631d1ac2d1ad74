import ModelBindings.CodePoint

/-!
# Ranges of code points and blank characters

A property of characters is given as a list of closed ranges of code points. Blank characters are
white space in the Unicode sense together with the four ASCII information separators.

* `Ranges.has` : a character is in one of the ranges.
* `strip` : a text without the blank characters at its two ends.
* `isBlankText` : a text of blank characters only.
-/

set_option autoImplicit false

namespace ModelBindings.Text

/-- Closed ranges of code points. -/
abbrev Ranges := List (Nat × Nat)

/-- Some range holds the character. -/
def Ranges.has (t : Ranges) (c : CodePoint) : Bool :=
  t.any fun r => decide (r.1 ≤ c.toNat) && decide (c.toNat ≤ r.2)

/-- Blank characters. -/
def blankRanges : Ranges :=
  [(0x9, 0xd), (0x1c, 0x20), (0x85, 0x85), (0xa0, 0xa0), (0x1680, 0x1680), (0x2000, 0x200a),
   (0x2028, 0x2029), (0x202f, 0x202f), (0x205f, 0x205f), (0x3000, 0x3000)]

/-- The character is blank. -/
def isBlank (c : CodePoint) : Bool :=
  blankRanges.has c

/-- Every character is blank. -/
def isBlankText (cs : List CodePoint) : Bool :=
  cs.all isBlank

/-- The text without the blank characters at its two ends. -/
def strip (cs : List CodePoint) : List CodePoint :=
  ((cs.dropWhile isBlank).reverse.dropWhile isBlank).reverse

/-- A text without a blank character at its ends stays as it is. -/
theorem strip_eq_self {cs : List CodePoint} (hhead : ∀ c ∈ cs.head?, isBlank c = false)
    (hlast : ∀ c ∈ cs.getLast?, isBlank c = false) : strip cs = cs := by
  have hkeep : ∀ l : List CodePoint, (∀ c ∈ l.head?, isBlank c = false) →
    l.dropWhile isBlank = l := by
    intro l hl
    cases l with
    | nil => rfl
    | cons c r => simp [hl c rfl]
  rw [strip, hkeep cs hhead, hkeep cs.reverse, List.reverse_reverse]
  rw [List.head?_reverse]
  exact hlast

end ModelBindings.Text
