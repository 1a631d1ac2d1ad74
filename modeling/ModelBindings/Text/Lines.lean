import ModelBindings.Text
import ModelBindings.Text.Blank

/-!
# Lines

A text is cut into lines at every line boundary that Unicode knows, and at the ASCII separators
of files, groups and records. A carriage return with a line feed after it is one boundary. The
boundaries are dropped, and a boundary at the end opens no further line.

* `lines` : the lines of a text.
* `segments` : the parts of a text between the occurrences of one character.
* `join` : texts put together with a separator between them.
* `normalizeNewlines` : every line end written as one line feed.
-/

set_option autoImplicit false

namespace ModelBindings.Text

/-- Line boundaries. -/
def lineBoundaryRanges : Ranges :=
  [(0xa, 0xd), (0x1c, 0x1e), (0x85, 0x85), (0x2028, 0x2029)]

/-- The character ends a line. -/
def isLineBoundary (c : CodePoint) : Bool :=
  lineBoundaryRanges.has c

/-- Put a character at the front of the first line. -/
def pushFront (c : CodePoint) : List (List CodePoint) → List (List CodePoint)
  | [] => [[c]]
  | l :: ls => (c :: l) :: ls

/-- The lines of a text. -/
def lines : List CodePoint → List (List CodePoint)
  | [] => []
  | .char '\r' :: .char '\n' :: r => [] :: lines r
  | c :: r => if isLineBoundary c then [] :: lines r else pushFront c (lines r)

/-- The parts of a text between the occurrences of `sep`; there is always at least one. -/
def segments (sep : CodePoint) : List CodePoint → List (List CodePoint)
  | [] => [[]]
  | c :: r => if c = sep then [] :: segments sep r else pushFront c (segments sep r)

/-- Texts put together with a separator between them. -/
def join (sep : Text) : List Text → Text
  | [] => ""
  | a :: r => r.foldl (fun text b => text ++ sep ++ b) a

theorem foldl_join (sep s a : Text) (r : List Text) :
    r.foldl (fun text b => text ++ sep ++ b) (s ++ a)
      = s ++ r.foldl (fun text b => text ++ sep ++ b) a := by
  induction r generalizing a with
  | nil => rfl
  | cons b r ih =>
    rw [List.foldl_cons, List.foldl_cons, ← ih]
    simp only [Text.append_assoc]

theorem join_cons_cons (sep a b : Text) (r : List Text) :
    join sep (a :: b :: r) = a ++ sep ++ join sep (b :: r) := by
  simp only [join, List.foldl_cons]
  exact foldl_join sep (a ++ sep) b r

/-- Every line end of a text file (line feed, carriage return, or both) as one line feed. -/
def normalizeNewlines : List CodePoint → List CodePoint
  | [] => []
  | .char '\r' :: .char '\n' :: r => '\n' :: normalizeNewlines r
  | c :: r => (if c = '\r' then '\n' else c) :: normalizeNewlines r

end ModelBindings.Text
