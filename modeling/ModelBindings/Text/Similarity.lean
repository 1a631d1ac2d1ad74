import ModelBindings.Text

/-!
# Similar texts

Two texts are as similar as they share characters in order: the longest run that both hold, and what
is shared before and behind it. Of equally long runs the first one of the first text counts, and of
its places in the second text the first.

* `shared` : the number of shared characters.
* `mayBeClose` : texts of very different length are not compared.
* `closest` : the candidates that share at least three fifths with a text, the best first.
-/

set_option autoImplicit false

namespace ModelBindings.Text

/-- The length of the common start of two texts. -/
def commonStart : List CodePoint → List CodePoint → Nat
  | a :: r, b :: s => if a = b then commonStart r s + 1 else 0
  | _, _ => 0

/-- A run that two texts share: its places and its length. -/
structure SharedRun where
  first : Nat
  second : Nat
  length : Nat

/-- The longer of two runs; the first where they are equally long. -/
def SharedRun.max (r s : SharedRun) : SharedRun :=
  if r.length < s.length then s else r

/-- The longest run that two texts share. -/
def longestRun (a b : List CodePoint) : SharedRun :=
  (List.range a.length).foldl (fun best i =>
    (List.range b.length).foldl (fun best j =>
      best.max ⟨i, j, commonStart (a.drop i) (b.drop j)⟩) best) ⟨0, 0, 0⟩

/-- The characters that two texts share in order, found in at most so many runs. -/
def sharedWithin : Nat → List CodePoint → List CodePoint → Nat
  | 0, _, _ => 0
  | runs + 1, a, b =>
    let r := longestRun a b
    if r.length = 0 then 0
    else
      sharedWithin runs (a.take r.first) (b.take r.second) + r.length
        + sharedWithin runs (a.drop (r.first + r.length)) (b.drop (r.second + r.length))

/-- The characters that two texts share in order. -/
def shared (a b : List CodePoint) : Nat :=
  sharedWithin a.length a b

/-- A candidate with what it shares with a text, of the length of both. -/
structure Candidate where
  text : Text
  shared : Nat
  total : Nat

/-- What a candidate shares with a text. -/
def Candidate.of (word candidate : Text) : Candidate :=
  { text := candidate
    shared := Text.shared candidate.toList word.toList
    total := candidate.length + word.length }

namespace Candidate

/-- Twice the shared characters are at least three fifths of all. -/
def isClose (c : Candidate) : Bool :=
  decide (3 * c.total ≤ 10 * c.shared)

/-- The candidate shares more, or as much and comes later in the order of texts. -/
def isBetter (c d : Candidate) : Bool :=
  decide (d.shared * c.total < c.shared * d.total)
    || (c.shared * d.total == d.shared * c.total && decide (d.text ≤ c.text))

end Candidate

/-- Two texts share no more characters than the shorter one has, so they may be close only if that
would do. -/
def mayBeClose (word candidate : Text) : Bool :=
  decide (3 * (candidate.length + word.length) ≤ 10 * min candidate.length word.length)

/-- Up to three candidates close to a text, the best first. -/
def closest (word : Text) (candidates : List Text) : List Text :=
  ((((candidates.filter (mayBeClose word)).map (Candidate.of word)).filter
    Candidate.isClose).mergeSort Candidate.isBetter).take 3 |>.map (·.text)

end ModelBindings.Text
