import ModelBindings.Text.Lines

/-!
# Paths

A path is a list of names, from the root or from the current directory. Empty names and the name
`.` say nothing and are left out; `..` stays, since only the file tree knows where it leads.

* `Anchor` : where a path starts.
* `Path.ofString`, `Path.toString` : the path of a text, and its text.
* `Path.join` : a path behind another; one from the root replaces it.
* `Path.parent`, `Path.name`, `Path.suffix` : the parts of a path.
-/

set_option autoImplicit false

namespace ModelBindings

/-- Where a path starts. -/
inductive Anchor where
  | current
  | root
  /-- The root again, written with two slashes. -/
  | doubleRoot
  deriving Repr, DecidableEq

namespace Anchor

/-- The slashes that a path starts with. -/
def spelling : Anchor → Text
  | .current => ""
  | .root => "/"
  | .doubleRoot => "//"

/-- The anchor of a path with a number of slashes at its start; two are kept apart from one, and
more than two count as one. -/
def ofSlashes (n : Nat) : Anchor :=
  if n = 0 then .current else if n = 2 then .doubleRoot else .root

/-- The anchor of a text. -/
def ofString (s : Text) : Anchor :=
  ofSlashes (s.toList.takeWhile (· == .char '/')).length

end Anchor

/-- A list of names, from the root or from the current directory. -/
structure Path where
  anchor : Anchor
  names : List Text
  deriving Repr, DecidableEq

namespace Path

/-- The parts of a text between slashes. -/
def pieces (s : Text) : List Text :=
  (Text.segments '/' s.toList).map Text.ofList

/-- The path of a text. -/
def ofString (s : Text) : Path :=
  { anchor := .ofString s, names := (pieces s).filter fun (n : Text) => n != "" && n != "." }

/-- The path of a text as the file system takes it: a slash at the end asks for a directory. -/
def asWritten (s : Text) : Path :=
  { anchor := .ofString s
    names := ((pieces s).filter fun (n : Text) => n != "")
      ++ (if (pieces s).getLast? = some "" then [("." : Text)] else []) }

/-- The text of a path. -/
def toString (p : Path) : Text :=
  if p.anchor = .current ∧ p.names.isEmpty then "."
  else p.anchor.spelling ++ Text.join "/" p.names

/-- A path behind another; one from the root replaces it. -/
def join (p q : Path) : Path :=
  if q.anchor = .current then { p with names := p.names ++ q.names } else q

/-- The path without its last name. -/
def parent (p : Path) : Path :=
  { p with names := p.names.dropLast }

/-- The last name. -/
def name (p : Path) : Text :=
  p.names.getLast?.getD ""

/-- The last point of a name with what follows it, if anything does and if something precedes
it. -/
def suffixOf (cs : List CodePoint) : List CodePoint :=
  let behind := (cs.reverse.takeWhile (· != .char '.')).reverse
  let front := cs.length - behind.length
  if behind.isEmpty || decide (front ≤ 1) then [] else '.' :: behind

/-- The suffix of the last name. -/
def suffix (p : Path) : Text :=
  Text.ofList (suffixOf p.name.toList)

end Path

end ModelBindings
