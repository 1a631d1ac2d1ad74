import ModelBindings.Datamodel.Reader
import ModelBindings.FileTree

/-!
# Loading a data model

A document is read from a file that holds JSON in UTF-8.

* `FileTree.readDocument` : the value that a file holds.
* `Datamodel.load` : the data model that a file holds.
-/

set_option autoImplicit false

namespace ModelBindings

/-- The value that a file holds. -/
def FileTree.readDocument (t : FileTree) (path : Text) : Except Fault Value :=
  match t.readText path with
  | .error e => .error (.file e)
  | .ok cs =>
    match Json.read cs with
    | .error e => .error (.json e)
    | .ok v => .ok v

/-- A malformed document is a fault of the file that was to hold a data model. -/
def nameDocument (path : Text) : Fault → Fault
  | .json (.malformed reason offset line column) =>
    .schema (.notJson path (.malformed reason offset line column))
  | f => f

/-- The data model that a file holds. -/
def Datamodel.load (t : FileTree) (path : Text) : Traced Datamodel :=
  match t.readDocument path with
  | .error f => .fail (nameDocument path f)
  | .ok v => Datamodel.read v

end ModelBindings
