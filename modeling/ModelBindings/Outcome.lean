import ModelBindings.FileTree
import ModelBindings.Log

/-!
# Outcomes

What a run on a file tree leaves: the tree, the log records and a result or fault.
-/

set_option autoImplicit false

namespace ModelBindings

/-- What a run on a file tree leaves. -/
structure Outcome (α : Type) where
  tree : FileTree
  log : List Record
  result : Except Fault α

namespace Outcome

variable {α β : Type}

/-- A result that changes nothing. -/
def ok (t : FileTree) (a : α) : Outcome α :=
  ⟨t, [], .ok a⟩

/-- A fault that changes nothing. -/
def fail (t : FileTree) (f : Fault) : Outcome α :=
  ⟨t, [], .error f⟩

/-- A traced result, which changes nothing. -/
def ofTraced (t : FileTree) (r : Traced α) : Outcome α :=
  ⟨t, r.log, r.result⟩

/-- Go on with a result from the tree it left. -/
def bind (x : Outcome α) (f : FileTree → α → Outcome β) : Outcome β :=
  match x.result with
  | .error e => ⟨x.tree, x.log, .error e⟩
  | .ok a =>
    let y := f x.tree a
    ⟨y.tree, x.log ++ y.log, y.result⟩

/-- The same with log records in front. -/
def after (log : List Record) (x : Outcome α) : Outcome α :=
  { x with log := log ++ x.log }

end Outcome

end ModelBindings
