import ModelBindings.Fault
import ModelBindings.Json.Writer

/-!
# Responses

The answers to requests: a result, or an error with a number and a text. A run that failed names the
kind of its fault.

* `Response.toValue`, `Response.line` : a response as a value and as a line of output.
-/

set_option autoImplicit false

namespace ModelBindings.Service

/-- Why a request has no result. -/
inductive Refusal where
  /-- The request is no object. -/
  | notObject (v : Value)
  /-- There is no method of that name. -/
  | unknownMethod (method : Value)
  /-- The run failed. -/
  | failed (f : Fault)
  deriving Repr

namespace Refusal

/-- The number of an error. -/
def code : Refusal → Int
  | .notObject _ => -32600
  | .unknownMethod _ => -32601
  | .failed _ => -32000

/-- The text of an error. -/
def message : Refusal → Text
  | .notObject v => "Request must be an object, got " ++ v.typeName
  | .unknownMethod method => "Method not found: " ++ method.display
  | .failed f => f.message

/-- What is said of an error besides number and text. -/
def data : Refusal → Members
  | .failed f => [("data", .object [("type", .text f.kind)])]
  | _ => []

/-- An error with the text given. -/
def toValue (r : Refusal) (message : Value) : Value :=
  .object ([(("code" : Text), .int r.code), ("message", message)] ++ r.data)

end Refusal

/-- The answer to a request. -/
structure Response where
  id : Value
  outcome : Except Refusal Value

namespace Response

/-- The member that says how a request ended. -/
def outcomeMember (r : Response) : Text × Value :=
  match r.outcome with
  | .ok v => ("result", v)
  | .error e => ("error", e.toValue (.text e.message))

/-- A response as a value. -/
def toValue (r : Response) : Value :=
  .object [("jsonrpc", .text "2.0"), ("id", r.id), r.outcomeMember]

/-- A response as a text of one line. -/
def text (r : Response) : Text :=
  Json.write r.toValue

/-- A response as a line of output. -/
def line (r : Response) : Text :=
  r.text ++ "\n"

end Response

end ModelBindings.Service
