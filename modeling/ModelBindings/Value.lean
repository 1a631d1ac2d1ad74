import ModelBindings.Text
import ModelBindings.Association
import ModelBindings.Decimal.Double

/-!
# Values

The values of a data model document: the JSON values, with integers of any size apart from double
precision numbers and with the members of an object in order.

* `Value` : the values.
* `Value.isTruthy` : null, false, zeros and everything empty count as absent.
* `Value.member?` : the member of an object.
* `Value.same` : equality by value; numbers and truth values compare as numbers, objects without
  regard to order.
-/

set_option autoImplicit false

namespace ModelBindings

/-- A value of a document. -/
inductive Value where
  | null
  | bool (b : Bool)
  | int (n : Int)
  | double (x : Double)
  | text (s : Text)
  | list (items : List Value)
  | object (members : List (Text × Value))
  deriving Repr, Inhabited

/-- The members of an object, each name once. -/
abbrev Members := Association Text Value

namespace Value

/-- The name of a value's type, as error texts give it. -/
def typeName : Value → Text
  | .null => "NoneType"
  | .bool _ => "bool"
  | .int _ => "int"
  | .double _ => "float"
  | .text _ => "str"
  | .list _ => "list"
  | .object _ => "dict"

/-- Null, false, zero and the empty text, list and object count as absent. -/
def isTruthy : Value → Bool
  | .null => false
  | .bool b => b
  | .int n => n != 0
  | .double x => !x.isZero
  | .text s => s != ""
  | .list items => !items.isEmpty
  | .object members => !members.isEmpty

/-- A text, a number, a truth value or null can be looked up in a set of names. -/
def isHashable : Value → Bool
  | .list _ => false
  | .object _ => false
  | _ => true

/-- The value is this text. -/
def isText (v : Value) (s : Text) : Bool :=
  match v with
  | .text t => t == s
  | _ => false

/-- The members of an object; any other value has none. -/
def members : Value → Members
  | .object ms => ms
  | _ => []

/-- The member of an object. -/
def member? (v : Value) (name : Text) : Option Value :=
  Association.get? name v.members

/-- The member of an object, or the given value where it is missing. -/
def memberD (v : Value) (name : Text) (missing : Value) : Value :=
  (v.member? name).getD missing

/-- The value as an integer, where it is one or a truth value. -/
def toInt? : Value → Option Int
  | .bool b => some (if b then 1 else 0)
  | .int n => some n
  | _ => none

/-- Equality of the values that hold no others. -/
def sameScalar (v w : Value) : Bool :=
  match v, w with
  | .null, .null => true
  | .text s, .text t => s == t
  | .double x, .double y => x.same y
  | .double x, w => (w.toInt?.map x.sameInt).getD false
  | v, .double y => (v.toInt?.map y.sameInt).getD false
  | v, w =>
    match v.toInt?, w.toInt? with
    | some a, some b => a == b
    | _, _ => false

mutual

/-- Equality by value. -/
def same : Value → Value → Bool
  | .list a, .list b => sameItems a b
  | .object a, .object b => a.length == b.length && sameMembers a b
  | v, w => sameScalar v w

/-- Equality of lists, item by item. -/
def sameItems : List Value → List Value → Bool
  | [], [] => true
  | v :: a, w :: b => same v w && sameItems a b
  | _, _ => false

/-- Every member is also one of the other object. -/
def sameMembers : List (Text × Value) → List (Text × Value) → Bool
  | [], _ => true
  | (k, v) :: a, b =>
    (match Association.get? k b with
     | some w => same v w
     | none => false) && sameMembers a b

end

end Value

end ModelBindings
