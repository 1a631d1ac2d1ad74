import ModelBindings.Naming
import ModelBindings.Source.Literal

/-!
# Classes of enums

An enum becomes a class of text values. Each member has the name of its value, with an underscore
behind a reserved word, and is equal to the name in the document.

* `enumClass` : the class of an enum.
* `enumsFile` : the module of all enums; empty without any.
-/

set_option autoImplicit false

namespace ModelBindings.Source

/-- The name of a member. -/
def memberName (name : Text) : Text :=
  if isKeyword name then name ++ "_" else name

/-- The line of a member. -/
def memberLine (v : EnumValue) : Text :=
  bodyIndent ++ memberName v.name ++ " = \"" ++ v.name ++ "\"\n"

/-- The line of a class body that has nothing else. -/
def passLine : Text :=
  bodyIndent ++ "pass\n"

/-- Lines of a class body, which must not be empty. -/
def bodyLines (ls : List Text) : Text :=
  if ls.isEmpty then passLine else Text.concat ls

/-- A docstring with what follows it, or nothing. -/
def docPart (doc : Option Text) (close : Text) : Text :=
  match doc with
  | none => ""
  | some d => d ++ close

/-- The class of an enum, given its docstring. -/
def enumClassText (e : Enum) (doc : Option Text) : Text :=
  "class " ++ e.name ++ "(str, Enum):\n" ++ docPart doc "\n" ++ bodyLines (e.values.map memberLine)

/-- The class of an enum. -/
def enumClass (e : Enum) : Except Fault Text :=
  match classDocstring e.documentation with
  | .error f => .error f
  | .ok doc => .ok (enumClassText e doc)

/-- What stands before the classes. -/
def enumsHead : Text :=
  "from enum import Enum\n\n\n"

/-- The module of all enums. -/
def enumsFile (enums : List Enum) : Except Fault Text :=
  if enums.isEmpty then .ok ""
  else
    match enums.mapM enumClass with
    | .error f => .error f
    | .ok classes => .ok (enumsHead ++ Text.join "\n\n" classes)

end ModelBindings.Source
