import ModelBindings.Text.Lines

/-!
# Imports of a model's module

* `Imports` : what a module imports from the standard modules and from the model library.
* `importBlock` : the import lines, one blank line behind them.
-/

set_option autoImplicit false

namespace ModelBindings.Source

/-- Names in the order of their code points, each once. -/
abbrev NameSet := List Text

/-- Add a name. -/
def NameSet.insert (name : Text) : NameSet → NameSet
  | [] => [name]
  | k :: r => if name = k then k :: r else if name < k then name :: k :: r else k :: insert name r

theorem NameSet.mem_insert (name k : Text) (s : NameSet) :
    k ∈ NameSet.insert name s ↔ k = name ∨ k ∈ s := by
  induction s with
  | nil => simp [insert]
  | cons a r ih =>
    unfold insert
    split
    · next h => subst h; simp
    · split
      · simp
      · simp only [List.mem_cons, ih]
        constructor
        · rintro (h | h | h) <;> simp [h]
        · rintro (h | h | h) <;> simp [h]

/-- What a module imports. -/
structure Imports where
  datetime : Bool
  decimal : Bool
  enum : Bool
  typing : NameSet
  pydantic : NameSet
  deriving Repr, DecidableEq

namespace Imports

/-- The imports of every model. -/
def initial : Imports :=
  { datetime := false, decimal := false, enum := false, typing := [], pydantic := ["BaseModel"] }

/-- Import a name of the typing module. -/
def addTyping (i : Imports) (name : Text) : Imports :=
  { i with typing := NameSet.insert name i.typing }

/-- Import a name of the model library. -/
def addPydantic (i : Imports) (name : Text) : Imports :=
  { i with pydantic := NameSet.insert name i.pydantic }

end Imports

/-- A line if it is wanted. -/
def lineIf (wanted : Bool) (line : Text) : List Text :=
  if wanted then [line] else []

/-- The line that imports one enum. -/
def enumImport (enumsModule name : Text) : Text :=
  "from ." ++ enumsModule ++ " import " ++ name

/-- The import lines of a module. -/
def importLines (i : Imports) (enumNames : List Text) (enumsModule : Text) : List Text :=
  [("from __future__ import annotations" : Text), ""]
    ++ lineIf i.datetime "from datetime import datetime"
    ++ lineIf i.decimal "from decimal import Decimal"
    ++ lineIf (!i.typing.isEmpty) ("from typing import " ++ Text.join ", " i.typing)
    ++ lineIf i.enum "from enum import Enum"
    ++ [("from pydantic import " : Text) ++ Text.join ", " i.pydantic]
    ++ enumNames.map (enumImport enumsModule)

/-- The import lines, one blank line behind them. -/
def importBlock (i : Imports) (enumNames : List Text) (enumsModule : Text) : Text :=
  Text.join "\n" (importLines i enumNames enumsModule) ++ "\n\n"

end ModelBindings.Source
