import ModelBindings.Association
import ModelBindings.Text.Lines
import ModelBindings.Text.Similarity
import ModelBindings.Value.Display

/-!
# Arguments of the command

Options may stand anywhere among the other arguments, up to two dashes on their own. A long option
may take its value behind an equals sign, short ones may be put together, and of an option that is
given more than once the last value counts.

* `Arguments` : what was given, and in which order.
* `Arguments.read` : the arguments of a command line.
* `UsageFault` : what can be wrong with a command line.
-/

set_option autoImplicit false

namespace ModelBindings.CommandLine

/-- What the command is told. -/
inductive Parameter where
  | config
  | enumsModule
  | enabled
  | verbose
  | path
  | output
  deriving Repr, DecidableEq

/-- The options that take a value. -/
inductive ValueOption where
  | config
  | enumsModule
  deriving Repr, DecidableEq

/-- The options that stand for themselves. -/
inductive FlagOption where
  | enable
  | disable
  | verbose
  | help
  deriving Repr, DecidableEq

/-- An option. -/
inductive CommandOption where
  | value (o : ValueOption)
  | flag (o : FlagOption)
  deriving Repr, DecidableEq

/-- The long options. -/
def longOptions : Association Text CommandOption :=
  [("--config", .value .config), ("--enums-module", .value .enumsModule),
   ("--enable", .flag .enable), ("--disable", .flag .disable), ("--verbose", .flag .verbose),
   ("--help", .flag .help)]

/-- The option of a letter. -/
def shortOption? (c : CodePoint) : Option CommandOption :=
  if c = 'c' then some (.value .config)
  else if c = 'v' then some (.flag .verbose)
  else none

/-- What can be wrong with a command line. -/
inductive UsageFault where
  | noSuchOption (name : Text) (similar : List Text)
  | requiresArgument (name : Text)
  | takesNoValue (name : Text)
  | missing (p : Parameter)
  | doesNotExist (p : Parameter) (path : Text)
  | notBoolean (s : Text)
  | extraArguments (l : List Text)
  deriving Repr, DecidableEq

/-- What was given, and in which order. -/
structure Arguments where
  config : Option Text
  enumsModule : Option Text
  enable : Option Bool
  verbose : Bool
  help : Bool
  /-- The parameters that options gave, each once. -/
  order : List Parameter
  /-- The other arguments. -/
  positional : List Text
  deriving Repr, DecidableEq

namespace Arguments

/-- Nothing was given. -/
def start : Arguments :=
  { config := none, enumsModule := none, enable := none, verbose := false, help := false
    order := [], positional := [] }

/-- Note that a parameter was given. -/
def note (a : Arguments) (p : Parameter) : Arguments :=
  if a.order.contains p then a else { a with order := a.order ++ [p] }

/-- Give an option its value. -/
def setValue (a : Arguments) (o : ValueOption) (v : Text) : Arguments :=
  match o with
  | .config => { a with config := some v }.note .config
  | .enumsModule => { a with enumsModule := some v }.note .enumsModule

/-- Give an option that stands for itself. -/
def setFlag (a : Arguments) (o : FlagOption) : Arguments :=
  match o with
  | .enable => { a with enable := some true }.note .enabled
  | .disable => { a with enable := some false }.note .enabled
  | .verbose => { a with verbose := true }.note .verbose
  | .help => { a with help := true }

/-- Add other arguments. -/
def addPositional (a : Arguments) (l : List Text) : Arguments :=
  { a with positional := a.positional ++ l }

end Arguments

/-- What reading one argument leaves: it is complete, or the next one is the value of an option. -/
inductive Reading where
  | complete (a : Arguments)
  | awaiting (name : Text) (o : ValueOption) (a : Arguments)

/-- The parts of a text before and behind its first equals sign, where it has one. -/
def splitAtEquals (cs : List CodePoint) : List CodePoint × Option (List CodePoint) :=
  match cs.dropWhile (· != .char '=') with
  | [] => (cs, none)
  | _ :: value => (cs.takeWhile (· != .char '='), some value)

/-- A long option. -/
def readLong (a : Arguments) (name : Text) (o : CommandOption) (value : Option (List CodePoint)) :
    Except UsageFault Reading :=
  match o, value with
  | .value o, some v => .ok (.complete (a.setValue o (Text.ofList v)))
  | .value o, none => .ok (.awaiting name o a)
  | .flag _, some _ => .error (.takesNoValue name)
  | .flag o, none => .ok (.complete (a.setFlag o))

/-- Letters behind a dash. One that takes a value takes the rest of them, or the next argument. -/
def readLetters (a : Arguments) : List CodePoint → Except UsageFault Reading
  | [] => .ok (.complete a)
  | c :: r =>
    let name := Text.ofList ['-', c]
    match shortOption? c with
    | none => .error (.noSuchOption name [])
    | some (.flag o) => readLetters (a.setFlag o) r
    | some (.value o) =>
      if r.isEmpty then .ok (.awaiting name o a)
      else .ok (.complete (a.setValue o (Text.ofList r)))

/-- An argument that starts with a dash. -/
def readOption (a : Arguments) (s : Text) : Except UsageFault Reading :=
  let (name, value) := splitAtEquals s.toList
  let name := Text.ofList name
  match Association.get? name longOptions with
  | some o => readLong a name o value
  | none =>
    match s.toList with
    | .char '-' :: .char '-' :: _ =>
      .error (.noSuchOption name (Text.closest name (Association.keys longOptions)))
    | cs => readLetters a (cs.drop 1)

/-- The argument is an option: a dash with something behind it. -/
def isOption (s : Text) : Bool :=
  match s.toList with
  | .char '-' :: _ :: _ => true
  | _ => false

/-- One argument. -/
def readOne (a : Arguments) (s : Text) : Except UsageFault Reading :=
  if isOption s then readOption a s else .ok (.complete (a.addPositional [s]))

/-- Arguments behind those that were read. -/
def Arguments.readMore (a : Arguments) : List Text → Except UsageFault Arguments
  | [] => .ok a
  | s :: r =>
    if s = "--" then .ok (a.addPositional r)
    else
      match readOne a s with
      | .error e => .error e
      | .ok (.complete a) => readMore a r
      | .ok (.awaiting name o a) =>
        match r with
        | [] => .error (.requiresArgument name)
        | v :: r => readMore (a.setValue o v) r

/-- The arguments of a command line. -/
def Arguments.read (l : List Text) : Except UsageFault Arguments :=
  Arguments.start.readMore l

end ModelBindings.CommandLine
