import ModelBindings.CommandLine.Usage
import ModelBindings.Datamodel.Load
import ModelBindings.Service

/-!
# The command

Reads a data model from a file and writes its package into a directory. Options say more than a
configuration file, and the surroundings decide on writing where no option does.

* `CommandLine.run` : a whole run of the command.
-/

set_option autoImplicit false

namespace ModelBindings.CommandLine

/-- How a run of the command ends. -/
structure Run where
  tree : FileTree
  log : List Record
  exitCode : Nat
  output : Text
  /-- The fault that broke the run off, where it is not one of generation. -/
  fault : Option Fault

/-! ## Paths -/

/-- A place with one more name behind it. -/
def descend (l : Location) (name : Text) : Location :=
  if name = "" ∨ name = "." then l else if name = ".." then l.parent else l.child name

/-- The path of a text from the root on, without names that say nothing or lead back. -/
def fullPath (t : FileTree) (s : Text) : Path :=
  let start := if Anchor.ofString s = .current then t.current else .root
  { anchor := .root, names := ((Path.pieces s).foldl descend start).names }

/-! ## Parameters -/

/-- What keeps a command from running. -/
inductive Stop where
  | usage (f : UsageFault)
  | fault (f : Fault)

/-- What a run of the command is told. -/
structure Invocation where
  config : Option Text
  enumsModule : Option Text
  enabled : Bool
  verbose : Bool
  path : Text
  output : Text
  deriving Repr, DecidableEq

/-- The words for yes. -/
def yesWords : List Text := ["1", "true", "t", "yes", "y", "on"]

/-- The words for no. -/
def noWords : List Text := ["0", "false", "f", "no", "n", "off"]

/-- Yes or no in words, in any case and with blanks around. -/
def readBoolean (s : Text) : Except Stop Bool :=
  let word := Text.ofList (Text.lower (Text.strip s.toList))
  if yesWords.contains word then .ok true
  else if noWords.contains word then .ok false
  else .error (.usage (.notBoolean s))

/-- Whether the surroundings ask for generation, by what the variable for it is set to; without a
word they do not. -/
def readSurroundings (setting : Option Text) : Except Stop Bool :=
  match setting with
  | none => .ok false
  | some s => if s = "" then .ok false else readBoolean s

/-- The path of a parameter. The file system is asked for its names one after another. -/
def readPath (t : FileTree) (s : Text) : Except Stop Text :=
  match (Path.pieces s).findSome? FileTree.pathFault? with
  | some e => .error (.fault (.file e))
  | none => .ok (fullPath t s).toString

/-- The path of a parameter that has to lead to a file or directory. -/
def readExisting (t : FileTree) (p : Parameter) (s : Text) : Except Stop Text :=
  match readPath t s with
  | .error e => .error e
  | .ok path =>
    if t.leadsToEntry (fullPath t s) then .ok path else .error (.usage (.doesNotExist p s))

/-- The value of a parameter; one that was not given has a default or is missing. -/
def Parameter.read (p : Parameter) (setting : Option Text) (t : FileTree) (a : Arguments)
    (i : Invocation) : Except Stop Invocation :=
  match p with
  | .config =>
    match a.config with
    | none => .ok i
    | some s => (readExisting t .config s).map fun path => { i with config := some path }
  | .enumsModule => .ok { i with enumsModule := a.enumsModule }
  | .enabled =>
    match a.enable with
    | some b => .ok { i with enabled := b }
    | none => (readSurroundings setting).map fun b => { i with enabled := b }
  | .verbose => .ok { i with verbose := a.verbose }
  | .path =>
    match a.positional with
    | [] => .error (.usage (.missing .path))
    | s :: _ => (readExisting t .path s).map fun path => { i with path }
  | .output =>
    match a.positional with
    | _ :: s :: _ => (readPath t s).map fun output => { i with output }
    | _ => .error (.usage (.missing .output))

/-- The parameters in the order in which they are read: options as they were given, then the
arguments, then the options that were not given. -/
def readingOrder (a : Arguments) : List Parameter :=
  a.order ++ [.path, .output]
    ++ [Parameter.config, .enumsModule, .enabled, .verbose].filter fun p => !a.order.contains p

/-- Nothing is told yet. -/
def Invocation.start : Invocation :=
  { config := none, enumsModule := none, enabled := false, verbose := false
    path := "", output := "" }

/-- What the arguments tell; of several faults the first in the order of reading counts. -/
def Arguments.invocation (a : Arguments) (setting : Option Text) (t : FileTree) :
    Except Stop Invocation :=
  match (readingOrder a).foldlM (fun i p => p.read setting t a i) Invocation.start with
  | .error e => .error e
  | .ok i =>
    match a.positional.drop 2 with
    | [] => .ok i
    | extra => .error (.usage (.extraArguments extra))

/-! ## Running -/

/-- The settings of the configuration file, if there is one. -/
def Invocation.fileSettings (i : Invocation) (t : FileTree) : Except Fault Settings :=
  match i.config with
  | none => .ok Settings.defaults
  | some path =>
    match t.readDocument path with
    | .error e => .error e
    | .ok v => Settings.read v

/-- The settings of a run. -/
def Invocation.settings (i : Invocation) (t : FileTree) : Except Fault Settings :=
  (i.fileSettings t).map fun c =>
    { c with
      enabled := .bool i.enabled
      outputDir := .text i.output
      enumsModule := match i.enumsModule with
        | none => c.enumsModule
        | some s => .text s }

/-- Load the data model and write its package. -/
def Invocation.generate (i : Invocation) (c : Settings) (t : FileTree) : Outcome (List Path) :=
  (Outcome.ofTraced t (Datamodel.load t i.path)).bind fun t d => Package.write c d .null t

/-- The least important records that are shown. -/
def Invocation.level (i : Invocation) : Level :=
  if i.verbose then .debug else .info

/-- What is said when nothing was written. -/
def skippedText : Text :=
  commandName ++ ": skipping, pass --enable or set GENERATE_PYTHON=true to enable.\n"

/-- The end of a run that met a fault behind some output. -/
def failed (t : FileTree) (log : List Record) (output : Text) (f : Fault) : Run :=
  if f.isGeneration then ⟨t, log, 1, output ++ "Error: " ++ shown f.message ++ "\n", none⟩
  else ⟨t, log, 1, output, some f⟩

/-- The end of a run. -/
def finished (least : Level) (x : Outcome (List Path)) : Run :=
  let output := logLines least x.log
  match x.result with
  | .error f => failed x.tree x.log output f
  | .ok paths =>
    ⟨x.tree, x.log, 0, if paths.isEmpty then output ++ skippedText else output, none⟩

/-- A run with its parameters. -/
def Invocation.run (i : Invocation) (t : FileTree) : Run :=
  match i.settings t with
  | .error f => failed t [] "" f
  | .ok c => finished i.level (i.generate c t)

/-- A run that is kept from starting. -/
def stopped (t : FileTree) : Stop → Run
  | .usage f => ⟨t, [], 2, f.text, none⟩
  | .fault f => failed t [] "" f

/-- A run of the command on its arguments. -/
def answer (setting : Option Text) (t : FileTree) (args : List Text) : Run :=
  match Arguments.read args with
  | .error f => stopped t (.usage f)
  | .ok a =>
    if a.help then ⟨t, [], 0, helpText, none⟩
    else
      match a.invocation setting t with
      | .error s => stopped t s
      | .ok i => i.run t

/-- A whole run of the command; what it puts out has line ends of one character. -/
def run (setting : Option Text) (t : FileTree) (args : List Text) : Run :=
  let r := answer setting t args
  { r with output := Text.ofList (Text.withLineFeeds r.output.toList) }

end ModelBindings.CommandLine
