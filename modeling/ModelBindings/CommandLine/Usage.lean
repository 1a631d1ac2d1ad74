import ModelBindings.CommandLine.Arguments
import ModelBindings.Text.Terminal

/-!
# Texts of the command

How the command is used, and what is said of a command line that cannot be read.
-/

set_option autoImplicit false

namespace ModelBindings.CommandLine

/-- The name of the command. -/
def commandName : Text := "prisma_to_pydantic"

/-- A message as it is shown. -/
def shown (message : Text) : Text :=
  Text.ofList (Text.withoutControls message.toList)

/-- The first line of every text on its use. -/
def usageLine : Text :=
  "Usage: " ++ commandName ++ " [OPTIONS] PATH OUTPUT\n"

/-- The help text. -/
def helpText : Text :=
  usageLine ++ "\nOptions:\n"
    ++ "  -c, --config PATH\n"
    ++ "  --enums-module TEXT   Module name of the generated enums\n"
    ++ "  --enable / --disable  Whether to write anything (defaults to the\n"
    ++ "                        GENERATE_PYTHON environment variable)  [env var:\n"
    ++ "                        GENERATE_PYTHON]\n"
    ++ "  -v, --verbose         Log every file written and every type fallback\n"
    ++ "  --help                Show this message and exit.\n"

/-- How a parameter is named in a fault. -/
def Parameter.hint : Parameter → Text
  | .config => "'--config' / '-c'"
  | .enumsModule => "'--enums-module'"
  | .enabled => "'--enable'"
  | .verbose => "'--verbose' / '-v'"
  | .path => "'PATH'"
  | .output => "'OUTPUT'"

/-- A text between quotes. -/
def inQuotes (s : Text) : Text :=
  (Value.text s).quoted

/-- The options that might have been meant. -/
def suggestion : List Text → Text
  | [] => ""
  | [s] => " Did you mean " ++ s ++ "?"
  | l => " (Possible options: " ++ Text.join ", " (l.mergeSort fun a b => decide (a ≤ b)) ++ ")"

namespace UsageFault

/-- The text of a fault. -/
def message : UsageFault → Text
  | .noSuchOption name similar => "No such option: " ++ name ++ suggestion similar
  | .requiresArgument name => "Option " ++ inQuotes name ++ " requires an argument."
  | .takesNoValue name => "Option " ++ inQuotes name ++ " does not take a value."
  | .missing p => "Missing argument " ++ p.hint ++ "."
  | .doesNotExist p path =>
    "Invalid value for " ++ p.hint ++ ": Path " ++ inQuotes path ++ " does not exist."
  | .notBoolean s =>
    "Invalid value for " ++ Parameter.enabled.hint ++ ": " ++ inQuotes s
      ++ " is not a valid boolean."
  | .extraArguments l =>
    (if l.length = 1 then "Got unexpected extra argument (" else "Got unexpected extra arguments (")
      ++ Text.join " " l ++ ")"

/-- The use of the command is shown before the fault. -/
def showsUsage : UsageFault → Bool
  | .requiresArgument _ => false
  | .takesNoValue _ => false
  | _ => true

/-- What is put out for a fault. -/
def text (f : UsageFault) : Text :=
  (if f.showsUsage then
    usageLine ++ "Try '" ++ commandName ++ " --help' for help.\n\n"
  else "") ++ "Error: " ++ shown f.message ++ "\n"

end UsageFault

end ModelBindings.CommandLine
