import ModelBindings.Json.Reader
import ModelBindings.Text.Encoding
import ModelBindings.Value.Display

/-!
# Faults

Everything that can stop a run, by cause. A document that is no datamodel and a package that
cannot be made are told apart from values of an unusable type and from the file system's refusals.

* `SchemaFault`, `PackageFault`, `ValueFault`, `FileFault` : the causes.
* `Fault.kind` : the name under which a cause is reported.
* `Fault.message` : its text.
-/

set_option autoImplicit false

namespace ModelBindings

/-- Why a document is no datamodel. -/
inductive SchemaFault where
  | notObject (v : Value)
  | noDatamodel
  | notList (place key : Text) (v : Value)
  | unnamed (place : Text)
  | nameNotText (place : Text) (v : Value)
  | notJson (path : Text) (e : Json.ReadError)
  deriving Repr

/-- The text of a schema fault. -/
def SchemaFault.message : SchemaFault → Text
  | .notObject v => "Expected a JSON object, got " ++ v.typeName
  | .noDatamodel => "Input has no datamodel: expected 'models' and 'enums' lists"
  | .notList place key v => place ++ "." ++ key ++ " must be a list, got " ++ v.typeName
  | .unnamed place => place ++ " has no name"
  | .nameNotText place v => place ++ " name must be a string, got " ++ v.typeName
  | .notJson path e => path ++ " is not valid JSON: " ++ e.message

/-- Why a package cannot be made. -/
inductive PackageFault where
  | nameTaken (model fileName : Text)
  | noOutput
  | invalidSource
  deriving Repr, DecidableEq

/-- The text of a package fault. -/
def PackageFault.message : PackageFault → Text
  | .nameTaken model fileName =>
    "Model " ++ model ++ " would overwrite the generated file " ++ fileName
  | .noOutput => "No output directory specified for the generated package"
  | .invalidSource => "Generated Python code is not valid"

/-- A value of a type that cannot be used in its place. -/
inductive ValueFault where
  /-- Looked up among names. -/
  | unhashable (v : Value)
  /-- Taken as a list. -/
  | notIterable (v : Value)
  /-- Taken as a path. -/
  | notPath (v : Value)
  /-- Taken as a text or an object, for the use named. -/
  | lacks (v : Value) (use : Text)
  /-- Given for an attribute that accepts no such value. -/
  | refused (name : Text)
  /-- Given for an attribute that cannot be set. -/
  | readOnly (name : Text)
  /-- An integer too long to be written in decimal. -/
  | tooManyDigits
  deriving Repr

/-- The text of a value fault. -/
def ValueFault.message : ValueFault → Text
  | .unhashable v => "unhashable type: '" ++ v.typeName ++ "'"
  | .notIterable v => "'" ++ v.typeName ++ "' object is not iterable"
  | .notPath v => "expected str, bytes or os.PathLike object, not " ++ v.typeName
  | .lacks v use => "'" ++ v.typeName ++ "' object has no attribute '" ++ use ++ "'"
  | .refused name => name ++ " cannot take this value"
  | .readOnly name => "attribute '" ++ name ++ "' is not writable"
  | .tooManyDigits => Json.ReadError.tooManyDigits.message

/-- Why the file system refuses. -/
inductive FileCause where
  | missing
  | exists
  | notDirectory
  | isDirectory
  | nameTooLong
  | busy
  deriving Repr, DecidableEq

/-- The number and words of a refusal. -/
def FileCause.words : FileCause → Text
  | .missing => "[Errno 2] No such file or directory"
  | .exists => "[Errno 17] File exists"
  | .notDirectory => "[Errno 20] Not a directory"
  | .isDirectory => "[Errno 21] Is a directory"
  | .nameTooLong => "[Errno 36] File name too long"
  | .busy => "[Errno 16] Device or resource busy"

/-- What keeps files from being read or written. -/
inductive FileFault where
  /-- The file system refuses. -/
  | refused (cause : FileCause) (path : Text)
  /-- A path or a content has no form in bytes. -/
  | notEncodable (e : EncodingFault)
  /-- A path holds the null character. -/
  | nullCharacter
  /-- More directories are missing one in the other than can be made at once. -/
  | tooManyLevels
  | notUtf8
  deriving Repr, DecidableEq

/-- The text of a file fault. -/
def FileFault.message : FileFault → Text
  | .refused cause path => cause.words ++ ": " ++ (Value.text path).quoted
  | .notEncodable e => e.message
  | .nullCharacter => "embedded null byte"
  | .tooManyLevels => "maximum recursion depth exceeded"
  | .notUtf8 => "'utf-8' codec can't decode the file"

/-- Everything that can stop a run. -/
inductive Fault where
  | schema (f : SchemaFault)
  | package (f : PackageFault)
  | value (f : ValueFault)
  | file (f : FileFault)
  | json (e : Json.ReadError)
  /-- The text of a source file holds the null character. -/
  | nullInSource
  /-- The text of a source file leads too far down to be read. -/
  | sourceTooDeep
  /-- The text of a source file stands for too tall a tree. -/
  | sourceTooTall
  deriving Repr

namespace Fault

/-- The name under which a fault is reported. -/
def kind : Fault → Text
  | .schema _ => "SchemaParseError"
  | .package _ => "GenerationError"
  | .value (.unhashable _) => "TypeError"
  | .value (.notIterable _) => "TypeError"
  | .value (.notPath _) => "TypeError"
  | .value (.refused _) => "TypeError"
  | .value (.lacks _ _) => "AttributeError"
  | .value (.readOnly _) => "AttributeError"
  | .value .tooManyDigits => "ValueError"
  | .file (.refused .missing _) => "FileNotFoundError"
  | .file (.refused .exists _) => "FileExistsError"
  | .file (.refused .notDirectory _) => "NotADirectoryError"
  | .file (.refused .isDirectory _) => "IsADirectoryError"
  | .file (.refused _ _) => "OSError"
  | .file (.notEncodable _) => "UnicodeEncodeError"
  | .file .nullCharacter => "ValueError"
  | .file .tooManyLevels => "RecursionError"
  | .file .notUtf8 => "UnicodeDecodeError"
  | .json .tooManyDigits => "ValueError"
  | .json .tooDeep => "RecursionError"
  | .json (.malformed _ _ _ _) => "JSONDecodeError"
  | .nullInSource => "ValueError"
  | .sourceTooDeep => "MemoryError"
  | .sourceTooTall => "RecursionError"

/-- The text of a fault. -/
def message : Fault → Text
  | .schema f => f.message
  | .package f => f.message
  | .value f => f.message
  | .file f => f.message
  | .json e => e.message
  | .nullInSource => "source code string cannot contain null bytes"
  | .sourceTooDeep => ""
  | .sourceTooTall => "maximum recursion depth exceeded during ast construction"

/-- A fault of the document or of the package, as against one of values, files or texts. -/
def isGeneration : Fault → Bool
  | .schema _ => true
  | .package _ => true
  | _ => false

/-- A fault that a generation run is expected to meet: of the document, of the package, or a
refusal of the file system. -/
def isExpected : Fault → Bool
  | .schema _ => true
  | .package _ => true
  | .file (.refused _ _) => true
  | _ => false

end Fault

end ModelBindings
