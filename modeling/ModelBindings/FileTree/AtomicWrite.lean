import ModelBindings.FileTree
import ModelBindings.Source.Grammar

/-!
# Atomic writes

A file is replaced as a whole or not at all: the text goes to a temporary file beside the target,
is checked there if that is asked for, and then takes the target's place. Missing directories above
the target are made first.

* `FileTree.writeAtomically` : replace a file.
-/

set_option autoImplicit false

namespace ModelBindings.FileTree

/-- A number in eight digits. -/
def eightDigits (n : Nat) : List CodePoint :=
  List.replicate (8 - (Text.digits n).length) (.char '0') ++ Text.digits n

/-- The name of a temporary file beside a file. -/
def temporaryName (name : Text) (n : Nat) : Text :=
  "." ++ name ++ "." ++ Text.ofList (eightDigits n) ++ ".tmp"

/-- A name of a temporary file that is not in use in a directory. -/
def freshName? (t : FileTree) (directory : Location) (name : Text) : Option Text :=
  ((List.range (t.entries.length + 1)).map (temporaryName name)).find? fun n =>
    (t.lookup? (directory.child n)).isNone

/-- The last name of the path can be replaced. -/
def isReplaceable (p : Path) : Bool :=
  p.name != "" && p.name != ".."

/-- Move a file to where a path leads, over a file that may stand there. -/
def replace (t : FileTree) (source : Location) (c : Content) (p : Path) :
    Except FileFault FileTree :=
  if isReplaceable p then
    match t.resolve p with
    | .error e => .error e
    | .ok l =>
      if t.isDirectory l then .error (.refused .isDirectory p.toString)
      else .ok ((t.erase source).put l (.file c))
  else .error (.refused .busy p.toString)

/-- Check that a text can be put into bytes. -/
def checkEncoding (text : Text) : Except Fault Unit :=
  match text.encodingFault? with
  | some e => .error (.file (.notEncodable e))
  | none => .ok ()

/-- Check the text of a source file, which can be put into bytes. -/
def checkEncoded (text : Text) : Except Fault Unit :=
  if text.toList.contains '\x00' then .error .nullInSource
  else
    match Source.judge text with
    | .valid => .ok ()
    | .invalid => .error (.package .invalidSource)
    | .tooDeep => .error .sourceTooDeep
    | .tooTall => .error .sourceTooTall

/-- Check the text of a source file. -/
def checkSource (text : Text) : Except Fault Unit := do
  checkEncoding text
  checkEncoded text

/-- Write a text, and then check it if that is asked for and it is that of a source file. -/
def checkText (p : Path) (text : Text) (validate : Bool) : Except Fault Unit := do
  checkEncoding text
  if validate && p.suffix == ".py" then checkSource text

/-- Check the name of a temporary file in a directory before it is made. -/
def checkTemporary (directory : Location) (name : Text) : Except FileFault Unit :=
  let path := (directory.child name).path
  match checkPath path with
  | .error e => .error e
  | .ok () => if nameLimit < name.byteSize then .error (.refused .nameTooLong path) else .ok ()

/-- Write a text to a temporary file and let it take the place of a file. The temporary file goes
again when that cannot be done. -/
def writeThrough (t : FileTree) (source : Location) (p : Path) (text : Text)
    (validate : Bool) : FileTree × Except Fault Unit :=
  let written := t.put source (.file (.text text))
  match checkText p text validate with
  | .error e => (written.erase source, .error e)
  | .ok () =>
    match written.replace source (.text text) p with
    | .error e => (written.erase source, .error (.file e))
    | .ok t => (t, .ok ())

/-- Write a text beside a file in a directory and let it take the place of the file. -/
def writeBeside (t : FileTree) (directory : Location) (p : Path) (text : Text)
    (validate : Bool) : FileTree × Except Fault Unit :=
  match t.freshName? directory p.name with
  | none => (t, .error (.file (.refused .exists p.toString)))
  | some name =>
    match checkTemporary directory name with
    | .error e => (t, .error (.file e))
    | .ok () => t.writeThrough (directory.child name) p text validate

/-- Replace a file by a text, or leave it as it is. -/
def writeAtomically (t : FileTree) (p : Path) (text : Text) (validate : Bool) :
    FileTree × Except Fault Unit :=
  match t.makeDirectories p.parent with
  | (t, .error e) => (t, .error (.file e))
  | (t, .ok ()) =>
    match t.resolve p.parent with
    | .error e => (t, .error (.file e))
    | .ok directory => t.writeBeside directory p text validate

end ModelBindings.FileTree
