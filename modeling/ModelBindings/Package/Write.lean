import ModelBindings.FileTree.AtomicWrite
import ModelBindings.Outcome
import ModelBindings.Package

/-!
# Writing packages

The files of a package are written one after another into a directory, each atomically. Nothing is
written unless the settings say so.

* `Package.write` : write the package of a data model.
-/

set_option autoImplicit false

namespace ModelBindings.Package

/-- A record of the package. -/
def record (level : Level) (message : Text) : Record :=
  ⟨level, .package, message⟩

/-- The record of a run that writes nothing. -/
def disabledRecord : Record :=
  record .info "Generation disabled, skipping (enable it with GENERATE_PYTHON=true)"

/-- The record of a file that was written. -/
def wroteRecord (p : Path) : Record :=
  record .debug ("Wrote " ++ p.toString)

/-- The record of a package that was written. -/
def generatedRecord (d : Datamodel) (out : Path) : Record :=
  record .info ("Generated " ++ Text.ofList (Text.digits d.enums.length) ++ " enum(s) and "
    ++ Text.ofList (Text.digits d.models.length) ++ " model(s) in " ++ out.toString)

/-- The directory of the package: the one asked for, or that of the settings. -/
def outputDirectory (c : Settings) (output : Value) : Except Fault Path :=
  let target := if output.isTruthy then output else c.outputDir
  if target.isTruthy then
    match target with
    | .text s => .ok (Path.ofString s)
    | v => .error (.value (.notPath v))
  else .error (.package .noOutput)

/-- Go on behind a file that was written, unless its writing stopped. -/
def behindFile (p : Path) (written : FileTree × Except Fault Unit)
    (rest : FileTree → Outcome (List Path)) : Outcome (List Path) :=
  match written with
  | (t, .error e) => .fail t e
  | (t, .ok ()) =>
    Outcome.after [wroteRecord p] ((rest t).bind fun t paths => .ok t (p :: paths))

/-- Write files into a directory, one after another. -/
def writeFiles (validate : Bool) (out : Path) (t : FileTree) : Files → Outcome (List Path)
  | [] => .ok t []
  | (name, text) :: r =>
    let path := out.join (Path.ofString name)
    behindFile path (t.writeAtomically path text validate) fun t => writeFiles validate out t r

/-- Make the directory of a package, then its files, and write them. -/
def writeInto (c : Settings) (d : Datamodel) (out : Path) (t : FileTree) : Outcome (List Path) :=
  match t.makeDirectories out with
  | (t, .error e) => .fail t (.file e)
  | (t, .ok ()) =>
    (Outcome.ofTraced t (generate c d)).bind fun t files =>
    (writeFiles c.validate.isTruthy out t files).bind fun t paths =>
    Outcome.after [generatedRecord d out] (.ok t paths)

/-- Write the package of a data model; the paths of its files are the result. -/
def write (c : Settings) (d : Datamodel) (output : Value) (t : FileTree) : Outcome (List Path) :=
  if c.enabled.isTruthy then
    match outputDirectory c output with
    | .error e => .fail t e
    | .ok out => writeInto c d out t
  else Outcome.after [disabledRecord] (.ok t [])

end ModelBindings.Package
