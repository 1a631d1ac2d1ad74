import ModelBindings.CommandLine

/-!
# The programs

The command runs on its arguments. Under the name `prisma-pydantic-generator` the program serves
requests from its standard input. Both work on a picture of the files that they may meet, and what
the run changed in it is then written to the disk.
-/

set_option autoImplicit false

namespace ModelBindings.Disk

/-- The place of a path from the root. -/
def locationOf (s : String) : Location :=
  .ofNames (Path.ofString s).names

/-- What stands at a place; the content of a file is left out unless it is asked for. -/
def entryAt (withContent : Bool) (l : Location) : IO (Option Entry) := do
  let p := (← IO.currentDir) / l.path.printed
  if ← p.isDir then return some .directory
  else if ← p.pathExists then
    if withContent then return some (.file (.ofBytes (← IO.FS.readBinFile p).toList))
    else return some (.file (.bytes []))
  else return none

/-- The picture with one place, unless it is in it. -/
def addEntry (t : FileTree) (withContent : Bool) (l : Location) : IO FileTree := do
  if (t.lookup? l).isSome then return t
  match ← entryAt withContent l with
  | some e => return t.put l e
  | none => return t

/-- The picture with a place and the directories above it. -/
def addPlace (t : FileTree) (l : Location) : IO FileTree := do
  let mut t := t
  for n in List.range (l.depth + 1) do
    t ← addEntry t (n == l.depth) (.ofNames (l.names.take n))
  return t

/-- The picture with everything below a place. -/
partial def addBelow (t : FileTree) (l : Location) : IO FileTree := do
  let p := (← IO.currentDir) / l.path.printed
  if ← p.isDir then
    let mut t := t
    for child in ← p.readDir do
      let place := l.child child.fileName
      t ← addBelow (← addEntry t false place) place
    return t
  else return t

/-- A picture of the current directory itself. -/
def current : IO FileTree := do
  let l := locationOf (← IO.currentDir).toString
  addPlace { entries := [], current := l } l

/-- The picture with a directory that may be written to. -/
def addOutput (t : FileTree) (s : Text) : IO FileTree := do
  let l := Location.ofNames (CommandLine.fullPath t s).names
  addBelow (← addPlace t l) l

/-- Write a file beside its place and move it there. -/
def writeFile (l : Location) (c : Content) : IO Unit := do
  let beside := (l.parent.child ("." ++ l.name ++ ".tmp")).path.printed
  match c with
  | .text s => IO.FS.writeFile beside s.printed
  | .bytes b => IO.FS.writeBinFile beside ⟨b.toArray⟩
  IO.FS.rename beside l.path.printed

/-- Write to the disk what a run changed. -/
def apply (before after : FileTree) : IO Unit := do
  for (l, e) in after.entries do
    if before.lookup? l != some e then
      match e with
      | .directory => IO.FS.createDir l.path.printed
      | .file c => writeFile l c

end ModelBindings.Disk

namespace ModelBindings

/-- What the variable that asks for generation is set to. -/
def surroundings : IO (Option Text) :=
  return (← IO.getEnv Service.enableVariable.printed).map .ofString

/-- Tell of a fault that ends a program. -/
def reportFault (f : Fault) : IO UInt32 := do
  IO.eprintln (f.kind ++ ": " ++ f.message).printed
  return 1

/-- The picture that a run of the command needs. -/
def commandTree (args : List Text) : IO FileTree := do
  let mut t ← Disk.current
  match CommandLine.Arguments.read args with
  | .error _ => return t
  | .ok a =>
    for s in a.config.toList ++ a.positional.take 1 do
      t ← Disk.addPlace t (.ofNames (CommandLine.fullPath t s).names)
    for s in (a.positional.drop 1).take 1 do
      t ← Disk.addOutput t s
    return t

/-- Run the command. -/
def runCommand (args : List Text) : IO UInt32 := do
  let t ← commandTree args
  let run := CommandLine.run (← surroundings) t args
  Disk.apply t run.tree
  if run.exitCode = 0 then IO.print run.output.printed else IO.eprint run.output.printed
  match run.fault with
  | some f => reportFault f
  | none => return UInt32.ofNat run.exitCode

/-- The directory that a line asks to write to. -/
def outputOf (env : Service.Environment) (line : Text) : Option Text :=
  match Service.readLine line.toList with
  | .request v =>
    match Service.readOrder env (Service.orEmpty (v.memberD "params" .null)) with
    | .ok { settings := { outputDir := .text s, .. }, .. } => some s
    | _ => none
  | _ => none

/-- Serve the requests of the standard input. -/
partial def serveInput (input : IO.FS.Stream) : IO UInt32 := do
  let line ← input.getLine
  if line.isEmpty then return 0
  let env := Service.environmentOf (← surroundings)
  let here ← Disk.current
  let t ← match outputOf env line with
    | some s => Disk.addOutput here s
    | none => pure here
  let session := Service.serve env t line
  Disk.apply t session.tree
  IO.eprint (session.output .info).printed
  match session.ending with
  | .error f => reportFault f
  | .ok () => serveInput input

end ModelBindings

open ModelBindings in
/-- The program serves requests under one name and runs the command under any other. -/
def main (args : List String) : IO UInt32 := do
  if (← IO.appPath).fileName == some "prisma-pydantic-generator" then
    serveInput (← IO.getStdin)
  else runCommand (args.map .ofString)
