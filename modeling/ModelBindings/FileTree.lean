import ModelBindings.Association
import ModelBindings.Fault
import ModelBindings.Location
import ModelBindings.Path

/-!
# File trees

Files and directories by their place below the root, and the current directory. The root is always
there. A path is followed name by name, each in a directory that exists.

* `FileTree.lookup?` : what stands at a place.
* `FileTree.resolve` : the place of a path; its last name may be missing there.
* `FileTree.makeDirectories` : a directory with the missing ones above it.
* `FileTree.readFile`, `FileTree.store`, `FileTree.remove` : the content of a file, a file with a
  new content, and a tree without what a path leads to.
-/

set_option autoImplicit false

namespace ModelBindings

/-- The content of a file: a text, or bytes that are no text in UTF-8. -/
inductive Content where
  | text (s : Text)
  | bytes (b : List UInt8)
  deriving Repr, DecidableEq

/-- The content that bytes are. -/
def Content.ofBytes (b : List UInt8) : Content :=
  match String.fromUTF8? ⟨b.toArray⟩ with
  | some s => .text s
  | none => .bytes b

/-- What stands at a place. -/
inductive Entry where
  | file (c : Content)
  | directory
  deriving Repr, DecidableEq

/-- Files and directories by place, and the current directory. -/
structure FileTree where
  entries : Association Location Entry
  current : Location
  deriving Repr

namespace FileTree

/-- A tree that holds nothing but the current directory, which has one name. -/
def empty (name : Text) : FileTree :=
  let l := Location.root.child name
  { entries := [(l, .directory)], current := l }

/-- What stands at a place. -/
def lookup? (t : FileTree) (l : Location) : Option Entry :=
  if l = .root then some .directory else Association.get? l t.entries

/-- Set what stands at a place. -/
def put (t : FileTree) (l : Location) (e : Entry) : FileTree :=
  { t with entries := Association.put l e t.entries }

/-- Remove what stands at a place. -/
def erase (t : FileTree) (l : Location) : FileTree :=
  { t with entries := Association.erase l t.entries }

theorem lookup?_put (t : FileTree) (l k : Location) (e : Entry) :
    (t.put l e).lookup? k = if k = .root then some .directory else if k = l then some e
      else t.lookup? k := by
  by_cases h : k = .root
  · simp [lookup?, h]
  · simp [lookup?, put, h, Association.get?_put]

theorem lookup?_erase (t : FileTree) (l k : Location) :
    (t.erase l).lookup? k = if k = .root then some .directory else if k = l then none
      else t.lookup? k := by
  by_cases h : k = .root
  · simp [lookup?, h]
  · simp [lookup?, erase, h, Association.get?_erase]

/-- There is a directory at the place. -/
def isDirectory (t : FileTree) (l : Location) : Bool :=
  t.lookup? l = some .directory

/-! ## Following paths -/

/-- The bytes that a name may have. -/
def nameLimit : Nat := 255

/-- The bytes that a path may have. -/
def pathLimit : Nat := 4095

/-- What keeps a text from being given to the file system: code points without form in bytes, or
the null character. -/
def pathFault? (s : Text) : Option FileFault :=
  match s.nameFault? with
  | some e => some (.notEncodable e)
  | none => if s.toList.contains '\x00' then some .nullCharacter else none

/-- A text that can be given for a path has a form in bytes without null character, and is not too
long. -/
def checkPath (s : Text) : Except FileFault Unit :=
  match pathFault? s with
  | some e => .error e
  | none => if pathLimit < s.byteSize then .error (.refused .nameTooLong s) else .ok ()

/-- The place of a name in a directory. -/
def child (t : FileTree) (l : Location) (name : Text) : Except FileCause Location :=
  match t.lookup? l with
  | none => .error .missing
  | some (.file _) => .error .notDirectory
  | some .directory =>
    if name = "." then .ok l
    else if name = ".." then .ok l.parent
    else if nameLimit < name.byteSize then .error .nameTooLong
    else .ok (l.child name)

/-- The place that names lead to. -/
def follow (t : FileTree) (l : Location) : List Text → Except FileCause Location
  | [] => .ok l
  | n :: r =>
    match t.child l n with
    | .error e => .error e
    | .ok l => follow t l r

/-- Where a path starts. -/
def startOf (t : FileTree) (p : Path) : Location :=
  if p.anchor = .current then t.current else .root

/-- The place of a path that was given as a text. -/
def resolveAs (t : FileTree) (given : Text) (p : Path) : Except FileFault Location :=
  match checkPath given with
  | .error e => .error e
  | .ok () =>
    match t.follow (t.startOf p) p.names with
    | .error e => .error (.refused e given)
    | .ok l => .ok l

/-- The place of a path; its last name may be missing there. -/
def resolve (t : FileTree) (p : Path) : Except FileFault Location :=
  t.resolveAs p.toString p

/-- Something stands where the path leads. -/
def leadsToEntry (t : FileTree) (p : Path) : Bool :=
  match t.resolve p with
  | .ok l => (t.lookup? l).isSome
  | .error _ => false

/-! ## Directories -/

/-- This many levels of missing directories can be made at once. -/
def levelLimit : Nat := 985

/-- Follow names as far as something stands there: the place reached, and the names left. -/
def advance (t : FileTree) (l : Location) :
    List Text → Except FileCause (Location × List Text)
  | [] => .ok (l, [])
  | n :: r =>
    match t.child l n with
    | .error e => .error e
    | .ok k => if (t.lookup? k).isSome then advance t k r else .ok (l, n :: r)

/-- Make the directories that names ask for, one in the other, unless they are there. The path is
that of the directory they start in. -/
def makeBelow (t : FileTree) (p : Path) (l : Location) :
    List Text → FileTree × Except FileFault Unit
  | [] => (t, .ok ())
  | n :: r =>
    let q : Path := { p with names := p.names ++ [n] }
    match t.child l n with
    | .error e => (t, .error (.refused e q.toString))
    | .ok k =>
      match t.lookup? k with
      | none => makeBelow (t.put k .directory) q k r
      | some .directory => makeBelow t q k r
      | some (.file _) => (t, .error (.refused .exists q.toString))

/-- Make the directory that names lead to, with the missing ones above it, unless it is there. -/
def makeMissing (t : FileTree) (p : Path) : FileTree × Except FileFault Unit :=
  match t.advance (t.startOf p) p.names with
  | .error e => (t, .error (.refused e p.toString))
  | .ok (l, []) =>
    if t.isDirectory l then (t, .ok ()) else (t, .error (.refused .exists p.toString))
  | .ok (l, missing) =>
    if levelLimit < missing.length then (t, .error .tooManyLevels)
    else t.makeBelow { p with names := p.names.take (p.names.length - missing.length) } l missing

/-- Make the directory of a path, with the missing ones above it, unless it is there. -/
def makeDirectories (t : FileTree) (p : Path) : FileTree × Except FileFault Unit :=
  match checkPath p.toString with
  | .error e => (t, .error e)
  | .ok () => t.makeMissing p

/-- Make a directory that must not be there, with the missing ones above it. -/
def makeNewDirectory (t : FileTree) (p : Path) : FileTree × Except FileFault Unit :=
  if t.leadsToEntry p then (t, .error (.refused .exists p.toString)) else t.makeDirectories p

/-! ## Files -/

/-- The content of what stands at a place. -/
def contentAt (t : FileTree) (l : Location) (given : Text) : Except FileFault Content :=
  match t.lookup? l with
  | some (.file c) => .ok c
  | some .directory => .error (.refused .isDirectory given)
  | none => .error (.refused .missing given)

/-- The content of the file that a text names. -/
def readFile (t : FileTree) (given : Text) : Except FileFault Content :=
  if given = "" then .error (.refused .missing given)
  else
    match t.resolveAs given (.asWritten given) with
    | .error e => .error e
    | .ok l => t.contentAt l given

/-- The text of the file that a text names, with every line end as one line feed. -/
def readText (t : FileTree) (given : Text) : Except FileFault (List CodePoint) :=
  match t.readFile given with
  | .error e => .error e
  | .ok (.bytes _) => .error .notUtf8
  | .ok (.text s) => .ok (Text.normalizeNewlines s.toList)

/-- Give a file a content, where no directory stands. -/
def overwrite (t : FileTree) (p : Path) (c : Content) : FileTree × Except FileFault Unit :=
  match t.resolve p with
  | .error e => (t, .error e)
  | .ok l =>
    if t.isDirectory l then (t, .error (.refused .isDirectory p.toString))
    else (t.put l (.file c), .ok ())

/-- Give a file a content, in a directory that is made if it is missing. -/
def store (t : FileTree) (p : Path) (c : Content) : FileTree × Except FileFault Unit :=
  match t.makeDirectories p.parent with
  | (t, .error e) => (t, .error e)
  | (t, .ok ()) => t.overwrite p c

/-- Remove what a path leads to, with everything below it. -/
def remove (t : FileTree) (p : Path) : FileTree × Except FileFault Unit :=
  match t.resolve p with
  | .error e => (t, .error e)
  | .ok l =>
    if (t.lookup? l).isSome then
      ({ t with entries := t.entries.filter fun e => (l.below? e.1).isNone }, .ok ())
    else (t, .error (.refused .missing p.toString))

end FileTree

end ModelBindings
