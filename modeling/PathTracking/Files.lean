import PathTracking.Text.Quoted

/-!
# Files

What a run asks of the files around it, and a tree of files below a working directory that
answers it: relative names and contents. Looking a name up fails in the ways opening a file
does.
-/
namespace PathTracking

inductive FileFault
  | notFound (name : String)
  | occupied (name : String)
  | notDirectory (name : String)
  | isDirectory (name : String)
  | nameTooLong (name : String)
  | nullCharacter
  deriving DecidableEq, Repr

namespace FileFault

def shown (name : String) : String := String.ofList (Text.quoted name.toList)

def message : FileFault → String
  | notFound name => s!"[Errno 2] No such file or directory: {shown name}"
  | occupied name => s!"[Errno 17] File exists: {shown name}"
  | notDirectory name => s!"[Errno 20] Not a directory: {shown name}"
  | isDirectory name => s!"[Errno 21] Is a directory: {shown name}"
  | nameTooLong name => s!"[Errno 36] File name too long: {shown name}"
  | nullCharacter => "embedded null byte"

end FileFault

abbrev Bytes := List UInt8

/-- The files around a run, seen through a monad. -/
structure Host (m : Type → Type) where
  /-- The content of a file. -/
  read : String → ExceptT FileFault m Bytes
  /-- Makes sure that a file exists, and the directories above it, and tells its full
  name. -/
  create : String → ExceptT FileFault m String

/-- A path below the working directory, without `.` and `..`. -/
abbrev Location := List String

structure FileTree where
  files : List (Location × Bytes)

namespace FileTree

inductive Entry
  | directory
  | file (content : Bytes)
  | absent
  deriving DecidableEq, Repr

def entry (t : FileTree) (l : Location) : Entry :=
  match t.files.find? fun (m, _) => m = l with
  | some (_, content) => .file content
  | none =>
    if l.isEmpty || t.files.any fun (m, _) => l.isPrefixOf m then .directory else .absent

def splitName (name : String) : List String :=
  (name.toList.splitOn '/').map String.ofList

/-- Whether a part of a name is longer than a file system admits. -/
def hasLongPart (parts : List String) : Bool := parts.any (255 < ·.utf8ByteSize)

/-- Follows the parts of a name from a directory on; every part but the last has to lead
to a directory. A step above the working directory leaves the tree. -/
def walk (t : FileTree) (name : String) : Location → List String → Except FileFault Entry
  | here, [] => .ok (t.entry here)
  | here, part :: rest =>
    if t.entry here ≠ .directory then
      .error (if t.entry here = .absent then .notFound name else .notDirectory name)
    else if part = "" ∨ part = "." then walk t name here rest
    else if part = ".." then
      -- Above the working directory nothing is known but that directories are there.
      if here.isEmpty then
        (if rest.all fun p => p = "" ∨ p = "." ∨ p = ".." then .ok .directory
         else .error (.notFound name))
      else walk t name here.dropLast rest
    else walk t name (here ++ [part]) rest

/-- The content of the file of a name. -/
def read (t : FileTree) (name : String) : Except FileFault Bytes :=
  if name.contains '\x00' then .error .nullCharacter
  else if name.isEmpty then .error (.notFound name)
  else if hasLongPart (splitName name) then .error (.nameTooLong name)
  else if name.startsWith "/" then
    .error (if (splitName name).all (·.isEmpty) then .isDirectory name else .notFound name)
  else
    match t.walk name [] (splitName name) with
    | .ok (.file content) => .ok content
    | .ok .directory => .error (.isDirectory name)
    | .ok .absent => .error (.notFound name)
    | .error fault => .error fault

/-- Where a relative name leads, judged by its parts alone. -/
def locate (parts : List String) : Location :=
  parts.foldl (fun l part =>
    if part = "" ∨ part = "." then l else if part = ".." then l.dropLast else l ++ [part]) []

/-- The full name of a location under the working directory `root`. -/
def fullName (root : String) (l : Location) : String := "/".intercalate (root :: l)

/-- Checks that a location can be made a directory below `here`, one that is there. -/
def checkDirectories (t : FileTree) (root : String) (here : Location) :
    List String → Except FileFault Unit
  | [] => .ok ()
  | part :: rest =>
    let next := here ++ [part]
    if hasLongPart [part] then .error (.nameTooLong (fullName root next))
    else
      match t.entry next, rest with
      | .file _, [] => .error (.occupied (fullName root next))
      | .file _, inner :: _ => .error (.notDirectory (fullName root (next ++ [inner])))
      | _, _ => checkDirectories t root next rest

/-- Makes sure that the file at a location exists. -/
def createAt (t : FileTree) (root : String) (l : Location) : Except FileFault FileTree := do
  t.checkDirectories root [] l.dropLast
  if hasLongPart (l.drop (l.length - 1)) then throw (.nameTooLong (fullName root l))
  match t.entry l with
  | .directory => throw (.isDirectory (fullName root l))
  | .file _ => return t
  | .absent => return ⟨t.files ++ [(l, [])]⟩

/-- Makes sure that the file of a name exists, and tells its full name. A file with an
absolute name lies outside the tree. -/
def create (t : FileTree) (root name : String) : Except FileFault (String × FileTree) := do
  if name.contains '\x00' then throw .nullCharacter
  let l := locate (splitName name)
  if name.startsWith "/" then return (fullName "" l, t)
  return (fullName root l, ← t.createAt root l)

/-- A tree of files that grows as files are made. -/
def host (root : String) : Host (StateM FileTree) where
  read name := ExceptT.mk fun t => (t.read name, t)
  create name := ExceptT.mk fun t =>
    match t.create root name with
    | .ok (full, t) => (.ok full, t)
    | .error fault => (.error fault, t)

end FileTree
end PathTracking
