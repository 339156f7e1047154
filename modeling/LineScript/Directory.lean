import LineScript.Disk
import LineScript.Text.Quoted

/-!
The disk of a working directory that is given by its entries, with nothing around it. Everything
outside the directory counts as a directory without entries.
-/

namespace LineScript

/-- What stands at a path of a directory. -/
inductive Entry where
  | file (content : List UInt8)
  | directory
  deriving DecidableEq, Repr

/-- A directory: what stands at each path below it, a path being the names along it. -/
structure Directory where
  entries : List (List Text × Entry)

namespace Directory

/-- Why the walk along a path ends. -/
inductive Failure where
  | notFound
  | notADirectory
  | isADirectory
  | nameTooLong
  | nullByte
  deriving DecidableEq, Repr

def byteSize (t : Text) : Nat := t.foldl (fun n c => n + c.utf8Size) 0

/-- The greatest number of bytes in one name of a path. -/
def nameLimit : Nat := 255

/-- The number of bytes that a path stays below. -/
def pathLimit : Nat := 4096

/-- The names along a path; empty names and the name of the directory itself lead nowhere else. -/
def names (path : Text) : List Text :=
  (Text.splitAll '/' path).filter fun name => name ≠ [] && name ≠ ['.']

/-- Adds an entry together with the directories above it. -/
def add (directory : Directory) (path : Text) (entry : Entry) : Directory :=
  let along := names path
  let above := (List.range along.length).map fun n => (along.take n, Entry.directory)
  ⟨directory.entries ++ above ++ [(along, entry)]⟩

def find? (directory : Directory) (along : List Text) : Option Entry :=
  if along.isEmpty then some .directory else directory.entries.lookup along

/-- A place that the walk along a path has reached. -/
inductive Place where
  /-- Below the directory, or at it. -/
  | inside (along : List Text)
  /-- Outside the directory. -/
  | outside

def stepFrom (directory : Directory) (place : Place) (name : Text) :
    Except Failure (Place × Entry) :=
  if name = [] || name = ['.'] then .ok (place, .directory)
  else if name = ['.', '.'] then
    match place with
    | .inside along =>
        if along.isEmpty then .ok (.outside, .directory)
        else .ok (.inside along.dropLast, .directory)
    | .outside => .ok (.outside, .directory)
  else if nameLimit < byteSize name then .error .nameTooLong
  else
    match place with
    | .outside => .error .notFound
    | .inside along =>
        match directory.find? (along ++ [name]) with
        | none => .error .notFound
        | some entry => .ok (.inside (along ++ [name]), entry)

/-- Walks along the names of a path. Only a directory can be left. -/
def walk (directory : Directory) : Place → Entry → List Text → Except Failure Entry
  | _, entry, [] => .ok entry
  | _, .file _, _ :: _ => .error .notADirectory
  | place, .directory, name :: rest => do
      let (place, entry) ← stepFrom directory place name
      walk directory place entry rest

def read (directory : Directory) (path : Text) : Except Failure (List UInt8) :=
  if path.contains (Char.ofNat 0) then .error .nullByte
  else if path = [] then .error .notFound
  else if pathLimit ≤ byteSize path then .error .nameTooLong
  else
    let start := if path.head? = some '/' then Place.outside else .inside []
    match walk directory start .directory (Text.splitAll '/' path) with
    | .error e => .error e
    | .ok .directory => .error .isADirectory
    | .ok (.file bytes) => .ok bytes

/-- The wording of a failure at a path. -/
def Failure.toOpenError (path : Text) : Failure → OpenError
  | .notFound => .notFound
  | .notADirectory => .refused (Text.join ["[Errno 20] Not a directory: ", Text.quoted path])
  | .isADirectory => .refused (Text.join ["[Errno 21] Is a directory: ", Text.quoted path])
  | .nameTooLong => .refused (Text.join ["[Errno 36] File name too long: ", Text.quoted path])
  | .nullByte => .refused "embedded null byte"

/-- The disk as it is seen from the directory. -/
def disk (directory : Directory) : Disk :=
  ⟨fun path => (directory.read path).mapError (·.toOpenError path)⟩

end Directory

end LineScript
