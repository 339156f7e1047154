import LineScript.Text.Basic

/-!
The files that a script can read. Nothing is assumed of them: a disk is any answer to the question
what stands at a path.
-/

namespace LineScript

/-- Why a file cannot be opened. -/
inductive OpenError where
  | notFound
  /-- Any other reason, in the words of the system. -/
  | refused (reason : Text)
  deriving DecidableEq, Repr

/-- The bytes of the file at each path, or why it cannot be opened. -/
structure Disk where
  content : Text → Except OpenError (List UInt8)

namespace Disk

def empty : Disk := ⟨fun _ => .error .notFound⟩

def withFile (disk : Disk) (path : Text) (bytes : List UInt8) : Disk :=
  ⟨fun other => if other = path then .ok bytes else disk.content other⟩

theorem content_withFile_self (disk : Disk) (path : Text) (bytes : List UInt8) :
    (disk.withFile path bytes).content path = .ok bytes :=
  if_pos rfl

end Disk

end LineScript
