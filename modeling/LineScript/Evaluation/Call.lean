import LineScript.Disk
import LineScript.Machine
import LineScript.Text.Utf8

namespace LineScript.Evaluation

open Exec

/-- Evaluates the parts between commas, from left to right. -/
def arguments (m : Machine) (source : Text) (locals : Variables) (self : Option Address) :
    Exec (List Value) :=
  (Text.commaParts source).mapM fun part => m.eval part locals self

/-- The variables of a call: each parameter has its argument. -/
def bindParams (params : List Text) (values : List Value) : Variables :=
  Table.setAll ((params.map some).zip values) []

/-- The parameters that arguments are given for: a method need not name the object itself. -/
def explicitParams : List Text → List Text
  | [] => []
  | param :: params => if param = "self" then params else param :: params

def callMethod (m : Machine) (address : Address) (method : Text) (values : List Value) :
    Exec Value := do
  let object := (← get).heap.object address
  match object.methods.get? (some method) with
  | none => fail (.methodMissing method object.className)
  | some routine =>
      let params := explicitParams routine.params
      if params.length = values.length then
        m.call routine.body (bindParams params values) (some address)
      else fail (.methodArity method values.length params.length)

def operatorMethod? (symbol : Text) : Option Text :=
  Table.get? symbol
    [("+", "___add___"), ("-", "___sub___"), ("*", "___mul___"), ("/", "___truediv___"),
      ("==", "___eq___"), ("!=", "___ne___"), (">", "___gt___"), ("<", "___lt___"),
      ("getitem", "___getitem___"), ("setitem", "___setitem___")]

/-- Applies an operator to an object: calls the method that stands for it. -/
def operateObject (m : Machine) (address : Address) (symbol : Text) (other : Value) :
    Exec Value := do
  let object := (← get).heap.object address
  match operatorMethod? symbol with
  | none => fail (.operatorMissing symbol object.className)
  | some method =>
      if (object.methods.get? (some method)).isSome then callMethod m address method [other]
      else fail (.operatorMissing symbol object.className)

def readFile (disk : Disk) (path : Text) : Except Fault Text :=
  match disk.content path with
  | .error .notFound => .error (.fileMissing path)
  | .error (.refused reason) => .error (.fileUnreadable reason)
  | .ok bytes =>
      match Text.Utf8.read bytes with
      | .error defect => .error (.fileUnreadable defect.message)
      | .ok t => .ok (Text.unifyNewlines t)

def initMethod : Text := "___init___"

/-- Makes an object of a class and lets it initialise itself. -/
def instantiate (m : Machine) (className : Text) (methods : Table Name Routine)
    (values : List Value) : Exec Value := do
  let address ← newObject ⟨className, [], methods⟩
  if (methods.get? (some initMethod)).isSome then
    let _ ← callMethod m address initMethod values
  pure (.object address)

end LineScript.Evaluation
