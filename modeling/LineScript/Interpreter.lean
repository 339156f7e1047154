import LineScript.Execution

/-!
The interpreter. Its parts are tied together with a bound: a machine of bound `n + 1` uses one of
bound `n` for all that it evaluates and executes, and runs at most `n` lines of a body and `n`
rounds of a loop. This bound is on the depth of an execution and makes every execution end. How much
is executed in all is limited by the allowance of the state.

The stack of the host is taken to be unlimited. A real one overflows at a chain of about a thousand
operators, or at about five hundred calls inside each other; such an overflow is no fault here. Only
the comparison of collections that hold each other, which needs any stack there is, ends by one
(`Fault.endlessComparison`).
-/

namespace LineScript

namespace Machine

def ofBound (disk : Disk) : Nat → Machine
  | 0 => idle
  | n + 1 =>
      { eval := fun source locals self => Evaluation.eval disk (ofBound disk n) source locals self
        call := fun lines own self => Execution.call (ofBound disk n) lines own self
        line := fun source self => Execution.line (ofBound disk n) n source self }

/-- Executes lines, in their own variables if some are given. -/
def block (m : Machine) (lines : List Text) (own : Option Variables) (self : Option Address) :
    Exec Value :=
  match own with
  | some own => Execution.call m lines own self
  | none => Execution.runBlock m lines self

/-- The object that a variable holds. Any other value lacks the member that is asked for. -/
def heldObject (name member : Text) : Exec Address := do
  let s ← get
  match s.vars.get? (some name) with
  | none => Exec.fail (.keyMissing (some (Text.quoted name)))
  | some (.object address) => pure address
  | some value => Exec.fail (.memberMissing value.typeName member)

def callHeld (m : Machine) (name method : Text) (values : List Value) : Exec Value := do
  let address ← heldObject name "call_method"
  Evaluation.callMethod m address method values

/-- Applies an operator to the object that a variable holds. -/
def operateHeld (m : Machine) (name symbol : Text) (other : Value) : Exec Value := do
  let address ← heldObject name "handle_operator"
  Evaluation.operateObject m address symbol other

end Machine

end LineScript
