import LineScript.Machine

/-!
Running the lines of bodies. Bodies of functions are fixed lists. Bodies of other blocks are read
from the store line by line while they run, because running them can change them; such a run takes
a bound on the number of lines.
-/

namespace LineScript.Execution

open Exec

/-- The expression of a line that ends a body with a value. -/
def returned? (line : Text) : Option Text :=
  (Text.after? "return_object" line).map Text.strip

/-- Executes lines up to the first that returns a value. -/
def runLines (m : Machine) (self : Option Address) : List Text → Exec Value
  | [] => pure .null
  | line :: rest =>
      match returned? line with
      | some source => do m.eval source (← get).vars self
      | none => do
          m.line line self
          runLines m self rest

/-- Executes lines in the variables that are there. -/
def runBlock (m : Machine) (lines : List Text) (self : Option Address) : Exec Value := do
  spend
  leavingBlock (runLines m self lines)

/-- Executes lines in variables of their own. -/
def call (m : Machine) (lines : List Text) (own : Variables) (self : Option Address) :
    Exec Value :=
  withVariables own (runBlock m lines self)

/-- Executes the lines of a body from a position on. The lines are read when their turn comes. -/
def runBodyFrom (m : Machine) (id : BodyId) : (bound position : Nat) → Exec Value
  | 0, _ => exhaust
  | bound + 1, position => do
      match ((← get).body id)[position]? with
      | none => pure .null
      | some line =>
          match returned? line with
          | some source => m.eval source (← get).vars none
          | none => do
              m.line line none
              runBodyFrom m id bound (position + 1)

def runBody (m : Machine) (bound : Nat) (id : BodyId) : Exec Value := do
  spend
  leavingBlock (runBodyFrom m id bound 0)

/-- Executes a body inside a loop and says whether the loop goes on. -/
def runRound (m : Machine) (bound : Nat) (id : BodyId) : Exec Bool :=
  rescue (do let _ ← runBody m bound id; pure true) fun cause =>
    match cause with
    | .loopBreak => pure false
    | .loopContinue => pure true
    | cause => fail cause

end LineScript.Execution
