import LineScript.Execution.Block
import LineScript.Statement

/-!
The execution of lines. A line is silent, closes a block, is captured into the open block, or is a
statement.
-/

namespace LineScript

open Exec

namespace Execution

def setItemMethod : Text := "___setitem___"

/-- Writes an element of a collection, and says whether the target is one. -/
def assignElement (m : Machine) (target : Text) (value : Value) : Exec Bool := do
  match Expression.index? target with
  | none => pure false
  | some (name, source) =>
      match (← get).vars.get? (some name) with
      | none => fail (.undefinedCollection name)
      | some collection => do
          let index ← m.eval source [] none
          match collection with
          | .object address =>
              if (((← get).heap.object address).methods.get? (some setItemMethod)).isSome then
                let _ ← Evaluation.callMethod m address setItemMethod [index, value]
                pure true
              else pure false
          | .list address => do writeItem address index value; pure true
          | .dict address => do writeEntry address index value; pure true
          | _ => pure false

/-- Writes a variable that is no constant. -/
def assignVariable (target : Text) (value : Value) : Exec Unit := do
  if ((← get).consts.get? (some target)).isSome then fail (.constantAssigned target)
  else setVariable (some target) value

/-- Executes an assignment: to a field of the current object, to an element of a collection, or else
to the variable that has the target's text as its name. -/
def assign (m : Machine) (target source : Text) (self : Option Address) : Exec Unit := do
  let value ← m.eval source [] self
  match self, Expression.field? target with
  | some address, some field => setField address field value
  | _, _ =>
      if ← assignElement m target value then pure () else assignVariable target value

/-- Evaluates a line as a call. A failure of the script makes the line unrecognized. -/
def callStatement (m : Machine) (line : Text) (self : Option Address) : Exec Unit :=
  rescue (do let _ ← m.eval line [] self; pure ()) fun cause =>
    fail (if cause.isFailure then .unrecognizedLine line else cause)

def perform (m : Machine) (line : Text) (self : Option Address) : Statement → Exec Unit
  | .openTry => do
      resetAttempt
      modifyBlocks fun b => { b with attempt.isOpen := true, handler.variableName := none }
  | .openHandler name => do
      let fresh ← newBody []
      modifyBlocks fun b =>
        { b with handler.isOpen := true, handler.variableName := some name, handler.body := fresh }
  | .openFinal => do
      let fresh ← newBody []
      modifyBlocks fun b => { b with final.isOpen := true, final.body := fresh }
  | .openFor name first last => do
      let fresh ← newBody []
      modifyBlocks fun b =>
        { b with forLoop := ⟨true, fresh, some name, some first, some last⟩ }
  | .openWhile condition => do
      let fresh ← newBody []
      modifyBlocks fun b => { b with whileLoop := ⟨true, fresh, some condition⟩ }
  | .openBranch condition => do
      let fresh ← newBody []
      modifyBlocks fun b => { b with branch.isOpen := true, branch.body := fresh }
      let isActive ← Evaluation.condition m condition
      modifyBlocks fun b => { b with branch.isActive := isActive }
  | .openClass name =>
      modifyBlocks fun b => { b with classDef := ⟨true, some name, []⟩ }
  | .openFunction name params => do
      let fresh ← newBody []
      modifyBlocks fun b => { b with function := ⟨true, fresh, some name, params⟩ }
  | .malformed header => fail (.malformedHeader header)
  | .assign target source => assign m target source self
  | .breakLoop => fail .loopBreak
  | .continueLoop => fail .loopContinue
  | .print source => do
      let value ← m.eval source [] self
      printLine (← ofExcept (value.display (← get).heap))
  | .call => callStatement m line self
  | .unknown => fail (.unrecognizedLine line)

/-- Executes a line: it says nothing, closes a block, is captured, or is a statement. -/
def line (m : Machine) (bound : Nat) (source : Text) (self : Option Address) : Exec Unit := do
  spend
  let line := Text.strip source
  if Statement.isSilent line then pure ()
  else if line = [Text.closeBrace] then close m bound
  else
    match (← get).blocks.openBody? with
    | some id => appendLine id line
    | none => perform m line self (Statement.ofLine line)

end Execution

end LineScript
