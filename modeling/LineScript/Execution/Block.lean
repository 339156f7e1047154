import LineScript.Evaluation
import LineScript.Execution.Body

/-!
Running and closing blocks. The body of a branch, a loop or a final block runs while the block is
still open. Loops take a bound on the number of their rounds.
-/

namespace LineScript.Execution

open Exec

def boundOf : Option Text → Except Fault Int
  | some t => readInteger t
  | none => .error (.notConvertible Value.null.typeName)

/-- The rounds of a loop over integers, from `i` to `last`. Variable and body are those that the
loop has at the start of each round. -/
def forRounds (m : Machine) (bound : Nat) : (rounds : Nat) → (i last : Int) → Exec Unit
  | 0, _, _ => exhaust
  | rounds + 1, i, last =>
      if last < i then pure ()
      else do
        setVariable (← get).blocks.forLoop.variableName (.int i)
        if ← runRound m bound (← get).blocks.forLoop.body then
          forRounds m bound rounds (i + 1) last

def runFor (m : Machine) (bound : Nat) : Exec Unit := do
  let loop := (← get).blocks.forLoop
  let first ← ofExcept (boundOf loop.first)
  let last ← ofExcept (boundOf loop.last)
  forRounds m bound bound first last
  let fresh ← newBody []
  modifyBlocks fun b => { b with forLoop.body := fresh }

def loopCondition (m : Machine) : Option Text → Exec Bool
  | some source => Evaluation.condition m source
  | none => fail (.memberMissing Value.null.typeName "strip")

/-- The rounds of a loop with a condition. The body is fixed, the condition is the one that the loop
has at the start of each round. -/
def whileRounds (m : Machine) (bound : Nat) (id : BodyId) : (rounds : Nat) → Exec Unit
  | 0 => exhaust
  | rounds + 1 => do
      if ← loopCondition m (← get).blocks.whileLoop.condition then
        if ← runRound m bound id then whileRounds m bound id rounds

def runWhile (m : Machine) (bound : Nat) : Exec Unit := do
  whileRounds m bound (← get).blocks.whileLoop.body bound
  let fresh ← newBody []
  modifyBlocks fun b => { b with whileLoop.condition := none, whileLoop.body := fresh }

def runBranch (m : Machine) (bound : Nat) : Exec Unit := do
  let branch := (← get).blocks.branch
  if branch.isActive then
    let _ ← runBody m bound branch.body
  let fresh ← newBody []
  modifyBlocks fun b => { b with branch.isActive := false, branch.body := fresh }

/-- Executes a body and gives the failure that ends it, if one does. -/
def failureOf (m : Machine) (bound : Nat) (id : BodyId) : Exec (Option Fault) :=
  rescue (do let _ ← runBody m bound id; pure none) fun cause =>
    if cause.isFailure then pure (some cause) else fail cause

def runIfAny (m : Machine) (bound : Nat) (id : BodyId) : Exec Unit := do
  if !((← get).body id).isEmpty then
    let _ ← runBody m bound id

/-- Gives the attempt, its handler and its final block new bodies. -/
def resetAttempt : Exec Unit := do
  let attempt ← newBody []
  let handler ← newBody []
  let final ← newBody []
  modifyBlocks fun b =>
    { b with attempt.body := attempt, handler.body := handler, final.body := final }

/-- Runs an attempt, its handler if there is one and the attempt fails, and the final block. -/
def runAttempt (m : Machine) (bound : Nat) : Exec Unit := do
  let blocks := (← get).blocks
  match ← failureOf m bound blocks.attempt.body with
  | some cause =>
      if !((← get).body blocks.handler.body).isEmpty then
        setVariable (← get).blocks.handler.variableName (← newFault cause)
        let _ ← runBody m bound blocks.handler.body
  | none => pure ()
  runIfAny m bound blocks.final.body
  resetAttempt

def pendingRoutine (s : State) : Routine :=
  ⟨s.blocks.function.params, (s.body s.blocks.function.body).toList⟩

/-- Ends the capture of a function and gives the next one a new body. -/
def endFunction : Exec Unit := do
  let fresh ← newBody []
  modifyBlocks fun b => { b with function.isOpen := false, function.body := fresh }

def closeMethod : Exec Unit := do
  let routine := pendingRoutine (← get)
  modifyBlocks fun b =>
    { b with classDef.methods := b.classDef.methods.set b.function.name routine }
  endFunction

def closeFunction : Exec Unit := do
  let routine := pendingRoutine (← get)
  modify fun s => { s with functions := s.functions.set s.blocks.function.name routine }
  endFunction

def closeClass : Exec Unit :=
  modify fun s =>
    { s with
      classes := s.classes.set s.blocks.classDef.name s.blocks.classDef.methods
      blocks := { s.blocks with classDef.isOpen := false, classDef.methods := [] } }

/-- Executes a closing brace. A loop, a branch or a final block is closed after its body has run; an
attempt and a handler are closed at once and do not run. -/
def close (m : Machine) (bound : Nat) : Exec Unit := do
  let blocks := (← get).blocks
  if blocks.classDef.isOpen then
    if blocks.function.isOpen then closeMethod else closeClass
  else if blocks.function.isOpen then closeFunction
  else if blocks.final.isOpen then
    runAttempt m bound
    modifyBlocks fun b => { b with final.isOpen := false }
  else
    modifyBlocks fun b => { b with handler.isOpen := false, attempt.isOpen := false }
    if blocks.forLoop.isOpen then
      runFor m bound
      modifyBlocks fun b => { b with forLoop.isOpen := false }
    else if blocks.whileLoop.isOpen then
      runWhile m bound
      modifyBlocks fun b => { b with whileLoop.isOpen := false }
    else if blocks.branch.isOpen then
      runBranch m bound
      modifyBlocks fun b => { b with branch.isOpen := false }
    else fail .strayBrace

end LineScript.Execution
