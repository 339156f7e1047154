import LineScript.Value

/-!
The state of the interpreter: the values of names, the functions and classes, the blocks that are
being captured, and what has been printed.

The body of a block is a list of lines with an identity, because lines can be captured into the very
body that is running. Bodies stand in a store of their own and are never removed from it; in the
state, a block refers to its body by number.
-/

namespace LineScript

/-- The number of a body in the store. -/
abbrev BodyId := Nat

/-- A branch that runs its body if its condition was true. -/
structure BranchBlock (β : Type) where
  isOpen : Bool := false
  isActive : Bool := false
  body : β

/-- A loop over the integers between two bounds, given as they were written. -/
structure ForBlock (β : Type) where
  isOpen : Bool := false
  body : β
  variableName : Name := none
  first : Option Text := none
  last : Option Text := none

/-- A loop with a condition. -/
structure WhileBlock (β : Type) where
  isOpen : Bool := false
  body : β
  condition : Option Text := none

/-- A function or method that is being defined. -/
structure FunctionBlock (β : Type) where
  isOpen : Bool := false
  body : β
  name : Name := none
  params : List Text := []

/-- A class that is being defined. -/
structure ClassBlock where
  isOpen : Bool := false
  name : Name := none
  methods : Table Name Routine := []

/-- A body whose failure can be caught. -/
structure TryBlock (β : Type) where
  isOpen : Bool := false
  body : β

/-- The handler of a failure, and the name that the failure is bound to. -/
structure HandlerBlock (β : Type) where
  isOpen : Bool := false
  body : β
  variableName : Name := none

/-- The body that runs after an attempt. -/
structure FinalBlock (β : Type) where
  isOpen : Bool := false
  body : β

/-- All blocks. Each can be open by itself. -/
structure Blocks (β : Type) where
  branch : BranchBlock β
  forLoop : ForBlock β
  whileLoop : WhileBlock β
  function : FunctionBlock β
  classDef : ClassBlock
  attempt : TryBlock β
  handler : HandlerBlock β
  final : FinalBlock β

namespace Blocks

/-- The body that lines are captured into: that of the first block that is open. The lines of a
class outside its methods go where those of its methods go. -/
def openBody? {β : Type} (blocks : Blocks β) : Option β :=
  if blocks.branch.isOpen then some blocks.branch.body
  else if blocks.forLoop.isOpen then some blocks.forLoop.body
  else if blocks.whileLoop.isOpen then some blocks.whileLoop.body
  else if blocks.function.isOpen || blocks.classDef.isOpen then some blocks.function.body
  else if blocks.attempt.isOpen then some blocks.attempt.body
  else if blocks.handler.isOpen then some blocks.handler.body
  else if blocks.final.isOpen then some blocks.final.body
  else none

def map {β γ : Type} (f : β → γ) (blocks : Blocks β) : Blocks γ where
  branch := { blocks.branch with body := f blocks.branch.body }
  forLoop := { blocks.forLoop with body := f blocks.forLoop.body }
  whileLoop := { blocks.whileLoop with body := f blocks.whileLoop.body }
  function := { blocks.function with body := f blocks.function.body }
  classDef := blocks.classDef
  attempt := { blocks.attempt with body := f blocks.attempt.body }
  handler := { blocks.handler with body := f blocks.handler.body }
  final := { blocks.final with body := f blocks.final.body }

/-- No block is open, and the seven bodies are the first of the store. -/
def initial : Blocks BodyId where
  branch := { body := 0 }
  forLoop := { body := 1 }
  whileLoop := { body := 2 }
  function := { body := 3 }
  classDef := {}
  attempt := { body := 4 }
  handler := { body := 5 }
  final := { body := 6 }

end Blocks

/-- The state of the interpreter. -/
structure State where
  vars : Variables := []
  consts : Variables := []
  functions : Table Name Routine := []
  classes : Table Name (Table Name Routine) := []
  blocks : Blocks BodyId := Blocks.initial
  bodies : Array (Array Text) := Array.replicate 7 #[]
  heap : Heap := {}
  /-- The number of faults that have been caught. -/
  faultCount : Nat := 0
  /-- The number of the line of a source that is being run. -/
  lineNumber : Nat := 0
  output : String := ""
  /-- How many more lines and blocks may be executed, if their number is limited. -/
  allowance : Option Nat := none

namespace State

/-- The state before anything has been executed. -/
def initial : State := {}

def body (s : State) (id : BodyId) : Array Text := s.bodies[id]?.getD #[]

/-- The value of a name where the given local names come first, then constants, then variables. -/
def lookup? (s : State) (locals : Variables) (name : Text) : Option Value :=
  ((locals.get? (some name)).or (s.consts.get? (some name))).or
    (s.vars.get? (some name))

end State

end LineScript
