import LineScript.Exec

/-!
The interpreter as its parts see it. An evaluation needs the evaluation of smaller expressions and
the execution of bodies; both are given by a `Machine`, so that no part of the interpreter is
recursive.
-/

namespace LineScript

/-- What a part of the interpreter can ask of the whole. -/
structure Machine where
  /-- Evaluates an expression with local names and a current object. -/
  eval : Text → Variables → Option Address → Exec Value
  /-- Executes the body of a function with its own variables and a current object. -/
  call : List Text → Variables → Option Address → Exec Value
  /-- Executes a line with a current object. -/
  line : Text → Option Address → Exec Unit

/-- The machine that can do nothing. -/
def Machine.idle : Machine where
  eval _ _ _ := Exec.exhaust
  call _ _ _ := Exec.exhaust
  line _ _ := Exec.exhaust

end LineScript
