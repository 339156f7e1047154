import LineScript.Expression
import LineScript.Fault
import LineScript.Header

namespace LineScript

open Text

/-- What a line says. -/
inductive Statement where
  | openTry
  | openHandler (name : Text)
  | openFinal
  | openFor (name first last : Text)
  | openWhile (condition : Text)
  | openBranch (condition : Text)
  | openClass (name : Text)
  | openFunction (name : Text) (params : List Text)
  /-- A line that starts as a header and has not its form. -/
  | malformed (header : HeaderKind)
  | assign (target source : Text)
  | breakLoop
  | continueLoop
  | print (source : Text)
  | call
  | unknown
  deriving DecidableEq, Repr

namespace Statement

/-- The name that a handler without a name of its own binds the failure to. -/
def defaultHandlerName : Text := "tyrt_error_obj"

/-- The condition between a keyword and the brace at the end of a line. -/
def condition? (keyword line : Text) : Option Text :=
  if endsWithChar openBrace line then some (strip (line.drop keyword.length).dropLast) else none

/-- The target and the source of an assignment: the texts around the first equals sign. -/
def assignment? (line : Text) : Option (Text × Text) := do
  let t ← after? "tyrt " line
  let (target, source) ← cutFirst? "=" (strip t)
  some (strip target, source)

def header? (line : Text) : Option Statement :=
  if startsWith "Try" line then some openTry
  else if startsWith "Except" line then
    some <|
      match Header.handlerName? line with
      | some name => openHandler name
      | none =>
          if line = "Except \x7b" then openHandler defaultHandlerName else malformed .handler
  else if startsWith "Now" line then some openFinal
  else if startsWith "entr_i" line then
    some <|
      match Header.forLoop? line with
      | some (name, first, last) => openFor name first last
      | none => malformed .forLoop
  else if startsWith "/1" line then
    some <|
      match condition? "/1" line with
      | some condition => openWhile condition
      | none => malformed .whileLoop
  else if startsWith "BILHETE_NADA" line then
    some <|
      match condition? "BILHETE_NADA" line with
      | some condition => openBranch condition
      | none => malformed .branch
  else if startsWith "class " line then
    some <|
      match Header.className? line with
      | some name => openClass name
      | none => malformed .classDef
  else if startsWith "func " line then
    some <|
      match Header.function? line with
      | some (name, params) => openFunction name params
      | none => malformed .functionDef
  else none

def ofLine (line : Text) : Statement :=
  match header? line with
  | some statement => statement
  | none =>
      match assignment? line with
      | some (target, source) => assign target source
      | none =>
          if line = "loop.break" then breakLoop
          else if line = "loop.continue" then continueLoop
          else if startsWith "print|[" line then
            print (strip (line.drop "print|[".length).dropLast)
          else if Expression.isCall line then call
          else unknown

/-- Whether a stripped line says nothing: it is empty or a comment. -/
def isSilent (line : Text) : Bool := startsWith "/0" line || line.isEmpty

end Statement

end LineScript
