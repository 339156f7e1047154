import LineScript.Numeral
import LineScript.Text.Word

/-!
The forms of expressions. An expression is a stripped text; each form is a way to cut it, and an
evaluation tries the forms in turn.
-/

namespace LineScript

open Text

/-- The operators that stand between blanks. -/
inductive Operator where
  | add
  | equal
  | greater
  | less
  deriving DecidableEq, Repr

namespace Operator

def symbol : Operator → Text
  | add => "+"
  | equal => "=="
  | greater => ">"
  | less => "<"

/-- The operators in the order in which they are looked for: the first binds least. -/
def all : List Operator := [add, equal, greater, less]

/-- The operator with the blanks around it. -/
def mark (op : Operator) : Text := ' ' :: (op.symbol ++ [' '])

end Operator

namespace Expression

/-- A word followed by a bracketed text that reaches to the end and holds no newline. -/
def bracketed? (opening closing : Char) (expr : Text) : Option (Text × Text) :=
  let word := expr.takeWhile isWord
  match dropBlanks (expr.dropWhile isWord) with
  | [] => none
  | c :: rest =>
      let inner := rest.dropLast
      if word ≠ [] && c = opening && endsWithChar closing rest && !inner.contains '\n' then
        some (word, inner)
      else none

def call? (expr : Text) : Option (Text × Text) := bracketed? '(' ')' expr

def index? (expr : Text) : Option (Text × Text) := bracketed? '[' ']' expr

/-- Whether a text is written like a call: it ends with a closing parenthesis and holds an opening
one. -/
def isCall (expr : Text) : Bool := endsWithChar ')' expr && expr.contains '('

/-- The receiver of a method call, and the method with its arguments: the texts around the last
point. -/
def methodCall? (expr : Text) : Option (Text × Text) := cutLast? '.' expr

/-- The name of a method and its arguments, without the parenthesis at the end. -/
def methodParts? (call : Text) : Option (Text × Text) :=
  (cutFirst? "(" call).map fun parts => (parts.1, parts.2.dropLast)

/-- The elements of a list that is written out. -/
def listItems? (expr : Text) : Option Text := (after? ".lista(" expr).map List.dropLast

def isDict (expr : Text) : Bool := startsWith "#dicionario(" expr

/-- The first of the given operators that stands in an expression, and the texts around its first
place. -/
def operationFrom? (expr : Text) : List Operator → Option (Operator × Text × Text)
  | [] => none
  | op :: ops =>
      match cutFirst? op.mark expr with
      | some (left, right) => some (op, left, right)
      | none => operationFrom? expr ops

/-- The operator of an expression and its operands. -/
def operation? (expr : Text) : Option (Operator × Text × Text) := operationFrom? expr Operator.all

/-- Whether an expression is a text in double quotes, all on one line. -/
def isQuoted (expr : Text) : Bool :=
  match expr with
  | '"' :: rest => endsWithChar '"' rest && !rest.contains '\n'
  | _ => false

/-- The text that stands in double quotes: all quotes at both ends are removed. -/
def unquote (expr : Text) : Text := stripBoth (· == '"') expr

/-- The field that an expression names. -/
def field? (expr : Text) : Option Text := (after? "self." expr).map strip

end Expression

end LineScript
