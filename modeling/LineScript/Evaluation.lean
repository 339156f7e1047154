import LineScript.Collection
import LineScript.Evaluation.Call
import LineScript.Evaluation.Operation

/-!
The values of expressions. An evaluation tries the forms of an expression in turn: a field of the
current object, a method call, a call by name, a new collection, an operation, an element of a
collection, and at last a name or a literal.
-/

namespace LineScript

open Exec

namespace Evaluation

def tryField (self : Option Address) (expr : Text) : Exec (Option Value) := do
  match self, Expression.field? expr with
  | some address, some field =>
      match ((← get).heap.object address).fields.get? field with
      | some value => pure (some value)
      | none => fail (.undefinedField field)
  | _, _ => pure none

/-- A call of a method. It applies to lists, and to objects that have the method; receiver and
arguments are evaluated in any case. -/
def tryMethod (m : Machine) (expr : Text) (locals : Variables) (self : Option Address) :
    Exec (Option Value) := do
  match Expression.methodCall? expr with
  | none => pure none
  | some (receiver, call) =>
      match Expression.methodParts? call with
      | none => fail .callNotOpened
      | some (method, source) => do
          let target ← m.eval receiver locals self
          let values ← arguments m source locals self
          match target with
          | .list address => some <$> callListMethod address method values
          | .object address =>
              if (((← get).heap.object address).methods.get? (some method)).isSome then
                some <$> callMethod m address method values
              else pure none
          | _ => pure none

/-- A call by name: the reader of files, a function, or a class. -/
def tryCall (disk : Disk) (m : Machine) (expr : Text) (locals : Variables)
    (self : Option Address) : Exec (Option Value) := do
  match Expression.call? expr with
  | none => pure none
  | some (name, source) => do
      let values ← arguments m source locals self
      if name = "read_file" then
        match values with
        | [.text path] => (fun t => some (.text t)) <$> ofExcept (readFile disk path)
        | _ => fail .readArguments
      else
        let s ← get
        match s.functions.get? (some name) with
        | some routine =>
            if routine.params.length = values.length then
              some <$> m.call routine.body (bindParams routine.params values) self
            else fail (.functionArity name routine.params.length)
        | none =>
            match s.classes.get? (some name) with
            | some methods => some <$> instantiate m name methods values
            | none => pure none

/-- A new list or dictionary. Elements are evaluated without local names and current object. -/
def tryCollection (m : Machine) (expr : Text) : Exec (Option Value) := do
  match Expression.listItems? expr with
  | some source => some <$> (arguments m source [] none >>= newList)
  | none => if Expression.isDict expr then some <$> newDict [] else pure none

/-- An operation on two operands, which are evaluated from left to right. -/
def tryOperation (m : Machine) (expr : Text) (locals : Variables) (self : Option Address) :
    Exec (Option Value) := do
  match Expression.operation? expr with
  | none => pure none
  | some (op, left, right) => do
      let left ← m.eval left locals self
      let right ← m.eval right locals self
      match left with
      | .object address => some <$> operateObject m address op.symbol right
      | _ => some <$> operate op left right

/-- An element of a collection. The index is evaluated without local names and current object. -/
def tryIndex (m : Machine) (expr : Text) (locals : Variables) : Exec (Option Value) := do
  match Expression.index? expr with
  | none => pure none
  | some (_, []) => pure none
  | some (name, source) =>
      match (← get).lookup? locals name with
      | none | some .null => fail (.undefinedCollection name)
      | some collection => do
          let index ← m.eval source [] none
          match collection with
          | .object address => some <$> operateObject m address "getitem" index
          | .list address => some <$> readItem address index
          | .dict address => some <$> readEntry address index
          | _ => pure none

def atom (expr : Text) (locals : Variables) : Exec Value := do
  match (← get).lookup? locals expr with
  | some value => pure value
  | none =>
      if Numeral.isLiteral expr then Value.int <$> ofExcept (readInteger expr)
      else if Expression.isQuoted expr then pure (.text (Expression.unquote expr))
      else fail (.undefinedExpression expr)

/-- An expression that is written like a call: a method call, a call by name, or a new collection.
-/
def tryApplication (disk : Disk) (m : Machine) (expr : Text) (locals : Variables)
    (self : Option Address) : Exec (Option Value) :=
  if Expression.isCall expr then
    firstOf (tryMethod m expr locals self) <|
      firstOf (tryCall disk m expr locals self) <|
        tryCollection m expr
  else pure none

def eval (disk : Disk) (m : Machine) (source : Text) (locals : Variables)
    (self : Option Address) : Exec Value :=
  let expr := Text.strip source
  orElse (tryField self expr) <|
    orElse (tryApplication disk m expr locals self) <|
      orElse (tryOperation m expr locals self) <|
        orElse (tryIndex m expr locals) <|
          atom expr locals

def condition (m : Machine) (source : Text) : Exec Bool := do
  let value ← m.eval source [] none
  pure (value.isTrue (← get).heap)

end Evaluation

end LineScript
