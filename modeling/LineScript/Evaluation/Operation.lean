import LineScript.Exec
import LineScript.Expression
import LineScript.Value.Order

namespace LineScript.Evaluation

open Exec

/-- The sum of two values: numbers are added, texts and lists are joined. -/
def add (left right : Value) : Exec Value := do
  match left, right with
  | .text s, .text t => pure (.text (s ++ t))
  | .list a, .list b => do
      let heap := (← get).heap
      newList (heap.items a ++ heap.items b)
  | .text _, _ | .list _, _ => fail (.cannotConcatenate left.typeName right.typeName)
  | _, _ =>
      match left.toInt?, right.toInt? with
      | some i, some j => pure (.int (i + j))
      | _, _ => fail (.cannotAdd left.typeName right.typeName)

def operate (op : Operator) (left right : Value) : Exec Value := do
  let heap := (← get).heap
  match op with
  | .add => add left right
  | .equal => Value.bool <$> ofExcept (left.same heap right)
  | .greater => Value.bool <$> ofExcept (left.ordered heap .greater right)
  | .less => Value.bool <$> ofExcept (left.ordered heap .less right)

end LineScript.Evaluation
