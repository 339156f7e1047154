import LineScript.State

/-!
The state as it can be seen from outside: values as trees without addresses, and blocks with their
lines in place of the numbers of their bodies.
-/

namespace LineScript

/-- A value written out. A collection or an object that is met again inside itself is a cycle. -/
inductive Tree where
  | null
  | bool (b : Bool)
  | int (i : Int)
  | text (t : Text)
  | list (items : List Tree)
  | dict (entries : List (Tree × Tree))
  | object (className : Text) (fields : List (Text × Tree))
  | fault (kind message : Text)
  | cycle

/-- Writes a value out. `path` holds the collections and objects around it, so no more than the
heap's size of them; `depth` counts how many more may follow. -/
def Value.treeWithin (heap : Heap) : Nat → List Value → Value → Tree
  | _, _, null => .null
  | _, _, bool b => .bool b
  | _, _, int i => .int i
  | _, _, text t => .text t
  | _, _, fault _ cause => .fault cause.kind cause.message
  | 0, _, _ => .cycle
  | depth + 1, path, v =>
      if v ∈ path then .cycle
      else
        match v with
        | list address => .list ((heap.items address).map (treeWithin heap depth (v :: path)))
        | dict address =>
            .dict ((heap.entries address).map fun entry =>
              (treeWithin heap depth (v :: path) entry.1,
                treeWithin heap depth (v :: path) entry.2))
        | object address =>
            .object (heap.object address).className
              ((heap.object address).fields.map fun field =>
                (field.1, treeWithin heap depth (v :: path) field.2))
        | _ => .cycle

def Value.tree (heap : Heap) (v : Value) : Tree := v.treeWithin heap (heap.size + 1) []

/-- What can be seen of a state. -/
structure View where
  vars : Table Name Tree
  consts : Table Name Tree
  functions : Table Name Routine
  classes : Table Name (Table Name Routine)
  blocks : Blocks (List Text)
  lineNumber : Nat
  output : String

def State.view (s : State) : View where
  vars := s.vars.map fun entry => (entry.1, entry.2.tree s.heap)
  consts := s.consts.map fun entry => (entry.1, entry.2.tree s.heap)
  functions := s.functions
  classes := s.classes
  blocks := s.blocks.map fun id => (s.body id).toList
  lineNumber := s.lineNumber
  output := s.output

end LineScript
