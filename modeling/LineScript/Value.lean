import LineScript.Fault
import LineScript.Table

/-!
Values and the heap. Numbers, texts, truth values, the absent value and caught faults are what they
are; lists, dictionaries and objects have an identity and stand in the heap.
-/

namespace LineScript

/-- The place of a list, a dictionary or an object in its part of the heap. -/
abbrev Address := Nat

/-- A name of a variable, function, class or method. The empty option is the name that a loop or a
handler without a name writes to. -/
abbrev Name := Option Text

/-- A value of an expression. A caught fault has a number, which tells it from other faults. -/
inductive Value where
  | null
  | bool (b : Bool)
  | int (i : Int)
  | text (t : Text)
  | list (address : Address)
  | dict (address : Address)
  | object (address : Address)
  | fault (number : Nat) (cause : Fault)
  deriving DecidableEq, Repr

abbrev Variables := Table Name Value

/-- A function or method: the names of its parameters and the lines of its body. -/
structure Routine where
  params : List Text
  body : List Text
  deriving DecidableEq, Repr

/-- An object: the name of its class, the values of its fields, and the methods that its class had
when it was made. -/
structure Object where
  className : Text
  fields : Table Text Value
  methods : Table Name Routine
  deriving DecidableEq, Repr

/-- The contents of all lists, dictionaries and objects. -/
structure Heap where
  lists : Array (List Value) := #[]
  dicts : Array (List (Value × Value)) := #[]
  objects : Array Object := #[]

namespace Heap

def items (heap : Heap) (address : Address) : List Value := heap.lists[address]?.getD []

def entries (heap : Heap) (address : Address) : List (Value × Value) :=
  heap.dicts[address]?.getD []

def object (heap : Heap) (address : Address) : Object :=
  heap.objects[address]?.getD ⟨[], [], []⟩

/-- The number of lists, dictionaries and objects: no chain of collections that are nested in each
other is longer. -/
def size (heap : Heap) : Nat := heap.lists.size + heap.dicts.size + heap.objects.size

end Heap

namespace Value

/-- The name of a value's type, as messages show it. -/
def typeName : Value → Text
  | null => "NoneType"
  | bool _ => "bool"
  | int _ => "int"
  | text _ => "str"
  | list _ => "list"
  | dict _ => "dict"
  | object _ => "TyrtInstance"
  | fault _ cause => cause.kind

/-- The number that a value stands for: truth values count as zero and one. -/
def toInt? : Value → Option Int
  | bool b => some (if b then 1 else 0)
  | int i => some i
  | _ => none

/-- Whether a value counts as true in a condition. -/
def isTrue (heap : Heap) : Value → Bool
  | null => false
  | bool b => b
  | int i => i ≠ 0
  | text t => !t.isEmpty
  | list address => !(heap.items address).isEmpty
  | dict address => !(heap.entries address).isEmpty
  | object _ => true
  | fault _ _ => true

end Value

end LineScript
