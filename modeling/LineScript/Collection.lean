import LineScript.Exec
import LineScript.Value.Shown
import LineScript.Value.Order

/-!
Reading and writing the elements of lists and dictionaries, and the methods of lists. A list index
counts from the end if it is negative, and has to fit into 64 bits.
-/

namespace LineScript

open Exec

/-- Whether an integer fits into a signed word of 64 bits. -/
def fitsIndex (i : Int) : Bool := -0x8000000000000000 ≤ i && i < 0x8000000000000000

/-- The place that an index means in a list of the given length. -/
def placeOf? (length : Nat) (i : Int) : Option Nat :=
  let fromStart := if i < 0 then i + length else i
  if 0 ≤ fromStart && fromStart < length then some fromStart.toNat else none

/-- The place that a value means as an index in a list of the given length. -/
def indexOf (length : Nat) (outOfRange : Fault) (index : Value) : Except Fault Nat :=
  match index.toInt? with
  | none => .error (.indexNotInteger index.typeName)
  | some i =>
      if fitsIndex i then
        match placeOf? length i with
        | some n => .ok n
        | none => .error outOfRange
      else .error .indexTooLarge

def readItem (address : Address) (index : Value) : Exec Value := do
  let items := (← get).heap.items address
  let n ← ofExcept (indexOf items.length .indexOutOfRange index)
  pure (items.getD n .null)

def writeItem (address : Address) (index value : Value) : Exec Unit := do
  let items := (← get).heap.items address
  let n ← ofExcept (indexOf items.length .assignmentOutOfRange index)
  setItems address (items.set n value)

/-- A key as a message shows it, if it is not too long. -/
def shownKey (heap : Heap) (key : Value) : Option Text :=
  match key.inspect heap with
  | .ok t => some t
  | .error _ => none

/-- Entries with a key given a value. An equal key that is there stays. -/
def setEntry (key value : Value) : List (Value × Value) → List (Value × Value)
  | [] => [(key, value)]
  | entry :: rest =>
      if entry.1.keyForm = key.keyForm then (entry.1, value) :: rest
      else entry :: setEntry key value rest

def readEntry (address : Address) (key : Value) : Exec Value := do
  let heap := (← get).heap
  if key.isHashable then
    match Value.lookupKey? key (heap.entries address) with
    | some value => pure value
    | none => fail (.keyMissing (shownKey heap key))
  else fail (.unhashable key.typeName)

def writeEntry (address : Address) (key value : Value) : Exec Unit := do
  let heap := (← get).heap
  if key.isHashable then setEntries address (setEntry key value (heap.entries address))
  else fail (.unhashable key.typeName)

def readInteger (t : Text) : Except Fault Int :=
  match Numeral.read t with
  | .value i => .ok i
  | .tooLong digits => .error (.numeralTooLong digits)
  | .invalid => .error (.invalidNumeral t)

/-- A value as an integer: a number is itself, a text is read. -/
def toInteger : Value → Except Fault Int
  | .text t => readInteger t
  | v =>
      match v.toInt? with
      | some i => .ok i
      | none => .error (.notConvertible v.typeName)

/-- Takes the element at an index out of a list. -/
def popItem (address : Address) (i : Int) : Exec Value := do
  let items := (← get).heap.items address
  if !fitsIndex i then fail .popIndexTooLarge
  else
    match placeOf? items.length i with
    | none => fail (.popOutOfRange i)
    | some n => do
        setItems address (items.eraseIdx n)
        pure (items.getD n .null)

def callListMethod (address : Address) (method : Text) (arguments : List Value) : Exec Value := do
  if method = "len" then pure (.int ((← get).heap.items address).length)
  else if method = "append" then
    match arguments with
    | [value] => do
        let items := (← get).heap.items address
        setItems address (items ++ [value])
        pure (.list address)
    | _ => fail .appendArity
  else if method = "pop" then
    match arguments with
    | [] => popItem address (-1)
    | [value] => do popItem address (← ofExcept (toInteger value))
    | _ => fail .popArity
  else fail (.listMethodUnknown method)

end LineScript
