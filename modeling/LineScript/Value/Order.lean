import LineScript.Value

/-!
Equality and order of values. Truth values count as numbers, lists and dictionaries are compared by
their contents, objects and caught faults by identity. Two collections that hold each other can be
compared without end, so both relations take a bound on the depth and give nothing beyond it.
-/

namespace LineScript

namespace Value

/-- Whether two lists of values agree one by one. The first pair that differs decides. -/
def allSame (same : Value → Value → Option Bool) : List Value → List Value → Option Bool
  | [], [] => some true
  | v :: vs, w :: ws => do
      if ← same v w then allSame same vs ws else some false
  | _, _ => some false

/-- The form of a value in which equal keys are the same: truth values are numbers. -/
def keyForm : Value → Value
  | bool b => int (if b then 1 else 0)
  | v => v

def isHashable : Value → Bool
  | list _ | dict _ => false
  | _ => true

/-- The value of a key in the entries of a dictionary. -/
def lookupKey? (key : Value) : List (Value × Value) → Option Value
  | [] => none
  | entry :: rest => if entry.1.keyForm = key.keyForm then some entry.2 else lookupKey? key rest

/-- Whether each entry of one dictionary has an equal value in the other. -/
def allFound (same : Value → Value → Option Bool) (other : List (Value × Value)) :
    List (Value × Value) → Option Bool
  | [] => some true
  | entry :: rest =>
      match lookupKey? entry.1 other with
      | none => some false
      | some w => do
          if ← same entry.2 w then allFound same other rest else some false

/-- Equality of values, down to the given depth. -/
def same? (heap : Heap) : Nat → Value → Value → Option Bool
  | 0, _, _ => none
  | depth + 1, v, w =>
      if v = w then some true
      else
        match v, w with
        | list a, list b =>
            if (heap.items a).length = (heap.items b).length then
              allSame (same? heap depth) (heap.items a) (heap.items b)
            else some false
        | dict a, dict b =>
            if (heap.entries a).length = (heap.entries b).length then
              allFound (same? heap depth) (heap.entries b) (heap.entries a)
            else some false
        | v, w =>
            match v.toInt?, w.toInt? with
            | some i, some j => some (i == j)
            | _, _ => some false

end Value

/-- The two directions in which values are ordered. -/
inductive Direction where
  | less
  | greater
  deriving DecidableEq, Repr

namespace Direction

def symbol : Direction → Text
  | less => "<"
  | greater => ">"

/-- Whether an order relation holds in the direction, given the relation "less". -/
def holds {α : Type} (lt : α → α → Bool) : Direction → α → α → Bool
  | less, a, b => lt a b
  | greater, a, b => lt b a

end Direction

namespace Value

def firstDifference (same : Value → Value → Option Bool) :
    List Value → List Value → Option (Option (Value × Value))
  | v :: vs, w :: ws => do
      if ← same v w then firstDifference same vs ws else some (some (v, w))
  | _, _ => some none

/-- The order of texts: the first characters that differ decide, else the length. -/
def textLess : Text → Text → Bool
  | _, [] => false
  | [], _ :: _ => true
  | c :: s, d :: t => if c = d then textLess s t else c.toNat < d.toNat

/-- The order of values, down to the given depth. Of two lists the first elements that differ
decide, else the length. -/
def orderedWithin (heap : Heap) (dir : Direction) : Nat → Value → Value → Except Fault Bool
  | 0, _, _ => .error .endlessComparison
  | depth + 1, v, w =>
      match v, w with
      | text s, text t => .ok (dir.holds textLess s t)
      | list a, list b =>
          match firstDifference (same? heap depth) (heap.items a) (heap.items b) with
          | none => .error .endlessComparison
          | some (some (x, y)) => orderedWithin heap dir depth x y
          | some none =>
              .ok (dir.holds (fun m n => decide (m < n))
                (heap.items a).length (heap.items b).length)
      | v, w =>
          match v.toInt?, w.toInt? with
          | some i, some j => .ok (dir.holds (fun m n => decide (m < n)) i j)
          | _, _ => .error (.cannotOrder dir.symbol v.typeName w.typeName)

/-- A depth that is enough whenever the comparison ends: beyond it a pair of collections repeats. -/
def comparisonDepth (heap : Heap) : Nat := heap.size * heap.size + 2

def same (heap : Heap) (v w : Value) : Except Fault Bool :=
  match same? heap (comparisonDepth heap) v w with
  | some answer => .ok answer
  | none => .error .endlessComparison

def ordered (heap : Heap) (dir : Direction) (v w : Value) : Except Fault Bool :=
  orderedWithin heap dir (comparisonDepth heap) v w

end Value

end LineScript
